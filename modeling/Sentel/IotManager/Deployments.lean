import Sentel.IotManager.LocalCluster

namespace Sentel
namespace IotManager

open Library Discovery LocalCluster

/-!
# Runs of the local cluster

A deployment is a cluster together with the services that live in it: those
that were created and not removed since.  It is sound if the tables, the ports
and the service discovery tell the same about the living services.  The calls
that keep a deployment sound are described exactly.  They are the removals of
services that do not live and the creations that fail, that is, calls without
any effect, and the creations that return a port which is free, for a tenant
whose name can be announced and is not announced yet.
-/

structure Live where
  serviceId : GoString
  tenantId : GoString
  port : Nat
  deriving DecidableEq

structure Deployment where
  cluster : LocalCluster
  live : List Live

inductive ClusterRequest
  | create (launch : Launch) (spec : ServiceSpec)
  | remove (serviceId : GoString)

/-- The deployments that calls produce.  A panic ends the run. -/
def deployments (names : NodeNames) : Machine Deployment ClusterRequest where
  initial := ⟨new, []⟩
  step := fun deployment request =>
    match request with
    | .create launch spec =>
      let run := createService names launch spec deployment.cluster
      match run.outcome with
      | .ok serviceId => some ⟨run.state,
          run.effects.map (fun cmd => ⟨serviceId, cmd.tenantId, cmd.port⟩) ++ deployment.live⟩
      | .error _ => some ⟨run.state, deployment.live⟩
      | _ => none
    | .remove serviceId =>
      let run := removeService names serviceId deployment.cluster
      match run.outcome with
      | .ok _ => some ⟨run.state,
          deployment.live.filter (fun service => service.serviceId ≠ serviceId)⟩
      | .error _ => some ⟨run.state, deployment.live⟩
      | _ => none

structure Sound (deployment : Deployment) : Prop where
  ids : deployment.live.Pairwise (fun first second => first.serviceId ≠ second.serviceId)
  ownPorts : deployment.live.Pairwise (fun first second => first.port ≠ second.port)
  services : Lists deployment.cluster.services
    (deployment.live.map (fun service => (service.serviceId, ⟨service.tenantId, service.port⟩)))
  ports : Lists deployment.cluster.ports
    (deployment.live.map (fun service => (service.port, service.serviceId)))
  serviceSpecs : Lists deployment.cluster.serviceSpecs
    (deployment.live.map (fun service =>
      (service.serviceId, introspecOf service.tenantId service.serviceId service.port)))
  ctxs : Lists deployment.cluster.ctxs
    (deployment.live.map (fun service => (service.serviceId, ())))
  discovered : Lists deployment.cluster.serviceDiscovery
    (deployment.live.map (fun service =>
      (service.tenantId, announcement service.tenantId service.serviceId service.port)))

def Numbered (deployment : Deployment) : Prop :=
  forall service, service ∈ deployment.live ->
    exists number, number ≤ deployment.cluster.services.entries.length ∧
      service.serviceId = decimal number

/-- The call returns, and leaves a sound deployment. -/
structure Settled (names : NodeNames) (deployment : Deployment)
    (request : ClusterRequest) : Prop where
  returns : exists next, (deployments names).step deployment request = some next
  sound : forall next, (deployments names).step deployment request = some next -> Sound next

def Deployment.Free (deployment : Deployment) (port : Nat) : Prop :=
  forall service, service ∈ deployment.live -> port ≠ service.port

/-- Only services that do not live are removed.  For a process that is started
the first round that draws a free port has the number of a free port, and its
tenant can be announced and is not announced yet. -/
def Placeable (names : NodeNames) (deployment : Deployment) : ClusterRequest -> Prop
  | .create launch spec =>
    launch.start = none ->
      DrawsFree deployment.Free launch.draws ∧
        names.accepts spec.tenantId = true ∧
        deployment.cluster.serviceDiscovery.lookup spec.tenantId = none
  | .remove serviceId =>
    forall service, service ∈ deployment.live -> service.serviceId ≠ serviceId

theorem sound_initial (names : NodeNames) : Sound (deployments names).initial where
  ids := List.Pairwise.nil
  ownPorts := List.Pairwise.nil
  services := Lists.empty
  ports := Lists.empty
  serviceSpecs := Lists.empty
  ctxs := Lists.empty
  discovered := Lists.empty

/-! ## Starting a process -/

section Starting

variable {names : NodeNames} {deployment : Deployment} {cmd : Command}

def Deployment.started (deployment : Deployment) (names : NodeNames) (cmd : Command) :
    Deployment where
  cluster := deployment.cluster.started names cmd
  live := ⟨deployment.cluster.nextId, cmd.tenantId, cmd.port⟩ :: deployment.live

theorem nextId_fresh (numbered : Numbered deployment) {service : Live}
    (lives : service ∈ deployment.live) : service.serviceId ≠ deployment.cluster.nextId := by
  intro same
  rcases numbered service lives with ⟨number, bound, numeral⟩
  have equal : number = deployment.cluster.services.entries.length + 1 :=
    decimal_injective (numeral.symm.trans same)
  omega

theorem lookup_nextId {Value : Type} {table : AList (fun _ : GoString => Value)}
    {describe : Live -> Value} (numbered : Numbered deployment)
    (lists : Lists table
      (deployment.live.map (fun service => (service.serviceId, describe service)))) :
    table.lookup deployment.cluster.nextId = none := by
  apply lists.lookup_eq_none_iff.mpr
  intro value listed
  rcases List.mem_map.mp listed with ⟨service, lives, same⟩
  exact nextId_fresh numbered lives (Prod.mk.inj same).1

theorem Sound.port_free_iff (sound : Sound deployment) (port : Nat) :
    deployment.cluster.ports.lookup port = none ↔ deployment.Free port := by
  rw [sound.ports.lookup_eq_none_iff]
  constructor
  · intro unlisted service lives same
    exact unlisted service.serviceId (List.mem_map.mpr ⟨service, lives, by rw [same]⟩)
  · intro free serviceId listed
    rcases List.mem_map.mp listed with ⟨service, lives, same⟩
    exact free service lives (Prod.mk.inj same).1.symm

theorem Sound.makePort_free_iff (sound : Sound deployment) (draws : Nat -> Fin 1000) :
    deployment.cluster.ports.lookup (makePort deployment.cluster.ports draws) = none ↔
      DrawsFree deployment.Free draws := by
  have same : (fun port => deployment.cluster.ports.lookup port = none) = deployment.Free :=
    funext (fun port => propext (sound.port_free_iff port))
  rw [IotManager.makePort_free_iff, same]

theorem announce_of_free (fine : names.accepts cmd.tenantId = true)
    (free : deployment.cluster.serviceDiscovery.lookup cmd.tenantId = none) :
    (deployment.cluster.started names cmd).serviceDiscovery =
      deployment.cluster.serviceDiscovery.insert cmd.tenantId
        (announcement cmd.tenantId deployment.cluster.nextId cmd.port) := by
  have some : registerService names
      (announcement cmd.tenantId deployment.cluster.nextId cmd.port)
      deployment.cluster.serviceDiscovery = some _ := if_pos ⟨fine, free⟩
  change (registerService names _ deployment.cluster.serviceDiscovery).getD _ = _
  rw [some]
  rfl

theorem announce_of_refused (refused : ¬ (names.accepts cmd.tenantId = true ∧
      deployment.cluster.serviceDiscovery.lookup cmd.tenantId = none)) :
    (deployment.cluster.started names cmd).serviceDiscovery =
      deployment.cluster.serviceDiscovery := by
  have none : registerService names
      (announcement cmd.tenantId deployment.cluster.nextId cmd.port)
      deployment.cluster.serviceDiscovery = none := if_neg refused
  change (registerService names _ deployment.cluster.serviceDiscovery).getD _ = _
  rw [none]
  rfl

theorem Sound.started (sound : Sound deployment) (numbered : Numbered deployment)
    (freePort : deployment.cluster.ports.lookup cmd.port = none)
    (fine : names.accepts cmd.tenantId = true)
    (freeName : deployment.cluster.serviceDiscovery.lookup cmd.tenantId = none) :
    Sound (deployment.started names cmd) where
  ids := List.pairwise_cons.mpr
    ⟨fun _ lives same => nextId_fresh numbered lives same.symm, sound.ids⟩
  ownPorts := List.pairwise_cons.mpr ⟨(sound.port_free_iff cmd.port).mp freePort, sound.ownPorts⟩
  services := sound.services.insert (lookup_nextId numbered sound.services) _
  ports := sound.ports.insert freePort _
  serviceSpecs := sound.serviceSpecs.insert (lookup_nextId numbered sound.serviceSpecs) _
  ctxs := sound.ctxs.insert (lookup_nextId numbered sound.ctxs) _
  discovered := by
    change Lists (deployment.cluster.started names cmd).serviceDiscovery _
    rw [announce_of_free fine freeName]
    exact sound.discovered.insert freeName _

theorem placeable_of_sound_started (sound : Sound deployment) (numbered : Numbered deployment)
    (after : Sound (deployment.started names cmd)) :
    deployment.cluster.ports.lookup cmd.port = none ∧ names.accepts cmd.tenantId = true ∧
      deployment.cluster.serviceDiscovery.lookup cmd.tenantId = none := by
  refine ⟨(sound.port_free_iff cmd.port).mpr (List.pairwise_cons.mp after.ownPorts).1, ?_⟩
  by_contra refused
  -- the new service would be listed under its name without having been announced
  have listed := (after.discovered cmd.tenantId
    (announcement cmd.tenantId deployment.cluster.nextId cmd.port)).mpr List.mem_cons_self
  change (deployment.cluster.started names cmd).serviceDiscovery.lookup _ = _ at listed
  rw [announce_of_refused refused] at listed
  rcases List.mem_map.mp ((sound.discovered _ _).mp listed) with ⟨service, lives, same⟩
  have sameId := congrArg Service.id (Prod.mk.inj same).2
  exact nextId_fresh numbered lives sameId

theorem Numbered.started (numbered : Numbered deployment) (sound : Sound deployment) :
    Numbered (deployment.started names cmd) := by
  have fresh : deployment.cluster.services.lookup deployment.cluster.nextId = none :=
    lookup_nextId numbered sound.services
  have grows : (deployment.cluster.services.insert deployment.cluster.nextId cmd).entries.length =
      deployment.cluster.services.entries.length + 1 := by
    rw [AList.insert_of_notMem (AList.lookup_eq_none.mp fresh)]
    rfl
  intro service lives
  change exists number,
    number ≤ (deployment.cluster.services.insert deployment.cluster.nextId cmd).entries.length ∧ _
  rw [grows]
  rcases List.mem_cons.mp lives with new | old
  · exact ⟨_, Nat.le_refl _, by rw [new]; rfl⟩
  · rcases numbered service old with ⟨number, bound, numeral⟩
    exact ⟨number, Nat.le_succ_of_le bound, numeral⟩

end Starting

/-! ## One call -/

section Calls

variable {names : NodeNames} {deployment : Deployment}

theorem step_create_of_failure {launch : Launch} {reason : GoString} (spec : ServiceSpec)
    (failed : launch.start = some reason) :
    (deployments names).step deployment (.create launch spec) = some deployment := by
  change (match (createService names launch spec deployment.cluster).outcome with
    | .ok serviceId => _
    | .error _ => _
    | _ => _) = _
  rw [createService_of_failure names spec failed]

theorem step_create_of_start {launch : Launch} (spec : ServiceSpec) (fine : launch.start = none) :
    (deployments names).step deployment (.create launch spec) =
      some (deployment.started names
        ⟨spec.tenantId, makePort deployment.cluster.ports launch.draws⟩) := by
  change (match (createService names launch spec deployment.cluster).outcome with
    | .ok serviceId => some (Deployment.mk _ (List.map _
        (createService names launch spec deployment.cluster).effects ++ _))
    | .error _ => _
    | _ => _) = _
  rw [createService_of_start names spec fine]
  rfl

theorem step_remove_of_missing {serviceId : GoString}
    (missing : deployment.cluster.services.lookup serviceId = none) :
    (deployments names).step deployment (.remove serviceId) = some deployment := by
  rcases removeService_of_missing names missing with ⟨reason, run⟩
  change (match (removeService names serviceId deployment.cluster).outcome with
    | .ok _ => _
    | .error _ => _
    | _ => _) = _
  rw [run]

theorem step_remove_of_found {serviceId : GoString}
    (found : deployment.cluster.services.lookup serviceId ≠ none) :
    (deployments names).step deployment (.remove serviceId) = none := by
  rcases removeService_panics names found with ⟨cause, panics⟩
  change (match (removeService names serviceId deployment.cluster).outcome with
    | .ok _ => _
    | .error _ => _
    | _ => _) = _
  rw [panics]

theorem Sound.lives_iff (sound : Sound deployment) (serviceId : GoString) :
    deployment.cluster.services.lookup serviceId = none ↔
      forall service, service ∈ deployment.live -> service.serviceId ≠ serviceId := by
  rw [sound.services.lookup_eq_none_iff]
  constructor
  · intro unlisted service lives same
    exact unlisted _ (List.mem_map.mpr ⟨service, lives, by rw [same]⟩)
  · intro other value listed
    rcases List.mem_map.mp listed with ⟨service, lives, same⟩
    exact other service lives (Prod.mk.inj same).1

theorem settled_of_step {request : ClusterRequest} {next : Deployment}
    (taken : (deployments names).step deployment request = some next) :
    Settled names deployment request ↔ Sound next := by
  constructor
  · intro settled
    exact settled.sound next taken
  · intro sound
    refine ⟨⟨next, taken⟩, fun other same => ?_⟩
    rw [taken] at same
    cases same
    exact sound

theorem settled_iff_placeable (sound : Sound deployment) (numbered : Numbered deployment)
    (request : ClusterRequest) :
    Settled names deployment request ↔ Placeable names deployment request := by
  cases request with
  | create launch spec =>
    cases start : launch.start with
    | some reason =>
      rw [settled_of_step (step_create_of_failure spec start)]
      refine iff_of_true sound (fun fine => ?_)
      rw [start] at fine
      cases fine
    | none =>
      rw [settled_of_step (step_create_of_start spec start)]
      constructor
      · intro after _
        exact (placeable_of_sound_started sound numbered after).imp_left
          (sound.makePort_free_iff launch.draws).mp
      · intro placeable
        rcases placeable start with ⟨drawn, fine, freeName⟩
        exact sound.started numbered ((sound.makePort_free_iff launch.draws).mpr drawn) fine freeName
  | remove serviceId =>
    by_cases missing : deployment.cluster.services.lookup serviceId = none
    · rw [settled_of_step (step_remove_of_missing missing)]
      exact iff_of_true sound ((sound.lives_iff serviceId).mp missing)
    · refine iff_of_false ?_ (fun other => missing ((sound.lives_iff serviceId).mpr other))
      intro settled
      rcases settled.returns with ⟨next, taken⟩
      rw [step_remove_of_found missing] at taken
      cases taken

theorem placeable_keeps {request : ClusterRequest} {next : Deployment}
    (inv : Sound deployment ∧ Numbered deployment) (placeable : Placeable names deployment request)
    (taken : (deployments names).step deployment request = some next) :
    Sound next ∧ Numbered next := by
  have settled := (settled_iff_placeable inv.1 inv.2 request).mpr placeable
  refine ⟨settled.sound next taken, ?_⟩
  cases request with
  | create launch spec =>
    cases start : launch.start with
    | some reason =>
      rw [step_create_of_failure spec start] at taken
      cases taken
      exact inv.2
    | none =>
      rw [step_create_of_start spec start] at taken
      cases taken
      exact inv.2.started inv.1
  | remove serviceId =>
    rw [step_remove_of_missing ((inv.1.lives_iff serviceId).mpr placeable)] at taken
    cases taken
    exact inv.2

end Calls

/-- A run of calls keeps the deployment sound, without a panic, exactly when
all of its calls are placeable. -/
theorem settled_throughout_iff (names : NodeNames) (requests : List ClusterRequest) :
    (deployments names).Allowed (Settled names) (deployments names).initial requests ↔
      (deployments names).Allowed (Placeable names) (deployments names).initial requests :=
  Machine.allowed_congr placeable_keeps (fun inv => settled_iff_placeable inv.1 inv.2 _)
    ⟨sound_initial names, fun _ lives => nomatch lives⟩ requests

def launching (spec : ServiceSpec) : ClusterRequest := .create ⟨fun _ => 1, none⟩ spec

def specFor (tenantId : GoString) : ServiceSpec where
  tenantId := tenantId
  networkId := []
  replicas := 1

theorem step_launching (deployment : Deployment) (spec : ServiceSpec)
    (free : deployment.cluster.ports.lookup (portIndex + 1) = none) :
    (deployments anyName).step deployment (launching spec) =
      some (deployment.started anyName ⟨spec.tenantId, portIndex⟩) := by
  have port : makePort deployment.cluster.ports (fun _ => 1) = portIndex := makePort_of_free free
  rw [launching, step_create_of_start spec rfl, port]

/-- Removing the only service panics.  Two services for two tenants get the same
port, since both find a free port in the first round. -/
theorem removal_panics_and_ports_collide :
    ¬ (deployments anyName).Allowed (Settled anyName) (deployments anyName).initial
        [launching (specFor [116]), .remove (decimal 1)] ∧
      ¬ (deployments anyName).Allowed (Settled anyName) (deployments anyName).initial
        [launching (specFor [116]), launching (specFor [117])] := by
  have first := step_launching (deployments anyName).initial (specFor [116]) rfl
  constructor
  · intro allowed
    rw [Machine.Allowed, first] at allowed
    rcases allowed.2.1.returns with ⟨next, taken⟩
    rw [step_remove_of_found (by decide +kernel)] at taken
    cases taken
  · intro allowed
    rw [Machine.Allowed, first] at allowed
    have sound := allowed.2.1.sound _ (step_launching _ (specFor [117]) (by decide +kernel))
    exact (List.pairwise_cons.mp sound.ownPorts).1 _ List.mem_cons_self rfl

end IotManager
end Sentel
