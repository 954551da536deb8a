import Sentel.Discovery.ServiceDiscovery
import Sentel.IotManager.Conductor

namespace Sentel
namespace IotManager

open Library

/-!
# The swarm cluster

In the swarm mode a service is created by the Docker daemon, and the cluster
keeps the identifier of the service under its name.  After the daemon has
created a service the call goes on: the service is inspected for its address
and announced to the service discovery.  Each of these steps may fail, and then
an error is returned although the service runs and its identifier is stored.
A removal stops the service and leaves the identifier where it is.

The answers of the daemon and of the service discovery are arguments.  An error
of the daemon may also be one of the connection, which reaches the cluster after
the daemon has created the service.
-/

/-! ## The daemon -/

/-- `swarm.ServiceSpec`, as far as it is filled in.  The delay is in seconds. -/
structure SwarmSpec where
  name : GoString
  image : GoString
  env : List GoString
  networks : List GoString
  delay : Nat
  maxAttempts : UInt64
  replicas : UInt64

structure EndpointVirtualIp where
  networkId : GoString
  addr : GoString

/-- `swarm.Service`, as far as it is read.  The networks are the targets of its
task template, and the ports are published ones. -/
structure SwarmService where
  networks : List GoString
  virtualIps : List EndpointVirtualIp
  ports : List Nat

/-- What becomes of `ServiceCreate`.  An error is returned in the last two
cases. -/
inductive ServiceCreation
  | created (id : GoString)
  | refused
  | unreported (id : GoString)

/-- The answers that a creation meets.  An inspection that fails has none. -/
structure SwarmAnswers where
  serviceCreate : ServiceCreation
  serviceInspect : Option SwarmService
  registerService : Discovery.Service -> Bool

inductive SwarmEffect
  | started (spec : SwarmSpec) (id : GoString)
  | stopped (id : GoString)
  | announced (service : Discovery.Service)
  | retracted (service : Discovery.Service)

/-! ## The cluster -/

structure SwarmCluster where
  services : AList (fun _ : GoString => GoString)
  serviceDiscovery : Bool

def SwarmCluster.new (serviceDiscovery : Bool) : SwarmCluster := ⟨∅, serviceDiscovery⟩

/-- What a call did, the error it returned and the cluster it left. -/
structure SwarmRun where
  effects : List SwarmEffect
  err : Option GoString
  cluster : SwarmCluster

/-- What is sent to the daemon.  A negative number of replicas becomes a large
one. -/
def swarmSpec (spec : ServiceSpec) : SwarmSpec where
  name := spec.serviceName
  image := spec.image
  env := spec.environment
  networks := [spec.networkId]
  delay := 1
  maxAttempts := 10
  replicas := UInt64.ofInt spec.replicas

def virtualIp (networkId : GoString) (virtualIps : List EndpointVirtualIp) : GoString :=
  match virtualIps.find? (fun vip => vip.networkId = networkId) with
  | none => []
  | some vip => (split 0x2f vip.addr).headD []

namespace SwarmCluster

def updateDiscovery (outside : SwarmAnswers) (serviceName serviceId : GoString) :
    Except GoString Discovery.Service :=
  match outside.serviceInspect with
  | none =>
    .error (ascii "swarm failed to get service backend info for '" ++ serviceName ++ ascii "'")
  | some service =>
    match service.networks with
    | [networkId] =>
      let ip := virtualIp networkId service.virtualIps
      if ip = [] then .error (ascii "inspect service virtual ip failed")
      else
        match service.ports with
        | [port] =>
          if outside.registerService ⟨serviceName, serviceId, ip, port⟩ then
            .ok ⟨serviceName, serviceId, ip, port⟩
          else .error (ascii "swarm failed to update service discovery for '" ++
            serviceName ++ ascii "'")
        | _ => .error (ascii "inspect service port failed")
    | _ => .error (ascii "inspect service network failed")

/-- `CreateService`, which returns the name of the service in any case. -/
def createService (outside : SwarmAnswers) (spec : ServiceSpec) (p : SwarmCluster) : SwarmRun :=
  let refusal := ascii "swarm failed to create service '" ++ spec.serviceName ++ ascii "'"
  match outside.serviceCreate with
  | .refused => ⟨[], some refusal, p⟩
  | .unreported id => ⟨[.started (swarmSpec spec) id], some refusal, p⟩
  | .created id =>
    let stored := { p with services := p.services.insert spec.serviceName id }
    if p.serviceDiscovery then
      match updateDiscovery outside spec.serviceName id with
      | .error reason => ⟨[.started (swarmSpec spec) id], some reason, stored⟩
      | .ok service => ⟨[.started (swarmSpec spec) id, .announced service], none, stored⟩
    else ⟨[.started (swarmSpec spec) id], none, stored⟩

/-- `RemoveService`, with the answer of `ServiceRemove`.  The error of the
service discovery is dropped. -/
def removeService (serviceRemove : Bool) (serviceName : GoString) (p : SwarmCluster) : SwarmRun :=
  match p.services.lookup serviceName with
  | none => ⟨[], none, p⟩
  | some id =>
    if serviceRemove then
      ⟨.stopped id :: if p.serviceDiscovery then [.retracted { name := serviceName, id := id }]
        else [], none, p⟩
    else ⟨[], some (ascii "swarm stop service '" ++ serviceName ++ ascii "' failed"), p⟩

def Announceable (outside : SwarmAnswers) (serviceName serviceId : GoString)
    (announced : Discovery.Service) : Prop :=
  exists service networkId port, outside.serviceInspect = some service ∧
    service.networks = [networkId] ∧ virtualIp networkId service.virtualIps ≠ [] ∧
    service.ports = [port] ∧
    announced = ⟨serviceName, serviceId, virtualIp networkId service.virtualIps, port⟩ ∧
    outside.registerService announced = true

theorem updateDiscovery_eq_ok_iff {outside : SwarmAnswers} {serviceName serviceId : GoString}
    {announced : Discovery.Service} :
    updateDiscovery outside serviceName serviceId = .ok announced ↔
      Announceable outside serviceName serviceId announced := by
  constructor
  · intro found
    unfold updateDiscovery at found
    split at found
    · cases found
    · next service inspected =>
        split at found
        · next networkId network =>
            dsimp only at found
            split_ifs at found with address
            split at found
            · next port ports =>
                split_ifs at found with accepted
                cases found
                exact ⟨service, networkId, port, inspected, network, address, ports, rfl, accepted⟩
            · cases found
        · cases found
  · rintro ⟨service, networkId, port, inspected, network, address, ports, rfl, accepted⟩
    simp only [updateDiscovery, inspected, network, if_neg address, ports, if_pos accepted]

end SwarmCluster

/-! ## What the cluster should keep -/

def runningStep (running : List (GoString × GoString)) : SwarmEffect -> List (GoString × GoString)
  | .started spec id => (spec.name, id) :: running
  | .stopped id => running.filter (fun service => service.2 ≠ id)
  | .announced _ => running
  | .retracted _ => running

/-- The services that a call started and that run after it. -/
def leftRunning (effects : List SwarmEffect) : List (GoString × GoString) :=
  effects.foldl runningStep []

/-- The services that a call stopped. -/
def stoppedBy (effects : List SwarmEffect) : List GoString :=
  effects.filterMap (fun effect =>
    match effect with
    | .stopped id => some id
    | _ => none)

inductive SwarmCall
  | createService (outside : SwarmAnswers) (spec : ServiceSpec)
  | removeService (serviceRemove : Bool) (serviceName : GoString)

namespace SwarmCall

def perform : SwarmCall -> SwarmCluster -> SwarmRun
  | .createService outside spec => SwarmCluster.createService outside spec
  | .removeService serviceRemove serviceName =>
    SwarmCluster.removeService serviceRemove serviceName

/-- The cluster after a sequence of calls. -/
def performAll (calls : List SwarmCall) (p : SwarmCluster) : SwarmCluster :=
  calls.foldl (fun p call => (call.perform p).cluster) p

def Creates (serviceName : GoString) : SwarmCall -> Prop
  | .createService _ spec => spec.serviceName = serviceName
  | .removeService _ _ => False

/-- A creation that fails leaves no service and no identifier behind, and a
removal that succeeds leaves no identifier behind. -/
def Honest (p : SwarmCluster) (call : SwarmCall) : Prop :=
  match call with
  | .createService _ spec =>
    (call.perform p).err ≠ none ->
      (forall id, (spec.serviceName, id) ∉ leftRunning (call.perform p).effects) ∧
        (call.perform p).cluster = p
  | .removeService _ serviceName =>
    (call.perform p).err = none -> (call.perform p).cluster.services.lookup serviceName = none

/-- The daemon creates nothing without saying so, a created service can be
announced if there is a service discovery, and nothing that is stored is
removed. -/
def Careful (p : SwarmCluster) : SwarmCall -> Prop
  | .createService outside spec =>
    match outside.serviceCreate with
    | .refused => True
    | .unreported _ => False
    | .created id => p.serviceDiscovery = true ->
        exists announced, SwarmCluster.Announceable outside spec.serviceName id announced
  | .removeService serviceRemove serviceName =>
    p.services.lookup serviceName = none ∨ serviceRemove = false

theorem honest_iff_careful (p : SwarmCluster) (call : SwarmCall) :
    call.Honest p ↔ call.Careful p := by
  cases call with
  | createService outside spec =>
    simp only [Honest, Careful, perform, SwarmCluster.createService]
    cases outside.serviceCreate with
    | refused => simp [leftRunning]
    | unreported id => simp [leftRunning, runningStep, swarmSpec]
    | created id =>
      cases discovers : p.serviceDiscovery with
      | false => simp
      | true =>
        simp only [← SwarmCluster.updateDiscovery_eq_ok_iff]
        cases announced : SwarmCluster.updateDiscovery outside spec.serviceName id with
        | error reason => simp [leftRunning, runningStep, swarmSpec]
        | ok service => simp
  | removeService serviceRemove serviceName =>
    simp only [Honest, Careful, perform, SwarmCluster.removeService]
    cases found : p.services.lookup serviceName with
    | none => simp [found]
    | some id => cases serviceRemove <;> simp [found]

theorem lookup_performAll {serviceName : GoString} {calls : List SwarmCall}
    (others : ∀ call ∈ calls, ¬ call.Creates serviceName) (p : SwarmCluster) :
    (performAll calls p).services.lookup serviceName = p.services.lookup serviceName := by
  induction calls generalizing p with
  | nil => rfl
  | cons call rest ih =>
    have other := others call List.mem_cons_self
    rw [performAll, List.foldl_cons]
    refine (ih (fun later member => others later (List.mem_cons_of_mem call member)) _).trans ?_
    cases call with
    | createService outside spec =>
      have kept (id : GoString) : (p.services.insert spec.serviceName id).lookup serviceName =
          p.services.lookup serviceName := AList.lookup_insert_ne (Ne.symm other)
      simp only [perform, SwarmCluster.createService]
      split <;> try rfl
      split <;> try exact kept _
      split <;> exact kept _
    | removeService serviceRemove name =>
      simp only [perform, SwarmCluster.removeService]
      split <;> try rfl
      split <;> rfl

/-- A call is honest exactly if it is careful, whatever the cluster holds.  In any
case a removal after a successful creation stops the service that was created. -/
theorem honest_calls_iff (p : SwarmCluster) :
    (forall call : SwarmCall, call.Honest p ↔ call.Careful p) ∧
    forall (outside : SwarmAnswers) (spec : ServiceSpec) (between : List SwarmCall),
      (SwarmCluster.createService outside spec p).err = none ->
      (∀ call ∈ between, ¬ call.Creates spec.serviceName) ->
      exists id,
        leftRunning (SwarmCluster.createService outside spec p).effects =
          [(spec.serviceName, id)] ∧
        stoppedBy (SwarmCluster.removeService true spec.serviceName
          (performAll between (SwarmCluster.createService outside spec p).cluster)).effects =
            [id] := by
  refine ⟨honest_iff_careful p, fun outside spec between returned others => ?_⟩
  have stored : exists id,
      leftRunning (SwarmCluster.createService outside spec p).effects = [(spec.serviceName, id)] ∧
      (SwarmCluster.createService outside spec p).cluster.services.lookup spec.serviceName =
        some id := by
    simp only [SwarmCluster.createService] at returned ⊢
    cases answer : outside.serviceCreate with
    | refused | unreported id => simp [answer] at returned
    | created id =>
      refine ⟨id, ?_⟩
      simp only [answer] at returned ⊢
      split_ifs at returned ⊢
      · split at returned
        · cases returned
        · simp [leftRunning, runningStep, swarmSpec]
      · simp [leftRunning, runningStep, swarmSpec]
  rcases stored with ⟨id, running, found⟩
  refine ⟨id, running, ?_⟩
  rw [SwarmCluster.removeService, lookup_performAll others, found]
  dsimp only
  rw [if_pos rfl]
  split_ifs <;> rfl

def sampleSpec : ServiceSpec where
  tenantId := ascii "t"
  serviceName := ascii "s"
  networkId := ascii "n"
  replicas := 1

def uninspected : SwarmAnswers where
  serviceCreate := .created (ascii "1")
  serviceInspect := none
  registerService := fun _ => true

/-- A service that cannot be inspected runs although its creation failed, and the
identifier of a removed service stays. -/
theorem failed_service_runs :
    ¬ (createService uninspected sampleSpec).Honest (SwarmCluster.new true) ∧
    ¬ (removeService true (ascii "s")).Honest
      (performAll [.createService uninspected sampleSpec] (SwarmCluster.new false)) := by
  constructor
  · intro honest
    exact (honest (Option.some_ne_none _)).1 (ascii "1") List.mem_cons_self
  · intro honest
    have stale : some (ascii "1") = none := honest rfl
    cases stale

end SwarmCall

/-- The conductor asks for services without a name, for which the service
discovery has no node.  On a swarm it therefore leaves a service running with
every request that the daemon grants, and takes it for a failure. -/
theorem conductor_services_orphaned {swarm : SwarmCluster} {answers : SwarmAnswers}
    {names : Discovery.NodeNames} {nodes : Discovery.Nodes} {serviceId : GoString}
    (discovers : swarm.serviceDiscovery = true)
    (discovery : forall service, answers.registerService service =
      (Discovery.registerService names service nodes).isSome)
    (created : answers.serviceCreate = .created serviceId) (outside : Surroundings)
    (tid : GoString) (replicas : Int) :
    (SwarmCluster.createService answers (productSpec outside tid replicas) swarm).err ≠ none ∧
    leftRunning (SwarmCluster.createService answers (productSpec outside tid replicas)
      swarm).effects = [([], serviceId)] := by
  simp only [SwarmCluster.createService, created, if_pos discovers]
  cases announced : SwarmCluster.updateDiscovery answers
      (productSpec outside tid replicas).serviceName serviceId with
  | error reason => exact ⟨Option.some_ne_none reason, rfl⟩
  | ok service =>
    rcases SwarmCluster.updateDiscovery_eq_ok_iff.mp announced with
      ⟨_, _, _, _, _, _, _, rfl, accepted⟩
    rw [discovery, Discovery.registerService] at accepted
    simp [productSpec, names.empty] at accepted

def grantedAnswers : SwarmAnswers where
  serviceCreate := .created (ascii "1")
  serviceInspect := some ⟨[ascii "n"], [⟨ascii "n", ascii "10.0.0.2/24"⟩], [8080]⟩
  registerService := fun service =>
    (Discovery.registerService Discovery.anyName service ∅).isSome

theorem granted_request_orphaned :
    let granted := SwarmCluster.createService grantedAnswers
      (productSpec ⟨some (ascii "n"), fun _ _ => .ok [], fun _ => true, true⟩ (ascii "t") 1)
      (.new true)
    granted.err ≠ none ∧ leftRunning granted.effects = [([], ascii "1")] :=
  conductor_services_orphaned rfl (fun _ => rfl) rfl _ _ _

end IotManager
end Sentel
