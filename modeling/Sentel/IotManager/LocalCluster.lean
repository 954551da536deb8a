import Sentel.Discovery.ServiceDiscovery
import Sentel.IotManager.Conductor
import Sentel.Library.Machine

namespace Sentel
namespace IotManager

open Library Handler

/-!
# The local cluster

In the local mode a service is one broker process on this machine.  The cluster
keeps four tables about its processes and announces each of them to the service
discovery, which the conductor always sets.  An identifier is the number of
processes plus one.  A port is looked for at random, and what is returned is
the number of the round and not the port that was found free.

The calls are serialised by a mutex.  A removal deletes the description of a
service before it reads the port from it, so that it panics for every service
that it finds.
-/

structure ServiceEndpoint where
  virtualIp : GoString
  port : Nat
  deriving DecidableEq

structure ServiceIntrospec where
  serviceName : GoString
  serviceId : GoString
  serviceState : ServiceState
  endpoints : List ServiceEndpoint
  deriving DecidableEq

/-- A broker process: the tenant and the port on its command line. -/
structure Command where
  tenantId : GoString
  port : Nat
  deriving DecidableEq

structure LocalCluster where
  services : AList (fun _ : GoString => Command)
  ports : AList (fun _ : Nat => GoString)
  serviceSpecs : AList (fun _ : GoString => ServiceIntrospec)
  ctxs : AList (fun _ : GoString => Unit)
  serviceDiscovery : Discovery.Nodes

def LocalCluster.new : LocalCluster := ⟨∅, ∅, ∅, ∅, ∅⟩

def portIndex : Nat := 10000

def probePorts (ports : AList (fun _ : Nat => GoString)) (draws : Nat -> Fin 1000) :
    Nat -> Nat -> Nat
  | 0, _ => 0
  | rounds + 1, i =>
    if ports.lookup (portIndex + draws i) = none then portIndex + i
    else probePorts ports draws rounds (i + 1)

def makePort (ports : AList (fun _ : Nat => GoString)) (draws : Nat -> Fin 1000) : Nat :=
  probePorts ports draws 1000 0

/-- The first round that draws a free port has a number that stands for a free
port too, and port zero is free if all rounds draw ports that are taken. -/
def DrawsFree (free : Nat -> Prop) (draws : Nat -> Fin 1000) : Prop :=
  (forall i, i < 1000 -> (forall j, j < i -> ¬ free (portIndex + draws j)) ->
    free (portIndex + draws i) -> free (portIndex + i)) ∧
  ((forall i, i < 1000 -> ¬ free (portIndex + draws i)) -> free 0)

section Ports

variable {ports : AList (fun _ : Nat => GoString)} {draws : Nat -> Fin 1000}

theorem makePort_of_free (free : ports.lookup (portIndex + draws 0) = none) :
    makePort ports draws = portIndex :=
  if_pos free

theorem probePorts_cases (rounds i : Nat) :
    (exists k, i ≤ k ∧ k < i + rounds ∧ probePorts ports draws rounds i = portIndex + k ∧
        ports.lookup (portIndex + draws k) = none ∧
        forall j, i ≤ j -> j < k -> ports.lookup (portIndex + draws j) ≠ none) ∨
      (probePorts ports draws rounds i = 0 ∧
        forall j, i ≤ j -> j < i + rounds -> ports.lookup (portIndex + draws j) ≠ none) := by
  induction rounds generalizing i with
  | zero => exact .inr ⟨rfl, fun j low high => absurd high (Nat.not_lt_of_le low)⟩
  | succ rounds ih =>
    rw [probePorts]
    by_cases free : ports.lookup (portIndex + draws i) = none
    · rw [if_pos free]
      exact .inl ⟨i, Nat.le_refl i, by omega, rfl, free, fun j low high => by omega⟩
    · rw [if_neg free]
      have taken (j : Nat) (low : i ≤ j)
          (later : i + 1 ≤ j -> ports.lookup (portIndex + draws j) ≠ none) :
          ports.lookup (portIndex + draws j) ≠ none := by
        rcases Nat.eq_or_lt_of_le low with same | more
        · rw [← same]
          exact free
        · exact later more
      rcases ih (i + 1) with ⟨k, low, high, port, found, before⟩ | ⟨port, all⟩
      · exact .inl ⟨k, by omega, by omega, port, found,
          fun j least less => taken j least (fun more => before j more less)⟩
      · exact .inr ⟨port, fun j least less => taken j least (fun more => all j more (by omega))⟩

theorem makePort_free_iff : ports.lookup (makePort ports draws) = none ↔
    DrawsFree (fun port => ports.lookup port = none) draws := by
  rcases @probePorts_cases ports draws 1000 0 with ⟨k, _, high, port, found, before⟩ | ⟨port, all⟩
  · rw [makePort, port]
    constructor
    · intro free
      refine ⟨fun i inside taken drawn => ?_, fun taken => absurd found (taken k (by omega))⟩
      -- two rounds cannot both be the first
      have same : i = k := by
        rcases Nat.lt_trichotomy i k with less | same | more
        · exact absurd drawn (before i (Nat.zero_le i) less)
        · exact same
        · exact absurd found (taken k more)
      rw [same]
      exact free
    · intro draws
      exact draws.1 k (by omega) (fun j => before j (Nat.zero_le j)) found
  · have taken : forall i, i < 1000 -> ports.lookup (portIndex + draws i) ≠ none :=
      fun i inside => all i (Nat.zero_le i) (by omega)
    rw [makePort, port]
    exact ⟨fun free => ⟨fun i inside _ drawn => absurd drawn (taken i inside), fun _ => free⟩,
      fun draws => draws.2 taken⟩

end Ports

/-- What a creation meets: the random numbers, and the error of starting the
process if there is one. -/
structure Launch where
  draws : Nat -> Fin 1000
  start : Option GoString

abbrev Clustering : Type -> Type := Handler LocalCluster Command GoString

def localhost : GoString := ascii "127.0.0.1"

def introspecOf (tenantId serviceId : GoString) (port : Nat) : ServiceIntrospec where
  serviceName := tenantId
  serviceId := serviceId
  serviceState := .started
  endpoints := [⟨localhost, port⟩]

def announcement (tenantId serviceId : GoString) (port : Nat) : Discovery.Service where
  name := tenantId
  id := serviceId
  ip := localhost
  port := port

namespace LocalCluster

def announce (names : Discovery.NodeNames) (service : Discovery.Service) (p : LocalCluster) :
    LocalCluster :=
  { p with
    serviceDiscovery :=
      (Discovery.registerService names service p.serviceDiscovery).getD p.serviceDiscovery }

/-- Enter a started process into the four tables. -/
def enter (p : LocalCluster) (serviceId : GoString) (cmd : Command) : LocalCluster :=
  { p with
    services := p.services.insert serviceId cmd
    ports := p.ports.insert cmd.port serviceId
    serviceSpecs := p.serviceSpecs.insert serviceId (introspecOf cmd.tenantId serviceId cmd.port)
    ctxs := p.ctxs.insert serviceId () }

def nextId (p : LocalCluster) : GoString := decimal (p.services.entries.length + 1)

def createService (names : Discovery.NodeNames) (launch : Launch) (spec : ServiceSpec) :
    Clustering GoString := do
  let p <- look
  let cmd : Command := ⟨spec.tenantId, makePort p.ports launch.draws⟩
  failWith launch.start
  emit cmd
  change (fun p => p.enter p.nextId cmd)
  change (announce names (announcement spec.tenantId p.nextId cmd.port))
  pure p.nextId

/-- The endpoints found under an identifier.  A missing key reads as the zero
record, which has none. -/
def endpointsOf (p : LocalCluster) (serviceId : GoString) : List ServiceEndpoint :=
  ((p.serviceSpecs.lookup serviceId).map ServiceIntrospec.endpoints).getD []

def retract (names : Discovery.NodeNames) (serviceId : GoString) : Clustering Unit := do
  let p <- look
  match p.endpointsOf serviceId with
  | [] => crash .indexOutOfRange
  | endpoint :: _ =>
    change (fun p => { p with ports := p.ports.erase endpoint.port })
    change (fun p => { p with
      serviceDiscovery := Discovery.removeService names { id := serviceId } p.serviceDiscovery })

def forget (serviceId : GoString) (p : LocalCluster) : LocalCluster :=
  { p with
    services := p.services.erase serviceId
    ctxs := p.ctxs.erase serviceId
    serviceSpecs := p.serviceSpecs.erase serviceId }

def removeService (names : Discovery.NodeNames) (serviceId : GoString) : Clustering Unit := do
  let p <- look
  failIf (p.services.lookup serviceId = none)
    (ascii "service '" ++ serviceId ++ ascii "' not found")
  -- `ctx.Done()` on a context that is missing is a call through nil
  match p.ctxs.lookup serviceId with
  | none => crash .nilDereference
  | some _ =>
    change (forget serviceId)
    retract names serviceId

/-! ## What the calls do -/

section Runs

variable (names : Discovery.NodeNames) {p : LocalCluster}

theorem createService_of_failure {launch : Launch} {reason : GoString} (spec : ServiceSpec)
    (failed : launch.start = some reason) :
    createService names launch spec p = ⟨[], .error reason, p⟩ := by
  change (failWith launch.start >>= _) p = _
  rw [failed]
  rfl

def started (p : LocalCluster) (cmd : Command) : LocalCluster :=
  (p.enter p.nextId cmd).announce names (announcement cmd.tenantId p.nextId cmd.port)

theorem createService_of_start {launch : Launch} (spec : ServiceSpec)
    (fine : launch.start = none) :
    createService names launch spec p =
      ⟨[⟨spec.tenantId, makePort p.ports launch.draws⟩], .ok p.nextId,
        p.started names ⟨spec.tenantId, makePort p.ports launch.draws⟩⟩ := by
  change (failWith launch.start >>= _) p = _
  rw [fine]
  rfl

theorem removeService_of_missing {serviceId : GoString}
    (missing : p.services.lookup serviceId = none) :
    exists reason, removeService names serviceId p = ⟨[], .error reason, p⟩ := by
  refine ⟨ascii "service '" ++ serviceId ++ ascii "' not found", ?_⟩
  change (look >>= _) p = _
  rw [look_bind_apply, failIf_pos_bind_apply missing]

theorem endpointsOf_forget (serviceId : GoString) : (p.forget serviceId).endpointsOf serviceId = [] := by
  have gone : (p.forget serviceId).serviceSpecs.lookup serviceId = none :=
    AList.lookup_erase serviceId p.serviceSpecs
  rw [endpointsOf, gone]
  rfl

theorem removeService_panics {serviceId : GoString}
    (found : p.services.lookup serviceId ≠ none) :
    exists cause, (removeService names serviceId p).outcome = .panic cause := by
  change exists cause, ((look >>= _) p).outcome = .panic cause
  rw [look_bind_apply, failIf_neg_bind_apply found]
  cases p.ctxs.lookup serviceId with
  | none => exact ⟨.nilDereference, rfl⟩
  | some _ =>
    refine ⟨.indexOutOfRange, ?_⟩
    change ((change (forget serviceId) >>= fun _ => retract names serviceId) p).outcome = _
    rw [change_bind_apply, retract, look_bind_apply, endpointsOf_forget]
    rfl

end Runs

end LocalCluster

end IotManager
end Sentel
