import Sentel.IotManager.Conductor
import Sentel.Library.Machine

namespace Sentel
namespace IotManager

open Library

/-!
# One service for the products of a tenant

Tenants are registered and products come and go, while the cluster accepts or
refuses every service.  Beside the table we keep, for each tenant, the services
that were created for it and not removed since.  The table and the cluster stay
in step: a tenant without products has no service, and a tenant with products
has the one whose identifier its record holds.
-/

/-- A call together with the answers it gets. -/
structure AnsweredCall where
  outside : Surroundings
  call : TenantCall

namespace AnsweredCall

def perform (answered : AnsweredCall) : Conducting Unit := answered.call.perform answered.outside

end AnsweredCall

def serviceStep (services : List GoString) : ClusterCall -> List GoString
  | .createService _ (.ok serviceId) => serviceId :: services
  | .removeService serviceId => services.erase serviceId
  | _ => services

/-- A conductor, and the services that run for each tenant. -/
structure Placement where
  conductor : Conductor
  running : GoString -> List GoString

namespace Placement

def after (placement : Placement) (answered : AnsweredCall) : Placement where
  conductor := (answered.perform placement.conductor).state
  running := Function.update placement.running answered.call.tenant
    ((answered.perform placement.conductor).effects.foldl serviceStep
      (placement.running answered.call.tenant))

end Placement

/-- The placements that calls produce from an empty table.  A panic ends the
run. -/
def placements (dbconn : ManagerDb) : Machine Placement AnsweredCall where
  initial := ⟨Conductor.new dbconn, fun _ => []⟩
  step := fun placement answered =>
    match (answered.perform placement.conductor).outcome with
    | .ok _ => some (placement.after answered)
    | .error _ => some (placement.after answered)
    | _ => none

/-! ## The invariant -/

structure InStep (t : Tenant) (services : List GoString) : Prop where
  state : t.serviceState = if t.products.entries = [] then .none else .started
  services : services = if t.products.entries = [] then [] else [t.serviceId]

namespace InStep

variable {t : Tenant} {services : List GoString}

theorem empty_of_idle (inStep : InStep t services) (idle : t.serviceState = .none) :
    t.products.entries = [] := by
  by_contra products
  have state := inStep.state
  rw [if_neg products, idle] at state
  cases state

theorem services_of_idle (inStep : InStep t services) (idle : t.serviceState = .none) :
    services = [] := by
  rw [inStep.services, if_pos (inStep.empty_of_idle idle)]

theorem started_iff (inStep : InStep t services) :
    t.serviceState = .started ↔ t.products.entries ≠ [] := by
  rw [inStep.state]
  by_cases products : t.products.entries = []
  · rw [if_pos products]
    exact iff_of_false (fun same => nomatch same) (fun some => some products)
  · rw [if_neg products]
    exact iff_of_true rfl products

theorem products_of_running (inStep : InStep t services) (running : t.serviceState ≠ .none) :
    t.products.entries ≠ [] := by
  intro empty
  rw [inStep.state, if_pos empty] at running
  exact running rfl

theorem services_eq (inStep : InStep t services) :
    services = if t.serviceState = .started then [t.serviceId] else [] := by
  rw [inStep.services]
  by_cases products : t.products.entries = []
  · rw [if_pos products, if_neg (fun started => inStep.started_iff.mp started products)]
  · rw [if_neg products, if_pos (inStep.started_iff.mpr products)]

theorem of_new (tid : GoString) : InStep { tenantId := tid } [] := ⟨rfl, rfl⟩

theorem insert_ne_nil (pid : GoString) : (t.products.insert pid ()).entries ≠ [] := by
  rw [AList.entries_insert]
  exact List.cons_ne_nil _ _

theorem joined (inStep : InStep t services) (running : t.serviceState ≠ .none) (pid : GoString) :
    InStep { t with products := t.products.insert pid () } services := by
  have products := inStep.products_of_running running
  constructor
  · rw [if_neg (insert_ne_nil pid)]
    exact inStep.started_iff.mpr products
  · rw [if_neg (insert_ne_nil pid), inStep.services, if_neg products]

theorem started (inStep : InStep t services) (idle : t.serviceState = .none)
    (tid pid serviceId : GoString) :
    InStep { t with serviceState := .started, serviceId := serviceId, serviceName := tid,
                    products := t.products.insert pid () } (serviceId :: services) := by
  constructor
  · rw [if_neg (insert_ne_nil pid)]
  · rw [if_neg (insert_ne_nil pid), inStep.services_of_idle idle]

theorem removed (inStep : InStep t services) {pid : GoString}
    (present : (t.products.lookup pid).isSome = true) :
    InStep (t.withoutProduct pid)
      ((if (t.products.erase pid).entries = [] then [.removeService t.serviceId] else []).foldl
        serviceStep services) := by
  have products : t.products.entries ≠ [] := by
    intro empty
    rw [AList.lookup, empty] at present
    cases present
  have running : services = [t.serviceId] := by
    rw [inStep.services, if_neg products]
  have state := inStep.started_iff.mpr products
  by_cases last : (t.products.erase pid).entries = []
  · rw [if_pos last, running]
    have stopped : (t.withoutProduct pid).serviceState = .none := if_pos last
    refine ⟨stopped.trans (if_pos last).symm, ?_⟩
    exact (List.erase_cons_head _ _).trans (if_pos last).symm
  · rw [if_neg last, running]
    have kept : (t.withoutProduct pid).serviceState = t.serviceState := if_neg last
    refine ⟨?_, (if_neg last).symm⟩
    rw [kept, state]
    exact (if_neg last).symm

end InStep

structure Placed (placement : Placement) : Prop where
  known : forall tid t, placement.conductor.tenants.lookup tid = some t ->
    InStep t (placement.running tid)
  unknown : forall tid, placement.conductor.tenants.lookup tid = none ->
    placement.running tid = []

namespace Placed

variable {placement : Placement} {tid : GoString} {t : Tenant} {services : List GoString}

theorem initial (dbconn : ManagerDb) : Placed (placements dbconn).initial where
  known := fun _ _ found => nomatch found
  unknown := fun _ _ => rfl

theorem replace (placed : Placed placement) {conductor : Conductor} (inStep : InStep t services)
    (inserted : conductor.tenants = placement.conductor.tenants.insert tid t) :
    Placed ⟨conductor, Function.update placement.running tid services⟩ := by
  constructor
  · intro sought record found
    change InStep record (Function.update placement.running tid services sought)
    rw [inserted] at found
    by_cases same : sought = tid
    · subst sought
      rw [AList.lookup_insert] at found
      cases found
      rw [Function.update_self]
      exact inStep
    · rw [AList.lookup_insert_ne same] at found
      rw [Function.update_of_ne same]
      exact placed.known sought record found
  · intro sought missing
    change Function.update placement.running tid services sought = []
    rw [inserted] at missing
    by_cases same : sought = tid
    · subst sought
      rw [AList.lookup_insert] at missing
      cases missing
    · rw [AList.lookup_insert_ne same] at missing
      rw [Function.update_of_ne same]
      exact placed.unknown sought missing

theorem same (placed : Placed placement) {conductor : Conductor}
    (kept : conductor.tenants = placement.conductor.tenants) (tid : GoString) :
    Placed ⟨conductor, Function.update placement.running tid (placement.running tid)⟩ := by
  rw [Function.update_eq_self]
  constructor
  · intro sought record found
    rw [kept] at found
    exact placed.known sought record found
  · intro sought missing
    rw [kept] at missing
    exact placed.unknown sought missing

theorem transition (placed : Placed placement) {effects : List ClusterCall}
    {outcome : Outcome GoString Unit} {conductor : Conductor}
    (made : Transition placement.conductor tid effects outcome conductor.tenants) :
    Placed ⟨conductor, Function.update placement.running tid
      (effects.foldl serviceStep (placement.running tid))⟩ := by
  generalize left : conductor.tenants = tenants at made
  cases made with
  | refused reason | unknown missing | failed found idle named => exact placed.same left tid
  | registered missing =>
    refine placed.replace ?_ left
    rw [placed.unknown tid missing]
    exact InStep.of_new tid
  | joined pid found running =>
    exact placed.replace ((placed.known tid _ found).joined running pid) left
  | started pid found idle named =>
    exact placed.replace ((placed.known tid _ found).started idle tid pid _) left
  | removed found present =>
    exact placed.replace ((placed.known tid _ found).removed present) left

theorem after (placed : Placed placement) (answered : AnsweredCall) :
    Placed (placement.after answered) :=
  placed.transition (perform_transition answered.outside placement.conductor answered.call)

theorem step (placed : Placed placement) {dbconn : ManagerDb} {answered : AnsweredCall}
    {next : Placement} (taken : (placements dbconn).step placement answered = some next) :
    Placed next := by
  change (match (answered.perform placement.conductor).outcome with
    | .ok _ => some (placement.after answered)
    | .error _ => some (placement.after answered)
    | _ => none) = some next at taken
  split at taken
  · cases taken
    exact placed.after answered
  · cases taken
    exact placed.after answered
  · cases taken

theorem length_le_one (placed : Placed placement) (tid : GoString) :
    (placement.running tid).length ≤ 1 := by
  cases found : placement.conductor.tenants.lookup tid with
  | none =>
    rw [placed.unknown tid found]
    exact Nat.zero_le 1
  | some t =>
    rw [(placed.known tid t found).services]
    split
    · exact Nat.zero_le 1
    · exact Nat.le_refl 1

theorem none_running (placed : Placed placement) {effects : List ClusterCall}
    {outcome : Outcome GoString Unit} {tenants : AList (fun _ : GoString => Tenant)}
    (made : Transition placement.conductor tid effects outcome tenants)
    {spec : ServiceSpec} {answer : Except GoString GoString}
    (created : .createService spec answer ∈ effects) :
    spec.tenantId = tid ∧ placement.running tid = [] := by
  cases made with
  | failed found idle named | started pid found idle named =>
    cases List.mem_singleton.mp created
    exact ⟨named, (placed.known tid _ found).services_of_idle idle⟩
  | removed found present =>
    split at created
    · cases List.mem_singleton.mp created
    · cases created
  | refused reason | unknown missing | registered missing => cases created
  | joined pid found running => cases created

end Placed

/-- After any run, a tenant has a started service exactly when it has products,
and then it has just the service of its record.  The next call creates a service
only for a tenant without one, and leaves the table unchanged if it returns an
error. -/
theorem services_follow_products (dbconn : ManagerDb) (calls : List AnsweredCall)
    (placement : Placement)
    (executed : (placements dbconn).run (placements dbconn).initial calls = some placement) :
    (forall tid t, placement.conductor.tenants.lookup tid = some t ->
      (t.serviceState = .started ↔ t.products.entries ≠ []) ∧
        placement.running tid = if t.serviceState = .started then [t.serviceId] else []) ∧
      (forall tid, (placement.running tid).length ≤ 1) ∧
      forall answered : AnsweredCall,
        (forall spec answer,
          .createService spec answer ∈ (answered.perform placement.conductor).effects ->
          placement.running spec.tenantId = []) ∧
        (forall reason, (answered.perform placement.conductor).outcome = .error reason ->
          (answered.perform placement.conductor).state.tenants = placement.conductor.tenants) := by
  have placed : Placed placement :=
    (Machine.reachable_of_run .initial executed).invariant (Placed.initial dbconn)
      (fun placed _ taken => placed.step taken)
  refine ⟨?_, placed.length_le_one, ?_⟩
  · intro tid t found
    have inStep := placed.known tid t found
    exact ⟨inStep.started_iff, inStep.services_eq⟩
  · intro answered
    have made := perform_transition answered.outside placement.conductor answered.call
    refine ⟨?_, ?_⟩
    · intro spec answer created
      have free := placed.none_running made created
      rw [free.1]
      exact free.2
    · intro reason failed
      change (answered.call.perform answered.outside placement.conductor).outcome = _ at failed
      rw [failed] at made
      exact made.unchanged_of_error

def answering (answer : Except GoString GoString) : Surroundings where
  network := none
  createService := fun _ _ => answer
  introspectService := fun _ => false
  database := true

def retriedProduct : List AnsweredCall :=
  [⟨answering (.error []), .createTenant [116]⟩,
    ⟨answering (.error []), .createProduct [116] [112] 1⟩,
    ⟨answering (.ok [55]), .createProduct [116] [112] 1⟩]

theorem retried_product_is_served :
    exists placement,
      (placements []).run (placements []).initial retriedProduct = some placement ∧
        (placement.running [116]).length ≤ 1 ∧ placement.running [116] = [[55]] :=
  ⟨_, rfl, (services_follow_products [] retriedProduct _ rfl).2.1 [116], rfl⟩

end IotManager
end Sentel
