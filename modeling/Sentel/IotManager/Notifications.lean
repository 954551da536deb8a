import Sentel.ApiServer.Console
import Sentel.IotManager.Conductor
import Sentel.Library.Machine

namespace Sentel
namespace IotManager

open Library Handler

/-!
# Runs of notifications

Notifications come in any order and name any tenant.  A conductor settles a
notification if its handler returns and, for the removal of a tenant, if the
tenant is gone afterwards and its service has been removed.  Two kinds of
notification are not settled.  A product that is created for a tenant that is
not in the table reads a record that is not there.  A tenant that is removed
while it has products makes the handler wait for the mutex that it holds.
Every other notification is settled, in whatever state it arrives.
-/

/-- A notification with everything that its handler meets. -/
structure Notice where
  outside : Surroundings
  range : MapOrder GoString
  message : Kafka.Message

namespace Notice

def handle (notice : Notice) : Conducting Unit :=
  messageHandlerFunc notice.outside notice.range notice.message

end Notice

/-- A conductor that handles notifications.  One whose handler does not return
is the last. -/
def notifications (dbconn : ManagerDb) : Machine Conductor Notice where
  initial := Conductor.new dbconn
  step := fun p notice =>
    match (notice.handle p).outcome with
    | .ok _ => some (notice.handle p).state
    | _ => none

/-- The handler returns, and a removed tenant is gone together with its
service. -/
structure Settles (p : Conductor) (notice : Notice) : Prop where
  returns : (notice.handle p).outcome = .ok ()
  gone : forall record, notice.message = .tenant record -> record.action = Kafka.actionRemove ->
    (notice.handle p).state.tenants.lookup record.tenantId = none
  stopped : forall record t, notice.message = .tenant record -> record.action = Kafka.actionRemove ->
    p.tenants.lookup record.tenantId = some t -> t.serviceState ≠ .none ->
    .removeService t.serviceId ∈ (notice.handle p).effects

def Harmless (p : Conductor) (notice : Notice) : Prop :=
  match notice.message with
  | .product record =>
    record.action = Kafka.actionCreate -> exists t, p.tenants.lookup record.tenantId = some t
  | .tenant record =>
    record.action = Kafka.actionRemove ->
      forall t, p.tenants.lookup record.tenantId = some t -> t.products.entries = []
  | _ => True

/-! ## Which calls end -/

section Calls

variable (outside : Surroundings) (range : MapOrder GoString) (p : Conductor) (tid pid : GoString)

theorem createTenant_ends : (createTenant false outside tid p).outcome.Ends := by
  cases found : p.tenants.lookup tid with
  | none =>
    rw [createTenant_of_none outside found]
    exact True.intro
  | some t =>
    apply (createTenant_transition outside p tid).ends
    rw [found]
    exact Option.some_ne_none t

theorem removeProduct_ends : (removeProduct false outside tid pid p).outcome.Ends := by
  cases found : p.tenants.lookup tid with
  | none =>
    have absent := @isProductExist_of_none p tid pid found
    rcases removeProduct_of_missing outside absent with ⟨reason, run⟩
    rw [run]
    exact True.intro
  | some t =>
    apply (removeProduct_transition outside p tid pid).ends
    rw [found]
    exact Option.some_ne_none t

theorem createProduct_ends_iff (replicas : Int) :
    ((TenantCall.createProduct tid pid replicas).perform outside p).outcome.Ends ↔
      exists t, p.tenants.lookup tid = some t := by
  cases found : p.tenants.lookup tid with
  | none =>
    refine iff_of_false ?_ (fun known => nomatch known)
    intro ends
    have ended := (ends_bind_pure ()).mp ends
    rw [createProduct_of_unknown outside replicas found] at ended
    exact ended
  | some t =>
    refine iff_of_true ?_ ⟨t, rfl⟩
    apply (createProduct_transition outside p tid pid replicas).ends
    rw [found]
    exact Option.some_ne_none t

theorem removeTenant_ends_iff :
    (removeTenant false outside range tid p).outcome.Ends ↔
      forall t, p.tenants.lookup tid = some t -> t.products.entries = [] := by
  cases found : p.tenants.lookup tid with
  | none =>
    rcases removeTenant_of_none outside range found with ⟨reason, run⟩
    rw [run]
    exact iff_of_true True.intro (fun t known => nomatch known)
  | some t =>
    by_cases empty : t.products.entries = []
    · rw [removeTenant_of_empty outside range found empty]
      refine iff_of_true True.intro (fun other known => ?_)
      rw [← Option.some.inj known]
      exact empty
    · rw [removeTenant_of_products outside range found empty]
      exact iff_of_false (fun ends => ends) (fun all => empty (all t rfl))

end Calls

/-! ## Which notifications are settled -/

section Notices

variable {p : Conductor} {outside : Surroundings} {range : MapOrder GoString}

theorem handle_product (record : Kafka.Product) :
    Notice.handle ⟨outside, range, .product record⟩ p =
      ignore (handleProductNotify outside (.product record)) p := by
  have other : ¬ Kafka.topicNameProduct = Kafka.topicNameTenant := by decide
  have topic : (Kafka.Message.product record).topic = Kafka.topicNameProduct := rfl
  rw [Notice.handle, messageHandlerFunc, topic, if_neg other, if_pos rfl]

theorem settles_iff_returns {notice : Notice}
    (keeps : forall record, notice.message = .tenant record ->
      record.action ≠ Kafka.actionRemove) :
    Settles p notice ↔ (notice.handle p).outcome = .ok () := by
  refine ⟨fun settled => settled.returns, fun returns => ⟨returns, ?_, ?_⟩⟩
  · intro record same removes
    exact absurd removes (keeps record same)
  · intro record t same removes
    exact absurd removes (keeps record same)

theorem returns_iff_ends {call : Conducting Unit} :
    (ignore call p).outcome = .ok () ↔ (call p).outcome.Ends := by
  refine ⟨ends_of_ignore, fun ends => ?_⟩
  rw [ignore_of_ends ends]

theorem settles_product_iff (record : Kafka.Product) :
    Settles p ⟨outside, range, .product record⟩ ↔ Harmless p ⟨outside, range, .product record⟩ := by
  rw [settles_iff_returns (fun _ same => by cases same), handle_product, returns_iff_ends,
    handleProductNotify]
  change _ ↔ (record.action = Kafka.actionCreate ->
    exists t, p.tenants.lookup record.tenantId = some t)
  by_cases creates : record.action = Kafka.actionCreate
  · rw [if_pos creates]
    have known := createProduct_ends_iff outside p record.tenantId record.productId record.replicas.toInt
    exact known.trans ⟨fun found _ => found, fun found => found creates⟩
  · rw [if_neg creates]
    refine iff_of_true ?_ (fun same => absurd same creates)
    by_cases removes : record.action = Kafka.actionRemove
    · rw [if_pos removes]
      exact removeProduct_ends outside p _ _
    · rw [if_neg removes]
      exact True.intro

theorem settles_removal {record : Kafka.Tenant} (removes : record.action = Kafka.actionRemove)
    (empty : forall t, p.tenants.lookup record.tenantId = some t -> t.products.entries = []) :
    Settles p ⟨outside, range, .tenant record⟩ := by
  have other : ¬ Kafka.actionRemove = Kafka.actionCreate := by decide
  have handler : handleTenantNotify outside range (.tenant record) =
      removeTenant false outside range record.tenantId := by
    rw [handleTenantNotify, removes, if_neg other, if_pos rfl]
  have run : Notice.handle ⟨outside, range, .tenant record⟩ p =
      ignore (removeTenant false outside range record.tenantId) p := by
    rw [← handler]
    rfl
  rw [ignore_of_ends ((removeTenant_ends_iff outside range p _).mpr empty)] at run
  constructor
  · rw [run]
  · intro named same _
    cases same
    rw [run]
    cases found : p.tenants.lookup record.tenantId with
    | none =>
      rcases removeTenant_of_none outside range found with ⟨reason, failed⟩
      rw [failed]
      exact found
    | some t =>
      rw [removeTenant_of_empty outside range found (empty t found), persisted_tenants]
      exact AList.lookup_erase record.tenantId p.tenants
  · intro named t same _ found running
    cases same
    rw [run, removeTenant_of_empty outside range found (empty t found), if_pos running]
    exact List.mem_singleton.mpr rfl

theorem settles_tenant_iff (record : Kafka.Tenant) :
    Settles p ⟨outside, range, .tenant record⟩ ↔ Harmless p ⟨outside, range, .tenant record⟩ := by
  by_cases removes : record.action = Kafka.actionRemove
  · refine ⟨fun settled _ => ?_, fun harmless => settles_removal removes (harmless removes)⟩
    have other : ¬ Kafka.actionRemove = Kafka.actionCreate := by decide
    have ends := ends_of_ignore settled.returns
    rw [handleTenantNotify, removes, if_neg other, if_pos rfl] at ends
    exact (removeTenant_ends_iff outside range p _).mp ends
  · have keeps : forall named, Kafka.Message.tenant record = .tenant named ->
        named.action ≠ Kafka.actionRemove := by
      intro named same
      cases same
      exact removes
    rw [settles_iff_returns keeps]
    refine iff_of_true ?_ (fun same => absurd same removes)
    apply returns_iff_ends.mpr
    rw [handleTenantNotify]
    by_cases creates : record.action = Kafka.actionCreate
    · rw [if_pos creates, ignore_of_ends (createTenant_ends outside p _)]
      exact True.intro
    · rw [if_neg creates, if_neg removes]
      exact True.intro

theorem settles_broker (record : Kafka.Broker (List UInt8)) :
    Settles p ⟨outside, range, .broker record⟩ := by
  rw [settles_iff_returns (fun _ same => by cases same), Notice.handle, messageHandlerFunc]
  split
  · rfl
  · split <;> rfl

theorem settles_iff_harmless (notice : Notice) : Settles p notice ↔ Harmless p notice := by
  rcases notice with ⟨outside, range, message⟩
  cases message with
  | tenant record => exact settles_tenant_iff record
  | product record => exact settles_product_iff record
  | broker record => exact iff_of_true (settles_broker record) True.intro
  | rule record =>
    refine iff_of_true ?_ True.intro
    rw [settles_iff_returns (fun _ same => by cases same)]
    rfl

end Notices

/-- All notifications of a run are settled exactly when each of them is
harmless in the state it arrives in. -/
theorem settles_throughout_iff (dbconn : ManagerDb) (notices : List Notice) :
    (notifications dbconn).Allowed Settles (Conductor.new dbconn) notices ↔
      (notifications dbconn).Allowed Harmless (Conductor.new dbconn) notices :=
  Machine.allowed_congr (fun _ _ _ => True.intro) (fun _ => settles_iff_harmless _) True.intro
    notices

def willing : Surroundings where
  network := none
  createService := fun _ _ => .ok (ascii "1")
  introspectService := fun _ => true
  database := true

def willingNotice (message : Kafka.Message) : Notice := ⟨willing, .listed, message⟩

/-- The api server names no tenant when it announces a product, so that the
first product of a registered tenant makes the handler panic.  A tenant whose
product has been created cannot be removed: the handler never returns. -/
theorem first_product_panics_and_removal_hangs :
    ((willingNotice (ApiServer.productNotice (ascii "p") Kafka.actionCreate)).handle
        ((willingNotice (ApiServer.tenantNotice (ascii "t") Kafka.actionCreate)).handle
          (Conductor.new [])).state).outcome = .panic .nilDereference ∧
      ¬ (notifications []).Allowed Settles (Conductor.new [])
        [willingNotice (ApiServer.tenantNotice (ascii "t") Kafka.actionCreate),
          willingNotice (ApiServer.productNotice (ascii "p") Kafka.actionCreate)] ∧
      ¬ (notifications []).Allowed Settles (Conductor.new [])
        [willingNotice (ApiServer.tenantNotice (ascii "t") Kafka.actionCreate),
          willingNotice (.product { productId := ascii "p", action := Kafka.actionCreate, tenantId := ascii "t" }),
          willingNotice (ApiServer.tenantNotice (ascii "t") Kafka.actionRemove)] := by
  refine ⟨by decide +kernel, ?_, ?_⟩
  · rintro ⟨_, settled, _⟩
    have returned := settled.returns
    revert returned
    decide +kernel
  · rintro ⟨_, _, settled, _⟩
    have returned := settled.returns
    revert returned
    decide +kernel

end IotManager
end Sentel
