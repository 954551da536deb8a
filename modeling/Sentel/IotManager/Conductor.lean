import Sentel.Kafka.Message
import Sentel.Library.GoMap
import Sentel.Library.Handler

namespace Sentel
namespace IotManager

open Library

/-!
# The conductor of the iot manager

The conductor keeps one record per tenant, with the products of the tenant and
the broker service that runs for them in a cluster.  The first product of a
tenant creates the service and the last one removes it.  The calls come from
notifications of the api server, and every call changes the table under one
mutex.  The mutex is not re-entrant.  Whether the call chain holds it is an
argument of the calls, since each of them releases it when it ends.

The table is written to a document store, whose errors are dropped.  A tenant is
stored with its table of products as an embedded document, while the later
updates treat the same field as an array.

Times of creation and the network of a tenant are never read and are left out.
-/

inductive ServiceState
  | none
  | started
  | stoped
  deriving DecidableEq

/-- `mgrdb.Tenant`.  The table of products is a set of product identifiers. -/
structure Tenant where
  tenantId : GoString
  products : AList (fun _ : GoString => Unit) := ∅
  serviceName : GoString := []
  serviceId : GoString := []
  serviceState : ServiceState := .none
  instanceReplicas : Int := 0
  deriving DecidableEq

/-- `cluster.ServiceSpec`. -/
structure ServiceSpec where
  tenantId : GoString
  serviceName : GoString := []
  image : GoString := []
  networkId : GoString
  replicas : Int
  environment : List GoString := []
  deriving DecidableEq

def brokerImage : GoString := ascii "sentel/broker"

/-! ## The document store -/

/-- The field `products` of a stored tenant. -/
inductive StoredProducts
  | document (products : AList (fun _ : GoString => Unit))
  | array (products : List GoString)
  deriving DecidableEq

/-- A tenant as a document. -/
structure StoredTenant where
  tenantId : GoString
  products : StoredProducts
  serviceName : GoString
  serviceId : GoString
  serviceState : ServiceState
  instanceReplicas : Int
  deriving DecidableEq

def Tenant.stored (tenant : Tenant) : StoredTenant where
  tenantId := tenant.tenantId
  products := .document tenant.products
  serviceName := tenant.serviceName
  serviceId := tenant.serviceId
  serviceState := tenant.serviceState
  instanceReplicas := tenant.instanceReplicas

def StoredTenant.load (document : StoredTenant) : Tenant where
  tenantId := document.tenantId
  products :=
    match document.products with
    | .document products => products
    | .array _ => ∅
  serviceName := document.serviceName
  serviceId := document.serviceId
  serviceState := document.serviceState
  instanceReplicas := document.instanceReplicas

/-- The collection of the tenants. -/
abbrev ManagerDb : Type := List StoredTenant

namespace ManagerDb

def addTenant (tenant : Tenant) (db : ManagerDb) : ManagerDb := db ++ [tenant.stored]

def removeTenant (tid : GoString) (db : ManagerDb) : ManagerDb :=
  db.eraseP (fun document => document.tenantId = tid)

def update (tid : GoString) (field : StoredProducts -> StoredProducts) : ManagerDb -> ManagerDb
  | [] => []
  | document :: rest =>
    if document.tenantId = tid then { document with products := field document.products } :: rest
    else document :: update tid field rest

def addProduct (tid pid : GoString) : ManagerDb -> ManagerDb :=
  update tid (fun field =>
    match field with
    | .document products => .document products
    | .array products => .array (products ++ [pid]))

def removeProduct (tid pid : GoString) : ManagerDb -> ManagerDb :=
  update tid (fun field =>
    match field with
    | .document products => .document products
    | .array products => .array (products.filter (fun product => product ≠ pid)))

end ManagerDb

/-! ## State, surroundings and effects -/

structure Conductor where
  tenants : AList (fun _ : GoString => Tenant)
  dbconn : ManagerDb

/-- `New`: the table is empty, whatever the store holds. -/
def Conductor.new (dbconn : ManagerDb) : Conductor where
  tenants := ∅
  dbconn := dbconn

/-- What a call meets outside: the configured network, the answers of the
cluster and whether the store accepts writes.  A recovery calls `CreateService`
several times, and the answers are numbered. -/
structure Surroundings where
  network : Option GoString
  createService : Nat -> ServiceSpec -> Except GoString GoString
  introspectService : GoString -> Bool
  database : Bool

inductive ClusterCall
  | createNetwork (name : GoString)
  | createService (spec : ServiceSpec) (answer : Except GoString GoString)
  | removeService (serviceId : GoString)

abbrev Conducting : Type -> Type := Handler Conductor ClusterCall GoString

open Handler

def persist (outside : Surroundings) (write : ManagerDb -> ManagerDb) : Conducting Unit :=
  change (fun p => if outside.database then { p with dbconn := write p.dbconn } else p)

def putTenant (tid : GoString) (tenant : Tenant) : Conducting Unit :=
  change (fun p => { p with tenants := p.tenants.insert tid tenant })

def callCreateService (outside : Surroundings) (attempt : Nat) (spec : ServiceSpec) :
    Conducting GoString := do
  emit (.createService spec (outside.createService attempt spec))
  match outside.createService attempt spec with
  | .ok serviceId => pure serviceId
  | .error reason => fail reason

/-! ## Tenants and products -/

def createTenant (held : Bool) (outside : Surroundings) (tid : GoString) : Conducting Unit :=
  locking held do
    let p <- look
    match p.tenants.lookup tid with
    | some _ => fail (ascii "tenant '" ++ tid ++ ascii "' already existed in iotmanager")
    | none =>
      putTenant tid { tenantId := tid }
      persist outside (ManagerDb.addTenant { tenantId := tid })

def isProductExist (p : Conductor) (tid pid : GoString) : Bool :=
  match p.tenants.lookup tid with
  | some t => (t.products.lookup pid).isSome
  | none => false

/-- The service that the first product of a tenant creates. -/
def productSpec (outside : Surroundings) (tid : GoString) (replicas : Int) : ServiceSpec where
  tenantId := tid
  networkId := outside.network.getD []
  replicas := replicas
  image := brokerImage

def ensureService (outside : Surroundings) (tid : GoString) (replicas : Int) (t : Tenant) :
    Conducting Tenant :=
  if t.serviceState = .none then do
    let serviceId <- callCreateService outside 0 (productSpec outside tid replicas)
    pure { t with serviceState := .started, serviceId := serviceId, serviceName := tid }
  else
    pure t

def createProduct (held : Bool) (outside : Surroundings) (tid pid : GoString) (replicas : Int) :
    Conducting GoString :=
  locking held do
    let p <- look
    failIf (isProductExist p tid pid = true)
      (ascii "product '" ++ pid ++ ascii "' of '" ++ tid ++ ascii "' already exist in iotmanager")
    match p.tenants.lookup tid with
    | none => crash .nilDereference
    | some t =>
      let t <- ensureService outside tid replicas t
      putTenant tid { t with products := t.products.insert pid () }
      persist outside (ManagerDb.addProduct tid pid)
      pure t.serviceId

def Tenant.withoutProduct (t : Tenant) (pid : GoString) : Tenant :=
  let products := t.products.erase pid
  { t with
    products := products
    serviceState := if products.entries = [] then .none else t.serviceState }

def removeProduct (held : Bool) (outside : Surroundings) (tid pid : GoString) : Conducting Unit :=
  locking held do
    let p <- look
    failIf (isProductExist p tid pid = false)
      (ascii "product '" ++ pid ++ ascii "' of '" ++ tid ++ ascii "' does not exist in iotmanager")
    match p.tenants.lookup tid with
    | none => crash .nilDereference
    | some t =>
      when ((t.products.erase pid).entries = []) (emit (.removeService t.serviceId))
      putTenant tid (t.withoutProduct pid)
      persist outside (ManagerDb.removeProduct tid pid)

def removeProducts (outside : Surroundings) (tid : GoString) : List GoString -> Conducting Unit
  | [] => pure ()
  | name :: rest => do
    ignore (removeProduct true outside tid name)
    removeProducts outside tid rest

def removeTenant (held : Bool) (outside : Surroundings) (range : MapOrder GoString)
    (tid : GoString) : Conducting Unit :=
  locking held do
    let p <- look
    match p.tenants.lookup tid with
    | none => fail (ascii "tenant '" ++ tid ++ ascii "' doesn't exist in iotmanager")
    | some t =>
      when (t.serviceState ≠ .none) (emit (.removeService t.serviceId))
      removeProducts outside tid (range.order t.products.keys)
      change (fun p => { p with tenants := p.tenants.erase tid })
      persist outside (ManagerDb.removeTenant tid)

/-! ## Notifications -/

def handleProductNotify (outside : Surroundings) (msg : Kafka.Message) : Conducting Unit :=
  match msg with
  | .product tf =>
    if tf.action = Kafka.actionCreate then do
      let _ <- createProduct false outside tf.tenantId tf.productId tf.replicas.toInt
    else if tf.action = Kafka.actionRemove then
      removeProduct false outside tf.tenantId tf.productId
    else pure ()
  | _ => fail (ascii "invalid product notification")

def handleTenantNotify (outside : Surroundings) (range : MapOrder GoString)
    (msg : Kafka.Message) : Conducting Unit :=
  match msg with
  | .tenant tf =>
    if tf.action = Kafka.actionCreate then ignore (createTenant false outside tf.tenantId)
    else if tf.action = Kafka.actionRemove then removeTenant false outside range tf.tenantId
    else pure ()
  | _ => fail (ascii "invalid product notification")

def messageHandlerFunc (outside : Surroundings) (range : MapOrder GoString)
    (msg : Kafka.Message) : Conducting Unit :=
  if msg.topic = Kafka.topicNameTenant then ignore (handleTenantNotify outside range msg)
  else if msg.topic = Kafka.topicNameProduct then ignore (handleProductNotify outside msg)
  else pure ()

/-! ## What the calls do -/

section Runs

variable (outside : Surroundings) {p : Conductor} {tid pid : GoString} {t : Tenant}

def Conductor.persisted (p : Conductor) (outside : Surroundings)
    (write : ManagerDb -> ManagerDb) : Conductor :=
  if outside.database then { p with dbconn := write p.dbconn } else p

@[simp] theorem persisted_tenants (write : ManagerDb -> ManagerDb) :
    (p.persisted outside write).tenants = p.tenants := by
  rw [Conductor.persisted]
  split <;> rfl

theorem createTenant_of_some (found : p.tenants.lookup tid = some t) :
    exists reason, createTenant false outside tid p = ⟨[], .error reason, p⟩ := by
  refine ⟨ascii "tenant '" ++ tid ++ ascii "' already existed in iotmanager", ?_⟩
  change (look >>= _) p = _
  rw [look_bind_apply, found]
  rfl

theorem createTenant_of_none (missing : p.tenants.lookup tid = none) :
    createTenant false outside tid p =
      ⟨[], .ok (), Conductor.persisted { p with tenants := p.tenants.insert tid { tenantId := tid } }
        outside (ManagerDb.addTenant { tenantId := tid })⟩ := by
  change (look >>= _) p = _
  rw [look_bind_apply, missing]
  rfl

theorem isProductExist_of_some (found : p.tenants.lookup tid = some t) :
    isProductExist p tid pid = (t.products.lookup pid).isSome := by
  rw [isProductExist, found]

theorem isProductExist_of_none (missing : p.tenants.lookup tid = none) :
    isProductExist p tid pid = false := by
  rw [isProductExist, missing]

theorem createProduct_of_unknown (replicas : Int) (missing : p.tenants.lookup tid = none) :
    createProduct false outside tid pid replicas p = ⟨[], .panic .nilDereference, p⟩ := by
  have absent : ¬ isProductExist p tid pid = true := by
    rw [isProductExist_of_none missing]
    exact Bool.false_ne_true
  change (look >>= _) p = _
  rw [look_bind_apply, failIf_neg_bind_apply absent, missing]
  rfl

theorem createProduct_of_existing (replicas : Int) (present : isProductExist p tid pid = true) :
    exists reason, createProduct false outside tid pid replicas p = ⟨[], .error reason, p⟩ := by
  refine ⟨ascii "product '" ++ pid ++ ascii "' of '" ++ tid ++
    ascii "' already exist in iotmanager", ?_⟩
  change (look >>= _) p = _
  rw [look_bind_apply, failIf_pos_bind_apply present]

def Conductor.withProduct (p : Conductor) (outside : Surroundings) (tid pid : GoString)
    (t : Tenant) : Conductor :=
  Conductor.persisted
    { p with tenants := p.tenants.insert tid { t with products := t.products.insert pid () } }
    outside (ManagerDb.addProduct tid pid)

theorem createProduct_of_new (replicas : Int) (found : p.tenants.lookup tid = some t)
    (fresh : t.products.lookup pid = none) :
    createProduct false outside tid pid replicas p =
      (ensureService outside tid replicas t >>= fun t => do
        putTenant tid { t with products := t.products.insert pid () }
        persist outside (ManagerDb.addProduct tid pid)
        pure t.serviceId) p := by
  have absent : ¬ isProductExist p tid pid = true := by
    rw [isProductExist_of_some found, fresh]
    exact Bool.false_ne_true
  change (look >>= _) p = _
  rw [look_bind_apply, failIf_neg_bind_apply absent, found]

theorem createProduct_of_running (replicas : Int) (found : p.tenants.lookup tid = some t)
    (fresh : t.products.lookup pid = none) (running : t.serviceState ≠ .none) :
    createProduct false outside tid pid replicas p =
      ⟨[], .ok t.serviceId, p.withProduct outside tid pid t⟩ := by
  rw [createProduct_of_new outside replicas found fresh, ensureService, if_neg running]
  rfl

theorem createProduct_of_started {replicas : Int} {serviceId : GoString}
    (found : p.tenants.lookup tid = some t)
    (fresh : t.products.lookup pid = none) (idle : t.serviceState = .none)
    (answer : outside.createService 0 (productSpec outside tid replicas) = .ok serviceId) :
    createProduct false outside tid pid replicas p =
      ⟨[.createService (productSpec outside tid replicas) (.ok serviceId)], .ok serviceId,
        p.withProduct outside tid pid
          { t with serviceState := .started, serviceId := serviceId, serviceName := tid }⟩ := by
  have ensured : ensureService outside tid replicas t p =
      ⟨[.createService (productSpec outside tid replicas) (.ok serviceId)],
        .ok { t with serviceState := .started, serviceId := serviceId, serviceName := tid }, p⟩ := by
    rw [ensureService, if_pos idle, callCreateService, answer]
    rfl
  rw [createProduct_of_new outside replicas found fresh, bind_of_ok ensured]
  rfl

theorem createProduct_of_failed {replicas : Int} {reason : GoString}
    (found : p.tenants.lookup tid = some t)
    (fresh : t.products.lookup pid = none) (idle : t.serviceState = .none)
    (answer : outside.createService 0 (productSpec outside tid replicas) = .error reason) :
    createProduct false outside tid pid replicas p =
      ⟨[.createService (productSpec outside tid replicas) (.error reason)], .error reason, p⟩ := by
  have failed : ensureService outside tid replicas t p =
      ⟨[.createService (productSpec outside tid replicas) (.error reason)], .error reason, p⟩ := by
    rw [ensureService, if_pos idle, callCreateService, answer]
    rfl
  have stopped : (ensureService outside tid replicas t p).outcome = .error reason := by
    rw [failed]
  rw [createProduct_of_new outside replicas found fresh, bind_of_error stopped, failed]

theorem removeProduct_of_missing (absent : isProductExist p tid pid = false) :
    exists reason, removeProduct false outside tid pid p = ⟨[], .error reason, p⟩ := by
  refine ⟨ascii "product '" ++ pid ++ ascii "' of '" ++ tid ++
    ascii "' does not exist in iotmanager", ?_⟩
  change (look >>= _) p = _
  rw [look_bind_apply, failIf_pos_bind_apply absent]

theorem removeProduct_of_present (found : p.tenants.lookup tid = some t)
    (present : (t.products.lookup pid).isSome = true) :
    removeProduct false outside tid pid p =
      ⟨if (t.products.erase pid).entries = [] then [.removeService t.serviceId] else [], .ok (),
        Conductor.persisted { p with tenants := p.tenants.insert tid (t.withoutProduct pid) }
          outside (ManagerDb.removeProduct tid pid)⟩ := by
  have exist : ¬ isProductExist p tid pid = false := by
    rw [isProductExist_of_some found, present]
    exact Bool.noConfusion
  change (look >>= _) p = _
  rw [look_bind_apply, failIf_neg_bind_apply exist, found]
  change (when _ _ >>= _) p = _
  rw [bind_of_ok (when_emit_apply _)]
  simp [precede, putTenant, persist, Conductor.persisted]

theorem removeTenant_of_none (range : MapOrder GoString) (missing : p.tenants.lookup tid = none) :
    exists reason, removeTenant false outside range tid p = ⟨[], .error reason, p⟩ := by
  refine ⟨ascii "tenant '" ++ tid ++ ascii "' doesn't exist in iotmanager", ?_⟩
  change (look >>= _) p = _
  rw [look_bind_apply, missing]
  rfl

theorem removeProducts_eq (names : List GoString) :
    removeProducts outside tid names p = ⟨[], if names = [] then .ok () else .diverges, p⟩ := by
  cases names with
  | nil | cons name rest => rfl

theorem removeTenant_of_empty (range : MapOrder GoString) (found : p.tenants.lookup tid = some t)
    (empty : t.products.entries = []) :
    removeTenant false outside range tid p =
      ⟨if t.serviceState ≠ .none then [.removeService t.serviceId] else [], .ok (),
        Conductor.persisted { p with tenants := p.tenants.erase tid } outside
          (ManagerDb.removeTenant tid)⟩ := by
  have noKeys : range.order t.products.keys = [] := by
    have keys : t.products.keys = [] := by
      rw [AList.keys, empty]
      rfl
    rw [keys]
    exact (range.perm []).eq_nil
  change (look >>= _) p = _
  rw [look_bind_apply, found]
  change (when _ _ >>= _) p = _
  rw [bind_of_ok (when_emit_apply _), noKeys]
  simp [precede, removeProducts, persist, Conductor.persisted]

theorem removeTenant_of_products (range : MapOrder GoString)
    (found : p.tenants.lookup tid = some t) (products : t.products.entries ≠ []) :
    (removeTenant false outside range tid p).outcome = .diverges := by
  have keys : range.order t.products.keys ≠ [] := by
    intro none
    have perm := range.perm t.products.keys
    rw [none] at perm
    exact products (List.map_eq_nil_iff.mp perm.symm.eq_nil)
  have stuck : removeProducts outside tid (range.order t.products.keys) p = ⟨[], .diverges, p⟩ := by
    rw [removeProducts_eq, if_neg keys]
  change ((look >>= _) p).outcome = _
  rw [look_bind_apply, found]
  change ((when _ _ >>= _) p).outcome = _
  rw [bind_of_ok (when_emit_apply _), precede_outcome]
  change (andThen _ _ p).outcome = _
  rw [andThen, stuck]

end Runs

/-! ## The transitions of one tenant -/

inductive TenantCall
  | createTenant (tid : GoString)
  | createProduct (tid pid : GoString) (replicas : Int)
  | removeProduct (tid pid : GoString)
  deriving DecidableEq

namespace TenantCall

def tenant : TenantCall -> GoString
  | createTenant tid => tid
  | createProduct tid _ _ => tid
  | removeProduct tid _ => tid

def perform (outside : Surroundings) : TenantCall -> Conducting Unit
  | createTenant tid => IotManager.createTenant false outside tid
  | createProduct tid pid replicas => do
    let _ <- IotManager.createProduct false outside tid pid replicas
  | removeProduct tid pid => IotManager.removeProduct false outside tid pid

end TenantCall

inductive Transition (p : Conductor) (tid : GoString) :
    List ClusterCall -> Outcome GoString Unit -> AList (fun _ : GoString => Tenant) -> Prop
  | refused (reason : GoString) : Transition p tid [] (.error reason) p.tenants
  | unknown : p.tenants.lookup tid = none ->
      Transition p tid [] (.panic .nilDereference) p.tenants
  | failed {t : Tenant} {spec : ServiceSpec} {reason : GoString} :
      p.tenants.lookup tid = some t -> t.serviceState = .none -> spec.tenantId = tid ->
      Transition p tid [.createService spec (.error reason)] (.error reason) p.tenants
  | registered : p.tenants.lookup tid = none ->
      Transition p tid [] (.ok ()) (p.tenants.insert tid { tenantId := tid })
  | joined {t : Tenant} (pid : GoString) :
      p.tenants.lookup tid = some t -> t.serviceState ≠ .none ->
      Transition p tid [] (.ok ())
        (p.tenants.insert tid { t with products := t.products.insert pid () })
  | started {t : Tenant} {spec : ServiceSpec} {serviceId : GoString} (pid : GoString) :
      p.tenants.lookup tid = some t -> t.serviceState = .none -> spec.tenantId = tid ->
      Transition p tid [.createService spec (.ok serviceId)] (.ok ())
        (p.tenants.insert tid { t with
          serviceState := .started, serviceId := serviceId, serviceName := tid,
          products := t.products.insert pid () })
  | removed {t : Tenant} {pid : GoString} :
      p.tenants.lookup tid = some t -> (t.products.lookup pid).isSome = true ->
      Transition p tid
        (if (t.products.erase pid).entries = [] then [.removeService t.serviceId] else []) (.ok ())
        (p.tenants.insert tid (t.withoutProduct pid))

section Transitions

variable (outside : Surroundings) (p : Conductor)

theorem createTenant_transition (tid : GoString) :
    Transition p tid (createTenant false outside tid p).effects
      (createTenant false outside tid p).outcome
      (createTenant false outside tid p).state.tenants := by
  cases found : p.tenants.lookup tid with
  | none =>
    rw [createTenant_of_none outside found, persisted_tenants]
    exact .registered found
  | some t =>
    rcases createTenant_of_some outside found with ⟨reason, run⟩
    rw [run]
    exact .refused reason

theorem createProduct_transition (tid pid : GoString) (replicas : Int) :
    let run := (TenantCall.createProduct tid pid replicas).perform outside p
    Transition p tid run.effects run.outcome run.state.tenants := by
  change let run := (createProduct false outside tid pid replicas >>= fun _ => pure ()) p
    Transition p tid run.effects run.outcome run.state.tenants
  cases found : p.tenants.lookup tid with
  | none =>
    change let run := andThen (createProduct false outside tid pid replicas) (fun _ => pure ()) p
      Transition p tid run.effects run.outcome run.state.tenants
    rw [andThen, createProduct_of_unknown outside replicas found]
    exact .unknown found
  | some t =>
    cases stored : t.products.lookup pid with
    | some _ =>
      have exist : isProductExist p tid pid = true := by
        rw [isProductExist_of_some found, stored]
        rfl
      rcases createProduct_of_existing outside replicas exist with ⟨reason, run⟩
      rw [bind_of_error (by rw [run]), run]
      exact .refused reason
    | none =>
      by_cases idle : t.serviceState = .none
      · cases answer : outside.createService 0 (productSpec outside tid replicas) with
        | ok serviceId =>
          rw [bind_of_ok (createProduct_of_started outside found stored idle answer)]
          change Transition p tid _ _ (Conductor.withProduct _ _ _ _ _).tenants
          rw [Conductor.withProduct, persisted_tenants]
          exact Transition.started (t := t) pid found idle rfl
        | error reason =>
          have run := createProduct_of_failed outside found stored idle answer
          rw [bind_of_error (by rw [run]), run]
          exact .failed found idle rfl
      · rw [bind_of_ok (createProduct_of_running outside replicas found stored idle)]
        change Transition p tid _ _ (Conductor.withProduct _ _ _ _ _).tenants
        rw [Conductor.withProduct, persisted_tenants]
        exact .joined pid found idle

theorem removeProduct_transition (tid pid : GoString) :
    Transition p tid (removeProduct false outside tid pid p).effects
      (removeProduct false outside tid pid p).outcome
      (removeProduct false outside tid pid p).state.tenants := by
  cases exist : isProductExist p tid pid with
  | false =>
    rcases removeProduct_of_missing outside exist with ⟨reason, run⟩
    rw [run]
    exact .refused reason
  | true =>
    cases found : p.tenants.lookup tid with
    | none =>
      rw [isProductExist_of_none found] at exist
      cases exist
    | some t =>
      rw [isProductExist_of_some found] at exist
      rw [removeProduct_of_present outside found exist, persisted_tenants]
      exact .removed found exist

theorem perform_transition (call : TenantCall) :
    Transition p call.tenant (call.perform outside p).effects (call.perform outside p).outcome
      (call.perform outside p).state.tenants := by
  cases call with
  | createTenant tid => exact createTenant_transition outside p tid
  | createProduct tid pid replicas => exact createProduct_transition outside p tid pid replicas
  | removeProduct tid pid => exact removeProduct_transition outside p tid pid

variable {p} {tid : GoString} {effects : List ClusterCall} {outcome : Outcome GoString Unit}
  {tenants : AList (fun _ : GoString => Tenant)}

theorem Transition.ends (transition : Transition p tid effects outcome tenants)
    (known : p.tenants.lookup tid ≠ none) : outcome.Ends := by
  cases transition with
  | unknown missing => exact absurd missing known
  | refused reason | failed found idle named | registered missing => exact True.intro
  | joined pid found running | started pid found idle named => exact True.intro
  | removed found present => exact True.intro

theorem Transition.unchanged_of_error {reason : GoString}
    (transition : Transition p tid effects (.error reason) tenants) : tenants = p.tenants := by
  cases transition with
  | refused | failed found idle named => rfl

end Transitions

end IotManager
end Sentel
