import Sentel.IotManager.Notifications

namespace Sentel
namespace IotManager

open Library Handler

/-!
# Restarting the conductor

A conductor that starts with stored tenants fills its table from the store and
asks the loop of `Start` to recover the services.  The request is a send on an
unbuffered channel, and the service manager initializes all services before it
starts any of them, so that nobody receives it.  Whether the loop already
receives is an argument here.  The recovery is thereby described for the order
in which the services are started and for the order that would be needed.

Two more facts decide what is recovered.  The loop over the stored tenants
stores the address of its variable, so that every identifier leads to the
record read last.  And a tenant is stored once, when it is registered: its
products and the state of its service never reach the store.
-/

def loadTenants (documents : ManagerDb) : AList (fun _ : GoString => Tenant) :=
  match documents.getLast? with
  | none => ∅
  | some last =>
    documents.foldl (fun table document => table.insert document.tenantId last.load) ∅

def recoverySpec (outside : Surroundings) (tid : GoString) (t : Tenant) : ServiceSpec where
  tenantId := tid
  networkId := outside.network.getD []
  replicas := t.instanceReplicas
  environment := [ascii "KAFKA_HOST=kafka:9092", ascii "MONGO_HOST=mongo:27017",
    ascii "BROKER_TENANT=" ++ tid]
  image := brokerImage
  serviceName := ascii "tenant_" ++ tid

def retrySpec (outside : Surroundings) (t : Tenant) : ServiceSpec where
  tenantId := t.tenantId
  networkId := outside.network.getD []
  replicas := t.instanceReplicas

def recoverTenant (outside : Surroundings) (tid : GoString) (t : Tenant) :
    Conducting (List Tenant) :=
  if t.serviceState ≠ .none ∧ outside.introspectService tid = false then do
    let answer <- attempt (callCreateService outside 0 (recoverySpec outside tid t))
    match answer with
    | .ok _ => pure []
    | .error _ => pure [t]
  else
    pure []

def recoverTenants (outside : Surroundings) :
    List (Sigma fun _ : GoString => Tenant) -> Conducting (List Tenant)
  | [] => pure []
  | entry :: rest => do
    let failed <- recoverTenant outside entry.1 entry.2
    let retries <- recoverTenants outside rest
    pure (failed ++ retries)

def retryTenants (outside : Surroundings) : Nat -> List Tenant -> Conducting Unit
  | _, [] => pure ()
  | number, t :: rest => do
    ignore (callCreateService outside number (retrySpec outside t))
    retryTenants outside (number + 1) rest

def recoverStartup (held : Bool) (outside : Surroundings)
    (range : MapOrder (Sigma fun _ : GoString => Tenant)) : Conducting Unit :=
  locking held do
    when (outside.network.getD [] ≠ []) (emit (.createNetwork (outside.network.getD [])))
    let p <- look
    let retries <- recoverTenants outside (range.order p.tenants.entries)
    retryTenants outside 1 retries

/-- `Initialize`.  The send at its end is received by the loop of `Start`, which
then recovers, or by nobody. -/
def initializeConductor (listening : Bool) (outside : Surroundings)
    (range : MapOrder (Sigma fun _ : GoString => Tenant)) : Conducting Unit := do
  let p <- look
  when (p.dbconn ≠ []) do
    change (fun p => { p with tenants := loadTenants p.dbconn })
    if listening then recoverStartup false outside range else spin

/-- Handle notifications until one of them does not return. -/
def conduct : List Notice -> Conducting Unit
  | [] => pure ()
  | notice :: rest => do
    notice.handle
    conduct rest

/-! ## What the store holds -/

def AsRegistered (db : ManagerDb) : Prop :=
  forall document, document ∈ db -> document = Tenant.stored { tenantId := document.tenantId }

namespace AsRegistered

variable {db : ManagerDb}

theorem addTenant (registered : AsRegistered db) (tid : GoString) :
    AsRegistered (db.addTenant { tenantId := tid }) := by
  intro document member
  rcases List.mem_append.mp member with stored | added
  · exact registered document stored
  · rw [List.mem_singleton.mp added]
    rfl

theorem removeTenant (registered : AsRegistered db) (tid : GoString) :
    AsRegistered (db.removeTenant tid) :=
  fun document member => registered document (List.mem_of_mem_eraseP member)

theorem update_eq (registered : AsRegistered db) (tid : GoString)
    {field : StoredProducts -> StoredProducts}
    (refused : forall products, field (.document products) = .document products) :
    ManagerDb.update tid field db = db := by
  induction db with
  | nil => rfl
  | cons document rest ih =>
    have later : AsRegistered rest :=
      fun other member => registered other (List.mem_cons_of_mem document member)
    rw [ManagerDb.update, ih later]
    have written := registered document List.mem_cons_self
    split
    · rw [written]
      change StoredTenant.mk _ (field (.document ∅)) _ _ _ _ :: rest = _
      rw [refused]
      rfl
    · rfl

theorem addProduct (registered : AsRegistered db) (tid pid : GoString) :
    db.addProduct tid pid = db :=
  registered.update_eq tid (fun _ => rfl)

theorem removeProduct (registered : AsRegistered db) (tid pid : GoString) :
    db.removeProduct tid pid = db :=
  registered.update_eq tid (fun _ => rfl)

end AsRegistered

def Conductor.Stored (p : Conductor) : Prop := AsRegistered p.dbconn

section Keeping

variable (outside : Surroundings) (tid pid : GoString)

abbrev KeepsStored {Value : Type} (call : Conducting Value) : Prop :=
  Keeps Conductor.Stored (fun _ => True) call

theorem persist_keeps {write : ManagerDb -> ManagerDb}
    (kept : forall db, AsRegistered db -> AsRegistered (write db)) :
    KeepsStored (persist outside write) := by
  refine Keeps.change (fun p stored => ?_)
  split
  · exact kept p.dbconn stored
  · exact stored

theorem putTenant_keeps (t : Tenant) : KeepsStored (putTenant tid t) :=
  Keeps.change (fun _ stored => stored)

theorem createTenant_keeps (held : Bool) : KeepsStored (createTenant held outside tid) := by
  refine Keeps.locking (Keeps.look_bind (fun p _ => ?_))
  split
  · exact Keeps.fail _
  · exact Keeps.bind (putTenant_keeps tid _)
      (fun _ => persist_keeps outside (fun db registered => registered.addTenant tid))

theorem callCreateService_keeps (number : Nat) (spec : ServiceSpec) :
    KeepsStored (callCreateService outside number spec) := by
  refine Keeps.bind (Keeps.emit True.intro) (fun _ => ?_)
  split
  · exact Keeps.pure _
  · exact Keeps.fail _

theorem ensureService_keeps (replicas : Int) (t : Tenant) :
    KeepsStored (ensureService outside tid replicas t) :=
  Keeps.ite (fun _ => Keeps.bind (callCreateService_keeps outside 0 _) (fun _ => Keeps.pure _))
    (fun _ => Keeps.pure _)

theorem createProduct_keeps (held : Bool) (replicas : Int) :
    KeepsStored (createProduct held outside tid pid replicas) := by
  refine Keeps.locking (Keeps.look_bind (fun p _ => Keeps.bind (Keeps.failIf _ _) (fun _ => ?_)))
  split
  · exact Keeps.crash _
  · refine Keeps.bind (ensureService_keeps outside tid replicas _) (fun t => ?_)
    refine Keeps.bind (putTenant_keeps tid _) (fun _ => ?_)
    refine Keeps.bind (persist_keeps outside (fun db registered => ?_)) (fun _ => Keeps.pure _)
    rw [registered.addProduct]
    exact registered

theorem removeProduct_keeps (held : Bool) : KeepsStored (removeProduct held outside tid pid) := by
  refine Keeps.locking (Keeps.look_bind (fun p _ => Keeps.bind (Keeps.failIf _ _) (fun _ => ?_)))
  split
  · exact Keeps.crash _
  · refine Keeps.bind (Keeps.when (fun _ => Keeps.emit True.intro)) (fun _ => ?_)
    refine Keeps.bind (putTenant_keeps tid _) (fun _ => ?_)
    refine persist_keeps outside (fun db registered => ?_)
    rw [registered.removeProduct]
    exact registered

theorem removeProducts_keeps (names : List GoString) :
    KeepsStored (removeProducts outside tid names) := by
  induction names with
  | nil => exact Keeps.pure ()
  | cons name rest ih =>
    exact Keeps.bind (Keeps.ignore (removeProduct_keeps outside tid name true)) (fun _ => ih)

theorem removeTenant_keeps (held : Bool) (range : MapOrder GoString) :
    KeepsStored (removeTenant held outside range tid) := by
  refine Keeps.locking (Keeps.look_bind (fun p _ => ?_))
  split
  · exact Keeps.fail _
  · refine Keeps.bind (Keeps.when (fun _ => Keeps.emit True.intro)) (fun _ => ?_)
    refine Keeps.bind (removeProducts_keeps outside tid _) (fun _ => ?_)
    refine Keeps.bind (Keeps.change (fun _ stored => stored)) (fun _ => ?_)
    exact persist_keeps outside (fun db registered => registered.removeTenant tid)

theorem handle_keeps (notice : Notice) : KeepsStored notice.handle := by
  refine Keeps.ite (fun _ => Keeps.ignore ?_) (fun _ => Keeps.ite (fun _ => Keeps.ignore ?_)
    (fun _ => Keeps.pure ()))
  · unfold handleTenantNotify
    split
    · refine Keeps.ite (fun _ => ?_) (fun _ => Keeps.ite (fun _ => ?_) (fun _ => Keeps.pure ()))
      · exact Keeps.ignore (createTenant_keeps notice.outside _ false)
      · exact removeTenant_keeps notice.outside _ false notice.range
    · exact Keeps.fail _
  · unfold handleProductNotify
    split
    · refine Keeps.ite (fun _ => ?_) (fun _ => Keeps.ite (fun _ => ?_) (fun _ => Keeps.pure ()))
      · exact Keeps.bind (createProduct_keeps notice.outside _ _ false _) (fun _ => Keeps.pure ())
      · exact removeProduct_keeps notice.outside _ _ false
    · exact Keeps.fail _

theorem conduct_keeps (notices : List Notice) : KeepsStored (conduct notices) := by
  induction notices with
  | nil => exact Keeps.pure ()
  | cons notice rest ih => exact Keeps.bind (handle_keeps notice) (fun _ => ih)

theorem conduct_stored (notices : List Notice) :
    AsRegistered (conduct notices (Conductor.new [])).state.dbconn :=
  (conduct_keeps notices (Conductor.new []) (fun _ member => nomatch member)).2

end Keeping

/-! ## What a restart leads to -/

theorem lookup_fill (record : Tenant) (tid : GoString) (documents : ManagerDb)
    (table : AList (fun _ : GoString => Tenant)) :
    (documents.foldl (fun table document => table.insert document.tenantId record) table).lookup
        tid =
      if exists document, document ∈ documents ∧ document.tenantId = tid then some record
      else table.lookup tid := by
  induction documents generalizing table with
  | nil =>
    rw [if_neg]
    · rfl
    · rintro ⟨document, member, _⟩
      cases member
  | cons document rest ih =>
    rw [List.foldl_cons, ih]
    by_cases later : exists other, other ∈ rest ∧ other.tenantId = tid
    · rw [if_pos later, if_pos]
      rcases later with ⟨other, member, named⟩
      exact ⟨other, List.mem_cons_of_mem document member, named⟩
    · rw [if_neg later]
      by_cases named : document.tenantId = tid
      · rw [if_pos ⟨document, List.mem_cons_self, named⟩, ← named, AList.lookup_insert]
      · rw [AList.lookup_insert_ne (fun same => named same.symm), if_neg]
        rintro ⟨other, member, same⟩
        rcases List.mem_cons.mp member with first | member
        · exact named (first ▸ same)
        · exact later ⟨other, member, same⟩

theorem lookup_loadTenants {documents : ManagerDb} {last : StoredTenant}
    (ends : documents.getLast? = some last) {document : StoredTenant}
    (member : document ∈ documents) :
    (loadTenants documents).lookup document.tenantId = some last.load := by
  rw [loadTenants, ends]
  exact (lookup_fill _ _ _ _).trans (if_pos ⟨document, member, rfl⟩)

theorem AsRegistered.load {db : ManagerDb} (registered : AsRegistered db)
    {document : StoredTenant} (member : document ∈ db) :
    document.load = { tenantId := document.tenantId } := by
  rw [registered document member]
  rfl

theorem loadTenants_idle {db : ManagerDb} (registered : AsRegistered db)
    {entry : Sigma fun _ : GoString => Tenant} (listed : entry ∈ (loadTenants db).entries) :
    entry.2.serviceState = .none := by
  cases ends : db.getLast? with
  | none =>
    rw [loadTenants, ends] at listed
    cases listed
  | some last =>
    have found : (loadTenants db).lookup entry.1 = some entry.2 := AList.mem_lookup_iff.mpr listed
    rw [loadTenants, ends] at found
    have filled := (lookup_fill last.load entry.1 db ∅).symm.trans found
    split at filled
    · rw [← Option.some.inj filled, registered.load (List.mem_of_getLast? ends)]
    · cases filled

theorem recoverTenants_idle (outside : Surroundings) (p : Conductor)
    {entries : List (Sigma fun _ : GoString => Tenant)}
    (idle : forall entry, entry ∈ entries -> entry.2.serviceState = .none) :
    recoverTenants outside entries p = ⟨[], .ok [], p⟩ := by
  induction entries with
  | nil => rfl
  | cons entry rest ih =>
    have skipped : recoverTenant outside entry.1 entry.2 p = ⟨[], .ok [], p⟩ := by
      rw [recoverTenant, if_neg (fun both => both.1 (idle entry List.mem_cons_self))]
      rfl
    have later := ih (fun other member => idle other (List.mem_cons_of_mem entry member))
    rw [recoverTenants, bind_of_ok skipped, bind_of_ok later]
    rfl

section Restarts

variable (outside : Surroundings) (range : MapOrder (Sigma fun _ : GoString => Tenant))
  {db : ManagerDb}

theorem initializeConductor_empty (listening : Bool) :
    initializeConductor listening outside range (Conductor.new []) =
      ⟨[], .ok (), Conductor.new []⟩ := rfl

theorem initializeConductor_stored (listening : Bool) (stored : db ≠ []) :
    initializeConductor listening outside range (Conductor.new db) =
      (if listening then recoverStartup false outside range else spin) ⟨loadTenants db, db⟩ := by
  change when (db ≠ []) _ (Conductor.new db) = _
  rw [when_pos stored]
  rfl

theorem recoverStartup_stored (registered : AsRegistered db) :
    recoverStartup false outside range ⟨loadTenants db, db⟩ =
      ⟨if outside.network.getD [] ≠ [] then [.createNetwork (outside.network.getD [])] else [],
        .ok (), ⟨loadTenants db, db⟩⟩ := by
  have idle := recoverTenants_idle outside ⟨loadTenants db, db⟩
    (fun entry member => loadTenants_idle registered (range.mem_order.mp member))
  change (when _ _ >>= _) _ = _
  rw [bind_of_ok (when_emit_apply _), look_bind_apply, bind_of_ok idle]
  simp [precede, retryTenants]

end Restarts

/-- The process starts again on what the store holds. -/
def restart (listening : Bool) (outside : Surroundings)
    (range : MapOrder (Sigma fun _ : GoString => Tenant)) (before : Conductor) :
    Run Conductor ClusterCall GoString Unit :=
  initializeConductor listening outside range (Conductor.new before.dbconn)

/-- A restart brings back what was there.  `Initialize` returns.  Every stored
tenant has its own record, with the products and the state that it had.  Every
started service that the cluster has lost is created again, with its image and
its name. -/
structure Recovers (listening : Bool) (outside : Surroundings)
    (range : MapOrder (Sigma fun _ : GoString => Tenant)) (before : Conductor) : Prop where
  returns : (restart listening outside range before).outcome = .ok ()
  records : forall document, document ∈ before.dbconn ->
    exists record,
      (restart listening outside range before).state.tenants.lookup document.tenantId =
          some record ∧
        record.tenantId = document.tenantId ∧
        forall t, before.tenants.lookup document.tenantId = some t ->
          (forall pid, record.products.lookup pid = t.products.lookup pid) ∧
            record.serviceState = t.serviceState
  recreated : forall tid t, before.tenants.lookup tid = some t -> t.serviceState = .started ->
    outside.introspectService tid = false ->
    (exists spec answer,
        .createService spec answer ∈ (restart listening outside range before).effects ∧
          spec.tenantId = tid) ∧
      forall spec serviceId,
        .createService spec (.ok serviceId) ∈ (restart listening outside range before).effects ->
        spec.tenantId = tid ->
        spec.image = brokerImage ∧ spec.serviceName = ascii "tenant_" ++ tid

/-- What a restart can bring back: somebody receives the request of `Initialize`
if there is one, only one tenant is stored, it has no products, and no started
service is lost. -/
structure Recoverable (listening : Bool) (outside : Surroundings) (before : Conductor) : Prop where
  received : before.dbconn ≠ [] -> listening = true
  single : forall document other, document ∈ before.dbconn -> other ∈ before.dbconn ->
    document.tenantId = other.tenantId
  idle : forall document t, document ∈ before.dbconn ->
    before.tenants.lookup document.tenantId = some t ->
    t.products.entries = [] ∧ t.serviceState = .none
  reported : forall tid t, before.tenants.lookup tid = some t -> t.serviceState = .started ->
    outside.introspectService tid = true

section Recovering

variable {listening : Bool} {outside : Surroundings}
  {range : MapOrder (Sigma fun _ : GoString => Tenant)} {before : Conductor}

theorem entries_eq_nil_iff (products : AList (fun _ : GoString => Unit)) :
    products.entries = [] ↔ forall pid, products.lookup pid = none := by
  constructor
  · intro empty pid
    rw [AList.lookup, empty]
    rfl
  · intro absent
    apply List.eq_nil_iff_forall_not_mem.mpr
    intro entry member
    have found : products.lookup entry.1 = some entry.2 := AList.mem_lookup_iff.mpr member
    rw [absent entry.1] at found
    cases found

theorem restart_effects (registered : AsRegistered before.dbconn)
    (returned : (restart listening outside range before).outcome = .ok ()) (spec : ServiceSpec)
    (answer : Except GoString GoString) :
    .createService spec answer ∉ (restart listening outside range before).effects := by
  by_cases stored : before.dbconn = []
  · rw [restart, stored, initializeConductor_empty]
    exact List.not_mem_nil
  · rw [restart, initializeConductor_stored outside range listening stored] at returned ⊢
    cases listening with
    | false => cases returned
    | true =>
      rw [if_pos rfl, recoverStartup_stored outside range registered]
      intro member
      split at member
      · cases List.mem_singleton.mp member
      · cases member

theorem restart_lookup (registered : AsRegistered before.dbconn)
    (returned : (restart listening outside range before).outcome = .ok ())
    {last document : StoredTenant} (ends : before.dbconn.getLast? = some last)
    (member : document ∈ before.dbconn) :
    (restart listening outside range before).state.tenants.lookup document.tenantId =
      some { tenantId := last.tenantId } := by
  have stored : before.dbconn ≠ [] := List.ne_nil_of_mem member
  rw [restart, initializeConductor_stored outside range listening stored] at returned ⊢
  cases listening with
  | false => cases returned
  | true =>
    rw [if_pos rfl, recoverStartup_stored outside range registered]
    exact (lookup_loadTenants ends member).trans
      (congrArg some (registered.load (List.mem_of_getLast? ends)))

theorem restart_returns_iff (registered : AsRegistered before.dbconn) :
    (restart listening outside range before).outcome = .ok () ↔
      (before.dbconn ≠ [] -> listening = true) := by
  by_cases stored : before.dbconn = []
  · rw [restart, stored, initializeConductor_empty]
    exact iff_of_true rfl (fun some => absurd rfl some)
  · rw [restart, initializeConductor_stored outside range listening stored]
    cases listening with
    | false => exact iff_of_false (fun returned => nomatch returned) (fun heard => nomatch heard stored)
    | true =>
      rw [if_pos rfl, recoverStartup_stored outside range registered]
      exact iff_of_true rfl (fun _ => rfl)

theorem Recovers.recoverable (registered : AsRegistered before.dbconn)
    (recovers : Recovers listening outside range before) :
    Recoverable listening outside before := by
  have returned := recovers.returns
  -- every stored tenant has become the one that was read last
  have named : forall document last, document ∈ before.dbconn ->
      before.dbconn.getLast? = some last -> last.tenantId = document.tenantId := by
    intro document last member ends
    rcases recovers.records document member with ⟨record, found, own, _⟩
    rw [restart_lookup registered returned ends member] at found
    cases found
    exact own
  have ended : forall document, document ∈ before.dbconn ->
      exists last, before.dbconn.getLast? = some last := by
    intro document member
    exact ⟨_, List.getLast?_eq_some_getLast (List.ne_nil_of_mem member)⟩
  constructor
  · exact (restart_returns_iff registered).mp returned
  · intro document other first second
    rcases ended document first with ⟨last, ends⟩
    exact (named document last first ends).symm.trans (named other last second ends)
  · intro document t member known
    rcases ended document member with ⟨last, ends⟩
    rcases recovers.records document member with ⟨record, found, _, same⟩
    rw [restart_lookup registered returned ends member] at found
    cases found
    have kept := same t known
    exact ⟨(entries_eq_nil_iff t.products).mpr (fun pid => (kept.1 pid).symm), kept.2.symm⟩
  · intro tid t known started
    by_contra lost
    rcases (recovers.recreated tid t known started (Bool.eq_false_of_not_eq_true lost)).1 with
      ⟨spec, answer, created, _⟩
    exact restart_effects registered returned spec answer created

theorem Recoverable.recovers (registered : AsRegistered before.dbconn)
    (recoverable : Recoverable listening outside before) :
    Recovers listening outside range before := by
  have returned : (restart listening outside range before).outcome = .ok () :=
    (restart_returns_iff registered).mpr recoverable.received
  constructor
  · exact returned
  · intro document member
    have ends := List.getLast?_eq_some_getLast (List.ne_nil_of_mem member)
    refine ⟨_, restart_lookup registered returned ends member, ?_, ?_⟩
    · exact recoverable.single _ _ (List.mem_of_getLast? ends) member
    · intro t known
      have idle := recoverable.idle document t member known
      exact ⟨fun pid => ((entries_eq_nil_iff t.products).mp idle.1 pid).symm, idle.2.symm⟩
  · intro tid t known started lost
    rw [recoverable.reported tid t known started] at lost
    cases lost

end Recovering

/-- A restart after a run of notifications recovers exactly the conductors that
can be recovered. -/
theorem recovers_iff_recoverable (notices : List Notice) (listening : Bool)
    (outside : Surroundings) (range : MapOrder (Sigma fun _ : GoString => Tenant)) :
    Recovers listening outside range (conduct notices (Conductor.new [])).state ↔
      Recoverable listening outside (conduct notices (Conductor.new [])).state :=
  ⟨fun recovers => recovers.recoverable (conduct_stored notices),
    fun recoverable => recoverable.recovers (conduct_stored notices)⟩

def registration (tid : GoString) : Notice :=
  willingNotice (ApiServer.tenantNotice tid Kafka.actionCreate)

def firstProduct (tid pid : GoString) : Notice :=
  willingNotice (.product { tenantId := tid, productId := pid, action := Kafka.actionCreate })

/-- One stored tenant is enough to make the restart hang.  If the request were
received, the record of one tenant would be taken for another's, and a started
service would be forgotten. -/
theorem stored_tenant_blocks_restart :
    ¬ Recovers false willing .listed (conduct [registration [116]] (Conductor.new [])).state ∧
      (restart false willing .listed
        (conduct [registration [116]] (Conductor.new [])).state).outcome = .diverges ∧
      (((restart true willing .listed
        (conduct [registration [116], registration [117]] (Conductor.new [])).state).state.tenants.lookup
          [116]).map Tenant.tenantId) = some [117] ∧
      (((conduct [registration [116], firstProduct [116] [112]] (Conductor.new [])).state.tenants.lookup
          [116]).map Tenant.serviceState) = some .started ∧
      (((restart true willing .listed
        (conduct [registration [116], firstProduct [116] [112]]
          (Conductor.new [])).state).state.tenants.lookup [116]).map Tenant.serviceState) =
        some .none := by
  have hangs : (restart false willing .listed
      (conduct [registration [116]] (Conductor.new [])).state).outcome = .diverges := by
    decide +kernel
  refine ⟨?_, hangs, by decide +kernel, by decide +kernel, by decide +kernel⟩
  intro recovers
  have returned := recovers.returns
  rw [hangs] at returned
  cases returned

end IotManager
end Sentel
