import Sentel.Library.Machine
import Sentel.Registry.Devices

namespace Sentel
namespace Registry

open Library

/-!
# Unique keys under concurrent registration

Tenants, products, devices, rules and topic flavors are registered by calls that
look for an existing document and insert a new one if there is none.  Between
the two steps other calls may insert.  Four of the collections have a unique
index, which makes the database refuse a second document with the same key.

A query names fields of the documents, and names are compared with case.  The
query for a rule is built but not executed: what is compared with nil is the
query itself.
-/

/-! ## Records and their documents -/

/-- `registry.Tenant` -/
structure TenantDocument where
  tenantId : GoString := []
  password : GoString := []
  secretKey : GoString := []
  createdAt : Time := 0
  updatedAt : Time := 0
  roles : List GoString := []
  deriving DecidableEq

structure RuleDataProcess where
  topic : GoString := []
  condition : GoString := []
  fields : List GoString := []
  deriving DecidableEq

structure RuleDataTarget where
  type : GoString := []
  topic : GoString := []
  databaseHost : GoString := []
  databaseName : GoString := []
  collection : GoString := []
  username : GoString := []
  password : GoString := []
  deriving DecidableEq

/-- `registry.Rule` -/
structure RuleDocument where
  productId : GoString := []
  ruleName : GoString := []
  dataFormat : GoString := []
  description : GoString := []
  dataProcess : RuleDataProcess := {}
  dataTarget : RuleDataTarget := {}
  status : GoString := []
  timeCreated : Time := 0
  timeUpdated : Time := 0
  deriving DecidableEq

/-- `registry.TopicFlavor` with the field that the broker does not read. -/
structure FlavorDocument extends TopicFlavor where
  builtin : Bool := false

/-- The values of fields.  Embedded documents are kept as they are, since no
query looks into them. -/
inductive FieldValue
  | string (value : GoString)
  | time (value : Time)
  | bool (value : Bool)
  | strings (values : List GoString)
  | dataProcess (value : RuleDataProcess)
  | dataTarget (value : RuleDataTarget)
  | topics (value : AList (fun _ : GoString => UInt8))
  deriving DecidableEq

inductive Kind
  | tenant
  | product
  | device
  | rule
  | flavor
  deriving DecidableEq

abbrev Record : Kind -> Type
  | .tenant => TenantDocument
  | .product => ProductDocument
  | .device => Device
  | .rule => RuleDocument
  | .flavor => FlavorDocument

def document : {kind : Kind} -> Record kind -> Document FieldValue
  | .tenant, t =>
    [("TenantId", .string t.tenantId), ("Password", .string t.password),
      ("secretKey", .string t.secretKey), ("CreatedAt", .time t.createdAt),
      ("UpdatedAt", .time t.updatedAt), ("roles", .strings t.roles)]
  | .product, p =>
    [("TenantId", .string p.tenantId), ("ProductId", .string p.productId),
      ("ProductName", .string p.productName), ("Description", .string p.description),
      ("TimeCreated", .time p.timeCreated), ("TimeModified", .time p.timeUpdated),
      ("CategoryId", .string p.category), ("TopicFlavor", .string p.topicFlavor)]
  | .device, dev =>
    [("ProductId", .string dev.productId), ("DeviceId", .string dev.deviceId),
      ("DeviceName", .string dev.deviceName), ("DeviceStatus", .string dev.deviceStatus),
      ("DeviceSecret", .string dev.deviceSecret), ("Props", .string dev.props),
      ("TimeCreated", .time dev.timeCreated), ("TimeUpdated", .time dev.timeUpdated)]
  | .rule, rule =>
    [("ProductId", .string rule.productId), ("RuleName", .string rule.ruleName),
      ("Format", .string rule.dataFormat), ("Desc", .string rule.description),
      ("Dataprocess", .dataProcess rule.dataProcess),
      ("Datatarget", .dataTarget rule.dataTarget), ("Status", .string rule.status),
      ("TimeCreated", .time rule.timeCreated), ("TimeUpdated", .time rule.timeUpdated)]
  | .flavor, t =>
    [("FlavorName", .string t.flavorName), ("Builtin", .bool t.builtin),
      ("TenantId", .string t.tenantId), ("Topics", .topics t.topics)]

def uniqueIndex : Kind -> Option (List String)
  | .tenant => some ["TenantId"]
  | .product => some ["ProductId"]
  | .device => some ["DeviceId"]
  | .rule => some ["ProductId", "RuleName"]
  | .flavor => none

def fieldsOf {kind : Kind} (names : List String) (record : Record kind) :
    List (Option FieldValue) :=
  names.map (fun name => (document record).lookup name)

/-! ## The calls -/

def existingQuery : {kind : Kind} -> Record kind -> Option (List (String × FieldValue))
  | .tenant, t => some [("TenantId", .string t.tenantId)]
  | .product, p => some [("TenantId", .string p.tenantId), ("ProductId", .string p.productId)]
  | .device, dev => some [("DeviceId", .string dev.deviceId)]
  | .rule, _ => none
  | .flavor, t =>
    some [("flavorName", .string t.flavorName), ("builtin", .bool t.builtin),
      ("tenantId", .string t.tenantId)]

def alreadyExist : {kind : Kind} -> Record kind -> GoString
  | .tenant, t => ascii "Tenant " ++ t.tenantId ++ ascii " already exist"
  | .product, p => ascii "product " ++ p.productId ++ ascii " already exist"
  | .device, dev => ascii "device " ++ dev.deviceId ++ ascii " already exist"
  | .rule, rule => ascii "rule " ++ rule.ruleName ++ ascii " already exist"
  | .flavor, t => ascii "flavro '" ++ t.flavorName ++ ascii "' already exist"

/-- The errors of a call: its own, or that of the database. -/
inductive Refusal
  | alreadyExist (text : GoString)
  | duplicateKey
  deriving DecidableEq

/-- The collections. -/
abbrev Content := (kind : Kind) -> List (Record kind)

def findStep {kind : Kind} (content : Content) (record : Record kind) : Option Refusal :=
  match existingQuery record with
  | none => none
  | some query =>
    if (content kind).any (fun stored => (document stored).satisfies query) then
      some (.alreadyExist (alreadyExist record))
    else none

def indexed {kind : Kind} (content : Content) (record : Record kind) : Bool :=
  match uniqueIndex kind with
  | none => false
  | some names => (content kind).any (fun stored => fieldsOf names stored = fieldsOf names record)

def insertStep {kind : Kind} (content : Content) (record : Record kind) :
    Content × Option Refusal :=
  if indexed content record then (content, some .duplicateKey)
  else (Function.update content kind (Collection.insert record (content kind)), none)

def register {kind : Kind} (content : Content) (record : Record kind) :
    Content × Option Refusal :=
  match findStep content record with
  | some refusal => (content, some refusal)
  | none => insertStep content record

/-! ## Keys -/

def keyFields : Kind -> List String
  | .tenant => ["TenantId"]
  | .product => ["ProductId"]
  | .device => ["DeviceId"]
  | .rule => ["ProductId", "RuleName"]
  | .flavor => ["FlavorName", "Builtin", "TenantId"]

def key {kind : Kind} (record : Record kind) : List (Option FieldValue) :=
  fieldsOf (keyFields kind) record

def Stored {kind : Kind} (content : Content) (record : Record kind) : Prop :=
  ∃ stored ∈ content kind, key stored = key record

def UniqueKeys (content : Content) (kind : Kind) : Prop :=
  ((content kind).map key).Nodup

def AllUnique (content : Content) : Prop :=
  forall kind, UniqueKeys content kind

section Insert

variable {kind : Kind} (content : Content) (record : Record kind)

theorem uniqueIndex_of_ne_flavor (other : kind ≠ .flavor) :
    uniqueIndex kind = some (keyFields kind) := by
  cases kind with
  | tenant | product | device | rule => rfl
  | flavor => exact absurd rfl other

theorem indexed_iff (other : kind ≠ .flavor) :
    indexed content record = true ↔ Stored content record := by
  rw [indexed, uniqueIndex_of_ne_flavor other]
  simp only [List.any_eq_true, decide_eq_true_eq]
  rfl

theorem indexed_flavor (flavor : FlavorDocument) : @indexed .flavor content flavor = false := rfl

def Guarded : Prop := indexed content record = true ∨ ¬ Stored content record

variable {content record}

theorem guarded_of_ne_flavor (other : kind ≠ .flavor) : Guarded content record := by
  rw [Guarded, indexed_iff content record other]
  exact Classical.em _

theorem guarded_flavor_iff {flavor : FlavorDocument} :
    @Guarded .flavor content flavor ↔ ¬ @Stored .flavor content flavor := by
  rw [Guarded, indexed_flavor]
  exact or_iff_right Bool.false_ne_true

theorem insertStep_of_indexed (known : indexed content record = true) :
    insertStep content record = (content, some .duplicateKey) := if_pos known

theorem insertStep_of_free (free : ¬ indexed content record = true) :
    insertStep content record =
      (Function.update content kind (Collection.insert record (content kind)), none) := if_neg free

theorem uniqueKeys_insertStep {other : Kind} (unique : UniqueKeys content other) :
    UniqueKeys (insertStep content record).1 other ↔ (other = kind -> Guarded content record) := by
  by_cases known : indexed content record = true
  · rw [insertStep_of_indexed known]
    exact iff_of_true unique (fun _ => .inl known)
  · rw [insertStep_of_free known, Guarded, or_iff_right known]
    by_cases same : other = kind
    · subst same
      rw [UniqueKeys]
      dsimp only
      rw [Function.update_self, Collection.insert, List.map_append,
        List.nodup_append_comm, List.map_singleton, List.singleton_append, List.nodup_cons]
      have here : key record ∈ (content other).map key ↔ Stored content record := List.mem_map
      rw [here]
      exact ⟨fun parts _ => parts.1, fun fresh => ⟨fresh rfl, unique⟩⟩
    · rw [UniqueKeys]
      dsimp only
      rw [Function.update_of_ne same]
      exact iff_of_true unique (fun equal => absurd equal same)

theorem allUnique_insertStep (unique : AllUnique content) :
    AllUnique (insertStep content record).1 ↔ Guarded content record := by
  constructor
  · intro kept
    exact (uniqueKeys_insertStep (unique kind)).mp (kept kind) rfl
  · intro guarded other
    exact (uniqueKeys_insertStep (unique other)).mpr (fun _ => guarded)

theorem refused_iff :
    (Stored content record -> (insertStep content record).1 = content ∧
      (insertStep content record).2 ≠ none) ↔ Guarded content record := by
  by_cases known : indexed content record = true
  · rw [insertStep_of_indexed known]
    exact iff_of_true (fun _ => ⟨rfl, Option.some_ne_none _⟩) (.inl known)
  · rw [insertStep_of_free known, Guarded, or_iff_right known]
    exact ⟨fun refused stored => (refused stored).2 rfl, fun fresh stored => absurd stored fresh⟩

end Insert

/-! ## Concurrent calls -/

/-- The content, and the calls that have found nothing and are about to insert. -/
structure Registering where
  content : Content
  pending : List ((kind : Kind) × Record kind) := []

inductive RegisterLabel
  | find {kind : Kind} (record : Record kind)
  | insert (position : Nat)

namespace Registering

def step (state : Registering) : RegisterLabel -> Option Registering
  | .find record =>
    match findStep state.content record with
    | some _ => some state
    | none => some { state with pending := state.pending ++ [⟨_, record⟩] }
  | .insert position =>
    state.pending[position]?.map (fun call =>
      { content := (insertStep state.content call.2).1
        pending := state.pending.eraseIdx position })

/-- The calls on a content whose keys are unique. -/
def calls (start : { content : Content // AllUnique content }) :
    Machine Registering RegisterLabel where
  initial := { content := start.1 }
  step := step

/-- A call whose key exists when it inserts returns an error and stores nothing. -/
def Refused (state : Registering) : RegisterLabel -> Prop
  | .find _ => True
  | .insert position => forall call, state.pending[position]? = some call ->
      Stored state.content call.2 -> (insertStep state.content call.2).1 = state.content ∧
        (insertStep state.content call.2).2 ≠ none

/-- No flavor is inserted whose key exists. -/
def FreshFlavor (state : Registering) : RegisterLabel -> Prop
  | .find _ => True
  | .insert position => forall flavor : FlavorDocument,
      state.pending[position]? = some ⟨.flavor, flavor⟩ -> ¬ @Stored .flavor state.content flavor

variable {state next : Registering} {kind : Kind} {record : Record kind}

theorem step_find (taken : state.step (.find record) = some next) :
    next.content = state.content := by
  rw [step] at taken
  cases found : findStep state.content record with
  | some refusal | none =>
    rw [found] at taken
    cases taken
    rfl

theorem step_insert {position : Nat} (taken : state.step (.insert position) = some next) :
    exists call, state.pending[position]? = some call ∧
      next.content = (insertStep state.content call.2).1 := by
  rcases Option.map_eq_some_iff.mp taken with ⟨call, waiting, rfl⟩
  exact ⟨call, waiting, rfl⟩

theorem freshFlavor_iff (state : Registering) (position : Nat) :
    state.FreshFlavor (.insert position) ↔ forall call, state.pending[position]? = some call ->
      Guarded state.content call.2 := by
  constructor
  · rintro fresh ⟨kind, record⟩ waiting
    by_cases flavor : kind = .flavor
    · subst flavor
      exact guarded_flavor_iff.mpr (fresh record waiting)
    · exact guarded_of_ne_flavor flavor
  · intro guarded flavor waiting
    exact guarded_flavor_iff.mp (guarded _ waiting)

theorem refused_iff_freshFlavor (state : Registering) (label : RegisterLabel) :
    state.Refused label ↔ state.FreshFlavor label := by
  cases label with
  | find record => exact Iff.rfl
  | insert position =>
    rw [freshFlavor_iff]
    exact forall_congr' (fun call => imp_congr_right (fun _ => refused_iff))

variable (start : { content : Content // AllUnique content }) (labels : List RegisterLabel)

theorem uniqueKeys_throughout (other : kind ≠ .flavor) :
    (calls start).Throughout (fun state => UniqueKeys state.content kind) (calls start).initial
      labels := by
  apply Machine.throughout_of_kept
  · intro state label next unique taken
    cases label with
    | find record =>
      rw [step_find taken]
      exact unique
    | insert position =>
      rcases step_insert taken with ⟨call, waiting, inserted⟩
      rw [inserted, uniqueKeys_insertStep unique]
      rintro rfl
      exact guarded_of_ne_flavor other
  · exact start.2 kind

theorem allUnique_throughout_iff :
    (calls start).Throughout (fun state => AllUnique state.content) (calls start).initial labels ↔
      (calls start).Allowed FreshFlavor (calls start).initial labels := by
  refine Machine.throughout_iff_allowed_of_idle (@fun _ _ _ _ _ _ => True.intro) ?_ ?_ True.intro
    ?_ labels
  · intro state label next _ unique taken
    cases label with
    | find record =>
      rw [step_find taken]
      exact iff_of_true unique True.intro
    | insert position =>
      rcases step_insert taken with ⟨call, waiting, inserted⟩
      rw [inserted, allUnique_insertStep unique, freshFlavor_iff, waiting]
      exact ⟨fun guarded _ same => Option.some.inj same ▸ guarded, fun all => all call rfl⟩
  · intro state label _ _ stuck
    cases label with
    | find record => exact True.intro
    | insert position =>
      intro flavor waiting
      have moved : state.step (.insert position) = none := stuck
      rw [step, waiting] at moved
      cases moved
  · exact start.2

/-- The keys stay unique, and calls for existing keys are refused, exactly in the
interleavings that insert no flavor twice.  In the other collections the keys
stay unique in any case. -/
theorem unique_keys_iff :
    (forall kind, kind ≠ .flavor ->
      (calls start).Throughout (fun state => UniqueKeys state.content kind) (calls start).initial
        labels) ∧
    ((calls start).Throughout (fun state => AllUnique state.content) (calls start).initial labels ∧
        (calls start).Allowed Refused (calls start).initial labels ↔
      (calls start).Allowed FreshFlavor (calls start).initial labels) := by
  have refusals : (calls start).Allowed Refused (calls start).initial labels ↔
      (calls start).Allowed FreshFlavor (calls start).initial labels :=
    Machine.allowed_congr (@fun _ _ _ _ _ _ => True.intro)
      (@fun state label _ => refused_iff_freshFlavor state label) True.intro labels
  refine ⟨fun kind other => uniqueKeys_throughout start labels other, ?_⟩
  rw [allUnique_throughout_iff, refusals, and_self]

def nothing : { content : Content // AllUnique content } :=
  ⟨fun _ => [], fun _ => List.nodup_nil⟩

def plainFlavor : FlavorDocument where
  flavorName := ascii "f"
  tenantId := ascii "t"
  topics := ∅

/-- A flavor that is created twice is stored twice. -/
theorem flavor_stored_twice :
    exists final, (calls nothing).run (calls nothing).initial
        [@RegisterLabel.find .flavor plainFlavor, .insert 0,
          @RegisterLabel.find .flavor plainFlavor, .insert 0] = some final ∧
      final.content .flavor = [plainFlavor, plainFlavor] ∧ ¬ AllUnique final.content ∧
      (@register .flavor (@register .flavor nothing.1 plainFlavor).1 plainFlavor).2 = none := by
  refine ⟨_, rfl, rfl, ?_, rfl⟩
  intro unique
  have twice : ([plainFlavor, plainFlavor].map (@key .flavor)).Nodup := unique .flavor
  rw [List.map_cons, List.nodup_cons] at twice
  exact twice.1 List.mem_cons_self

end Registering

end Registry
end Sentel
