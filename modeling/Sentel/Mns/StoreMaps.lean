import Sentel.Mns.Store

namespace Sentel
namespace Mns

open Library

/-!
# The store as three maps

What the metadata store is for: a map from accounts and names to queues, one to
topics and one to subscriptions.  The calls of the adaptor are run against the
maps, and the answers of the store are compared with them after every call.
-/

/-! ## Maps -/

def Topic.key (topic : Topic) : GoString × GoString :=
  (topic.accountId, topic.topicName)

def Subscription.key (subscription : Subscription) : GoString × GoString × GoString :=
  (subscription.accountId, subscription.topicName, subscription.subscriptionName)

structure Maps where
  queues : GoString × GoString -> Option QueueAttribute := fun _ => none
  topics : GoString × GoString -> Option Topic := fun _ => none
  subscriptions : GoString × GoString × GoString -> Option Subscription := fun _ => none

/-- The calls that change the store. -/
inductive StoreCall
  | addQueue (accountId queueName : GoString) (attr : QueueAttribute)
  | updateQueue (accountId queueName : GoString) (attr : QueueAttribute)
  | removeQueue (accountId queueName : GoString)
  | removeAccountQueues (accountId : GoString)
  | addTopic (accountId topicName : GoString) (topic : Topic)
  | updateTopic (accountId topicName : GoString) (topic : Topic)
  | removeTopic (accountId topicName : GoString)
  | removeAccountTopics (accountId : GoString)
  | addSubscription (accountId topicName : GoString) (subscription : Subscription)
  | updateSubscription (accountId topicName subscriptionName : GoString)
      (subscription : Subscription)
  | removeSubscription (accountId topicName subscriptionName : GoString)
  | removeAccountSubscriptions (accountId topicName : GoString)

def MongoAdaptor.perform (m : MongoAdaptor) : StoreCall -> MongoAdaptor
  | .addQueue accountId queueName attr => m.addQueue accountId queueName attr
  | .updateQueue accountId queueName attr => (m.updateQueue accountId queueName attr).1
  | .removeQueue accountId queueName => (m.removeQueue accountId queueName).1
  | .removeAccountQueues accountId => m.removeAccountQueues accountId
  | .addTopic accountId topicName topic => m.addTopic accountId topicName topic
  | .updateTopic accountId topicName topic => (m.updateTopic accountId topicName topic).1
  | .removeTopic accountId topicName => (m.removeTopic accountId topicName).1
  | .removeAccountTopics accountId => m.removeAccountTopics accountId
  | .addSubscription accountId topicName subscription =>
    m.addSubscription accountId topicName subscription
  | .updateSubscription accountId topicName subscriptionName subscription =>
    (m.updateSubscription accountId topicName subscriptionName subscription).1
  | .removeSubscription accountId topicName subscriptionName =>
    (m.removeSubscription accountId topicName subscriptionName).1
  | .removeAccountSubscriptions accountId topicName =>
    m.removeAccountSubscriptions accountId topicName

namespace Maps

def perform (maps : Maps) : StoreCall -> Maps
  | .addQueue accountId queueName attr =>
    { maps with
      queues := Function.update maps.queues (accountId, queueName)
        (some { attr with accountId := accountId, queueName := queueName }) }
  | .updateQueue accountId queueName attr =>
    { maps with
      queues := amend maps.queues (accountId, queueName)
        { attr with accountId := accountId, queueName := queueName } }
  | .removeQueue accountId queueName =>
    { maps with queues := without (fun key => key = (accountId, queueName)) maps.queues }
  | .removeAccountQueues accountId =>
    { maps with queues := without (fun key => key.1 = accountId) maps.queues }
  | .addTopic accountId topicName topic =>
    { maps with
      topics := Function.update maps.topics (accountId, topicName)
        (some { topic with accountId := accountId, topicName := topicName }) }
  | .updateTopic accountId topicName topic =>
    { maps with
      topics := amend maps.topics (accountId, topicName)
        { topic with accountId := accountId, topicName := topicName } }
  | .removeTopic accountId topicName =>
    { maps with topics := without (fun key => key = (accountId, topicName)) maps.topics }
  | .removeAccountTopics accountId =>
    { maps with topics := without (fun key => key.1 = accountId) maps.topics }
  | .addSubscription accountId topicName subscription =>
    { maps with
      subscriptions :=
        Function.update maps.subscriptions (accountId, topicName, subscription.subscriptionName)
          (some { subscription with topicName := topicName, accountId := accountId }) }
  | .updateSubscription accountId topicName subscriptionName subscription =>
    { maps with
      subscriptions := amend maps.subscriptions (accountId, topicName, subscriptionName)
        { subscription with
          topicName := topicName
          accountId := accountId
          subscriptionName := subscriptionName } }
  | .removeSubscription accountId topicName subscriptionName =>
    { maps with
      subscriptions :=
        without (fun key => key = (accountId, topicName, subscriptionName)) maps.subscriptions }
  | .removeAccountSubscriptions accountId topicName =>
    { maps with
      subscriptions :=
        without (fun key => key.1 = accountId ∧ key.2.1 = topicName) maps.subscriptions }

/-- A record is added under a key that is not present. -/
def fresh (maps : Maps) : StoreCall -> Bool
  | .addQueue accountId queueName _ => (maps.queues (accountId, queueName)).isNone
  | .addTopic accountId topicName _ => (maps.topics (accountId, topicName)).isNone
  | .addSubscription accountId topicName subscription =>
    (maps.subscriptions (accountId, topicName, subscription.subscriptionName)).isNone
  | _ => true

end Maps

/-! ## The store against the maps -/

/-- What a get call answers for an entry of a map. -/
def answer {Record : Type} (zero : Record) : Option Record -> Record × Option GoString
  | none => (zero, some notFound)
  | some record => (record, none)

def ListsExactly (names : List GoString) (present : GoString -> Prop) : Prop :=
  names.Nodup ∧ forall name, name ∈ names ↔ present name

structure Agrees (m : MongoAdaptor) (maps : Maps) : Prop where
  queue : forall accountId queueName,
    m.getQueueAttribute accountId queueName = answer {} (maps.queues (accountId, queueName))
  topic : forall accountId topicName,
    m.getTopic accountId topicName = answer {} (maps.topics (accountId, topicName))
  subscription : forall accountId topicName subscriptionName,
    m.getSubscription accountId topicName subscriptionName =
      answer {} (maps.subscriptions (accountId, topicName, subscriptionName))
  accountQueues : forall accountId,
    ListsExactly (m.getAccountQueues accountId) (fun name => maps.queues (accountId, name) ≠ none)
  accountTopics : forall accountId,
    ListsExactly (m.getAccountTopics accountId) (fun name => maps.topics (accountId, name) ≠ none)
  accountSubscriptions : forall accountId topicName,
    ListsExactly (m.getAccountSubscriptions accountId topicName)
      (fun name => maps.subscriptions (accountId, topicName, name) ≠ none)

/-- The store and the maps run side by side.  A record is only added under a key
that is not present. -/
def stores : Machine (MongoAdaptor × Maps) StoreCall where
  initial := ({}, {})
  step := fun state call =>
    if state.2.fresh call then some (state.1.perform call, state.2.perform call) else none

/-! ## Queries -/

def topicTable : Table (Document Bson) Topic (GoString × GoString) where
  encode := Topic.toDocument
  decode := Topic.ofDocument
  key := Topic.key
  decode_encode := fun _ => rfl

def subscriptionTable : Table (Document Bson) Subscription (GoString × GoString × GoString) where
  encode := Subscription.toDocument
  decode := Subscription.ofDocument
  key := Subscription.key
  decode_encode := fun _ => rfl

theorem asks_topic (accountId topicName : GoString) :
    topicTable.Asks (selects [("AccountId", accountId), ("TopicName", topicName)])
      (fun key => key = (accountId, topicName)) := by
  intro topic
  rw [Bool.eq_iff_iff]
  simp [topicTable, selects, Document.satisfies, Topic.toDocument, List.lookup_cons, Topic.key]

theorem asks_accountTopics (accountId : GoString) :
    topicTable.Asks (selects [("AccountId", accountId)]) (fun key => key.1 = accountId) := by
  intro topic
  change _ = decide (topic.accountId = accountId)
  rw [Bool.eq_iff_iff, decide_eq_true_iff]
  simp [topicTable, selects, Document.satisfies, Topic.toDocument, List.lookup_cons]

theorem asks_subscription (accountId topicName subscriptionName : GoString) :
    subscriptionTable.Asks
      (selects [("AccountId", accountId), ("TopicName", topicName),
        ("SubscriptionName", subscriptionName)])
      (fun key => key = (accountId, topicName, subscriptionName)) := by
  intro subscription
  rw [Bool.eq_iff_iff]
  simp [subscriptionTable, selects, Document.satisfies, Subscription.toDocument, List.lookup_cons,
    Subscription.key]

theorem asks_accountSubscriptions (accountId topicName : GoString) :
    subscriptionTable.Asks (selects [("AccountId", accountId), ("TopicName", topicName)])
      (fun key => key.1 = accountId ∧ key.2.1 = topicName) := by
  intro subscription
  change _ = decide (subscription.accountId = accountId ∧ subscription.topicName = topicName)
  rw [Bool.eq_iff_iff, decide_eq_true_iff]
  simp [subscriptionTable, selects, Document.satisfies, Subscription.toDocument, List.lookup_cons]

theorem asks_removedSubscription (accountId topicName subscriptionName : GoString) :
    subscriptionTable.Asks
      (selects [("AccountId", accountId), ("TopicName", topicName),
        ("subscriptionName", subscriptionName)]) (fun _ => false) := by
  intro subscription
  simp [subscriptionTable, selects, Document.satisfies, Subscription.toDocument, List.lookup_cons]

theorem Bson.lookup_append_omitEmpty {Value : Type} [DecidableEq Value] {name other : String}
    (different : other ≠ name) (document : Document Bson) (wrap : Value -> Bson)
    (zero value : Value) :
    (document ++ Bson.omitEmpty name wrap zero value).lookup other = document.lookup other := by
  have absent : (Bson.omitEmpty name wrap zero value).lookup other = none := by
    rw [Bson.omitEmpty]
    by_cases empty : value = zero
    · rw [if_pos empty]
      rfl
    · rw [if_neg empty, List.lookup_cons, beq_false_of_ne different]
      rfl
  rw [List.lookup_append, absent, Option.or_none]

theorem toDocument_accountId (attr : QueueAttribute) :
    attr.toDocument.lookup "AccountId" = none := by
  rw [QueueAttribute.toDocument]
  iterate 11 rw [Bson.lookup_append_omitEmpty (by decide)]
  rfl

def Hidden (documents : List (Document Bson)) : Prop :=
  ∀ document ∈ documents, document.lookup "AccountId" = none

namespace Hidden

variable {documents : List (Document Bson)}

theorem insert (hidden : Hidden documents) (attr : QueueAttribute) :
    Hidden (Collection.insert attr.toDocument documents) := by
  intro document member
  rcases List.mem_append.mp member with old | new
  · exact hidden document old
  · rw [List.mem_singleton.mp new]
    exact toDocument_accountId attr

variable (hidden : Hidden documents) (accountId : GoString) (query : Query)
include hidden

theorem selects_none :
    ∀ document ∈ documents, ¬ selects (("AccountId", accountId) :: query) document = true := by
  intro document member
  rw [selects, Document.satisfies, List.map_cons, List.all_cons, hidden document member]
  exact Bool.false_ne_true

theorem findOne :
    Collection.findOne (selects (("AccountId", accountId) :: query)) documents = none :=
  List.find?_eq_none.mpr (hidden.selects_none accountId query)

theorem findAll :
    Collection.findAll (selects (("AccountId", accountId) :: query)) documents = [] :=
  List.filter_eq_nil_iff.mpr (hidden.selects_none accountId query)

theorem update (document : Document Bson) :
    Collection.update (selects (("AccountId", accountId) :: query)) document documents =
      documents :=
  Collection.update_of_none (hidden.selects_none accountId query) document

theorem remove :
    Collection.remove (selects (("AccountId", accountId) :: query)) documents = documents :=
  List.eraseP_of_forall_not (hidden.selects_none accountId query)

end Hidden

/-! ## One call -/

structure StoreInv (state : MongoAdaptor × Maps) : Prop where
  queues : Hidden state.1.queues
  topics : topicTable.Holds state.1.topics state.2.topics
  subscriptions : subscriptionTable.Holds state.1.subscriptions state.2.subscriptions

variable {Record Key : Type} {m : MongoAdaptor} {maps : Maps} {call : StoreCall}

theorem findRecord_answer [DecidableEq Key] {table : Table (Document Bson) Record Key}
    {documents : List (Document Bson)} {entries : Key -> Option Record}
    (holds : table.Holds documents entries) {query : Query} {name : Key}
    (asks : table.Asks (selects query) (fun other => other = name)) (zero : Record) :
    findRecord query documents table.decode zero = answer zero (entries name) := by
  rw [findRecord, ← holds.find asks]
  cases Collection.findOne (selects query) documents with
  | none | some document => rfl

theorem getTopic_answer (inv : StoreInv (m, maps)) (accountId topicName : GoString) :
    m.getTopic accountId topicName = answer {} (maps.topics (accountId, topicName)) :=
  findRecord_answer inv.topics (asks_topic accountId topicName) {}

theorem getSubscription_answer (inv : StoreInv (m, maps))
    (accountId topicName subscriptionName : GoString) :
    m.getSubscription accountId topicName subscriptionName =
      answer {} (maps.subscriptions (accountId, topicName, subscriptionName)) :=
  findRecord_answer inv.subscriptions (asks_subscription accountId topicName subscriptionName) {}

theorem answer_none {zero : Record} {entry : Option Record}
    (same : answer zero entry = answer zero none) : entry = none := by
  cases entry with
  | none => rfl
  | some record => cases congrArg Prod.snd same

theorem findRecord_none {query : Query} {documents : List (Document Bson)}
    {ofDocument : Document Bson -> Record} {zero : Record}
    (missed : findRecord query documents ofDocument zero = answer zero none) :
    Collection.findOne (selects query) documents = none := by
  rw [findRecord] at missed
  cases found : Collection.findOne (selects query) documents with
  | none => rfl
  | some document =>
    rw [found] at missed
    cases congrArg Prod.snd missed

theorem agrees_iff (inv : StoreInv (m, maps)) :
    Agrees m maps ↔ forall key, maps.queues key = none := by
  have missed (accountId queueName : GoString) :
      m.getQueueAttribute accountId queueName = answer {} none := by
    rw [MongoAdaptor.getQueueAttribute, findRecord, inv.queues.findOne]
    rfl
  constructor
  · intro agrees key
    exact answer_none ((agrees.queue key.1 key.2).symm.trans (missed key.1 key.2))
  · intro empty
    refine ⟨?_, getTopic_answer inv, getSubscription_answer inv, ?_, ?_, ?_⟩
    · intro accountId queueName
      rw [missed, empty]
    · intro accountId
      rw [MongoAdaptor.getAccountQueues, findRecords, inv.queues.findAll]
      exact ⟨List.nodup_nil, fun name =>
        iff_of_false List.not_mem_nil (fun present => present (empty _))⟩
    · intro accountId
      refine inv.topics.lists (asks_accountTopics accountId) (fun topic name => ?_)
      change (topic.accountId, topic.topicName) = (accountId, name) ↔ _
      rw [Prod.mk.injEq, decide_eq_true_iff]
      rfl
    · intro accountId topicName
      refine inv.subscriptions.lists (asks_accountSubscriptions accountId topicName)
        (fun subscription name => ?_)
      change (subscription.accountId, subscription.topicName, subscription.subscriptionName) =
        (accountId, topicName, name) ↔ _
      rw [Prod.mk.injEq, Prod.mk.injEq, decide_eq_true_iff, and_assoc]
      rfl

def AtMostOne (present : GoString -> Prop) : Prop :=
  forall first second, present first -> present second -> first = second

def Faithful (maps : Maps) : StoreCall -> Prop
  | .addQueue _ _ _ => False
  | .removeAccountTopics accountId =>
    AtMostOne (fun name => maps.topics (accountId, name) ≠ none)
  | .removeSubscription accountId topicName subscriptionName =>
    maps.subscriptions (accountId, topicName, subscriptionName) = none
  | .removeAccountSubscriptions accountId topicName =>
    AtMostOne (fun name => maps.subscriptions (accountId, topicName, name) ≠ none)
  | _ => True

theorem alone_of_eq [DecidableEq Key] (name : Key) (present : Key -> Prop) :
    forall first second, decide (first = name) = true -> decide (second = name) = true ->
      present first -> present second -> first = second :=
  fun _ _ isFirst isSecond _ _ =>
    (of_decide_eq_true isFirst).trans (of_decide_eq_true isSecond).symm

theorem without_of_absent {gone : Key -> Bool} {entries : Key -> Option Record}
    (absent : forall name, gone name = true -> entries name = none) :
    without gone entries = entries := by
  funext name
  rw [without]
  by_cases cleared : gone name = true
  · rw [if_pos cleared, absent name cleared]
  · rw [if_neg cleared]

theorem topics_alone {accountId : GoString}
    (few : AtMostOne (fun name => maps.topics (accountId, name) ≠ none)) :
    forall first second : GoString × GoString, decide (first.1 = accountId) = true ->
      decide (second.1 = accountId) = true -> maps.topics first ≠ none ->
        maps.topics second ≠ none -> first = second := by
  rintro ⟨account, first⟩ ⟨other, second⟩ isFirst isSecond hasFirst hasSecond
  cases of_decide_eq_true isFirst
  cases of_decide_eq_true isSecond
  rw [few first second hasFirst hasSecond]

theorem subscriptions_alone {accountId topicName : GoString}
    (few : AtMostOne (fun name => maps.subscriptions (accountId, topicName, name) ≠ none)) :
    forall first second : GoString × GoString × GoString,
      decide (first.1 = accountId ∧ first.2.1 = topicName) = true ->
      decide (second.1 = accountId ∧ second.2.1 = topicName) = true ->
        maps.subscriptions first ≠ none -> maps.subscriptions second ≠ none -> first = second := by
  rintro ⟨account, topic, first⟩ ⟨other, others, second⟩ isFirst isSecond hasFirst hasSecond
  rcases of_decide_eq_true isFirst with ⟨rfl, rfl⟩
  rcases of_decide_eq_true isSecond with ⟨rfl, rfl⟩
  rw [few first second hasFirst hasSecond]

theorem removeSubscription_same (inv : StoreInv (m, maps))
    (accountId topicName subscriptionName : GoString) :
    subscriptionTable.Holds
      (m.perform (.removeSubscription accountId topicName subscriptionName)).subscriptions
      maps.subscriptions := by
  have kept := inv.subscriptions.remove
    (asks_removedSubscription accountId topicName subscriptionName)
    (fun _ _ impossible => absurd impossible Bool.false_ne_true)
  rw [without_of_absent (fun _ impossible => absurd impossible Bool.false_ne_true)] at kept
  exact kept

theorem inv_addQueue (inv : StoreInv (m, maps)) (accountId queueName : GoString)
    (attr : QueueAttribute) :
    StoreInv (m.perform (.addQueue accountId queueName attr),
      maps.perform (.addQueue accountId queueName attr)) :=
  ⟨inv.queues.insert _, inv.topics, inv.subscriptions⟩

theorem inv_perform (inv : StoreInv (m, maps)) (fresh : maps.fresh call = true)
    (faithful : Faithful maps call) : StoreInv (m.perform call, maps.perform call) := by
  cases call with
  | addQueue accountId queueName attr => exact faithful.elim
  | updateQueue accountId queueName attr =>
    refine ⟨?_, inv.topics, inv.subscriptions⟩
    change Hidden (Collection.update _ _ m.queues)
    rw [inv.queues.update]
    exact inv.queues
  | removeQueue accountId queueName | removeAccountQueues accountId =>
    refine ⟨?_, inv.topics, inv.subscriptions⟩
    change Hidden (Collection.remove _ m.queues)
    rw [inv.queues.remove]
    exact inv.queues
  | addTopic accountId topicName topic =>
    have absent := Option.isNone_iff_eq_none.mp fresh
    exact ⟨inv.queues, inv.topics.insert absent, inv.subscriptions⟩
  | updateTopic accountId topicName topic =>
    exact ⟨inv.queues, inv.topics.update (asks_topic accountId topicName), inv.subscriptions⟩
  | removeTopic accountId topicName =>
    exact ⟨inv.queues,
      inv.topics.remove (asks_topic accountId topicName) (alone_of_eq _ _), inv.subscriptions⟩
  | removeAccountTopics accountId =>
    exact ⟨inv.queues,
      inv.topics.remove (asks_accountTopics accountId) (topics_alone faithful),
      inv.subscriptions⟩
  | addSubscription accountId topicName subscription =>
    have absent := Option.isNone_iff_eq_none.mp fresh
    exact ⟨inv.queues, inv.topics, inv.subscriptions.insert absent⟩
  | updateSubscription accountId topicName subscriptionName subscription =>
    exact ⟨inv.queues, inv.topics,
      inv.subscriptions.update (asks_subscription accountId topicName subscriptionName)⟩
  | removeSubscription accountId topicName subscriptionName =>
    refine ⟨inv.queues, inv.topics, ?_⟩
    change subscriptionTable.Holds _ (without _ maps.subscriptions)
    rw [without_of_absent (fun name gone => by rw [of_decide_eq_true gone]; exact faithful)]
    exact removeSubscription_same inv accountId topicName subscriptionName
  | removeAccountSubscriptions accountId topicName =>
    exact ⟨inv.queues, inv.topics,
      inv.subscriptions.remove (asks_accountSubscriptions accountId topicName)
        (subscriptions_alone faithful)⟩

theorem queues_perform (empty : forall key, maps.queues key = none)
    (faithful : Faithful maps call) : forall key, (maps.perform call).queues key = none := by
  intro key
  cases call with
  | addQueue accountId queueName attr => exact faithful.elim
  | updateQueue accountId queueName attr =>
    change amend maps.queues _ _ key = none
    rw [amend, empty]
    by_cases same : key = (accountId, queueName)
    · rw [same, Function.update_self]
      rfl
    · rw [Function.update_of_ne same, empty]
  | removeQueue accountId queueName =>
    change without (fun other => decide (other = (accountId, queueName))) maps.queues key = none
    rw [without_of_absent (fun name _ => empty name), empty]
  | removeAccountQueues accountId =>
    change without (fun other => decide (other.1 = accountId)) maps.queues key = none
    rw [without_of_absent (fun name _ => empty name), empty]
  | _ => exact empty key

theorem agrees_perform_faithful (inv : StoreInv (m, maps))
    (agrees : Agrees (m.perform call) (maps.perform call)) : Faithful maps call := by
  cases call with
  | addQueue accountId queueName attr =>
    have empty := (agrees_iff (inv_addQueue inv accountId queueName attr)).mp agrees
      (accountId, queueName)
    change Function.update maps.queues _ _ _ = none at empty
    rw [Function.update_self] at empty
    cases empty
  | removeAccountTopics accountId =>
    intro first second hasFirst hasSecond
    by_contra different
    rcases inv.topics.remains (asks_accountTopics accountId) (decide_eq_true rfl)
      (decide_eq_true rfl) hasFirst hasSecond
      (fun same => different (Prod.mk.inj same).2) with ⟨name, gone, found⟩
    have missed := agrees.topic name.1 name.2
    rw [show (maps.perform (.removeAccountTopics accountId)).topics (name.1, name.2) = none from
      if_pos gone] at missed
    exact found _ (fun topic keyed => (asks_topic name.1 name.2 topic).trans
      (decide_eq_true keyed)) (findRecord_none missed)
  | removeSubscription accountId topicName subscriptionName =>
    have same := agrees.subscription accountId topicName subscriptionName
    rw [show (maps.perform (.removeSubscription accountId topicName subscriptionName)).subscriptions
      (accountId, topicName, subscriptionName) = none from if_pos (decide_eq_true rfl)] at same
    have kept := findRecord_answer (removeSubscription_same inv accountId topicName subscriptionName)
      (asks_subscription accountId topicName subscriptionName) {}
    exact answer_none (kept.symm.trans same)
  | removeAccountSubscriptions accountId topicName =>
    intro first second hasFirst hasSecond
    by_contra different
    rcases inv.subscriptions.remains (asks_accountSubscriptions accountId topicName)
      (decide_eq_true ⟨rfl, rfl⟩) (decide_eq_true ⟨rfl, rfl⟩) hasFirst hasSecond
      (fun same => different (Prod.mk.inj (Prod.mk.inj same).2).2) with ⟨name, gone, found⟩
    have missed := agrees.subscription name.1 name.2.1 name.2.2
    rw [show (maps.perform (.removeAccountSubscriptions accountId topicName)).subscriptions
      (name.1, name.2.1, name.2.2) = none from if_pos gone] at missed
    exact found _ (fun subscription keyed =>
      (asks_subscription name.1 name.2.1 name.2.2 subscription).trans (decide_eq_true keyed))
      (findRecord_none missed)
  | _ => exact True.intro

/-! ## Runs -/

theorem initial_inv : StoreInv stores.initial :=
  ⟨nofun, .empty topicTable, .empty subscriptionTable⟩

theorem fresh_of_step {state next : MongoAdaptor × Maps}
    (taken : stores.step state call = some next) :
    state.2.fresh call = true ∧ next = (state.1.perform call, state.2.perform call) := by
  change (if state.2.fresh call then some (state.1.perform call, state.2.perform call) else none) =
    some next at taken
  by_cases fresh : state.2.fresh call = true
  · rw [if_pos fresh] at taken
    exact ⟨fresh, (Option.some.inj taken).symm⟩
  · rw [if_neg fresh] at taken
    cases taken

/-- The store answers like the maps at every moment of a run exactly when all of
its calls are faithful. -/
theorem agrees_throughout_iff (calls : List StoreCall) :
    stores.Throughout (fun state => Agrees state.1 state.2) stores.initial calls ↔
      stores.Allowed (fun state => Faithful state.2) stores.initial calls := by
  apply Machine.throughout_iff_allowed_of_idle
  case inv => exact StoreInv
  case keeps =>
    intro state call next inv faithful taken
    rcases fresh_of_step taken with ⟨fresh, rfl⟩
    exact inv_perform inv fresh faithful
  case decides =>
    intro state call next inv agrees taken
    rcases fresh_of_step taken with ⟨fresh, rfl⟩
    constructor
    · exact agrees_perform_faithful inv
    · intro faithful
      have empty := (agrees_iff inv).mp agrees
      exact (agrees_iff (inv_perform inv fresh faithful)).mpr (queues_perform empty faithful)
  case idle =>
    intro state call inv agrees stuck
    have stale : ¬ state.2.fresh call = true := by
      intro fresh
      rw [show stores.step state call = some _ from if_pos fresh] at stuck
      cases stuck
    cases call with
    | addQueue accountId queueName attr =>
      have empty := (agrees_iff inv).mp agrees (accountId, queueName)
      exact absurd (Option.isNone_iff_eq_none.mpr empty) stale
    | addTopic accountId topicName topic => exact True.intro
    | addSubscription accountId topicName subscription => exact True.intro
    | _ => exact absurd rfl stale
  case start => exact initial_inv
  case good => exact (agrees_iff initial_inv).mpr (fun _ => rfl)

/-- A queue is added and not found; a subscription is removed and found; the
topics of an account are removed, and one of the two is found. -/
theorem store_departs_from_maps :
    ¬ stores.Throughout (fun state => Agrees state.1 state.2) stores.initial
        [.addQueue (ascii "a") (ascii "q") {}] ∧
      ¬ stores.Throughout (fun state => Agrees state.1 state.2) stores.initial
        [.addSubscription (ascii "a") (ascii "t") { subscriptionName := ascii "s" },
          .removeSubscription (ascii "a") (ascii "t") (ascii "s")] ∧
      ¬ stores.Throughout (fun state => Agrees state.1 state.2) stores.initial
        [.addTopic (ascii "a") (ascii "t") {}, .addTopic (ascii "a") (ascii "u") {},
          .removeAccountTopics (ascii "a")] := by
  refine ⟨?_, ?_, ?_⟩
  · intro along
    have agrees : Agrees _ _ := along.2
    have same := agrees.queue (ascii "a") (ascii "q")
    exact absurd (congrArg Prod.snd same) (by decide)
  · intro along
    have agrees : Agrees _ _ := along.2.2
    have same := agrees.subscription (ascii "a") (ascii "t") (ascii "s")
    exact absurd (congrArg Prod.snd same) (by decide)
  · intro along
    have agrees : Agrees _ _ := along.2.2.2
    have same := agrees.topic (ascii "a") (ascii "u")
    exact absurd (congrArg Prod.snd same) (by decide)

end Mns
end Sentel
