import Mathlib.Data.List.Induction
import Sentel.SessionMgr.TopicTree

namespace Sentel
namespace SessionMgr

open Library Base

/-!
# The topic tree implements the subscription table

The tree stores a subscription at the path of its levels, while the table
names it by client and topic.  Splitting is injective, so a path belongs to at
most one topic and the two descriptions can be compared entry by entry.  The
relation below also records where a stored subscription may lie, because the
search of the tree reports nodes and not topics.
-/

theorem levels_ne_nil (topic : GoString) : levels topic ≠ [] :=
  split_ne_nil slash topic

theorem levels_injective {left right : GoString} (same : levels left = levels right) :
    left = right :=
  split_injective slash same

structure Refines (tree : SimpleTopicTree) (table : SubscriptionTable) : Prop where
  distinct : tree.root.DistinctKeys
  agrees : forall clientID topic,
    (tree.subsAt (levels topic)).lookup clientID = table.lookup (clientID, topic)
  placed : forall path clientID sub, (tree.subsAt path).lookup clientID = some sub ->
    sub.clientID = clientID ∧ levels sub.topic = path

namespace SimpleTopicTree

variable {tree : SimpleTopicTree}

theorem subsAt_of_descend {path : List GoString} {node : TopicNode}
    (found : tree.root.descend path = some node) : tree.subsAt path = node.value.subs := by
  unfold subsAt Trie.readAt
  rw [found]
  rfl

theorem subsAt_of_missing {path : List GoString} (missing : tree.root.descend path = none) :
    tree.subsAt path = ∅ := by
  unfold subsAt Trie.readAt
  rw [missing]
  rfl

def writeSubs (tree : SimpleTopicTree)
    (effect : AList (fun _ : GoString => Subscription) -> AList (fun _ : GoString => Subscription))
    (path : List GoString) (topics : AList (fun _ : GoString => List GoString)) :
    SimpleTopicTree where
  root := Trie.updateAt freshNode (fun node => { node with subs := effect node.subs }) path tree.root
  topics := topics

theorem freshNode_subs (level : GoString) : (freshNode level).subs = ∅ := rfl

section Writing

variable (tree : SimpleTopicTree)
  (effect : AList (fun _ : GoString => Subscription) -> AList (fun _ : GoString => Subscription))
  (topics : AList (fun _ : GoString => List GoString))

theorem subsAt_writeSubs_self (path : List GoString) :
    (tree.writeSubs effect path topics).subsAt path = effect (tree.subsAt path) :=
  Trie.readAt_updateAt_self freshNode_subs (fun _ => rfl) path tree.root

theorem subsAt_writeSubs_of_ne {path other : List GoString} (different : other ≠ path) :
    (tree.writeSubs effect path topics).subsAt other = tree.subsAt other :=
  Trie.readAt_updateAt_of_ne freshNode_subs different tree.root

end Writing

theorem addSubscription_eq (tree : SimpleTopicTree) (sub : Subscription) :
    exists topics, tree.addSubscription sub =
      .ok (tree.writeSubs (fun subs => subs.insert sub.clientID sub) (levels sub.topic) topics) := by
  unfold addSubscription
  rw [if_neg (levels_ne_nil sub.topic)]
  exact ⟨_, rfl⟩

theorem removeSubscription_cases (tree : SimpleTopicTree) (clientID topic : GoString) :
    ((tree.subsAt (levels topic)).lookup clientID = none ∧
      exists reason, tree.removeSubscription clientID topic = .error reason) ∨
    ((tree.subsAt (levels topic)).lookup clientID ≠ none ∧
      tree.removeSubscription clientID topic =
        .ok (tree.writeSubs (fun subs => subs.erase clientID) (levels topic)
          (forgetTopic tree.topics clientID topic))) := by
  unfold removeSubscription
  cases found : tree.root.descend (levels topic) with
  | none =>
    left
    rw [subsAt_of_missing found]
    exact ⟨AList.lookup_empty clientID, _, rfl⟩
  | some node =>
    rw [subsAt_of_descend found]
    cases present : node.value.subs.lookup clientID with
    | none =>
      left
      simp only [present]
      exact ⟨trivial, _, rfl⟩
    | some sub =>
      right
      simp only [present]
      exact ⟨Option.some_ne_none sub, rfl⟩

theorem apply_add (tree : SimpleTopicTree) (sub : Subscription) :
    exists topics, tree.apply (.add sub) =
      tree.writeSubs (fun subs => subs.insert sub.clientID sub) (levels sub.topic) topics := by
  rcases tree.addSubscription_eq sub with ⟨topics, added⟩
  refine ⟨topics, ?_⟩
  rw [apply, added]
  rfl

theorem apply_remove_absent {clientID topic : GoString}
    (absent : (tree.subsAt (levels topic)).lookup clientID = none) :
    tree.apply (.remove clientID topic) = tree := by
  rcases tree.removeSubscription_cases clientID topic with ⟨_, reason, failed⟩ | ⟨present, _⟩
  · rw [apply, failed]
    rfl
  · exact absurd absent present

theorem apply_remove_present {clientID topic : GoString}
    (present : (tree.subsAt (levels topic)).lookup clientID ≠ none) :
    tree.apply (.remove clientID topic) =
      tree.writeSubs (fun subs => subs.erase clientID) (levels topic)
        (forgetTopic tree.topics clientID topic) := by
  rcases tree.removeSubscription_cases clientID topic with ⟨absent, _⟩ | ⟨_, removed⟩
  · exact absurd absent present
  · rw [apply, removed]
    rfl

end SimpleTopicTree

namespace Refines

variable {tree : SimpleTopicTree} {table : SubscriptionTable}

theorem initial : Refines newSimpleTopicTree ∅ := by
  have absent : forall path, newSimpleTopicTree.subsAt path = ∅ := fun path =>
    Trie.readAt_fresh SimpleTopicTree.freshNode_subs (ascii "root") path
  constructor
  · exact Trie.distinctKeys_leaf _
  · intro clientID topic
    rw [absent, AList.lookup_empty, AList.lookup_empty]
  · intro path clientID sub stored
    rw [absent, AList.lookup_empty] at stored
    cases stored

theorem write (refines : Refines tree table) (clientID topic : GoString)
    (entry : Option Subscription) {nextTable : SubscriptionTable}
    {effect : AList (fun _ : GoString => Subscription) -> AList (fun _ : GoString => Subscription)}
    (own : forall sub, entry = some sub -> sub.clientID = clientID ∧ sub.topic = topic)
    (written : forall subs, (effect subs).lookup clientID = entry)
    (others : forall subs other, other ≠ clientID -> (effect subs).lookup other = subs.lookup other)
    (tableWritten : nextTable.lookup (clientID, topic) = entry)
    (tableOthers : forall key, key ≠ (clientID, topic) -> nextTable.lookup key = table.lookup key)
    (topics : AList (fun _ : GoString => List GoString)) :
    Refines (tree.writeSubs effect (levels topic) topics) nextTable := by
  constructor
  · exact refines.distinct.updateAt _ _ _
  · intro otherClient otherTopic
    by_cases samePath : levels otherTopic = levels topic
    · have sameTopic := levels_injective samePath
      subst otherTopic
      rw [SimpleTopicTree.subsAt_writeSubs_self]
      by_cases sameClient : otherClient = clientID
      · subst otherClient
        rw [written, tableWritten]
      · have otherKey : (otherClient, topic) ≠ (clientID, topic) :=
          fun equal => sameClient (congrArg Prod.fst equal)
        rw [others _ _ sameClient, tableOthers _ otherKey]
        exact refines.agrees otherClient topic
    · have otherKey : (otherClient, otherTopic) ≠ (clientID, topic) :=
        fun equal => samePath (congrArg (fun key => levels key.2) equal)
      rw [SimpleTopicTree.subsAt_writeSubs_of_ne _ _ _ samePath, tableOthers _ otherKey]
      exact refines.agrees otherClient otherTopic
  · intro path otherClient sub stored
    by_cases samePath : path = levels topic
    · subst path
      rw [SimpleTopicTree.subsAt_writeSubs_self] at stored
      by_cases sameClient : otherClient = clientID
      · subst otherClient
        rw [written] at stored
        have mine := own sub stored
        exact ⟨mine.1, congrArg levels mine.2⟩
      · rw [others _ _ sameClient] at stored
        exact refines.placed _ _ _ stored
    · rw [SimpleTopicTree.subsAt_writeSubs_of_ne _ _ _ samePath] at stored
      exact refines.placed _ _ _ stored

theorem add (refines : Refines tree table) (sub : Subscription) :
    Refines (tree.apply (.add sub)) (table.apply (.add sub)) := by
  rcases tree.apply_add sub with ⟨topics, applied⟩
  rw [applied]
  apply refines.write sub.clientID sub.topic (some sub)
  · intro found same
    cases same
    exact ⟨rfl, rfl⟩
  · intro subs
    exact AList.lookup_insert subs
  · intro subs other different
    exact AList.lookup_insert_ne different
  · exact AList.lookup_insert table
  · intro key different
    exact AList.lookup_insert_ne different

theorem remove (refines : Refines tree table) (clientID topic : GoString) :
    Refines (tree.apply (.remove clientID topic)) (table.apply (.remove clientID topic)) := by
  by_cases absent : (tree.subsAt (levels topic)).lookup clientID = none
  · rw [SimpleTopicTree.apply_remove_absent absent]
    refine ⟨refines.distinct, ?_, refines.placed⟩
    intro otherClient otherTopic
    change _ = AList.lookup (otherClient, otherTopic) (table.erase (clientID, topic))
    by_cases same : (otherClient, otherTopic) = (clientID, topic)
    · cases same
      rw [AList.lookup_erase, absent]
    · rw [AList.lookup_erase_ne same]
      exact refines.agrees otherClient otherTopic
  · rw [SimpleTopicTree.apply_remove_present absent]
    apply refines.write clientID topic none
    · intro found impossible
      cases impossible
    · intro subs
      exact AList.lookup_erase clientID subs
    · intro subs other different
      exact AList.lookup_erase_ne different
    · exact AList.lookup_erase _ table
    · intro key different
      exact AList.lookup_erase_ne different

theorem step (refines : Refines tree table) (op : TreeOp) :
    Refines (tree.apply op) (table.apply op) := by
  cases op with
  | add sub => exact refines.add sub
  | remove clientID topic => exact refines.remove clientID topic

theorem after (ops : List TreeOp) :
    Refines (SimpleTopicTree.after ops) (SubscriptionTable.after ops) := by
  have fromAny : forall (ops : List TreeOp) (tree : SimpleTopicTree) (table : SubscriptionTable),
      Refines tree table ->
      Refines (ops.foldl SimpleTopicTree.apply tree) (ops.foldl SubscriptionTable.apply table) := by
    intro ops
    induction ops with
    | nil =>
      intro tree table refines
      exact refines
    | cons op rest ih =>
      intro tree table refines
      exact ih _ _ (refines.step op)
  exact fromAny ops _ _ initial

theorem keyed (refines : Refines tree table) {key : GoString × GoString} {sub : Subscription}
    (present : table.lookup key = some sub) : key = (sub.clientID, sub.topic) := by
  have stored := refines.agrees key.1 key.2
  rw [present] at stored
  have place := refines.placed _ _ _ stored
  have sameTopic := levels_injective place.2
  rw [place.1, sameTopic]

end Refines

/-! ## Exact lookups

What a history of calls leaves for a client and a topic is decided by the last
call about that pair.  The table follows the history entry by entry, so a
lookup in the tree is a question about the history alone.  The text of an error
is not: a client that adds a longer topic creates the nodes on its way, and a
lookup that failed at a missing node then fails at an unknown client.
-/

namespace TreeOp

/-- The client and topic that a call is about. -/
def key : TreeOp -> GoString × GoString
  | .add sub => (sub.clientID, sub.topic)
  | .remove clientID topic => (clientID, topic)

/-- What a call leaves for its client and topic. -/
def leaves : TreeOp -> Option Subscription
  | .add sub => some sub
  | .remove _ _ => none

/-- The subscription that a history leaves for a client and topic: the one
most recently added, unless it was removed since. -/
def mostRecent (ops : List TreeOp) (key : GoString × GoString) : Option Subscription :=
  (ops.reverse.find? (fun op => decide (op.key = key))).bind leaves

theorem mostRecent_concat_self (ops : List TreeOp) (op : TreeOp) :
    mostRecent (ops ++ [op]) op.key = op.leaves := by
  simp [mostRecent]

theorem mostRecent_concat_of_ne (ops : List TreeOp) {op : TreeOp} {key : GoString × GoString}
    (different : key ≠ op.key) : mostRecent (ops ++ [op]) key = mostRecent ops key := by
  simp [mostRecent, different.symm]

end TreeOp

namespace SubscriptionTable

theorem lookup_apply_self (table : SubscriptionTable) (op : TreeOp) :
    (table.apply op).lookup op.key = op.leaves := by
  cases op with
  | add sub => exact AList.lookup_insert table
  | remove clientID topic => exact AList.lookup_erase _ table

theorem lookup_apply_of_ne (table : SubscriptionTable) {op : TreeOp} {key : GoString × GoString}
    (different : key ≠ op.key) : (table.apply op).lookup key = table.lookup key := by
  cases op with
  | add sub => exact AList.lookup_insert_ne different
  | remove clientID topic => exact AList.lookup_erase_ne different

theorem after_concat (ops : List TreeOp) (op : TreeOp) :
    after (ops ++ [op]) = (after ops).apply op := by
  simp [after, List.foldl_append]

theorem lookup_after (ops : List TreeOp) (key : GoString × GoString) :
    (after ops).lookup key = TreeOp.mostRecent ops key := by
  induction ops using List.reverseRecOn with
  | nil => exact AList.lookup_empty key
  | append_singleton ops op ih =>
    rw [after_concat]
    by_cases same : key = op.key
    · subst same
      rw [lookup_apply_self, TreeOp.mostRecent_concat_self]
    · rw [lookup_apply_of_ne _ same, TreeOp.mostRecent_concat_of_ne _ same, ih]

end SubscriptionTable

namespace SimpleTopicTree

theorem after_concat (ops : List TreeOp) (op : TreeOp) :
    after (ops ++ [op]) = (after ops).apply op := by
  simp [after, List.foldl_append]

theorem getSubscription_toOption (tree : SimpleTopicTree) (clientID topic : GoString) :
    (tree.getSubscription clientID topic).toOption =
      (tree.subsAt (levels topic)).lookup clientID := by
  unfold getSubscription
  cases found : tree.root.descend (levels topic) with
  | none =>
    rw [subsAt_of_missing found, AList.lookup_empty]
    rfl
  | some node =>
    rw [subsAt_of_descend found]
    cases present : node.value.subs.lookup clientID with
    | none | some sub => simp only [present]; rfl

theorem stored_after (ops : List TreeOp) (clientID topic : GoString) :
    ((after ops).subsAt (levels topic)).lookup clientID =
      TreeOp.mostRecent ops (clientID, topic) :=
  ((Refines.after ops).agrees clientID topic).trans
    (SubscriptionTable.lookup_after ops (clientID, topic))

theorem getSubscription_after (ops : List TreeOp) (clientID topic : GoString) :
    ((after ops).getSubscription clientID topic).toOption =
      TreeOp.mostRecent ops (clientID, topic) :=
  (getSubscription_toOption _ clientID topic).trans (stored_after ops clientID topic)

theorem removeSubscription_after (ops : List TreeOp) (clientID topic : GoString) :
    (exists reason, (after ops).removeSubscription clientID topic = .error reason) ↔
      TreeOp.mostRecent ops (clientID, topic) = none := by
  rw [← stored_after]
  rcases (after ops).removeSubscription_cases clientID topic with
    ⟨absent, failed⟩ | ⟨present, removed⟩
  · exact ⟨fun _ => absent, fun _ => failed⟩
  · constructor
    · rintro ⟨reason, failed⟩
      rw [removed] at failed
      cases failed
    · intro absent
      exact absurd absent present

/-- The tree answers exact lookups as a map from client and topic does, after
every history of calls: a lookup answers with the subscription most recently
added and not removed since, and with an error when there is none; a removal
fails exactly when there is none, and then leaves the tree; and a call changes
the answer for no other client or topic. -/
theorem exact_lookup_laws (ops : List TreeOp) :
    (forall clientID topic sub,
      (after ops).getSubscription clientID topic = .ok sub ↔
        TreeOp.mostRecent ops (clientID, topic) = some sub) ∧
    (forall clientID topic,
      (exists reason, (after ops).getSubscription clientID topic = .error reason) ↔
        TreeOp.mostRecent ops (clientID, topic) = none) ∧
    (forall clientID topic,
      (exists reason, (after ops).removeSubscription clientID topic = .error reason) ↔
        TreeOp.mostRecent ops (clientID, topic) = none) ∧
    (forall clientID topic, TreeOp.mostRecent ops (clientID, topic) = none ->
      after (ops ++ [.remove clientID topic]) = after ops) ∧
    (forall (op : TreeOp) clientID topic, (clientID, topic) ≠ op.key ->
      ((after (ops ++ [op])).getSubscription clientID topic).toOption =
        ((after ops).getSubscription clientID topic).toOption) := by
  refine ⟨?_, ?_, removeSubscription_after ops, ?_, ?_⟩
  · intro clientID topic sub
    rw [← getSubscription_after]
    cases (after ops).getSubscription clientID topic with
    | error reason | ok found => simp [Except.toOption]
  · intro clientID topic
    rw [← getSubscription_after]
    cases (after ops).getSubscription clientID topic with
    | error reason | ok found => simp [Except.toOption]
  · intro clientID topic absent
    rw [after_concat]
    apply apply_remove_absent
    rw [stored_after, absent]
  · intro op clientID topic different
    rw [getSubscription_after, getSubscription_after,
      TreeOp.mostRecent_concat_of_ne ops different]

end SimpleTopicTree

end SessionMgr
end Sentel
