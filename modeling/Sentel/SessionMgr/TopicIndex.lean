import Sentel.SessionMgr.ClientHoldings

namespace Sentel
namespace SessionMgr

open Library Base Queue Event SimpleTopicTree

/-!
# The index of a client's topics

Beside the tree, the session manager lists the topics of every client.  A
subscription is appended to the list even if the client has it already, and a
removal does not store the shortened list.  The list agrees with the tree as
long as topics are only added, each of them once.

The list is read when a clean session ends.  Each removal moves the unread
topics down by one place, so the topic after a removed one is passed over,
unless it is the last.
-/

namespace SimpleTopicTree

def IndexAgrees (tree : SimpleTopicTree) : Prop :=
  forall clientID topic, (tree.getSubscriptionTopics clientID).count topic =
    if (tree.stored clientID (levels topic)).isSome then 1 else 0

def KeepsIndex (tree : SimpleTopicTree) : TreeOp -> Prop
  | .add sub => tree.stored sub.clientID (levels sub.topic) = none
  | .remove clientID topic => tree.stored clientID (levels topic) = none

/-- Every call of a sequence, from the given tree on, keeps the index. -/
def AllKeepIndex : SimpleTopicTree -> List TreeOp -> Prop
  | _, [] => True
  | tree, op :: later => tree.KeepsIndex op ∧ AllKeepIndex (tree.apply op) later

theorem indexAgrees_initial : newSimpleTopicTree.IndexAgrees := by
  intro clientID topic
  have unlisted : newSimpleTopicTree.getSubscriptionTopics clientID = [] := rfl
  rw [unlisted, stored_initial]
  rfl

/-! ## The list of one client -/

theorem topics_add (tree : SimpleTopicTree) (sub : Subscription) :
    (tree.apply (.add sub)).topics =
      tree.topics.insert sub.clientID (tree.getSubscriptionTopics sub.clientID ++ [sub.topic]) := by
  rw [apply, addSubscription, if_neg (levels_ne_nil sub.topic), getSubscriptionTopics]
  cases tree.topics.lookup sub.clientID with
  | none | some list => rfl

theorem getSubscriptionTopics_add (tree : SimpleTopicTree) (sub : Subscription)
    (clientID : GoString) :
    (tree.apply (.add sub)).getSubscriptionTopics clientID =
      if clientID = sub.clientID then tree.getSubscriptionTopics clientID ++ [sub.topic]
      else tree.getSubscriptionTopics clientID := by
  rw [getSubscriptionTopics, topics_add]
  by_cases same : clientID = sub.clientID
  · rw [if_pos same, same, AList.lookup_insert, Option.getD_some]
  · rw [if_neg same, AList.lookup_insert_ne same, getSubscriptionTopics]

theorem forgotten_eq {index : List GoString} {topic : GoString} (listed : topic ∈ index) :
    exists (first : Nat) (bound : first < index.length), index[first] = topic ∧
      (forall (earlier : Nat) (before : earlier < first), index[earlier] ≠ topic) ∧
      forgotten index topic = shiftDown index first := by
  obtain ⟨first, found⟩ : exists first,
      index.findIdx? (fun entry => entry == topic) = some first := by
    rw [← Option.isSome_iff_exists, List.findIdx?_isSome, List.any_eq_true]
    exact ⟨topic, listed, beq_self_eq_true topic⟩
  rcases List.findIdx?_eq_some_iff_getElem.mp found with ⟨bound, matched, before⟩
  refine ⟨first, bound, beq_iff_eq.mp matched, fun earlier lower same => ?_, ?_⟩
  · exact before earlier lower (beq_iff_eq.mpr same)
  · rw [forgotten, found]

theorem shiftDown_length {index : List GoString} {position : Nat} (bound : position < index.length) :
    (shiftDown index position).length = index.length := by
  have nonempty : index ≠ [] := List.ne_nil_of_length_pos (Nat.zero_lt_of_lt bound)
  rw [shiftDown, List.getLast?_eq_getLast_of_ne_nil nonempty, List.length_append,
    List.length_append, List.length_take, List.length_drop, Option.toList_some,
    List.length_singleton]
  omega

theorem forgotten_repeats {index : List GoString} {topic : GoString} (listed : topic ∈ index) :
    topic ∈ forgotten index topic ∨ exists other, 1 < (forgotten index topic).count other := by
  rcases forgotten_eq listed with ⟨position, bound, here, _, shifted⟩
  have nonempty : index ≠ [] := List.ne_nil_of_mem listed
  rw [shifted, shiftDown, List.getLast?_eq_getLast_of_ne_nil nonempty, Option.toList_some]
  by_cases last : position + 1 = index.length
  · left
    have same : index.getLast nonempty = topic := by
      rw [List.getLast_eq_getElem, ← here]
      congr 1
      omega
    rw [same]
    exact List.mem_append_right _ List.mem_cons_self
  · right
    refine ⟨index.getLast nonempty, ?_⟩
    have later : index.getLast nonempty ∈ index.drop (position + 1) := by
      have remains : index.drop (position + 1) ≠ [] := by
        rw [ne_eq, List.drop_eq_nil_iff]
        omega
      rw [← List.getLast_drop remains]
      exact List.getLast_mem remains
    have once := List.count_pos_iff.mpr (List.mem_append_right (index.take position) later)
    rw [List.count_append, List.count_singleton_self]
    omega

/-! ## One call -/

theorem stored_add_topic (tree : SimpleTopicTree) (sub : Subscription) (clientID topic : GoString) :
    (tree.apply (.add sub)).stored clientID (levels topic) =
      if clientID = sub.clientID ∧ topic = sub.topic then some sub
      else tree.stored clientID (levels topic) := by
  have same : levels topic = levels sub.topic ↔ topic = sub.topic :=
    ⟨levels_injective, congrArg levels⟩
  simp only [stored_add, same]

theorem indexAgrees_apply_iff {tree : SimpleTopicTree} (agrees : tree.IndexAgrees) (op : TreeOp) :
    (tree.apply op).IndexAgrees ↔ tree.KeepsIndex op := by
  cases op with
  | add sub =>
    change _ ↔ tree.stored sub.clientID (levels sub.topic) = none
    have added : (tree.apply (.add sub)).stored sub.clientID (levels sub.topic) = some sub := by
      rw [stored_add_topic, if_pos ⟨rfl, rfl⟩]
    constructor
    · intro after
      have own := after sub.clientID sub.topic
      rw [getSubscriptionTopics_add, added, if_pos rfl, List.count_append,
        List.count_singleton_self, agrees sub.clientID sub.topic] at own
      cases before : tree.stored sub.clientID (levels sub.topic) with
      | none => rfl
      | some old => simp [before] at own
    · intro absent clientID topic
      by_cases changed : clientID = sub.clientID ∧ topic = sub.topic
      · rcases changed with ⟨rfl, rfl⟩
        rw [getSubscriptionTopics_add, added, if_pos rfl, List.count_append,
          List.count_singleton_self, agrees sub.clientID sub.topic, absent]
        rfl
      · have kept : (tree.apply (.add sub)).stored clientID (levels topic) =
            tree.stored clientID (levels topic) := by
          rw [stored_add_topic, if_neg changed]
        rw [getSubscriptionTopics_add, kept, ← agrees clientID topic]
        split
        case isTrue client =>
          have other : sub.topic ≠ topic := fun same => changed ⟨client, same.symm⟩
          rw [List.count_append, List.count_singleton, if_neg (mt beq_iff_eq.mp other),
            Nat.add_zero]
        case isFalse => rfl
  | remove clientID topic =>
    change _ ↔ tree.stored clientID (levels topic) = none
    constructor
    · intro after
      by_contra present
      have listed : topic ∈ tree.getSubscriptionTopics clientID := by
        rw [← List.count_pos_iff, agrees clientID topic,
          if_pos (Option.isSome_iff_ne_none.mpr present)]
        exact Nat.one_pos
      have index := getSubscriptionTopics_remove present
      rcases forgotten_repeats listed with kept | ⟨other, twice⟩
      · have gone : (tree.apply (.remove clientID topic)).stored clientID (levels topic) =
            none := by
          rw [stored_remove, if_pos ⟨rfl, rfl⟩]
        have own := after clientID topic
        rw [gone, index] at own
        exact absurd own (Nat.pos_iff_ne_zero.mp (List.count_pos_iff.mpr kept))
      · have counted := after clientID other
        rw [index] at counted
        split at counted <;> omega
    · intro absent
      rw [apply_remove_absent absent]
      exact agrees

/-! ## Sequences of calls -/

theorem indexAgrees_take_iff {tree : SimpleTopicTree} (agrees : tree.IndexAgrees)
    (ops : List TreeOp) :
    (forall calls, ((ops.take calls).foldl apply tree).IndexAgrees) ↔ tree.AllKeepIndex ops := by
  induction ops generalizing tree with
  | nil => simpa [AllKeepIndex] using agrees
  | cons op later ih =>
    rw [AllKeepIndex, ← indexAgrees_apply_iff agrees]
    constructor
    · intro always
      have first : (tree.apply op).IndexAgrees := always 1
      exact ⟨first, (ih first).mp (fun calls => always (calls + 1))⟩
    · rintro ⟨first, rest⟩ calls
      cases calls with
      | zero => exact agrees
      | succ calls => exact (ih first).mpr rest calls

/-- Along a sequence of calls the index agrees with the tree in every state
exactly when no client subscribes to a topic that it has and no client gives up
a topic that it has. -/
theorem indexAgrees_iff (ops : List TreeOp) :
    (forall calls, (after (ops.take calls)).IndexAgrees) ↔
      newSimpleTopicTree.AllKeepIndex ops :=
  indexAgrees_take_iff indexAgrees_initial ops

/-- A topic that has been given up is still listed. -/
theorem removed_topic_still_listed :
    ¬ (after
      [.add { clientID := ascii "c", topic := ascii "t", qos := 0, queue := 0 },
        .remove (ascii "c") (ascii "t")]).IndexAgrees := by
  intro agrees
  have own := agrees (ascii "c") (ascii "t")
  revert own
  decide +kernel

end SimpleTopicTree

/-! ## The topics that a sweep reaches -/

/-- Removing the topics of a list in order reaches every path that is held.
The topic after a removed one is passed over, unless it is the last. -/
def SweepReaches : List GoString -> (List GoString -> Prop) -> Prop
  | [], held => forall path, ¬held path
  | [last], held => forall path, held path -> path = levels last
  | [topic, last], held => forall path, held path -> path = levels topic ∨ path = levels last
  | topic :: next :: third :: rest, held =>
    (held (levels topic) ∧
      SweepReaches (third :: rest) (fun path => held path ∧ path ≠ levels topic)) ∨
    (¬held (levels topic) ∧ SweepReaches (next :: third :: rest) held)

theorem sweepReaches_repeat (index : List GoString) (nonempty : index ≠ [])
    (held : List GoString -> Prop) :
    SweepReaches (index ++ [index.getLast nonempty]) held ↔ SweepReaches index held := by
  fun_induction SweepReaches index held with
  | case1 => exact absurd rfl nonempty
  | case2 last held =>
    simp [SweepReaches]
  | case3 topic last held =>
    by_cases first : held (levels topic)
    · simp only [List.cons_append, List.nil_append, List.getLast_cons_cons,
        List.getLast_singleton, SweepReaches, first, true_and, not_true, false_and, or_false]
      exact forall_congr' (fun path => by tauto)
    · simp only [List.cons_append, List.nil_append, List.getLast_cons_cons,
        List.getLast_singleton, SweepReaches, first, true_and, not_false_iff, false_and,
        false_or, or_self]
      refine forall_congr' (fun path => ⟨fun reached now => .inr (reached now), ?_⟩)
      exact fun reached now => (reached now).resolve_left (fun same => first (same ▸ now))
  | case4 topic next third rest held removed kept =>
    have removedAgain := removed (List.cons_ne_nil third rest)
    have keptAgain := kept (List.cons_ne_nil next (third :: rest))
    simp only [List.cons_append, List.getLast_cons_cons, SweepReaches] at removedAgain keptAgain ⊢
    rw [removedAgain, keptAgain]

theorem forgotten_drop {index : List GoString} {topic : GoString} {position : Nat}
    {unread : List GoString} (reading : index.drop position = topic :: unread) :
    (forgotten index topic).drop (position + 1) =
      unread.drop 1 ++ unread.getLast?.toList := by
  have bound : position < index.length := by
    by_contra beyond
    rw [List.drop_eq_nil_of_le (Nat.le_of_not_lt beyond)] at reading
    cases reading
  rw [List.drop_eq_getElem_cons bound] at reading
  rcases List.cons.inj reading with ⟨here, rest⟩
  rcases forgotten_eq (here ▸ List.getElem_mem bound)
      with ⟨first, _, _, before, shifted⟩
  have notLater : first ≤ position :=
    Nat.le_of_not_lt (fun later => before position later here)
  -- The removed entry lies at or before the reading position.
  have moved : (index.take first ++ index.drop (first + 1)).drop (position + 1) =
      unread.drop 1 := by
    rw [← rest, List.drop_drop, List.drop_append, List.drop_eq_nil_of_le, List.nil_append,
      List.drop_drop, List.length_take]
    · congr 1
      omega
    · rw [List.length_take]
      omega
  rw [shifted, shiftDown]
  by_cases done : unread = []
  · subst done
    apply List.drop_eq_nil_of_le
    rw [← shiftDown, shiftDown_length (Nat.lt_of_le_of_lt notLater bound)]
    exact List.drop_eq_nil_iff.mp rest
  · have more : position + 1 < index.length := by
      by_contra beyond
      exact done (rest ▸ List.drop_eq_nil_of_le (Nat.le_of_not_lt beyond))
    have sameLast : index.getLast? = unread.getLast? := by
      rw [← rest, List.getLast?_drop, if_neg (Nat.not_le_of_lt more)]
    rw [List.drop_append_of_le_length, moved, sameLast]
    rw [List.length_append, List.length_take, List.length_drop]
    omega

theorem sweepReaches_cons (topic : GoString) (unread : List GoString)
    (held : List GoString -> Prop) :
    SweepReaches (topic :: unread) held ↔
      (held (levels topic) ∧ SweepReaches (unread.drop 1 ++ unread.getLast?.toList)
        (fun path => held path ∧ path ≠ levels topic)) ∨
      (¬held (levels topic) ∧ SweepReaches unread held) := by
  cases unread with
  | nil =>
    simp only [List.drop_nil, List.getLast?_nil, Option.toList_none, List.append_nil,
      SweepReaches]
    by_cases first : held (levels topic)
    · simp only [first, true_and, not_true, false_and, or_false]
      exact forall_congr' (fun path => by tauto)
    · simp only [first, not_false_iff, true_and, false_and, false_or]
      refine forall_congr' (fun path => ⟨fun reached now => first (reached now ▸ now), ?_⟩)
      exact fun never now => absurd now never
  | cons next later =>
    cases later with
    | nil =>
      simp only [List.drop_succ_cons, List.drop_nil, List.getLast?_singleton,
        Option.toList_some, List.nil_append, SweepReaches]
      by_cases first : held (levels topic)
      · simp only [first, true_and, not_true, false_and, or_false]
        exact forall_congr' (fun path => by tauto)
      · simp only [first, not_false_iff, true_and, false_and, false_or]
        refine forall_congr' (fun path => ⟨fun reached now => ?_, fun reached now => ?_⟩)
        · exact (reached now).resolve_left (fun same => first (same ▸ now))
        · exact .inr (reached now)
    | cons third rest =>
      have repeated := sweepReaches_repeat (third :: rest) (List.cons_ne_nil third rest)
        (fun path => held path ∧ path ≠ levels topic)
      have last : (next :: third :: rest).getLast? =
          some ((third :: rest).getLast (List.cons_ne_nil third rest)) := by
        rw [List.getLast?_cons_cons, List.getLast?_eq_getLast_of_ne_nil]
      rw [SweepReaches, last, Option.toList_some, List.drop_succ_cons, List.drop_zero, repeated]

theorem sweepClears_iff (count position : Nat) (index : List GoString)
    (held : List GoString -> Prop) (whole : position + count = index.length) :
    SweepClears (List.range' position count) index held ↔
      SweepReaches (index.drop position) held := by
  induction count generalizing position index held with
  | zero =>
    have done : index.drop position = [] := List.drop_eq_nil_of_le (Nat.le_of_eq whole.symm)
    rw [done]
    rfl
  | succ count ih =>
    have bound : position < index.length := by omega
    have reading := List.drop_eq_getElem_cons bound
    have listed : index[position] ∈ index := List.getElem_mem bound
    rcases forgotten_eq listed with ⟨first, within, _, _, shifted⟩
    have length : (forgotten index index[position]).length = index.length := by
      rw [shifted, shiftDown_length within]
    rw [List.range'_succ, SweepClears, List.getElem?_eq_getElem bound, reading,
      sweepReaches_cons, ← forgotten_drop reading]
    refine or_congr (and_congr_right (fun _ => ?_)) (and_congr_right (fun _ => ?_))
    · exact ih (position + 1) _ _ (by omega)
    · exact ih (position + 1) _ _ (by omega)

/-! ## The end of a clean session -/

/-- Nothing is left of a client, and what belongs to others is as before. -/
structure ClearsClient (before after : Broker) (clientId : GoString) : Prop where
  tree : forall path, after.tree.stored clientId path = none
  session : after.findSession clientId = none
  queue : after.queueService.getQueue clientId = none
  others : forall other, other ≠ clientId -> Broker.SameHoldings before after other
  objects : after.queueService.heap = before.queueService.heap ∧
    after.queueService.collections = before.queueService.collections

/-- The end of a session that is not persistent clears its client exactly when
the sweep over the index of the client reaches all its subscriptions. -/
theorem clearsClient_iff (broker : Broker) (event : SessionDestroyEvent) {session : Session}
    (registered : broker.findSession event.clientId = some session)
    (clean : session.isPersistent = false) :
    ClearsClient broker (broker.onSessionDestroy event) event.clientId ↔
      SweepReaches (broker.tree.getSubscriptionTopics event.clientId)
        (fun path => broker.tree.stored event.clientId path ≠ none) := by
  have ended := @Broker.onSessionDestroy_clean broker event (by rw [registered]; exact clean)
  have swept := Broker.removeTopics_clears_iff event.clientId
    (List.range (broker.tree.getSubscriptionTopics event.clientId).length) broker.tree
  rw [List.range_eq_range', sweepClears_iff _ 0 _ _ (Nat.zero_add _), List.drop_zero,
    ← List.range_eq_range'] at swept
  rw [ended, ← swept]
  refine ⟨fun cleared => cleared.tree, fun reached => ⟨reached, ?_, ?_, ?_, rfl, rfl⟩⟩
  · exact AList.lookup_erase _ _
  · exact AList.lookup_erase _ _
  · intro other different
    exact ⟨AList.lookup_erase_ne different, AList.lookup_erase_ne different, fun _ _ => rfl,
      fun path => Broker.removeTopics_stored_of_ne different _ broker.tree path⟩

def subscribedBroker (topics : List GoString) : Broker :=
  let broker := newBroker (ascii "b")
  let opened := broker.queueService.newQueue (ascii "c") false (.ok ())
  let connected := { broker with queueService := opened.2 }.registerSession (ascii "c")
    (.mqtt 0 false)
  topics.foldl (fun broker topic => (broker.handleEvent RangeOrder.listed (.ok ())
    (.topicSubscribe
      { brokerID := ascii "b", clientID := ascii "c", topic := topic, qos := 0 })).1) connected

/-- Two topics are both cleared. -/
theorem two_topics_cleared :
    ClearsClient (subscribedBroker [ascii "x", ascii "y"])
      ((subscribedBroker [ascii "x", ascii "y"]).onSessionDestroy { clientId := ascii "c" })
      (ascii "c") := by
  have registered : (subscribedBroker [ascii "x", ascii "y"]).findSession (ascii "c") =
      some (.mqtt 0 false) := rfl
  refine (clearsClient_iff _ { clientId := ascii "c" } registered rfl).mpr ?_
  intro path held
  by_contra elsewhere
  rcases not_or.mp elsewhere with ⟨notFirst, notSecond⟩
  apply held
  change ((newSimpleTopicTree.apply (.add _)).apply (.add _)).stored (ascii "c") path = none
  rw [stored_add, if_neg (fun both => notSecond both.2),
    stored_add, if_neg (fun both => notFirst both.2),
    stored_initial]

/-- Of three topics one stays in the tree. -/
theorem third_topic_not_cleared :
    (subscribedBroker [ascii "x", ascii "y", ascii "z"]).findSession (ascii "c") =
        some (.mqtt 0 false) ∧
      ¬ ClearsClient (subscribedBroker [ascii "x", ascii "y", ascii "z"])
        ((subscribedBroker [ascii "x", ascii "y", ascii "z"]).onSessionDestroy
          { clientId := ascii "c" }) (ascii "c") := by
  refine ⟨by decide +kernel, fun cleared => ?_⟩
  have missed := cleared.tree (levels (ascii "y"))
  revert missed
  decide +kernel

end SessionMgr
end Sentel
