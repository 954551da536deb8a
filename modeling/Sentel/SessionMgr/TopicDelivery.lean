import Mathlib.Algebra.Order.BigOperators.Group.List
import Mathlib.Algebra.Order.Group.Nat
import Sentel.SessionMgr.TopicTreeRefinement

namespace Sentel
namespace SessionMgr

open Library Base SimpleTopicTree

/-!
# Which subscribers a published message reaches

A filter matches a topic level by level.  The tree is searched by committing,
at every node, to the first child that passes the search's test; there is no
backtracking, a multi-level wildcard is entered only when its node has
children, and the levels below it are not consulted.  The search therefore
reports at most one node, and which one may depend on the order of a map.

Everything the search can report is a matching filter.  The converse holds
only when the search has no choice: at every level of the topic the children
that pass its test are exactly the next level of the filter.  This is the
condition under which a matching subscription is served for every order, and
it is also necessary, because an order may put any other passing child first.
-/

/-- Level-by-level matching of a filter against a topic.  A last `#` matches
any number of remaining levels, none included. -/
def filterMatches : List GoString -> List GoString -> Bool
  | [], [] => true
  | [], _ :: _ => false
  | step :: further, [] => step == hash && further.isEmpty
  | step :: further, level :: rest =>
    (step == hash && further.isEmpty) ||
      ((step == plus || step == level) && filterMatches further rest)

def matching (table : SubscriptionTable) (msg : Message) : List Subscription :=
  (table.entries.map (fun entry => entry.2)).filter
    (fun sub => filterMatches (levels sub.topic) (levels msg.topic))

def lowerQos (published subscribed : UInt8) : UInt8 :=
  if published ≤ subscribed then published else subscribed

def pushView (push : QueueRef × Message) : QueueRef × GoString × List UInt8 × UInt8 :=
  (push.1, push.2.topic, push.2.payload, push.2.qos)

def expectedPushes (table : SubscriptionTable) (msg : Message) :
    List (QueueRef × GoString × List UInt8 × UInt8) :=
  (matching table msg).map
    (fun sub => (sub.queue, msg.topic, msg.payload, lowerQos msg.qos sub.qos))

/-- After the given calls, the message is delivered as called for, whatever
order the maps are ranged over in. -/
def DeliversExactly (ops : List TreeOp) (msg : Message) : Prop :=
  forall order : RangeOrder,
    (((after ops).addMessage order msg).map pushView).Perm
      (expectedPushes (SubscriptionTable.after ops) msg)

/-! ## The path of a search -/

/-- The child test of `searchNode` at a level of the topic. -/
def passes (level : GoString) (entry : Sigma fun _ : GoString => TopicNode) : Bool :=
  entersLevel level entry || stopsAtHash entry

def searchPath (order : RangeOrder) : Nat -> TopicNode -> List GoString -> Option (List GoString)
  | depth, node, [] =>
    ((order.children depth node.children).find? stopsAtHash).map (fun entry => [entry.1])
  | depth, node, level :: rest =>
    match (order.children depth node.children).find? (passes level) with
    | none => none
    | some entry =>
      if entersLevel level entry then
        if rest.isEmpty then some [entry.1]
        else (searchPath order (depth + 1) entry.2 rest).map (fun further => entry.1 :: further)
      else some [entry.1]

variable {order : RangeOrder} {depth : Nat} {node : TopicNode}
  {entry : Sigma fun _ : GoString => TopicNode} {topic filter : List GoString} {level : GoString}

theorem found_child {test : (Sigma fun _ : GoString => TopicNode) -> Bool}
    (found : (order.children depth node.children).find? test = some entry) :
    entry ∈ node.children ∧ test entry = true :=
  ⟨(order.children_perm depth node.children).mem_iff.mp (List.mem_of_find?_eq_some found),
    List.find?_some found⟩

theorem child_of_mem (distinct : node.DistinctKeys) (member : entry ∈ node.children) :
    node.child entry.1 = some entry.2 :=
  distinct.mem_children_iff.mp member

theorem searchNode_eq_descend (order : RangeOrder) (depth : Nat) (node : TopicNode)
    (distinct : node.DistinctKeys) (topic : List GoString) (setRetain : Bool) :
    searchNode order depth node topic setRetain =
      (searchPath order depth node topic).bind (fun path => node.descend path) := by
  induction topic generalizing depth node setRetain with
  | nil =>
    rw [searchNode, searchPath]
    cases found : (order.children depth node.children).find? stopsAtHash with
    | none => rfl
    | some entry =>
      have known := child_of_mem distinct (found_child found).1
      simp [known]
  | cons level rest ih =>
    rw [searchNode, searchPath]
    change (match (order.children depth node.children).find? (passes level) with
      | none => none
      | some entry => _) = _
    cases found : (order.children depth node.children).find? (passes level) with
    | none => rfl
    | some entry =>
      have known := child_of_mem distinct (found_child found).1
      by_cases enters : entersLevel level entry = true
      · by_cases last : rest.isEmpty = true
        · simp [enters, last, known]
        · simp only [enters, last, if_true, Bool.false_eq_true, if_false]
          rw [ih (depth + 1) entry.2 (distinct.child known)]
          cases searchPath order (depth + 1) entry.2 rest with
          | none => rfl
          | some further => simp [known]
      · simp [enters, known]

theorem searchPath_matches {path : List GoString}
    (found : searchPath order depth node topic = some path) : filterMatches path topic = true := by
  induction topic generalizing depth node path with
  | nil =>
    rw [searchPath] at found
    rcases Option.map_eq_some_iff.mp found with ⟨entry, chosen, shape⟩
    have stops := (found_child chosen).2
    subst path
    simp only [stopsAtHash, Bool.and_eq_true] at stops
    simp [filterMatches, stops.1]
  | cons level rest ih =>
    rw [searchPath] at found
    cases chosen : (order.children depth node.children).find? (passes level) with
    | none => simp [chosen] at found
    | some entry =>
      have passed := (found_child chosen).2
      simp only [chosen] at found
      by_cases enters : entersLevel level entry = true
      · have fits : (entry.1 == plus || entry.1 == level) = true := by
          rw [Bool.or_comm]
          exact enters
        by_cases last : rest.isEmpty = true
        · simp only [enters, last, if_true, Option.some.injEq] at found
          subst path
          have done : rest = [] := List.isEmpty_iff.mp last
          subst rest
          simp [filterMatches, fits]
        · simp only [enters, last, if_true, Bool.false_eq_true, if_false] at found
          rcases Option.map_eq_some_iff.mp found with ⟨further, below, shape⟩
          subst path
          simp [filterMatches, fits, ih below]
      · simp only [enters, Bool.false_eq_true, if_false, Option.some.injEq] at found
        subst path
        have stops : stopsAtHash entry = true := by
          simpa [passes, enters] using passed
        simp only [stopsAtHash, Bool.and_eq_true] at stops
        simp [filterMatches, stops.1]

/-! ## Searches without a choice -/

/-- At every level of the topic the next level of the filter is the one child
that the search can take, and the search stops at the end of the filter. -/
def SoleRoute : TopicNode -> List GoString -> List GoString -> Prop
  | node, level :: rest, step :: further =>
    (forall entry, entry ∈ node.children -> passes level entry = true -> entry.1 = step) ∧
    exists child, ⟨step, child⟩ ∈ node.children ∧ passes level ⟨step, child⟩ = true ∧
      if entersLevel level ⟨step, child⟩ then
        if rest.isEmpty then further = [] else SoleRoute child rest further
      else further = []
  | _, _, _ => False

theorem exists_order_first (depth : Nat) (member : entry ∈ node.children) :
    exists (order : RangeOrder) (others : List (Sigma fun _ : GoString => TopicNode)),
      order.children depth node.children = entry :: others := by
  classical
  rcases List.append_of_mem member with ⟨before, later, shape⟩
  refine ⟨{
    children := fun at_ entries =>
      if at_ = depth ∧ entries = node.children then entry :: (before ++ later) else entries
    children_perm := ?_
    subs := fun entries => entries
    subs_perm := fun _ => List.Perm.refl _ }, before ++ later, ?_⟩
  · intro at_ entries
    by_cases here : at_ = depth ∧ entries = node.children
    · rw [if_pos here, here.2, shape]
      exact List.perm_middle.symm
    · rw [if_neg here]
  · exact if_pos ⟨rfl, rfl⟩

theorem searchPath_of_soleRoute (distinct : node.DistinctKeys) (sole : SoleRoute node topic filter)
    (order : RangeOrder) (depth : Nat) : searchPath order depth node topic = some filter := by
  induction topic generalizing depth node filter with
  | nil => cases filter <;> exact False.elim sole
  | cons level rest ih =>
    cases filter with
    | nil => exact False.elim sole
    | cons step further =>
      rcases sole with ⟨only, child, member, passed, onward⟩
      have listed : ⟨step, child⟩ ∈ order.children depth node.children :=
        (order.children_perm depth node.children).mem_iff.mpr member
      have someFound : ((order.children depth node.children).find? (passes level)).isSome := by
        rw [List.find?_isSome]
        exact ⟨_, listed, passed⟩
      rcases Option.isSome_iff_exists.mp someFound with ⟨entry, chosen⟩
      have taken := found_child chosen
      have sameStep : entry = ⟨step, child⟩ :=
        distinct.children.eq_of_fst_eq taken.1 member (only entry taken.1 taken.2)
      subst entry
      rw [searchPath]
      simp only [chosen]
      by_cases enters : entersLevel level ⟨step, child⟩ = true
      · rw [if_pos enters] at onward ⊢
        by_cases last : rest.isEmpty = true
        · rw [if_pos last] at onward ⊢
          rw [onward]
        · rw [if_neg last] at onward ⊢
          have known := child_of_mem distinct member
          rw [ih (distinct.child known) onward]
          rfl
      · rw [if_neg enters] at onward ⊢
        rw [onward]

theorem searchPath_head {rest : List GoString}
    (met : (order.children depth node.children).find? (passes level) = some entry)
    (path : searchPath order depth node (level :: rest) = some filter) :
    filter.head? = some entry.1 := by
  rw [searchPath] at path
  simp only [met] at path
  by_cases enters : entersLevel level entry = true
  · rw [if_pos enters] at path
    by_cases last : rest.isEmpty = true
    · rw [if_pos last] at path
      cases path
      rfl
    · rw [if_neg last] at path
      rcases Option.map_eq_some_iff.mp path with ⟨further, _, shape⟩
      subst filter
      rfl
  · rw [if_neg enters] at path
    cases path
    rfl

theorem passes_only_of_searchPath {step : GoString} {rest further : List GoString}
    (always : forall order, searchPath order depth node (level :: rest) = some (step :: further))
    (member : entry ∈ node.children) (passed : passes level entry = true) : entry.1 = step := by
  rcases exists_order_first depth member with ⟨order, others, arranged⟩
  have met : (order.children depth node.children).find? (passes level) = some entry := by
    rw [arranged, List.find?_cons_of_pos passed]
  exact (Option.some.inj (searchPath_head met (always order))).symm

theorem find_of_passes_only (distinct : node.DistinctKeys) {step : GoString} {child : TopicNode}
    (member : ⟨step, child⟩ ∈ node.children) (passed : passes level ⟨step, child⟩ = true)
    (only : forall entry, entry ∈ node.children -> passes level entry = true -> entry.1 = step)
    (order : RangeOrder) (depth : Nat) :
    (order.children depth node.children).find? (passes level) = some ⟨step, child⟩ := by
  have someFound : ((order.children depth node.children).find? (passes level)).isSome := by
    rw [List.find?_isSome]
    exact ⟨_, (order.children_perm depth node.children).mem_iff.mpr member, passed⟩
  rcases Option.isSome_iff_exists.mp someFound with ⟨entry, met⟩
  have reached := found_child met
  have sameEntry : entry = ⟨step, child⟩ :=
    distinct.children.eq_of_fst_eq reached.1 member (only entry reached.1 reached.2)
  rw [met, sameEntry]

theorem soleRoute_of_searchPath (distinct : node.DistinctKeys) (nonempty : topic ≠ []) (depth : Nat)
    (always : forall order, searchPath order depth node topic = some filter) :
    SoleRoute node topic filter := by
  induction topic generalizing depth node filter with
  | nil => exact absurd rfl nonempty
  | cons level rest ih =>
    have first := always RangeOrder.listed
    cases chosen : (RangeOrder.listed.children depth node.children).find? (passes level) with
    | none =>
      rw [searchPath] at first
      simp [chosen] at first
    | some chosenEntry =>
      have taken := found_child chosen
      have heading := searchPath_head chosen first
      cases filter with
      | nil => cases heading
      | cons step further =>
        rcases chosenEntry with ⟨key, child⟩
        have sameKey : step = key := Option.some.inj heading
        subst key
        have only : forall entry, entry ∈ node.children -> passes level entry = true ->
            entry.1 = step := fun entry => passes_only_of_searchPath always
        refine ⟨only, child, taken.1, taken.2, ?_⟩
        -- the search goes on below this child, whatever the order
        have onward : forall order : RangeOrder,
            (if entersLevel level ⟨step, child⟩ then
              if rest.isEmpty then some [step]
              else (searchPath order (depth + 1) child rest).map (fun more => step :: more)
            else some [step]) = some (step :: further) := by
          intro order
          have path := always order
          rw [searchPath] at path
          simpa only [find_of_passes_only distinct taken.1 taken.2 only order depth] using path
        by_cases enters : entersLevel level ⟨step, child⟩ = true
        · rw [if_pos enters]
          by_cases last : rest.isEmpty = true
          · rw [if_pos last]
            have path := onward RangeOrder.listed
            rw [if_pos enters, if_pos last] at path
            cases path
            rfl
          · rw [if_neg last]
            have known := child_of_mem distinct taken.1
            refine ih (distinct.child known) ?_ (depth + 1) ?_
            · intro empty
              exact last (by rw [empty]; rfl)
            · intro order
              have path := onward order
              rw [if_pos enters, if_neg last] at path
              rcases Option.map_eq_some_iff.mp path with ⟨more, below, shape⟩
              cases shape
              exact below
        · rw [if_neg enters]
          have path := onward RangeOrder.listed
          rw [if_neg enters] at path
          cases path
          rfl

/-! ## Delivered subscriptions against matching ones -/

def delivered (order : RangeOrder) (tree : SimpleTopicTree) (msg : Message) : List Subscription :=
  match searchPath order 0 tree.root (levels msg.topic) with
  | none => []
  | some path => (order.subs (tree.subsAt path).entries).map (fun entry => entry.2)

section Delivery

variable {tree : SimpleTopicTree} {table : SubscriptionTable} (refines : Refines tree table)

include refines

theorem addMessage_eq_delivered (order : RangeOrder) (msg : Message) :
    tree.addMessage order msg =
      (delivered order tree msg).map (fun sub => (sub.queue, copyFor msg sub)) := by
  unfold addMessage delivered
  rw [searchNode_eq_descend order 0 tree.root refines.distinct]
  cases searched : searchPath order 0 tree.root (levels msg.topic) with
  | none => rfl
  | some path =>
    rw [Option.bind_some]
    cases found : tree.root.descend path with
    | none =>
      simp only [subsAt_of_missing found]
      have empty : order.subs (AList.entries ∅) = [] :=
        (order.subs_perm _).eq_nil
      rw [empty]
      rfl
    | some node =>
      simp only [subsAt_of_descend found, List.map_map]
      rfl

theorem mem_delivered_iff (order : RangeOrder) (msg : Message) (sub : Subscription) :
    sub ∈ delivered order tree msg ↔
      searchPath order 0 tree.root (levels msg.topic) = some (levels sub.topic) ∧
        table.lookup (sub.clientID, sub.topic) = some sub := by
  unfold delivered
  cases searched : searchPath order 0 tree.root (levels msg.topic) with
  | none => simp
  | some path =>
    simp only [Option.some.injEq]
    constructor
    · intro member
      rcases List.mem_map.mp member with ⟨entry, listed, same⟩
      have stored : entry ∈ (tree.subsAt path).entries := (order.subs_perm _).mem_iff.mp listed
      have looked : (tree.subsAt path).lookup entry.1 = some entry.2 :=
        AList.mem_lookup_iff.mpr stored
      have place := refines.placed path entry.1 entry.2 looked
      rw [same] at looked place
      refine ⟨place.2.symm, ?_⟩
      rw [← refines.agrees, place.2, place.1]
      exact looked
    · rintro ⟨samePath, present⟩
      subst path
      rw [← refines.agrees] at present
      have stored := AList.mem_lookup_iff.mp present
      exact List.mem_map.mpr ⟨_, (order.subs_perm _).mem_iff.mpr stored, rfl⟩

theorem delivered_nodup (order : RangeOrder) (msg : Message) :
    (delivered order tree msg).Nodup := by
  unfold delivered
  cases searched : searchPath order 0 tree.root (levels msg.topic) with
  | none => exact List.nodup_nil
  | some path =>
    have entriesNodup : (order.subs (tree.subsAt path).entries).Nodup :=
      (order.subs_perm _).nodup_iff.mpr
        (List.Nodup.of_map Sigma.fst (tree.subsAt path).keys_nodup)
    apply List.Nodup.map_on _ entriesNodup
    intro left leftListed right rightListed same
    have leftStored := AList.mem_lookup_iff.mpr ((order.subs_perm _).mem_iff.mp leftListed)
    have rightStored := AList.mem_lookup_iff.mpr ((order.subs_perm _).mem_iff.mp rightListed)
    have leftPlace := (refines.placed path left.1 left.2 leftStored).1
    have rightPlace := (refines.placed path right.1 right.2 rightStored).1
    rcases left with ⟨leftKey, leftSub⟩
    rcases right with ⟨rightKey, rightSub⟩
    change leftSub = rightSub at same
    change leftSub.clientID = leftKey at leftPlace
    change rightSub.clientID = rightKey at rightPlace
    subst same leftPlace rightPlace
    rfl

theorem mem_matching_iff (msg : Message) (sub : Subscription) :
    sub ∈ matching table msg ↔
      table.lookup (sub.clientID, sub.topic) = some sub ∧
        filterMatches (levels sub.topic) (levels msg.topic) = true := by
  unfold matching
  rw [List.mem_filter]
  constructor
  · rintro ⟨member, fits⟩
    rcases List.mem_map.mp member with ⟨entry, stored, same⟩
    have present : table.lookup entry.1 = some entry.2 := AList.mem_lookup_iff.mpr stored
    have key := refines.keyed present
    rw [same] at key present
    rw [key] at present
    exact ⟨present, fits⟩
  · rintro ⟨present, fits⟩
    exact ⟨List.mem_map.mpr ⟨_, AList.mem_lookup_iff.mp present, rfl⟩, fits⟩

theorem matching_nodup (msg : Message) : (matching table msg).Nodup := by
  apply List.Nodup.filter
  have entriesNodup : table.entries.Nodup := List.Nodup.of_map Sigma.fst table.keys_nodup
  apply List.Nodup.map_on _ entriesNodup
  intro left leftStored right rightStored same
  have leftKey := refines.keyed (AList.mem_lookup_iff.mpr leftStored)
  have rightKey := refines.keyed (AList.mem_lookup_iff.mpr rightStored)
  rcases left with ⟨leftKeyed, leftSub⟩
  rcases right with ⟨rightKeyed, rightSub⟩
  change leftSub = rightSub at same
  change leftKeyed = (leftSub.clientID, leftSub.topic) at leftKey
  change rightKeyed = (rightSub.clientID, rightSub.topic) at rightKey
  subst same leftKey rightKey
  rfl

theorem delivered_subset_matching (order : RangeOrder) (msg : Message) :
    delivered order tree msg ⊆ matching table msg := by
  intro sub member
  have served := (mem_delivered_iff refines order msg sub).mp member
  exact (mem_matching_iff refines msg sub).mpr ⟨served.2, searchPath_matches served.1⟩

theorem delivered_perm_of_length {order : RangeOrder} {msg : Message}
    (enough : (delivered order tree msg).length = (matching table msg).length) :
    (delivered order tree msg).Perm (matching table msg) :=
  (List.subperm_of_subset (delivered_nodup refines order msg)
    (delivered_subset_matching refines order msg)).perm_of_length_le (Nat.le_of_eq enough.symm)

theorem delivered_perm_of_ends {order : RangeOrder} {msg : Message}
    (ends : forall sub, sub ∈ matching table msg ->
      searchPath order 0 tree.root (levels msg.topic) = some (levels sub.topic)) :
    (delivered order tree msg).Perm (matching table msg) := by
  apply (List.perm_ext_iff_of_nodup (delivered_nodup refines order msg)
    (matching_nodup refines msg)).mpr
  intro sub
  constructor
  · intro member
    exact delivered_subset_matching refines order msg member
  · intro member
    have current := ((mem_matching_iff refines msg sub).mp member).1
    exact (mem_delivered_iff refines order msg sub).mpr ⟨ends sub member, current⟩

end Delivery

/-! ## Exactly when a message is delivered as called for -/

theorem lowerQos_le (published subscribed : UInt8) :
    (lowerQos published subscribed).toNat ≤ subscribed.toNat := by
  unfold lowerQos
  by_cases below : published ≤ subscribed
  · rw [if_pos below]
    exact UInt8.le_iff_toNat_le.mp below
  · rw [if_neg below]

theorem lowerQos_eq_iff (published subscribed : UInt8) :
    lowerQos published subscribed = subscribed ↔ subscribed ≤ published := by
  unfold lowerQos
  by_cases below : published ≤ subscribed
  · rw [if_pos below]
    constructor
    · intro same
      rw [same]
      exact UInt8.le_refl _
    · intro above
      exact UInt8.le_antisymm below above
  · rw [if_neg below]
    exact ⟨fun _ => (UInt8.le_total subscribed published).resolve_right below, fun _ => rfl⟩

theorem qos_le_of_perm {subs : List Subscription} {msg : Message}
    (same : (subs.map (fun sub => (sub.queue, msg.topic, msg.payload, sub.qos))).Perm
      (subs.map (fun sub => (sub.queue, msg.topic, msg.payload, lowerQos msg.qos sub.qos))))
    {sub : Subscription} (member : sub ∈ subs) : sub.qos ≤ msg.qos := by
  have totals := (same.map (fun view => view.2.2.2.toNat)).sum_eq
  rw [List.map_map, List.map_map] at totals
  apply (lowerQos_eq_iff msg.qos sub.qos).mp
  apply UInt8.toNat_inj.mp
  apply Nat.le_antisymm (lowerQos_le msg.qos sub.qos)
  apply Nat.le_of_not_lt
  intro strict
  have smaller := List.sum_lt_sum (l := subs)
    (fun sub => (lowerQos msg.qos sub.qos).toNat) (fun sub => sub.qos.toNat)
    (fun each _ => lowerQos_le msg.qos each.qos) ⟨sub, member, strict⟩
  exact Nat.lt_irrefl _ (Nat.lt_of_lt_of_eq smaller totals)

/-- A published message reaches exactly the current subscriptions that match,
once each and with the lowered quality, for every order of the maps, if and
only if every matching subscription asks for at most the published quality and
lies at the end of the only route the search can take. -/
theorem deliversExactly_iff (ops : List TreeOp) (msg : Message) :
    DeliversExactly ops msg ↔
      forall sub, sub ∈ matching (SubscriptionTable.after ops) msg ->
        sub.qos ≤ msg.qos ∧
          SoleRoute (after ops).root (levels msg.topic) (levels sub.topic) := by
  have refines := Refines.after ops
  have viewed : forall order : RangeOrder,
      ((after ops).addMessage order msg).map pushView =
        (delivered order (after ops) msg).map
          (fun sub => (sub.queue, msg.topic, msg.payload, sub.qos)) := by
    intro order
    rw [addMessage_eq_delivered refines, List.map_map]
    rfl
  constructor
  · intro exactly sub member
    have served : forall order : RangeOrder,
        (delivered order (after ops) msg).Perm
          (matching (SubscriptionTable.after ops) msg) := by
      intro order
      apply delivered_perm_of_length refines
      have lengths := (exactly order).length_eq
      rw [viewed, expectedPushes, List.length_map, List.length_map] at lengths
      exact lengths
    constructor
    · have views := exactly RangeOrder.listed
      rw [viewed] at views
      exact qos_le_of_perm (((served RangeOrder.listed).map _).symm.trans views) member
    · apply soleRoute_of_searchPath refines.distinct (levels_ne_nil msg.topic) 0
      intro order
      have reached := (served order).mem_iff.mpr member
      exact ((mem_delivered_iff refines order msg sub).mp reached).1
  · intro condition order
    have perm : (delivered order (after ops) msg).Perm
        (matching (SubscriptionTable.after ops) msg) := by
      apply delivered_perm_of_ends refines
      intro sub member
      exact searchPath_of_soleRoute refines.distinct (condition sub member).2 order 0
    rw [viewed, expectedPushes]
    have lowered : (matching (SubscriptionTable.after ops) msg).map
          (fun sub => (sub.queue, msg.topic, msg.payload, lowerQos msg.qos sub.qos)) =
        (matching (SubscriptionTable.after ops) msg).map
          (fun sub => (sub.queue, msg.topic, msg.payload, sub.qos)) := by
      apply List.map_congr_left
      intro sub member
      rw [(lowerQos_eq_iff msg.qos sub.qos).mpr (condition sub member).1]
    rw [lowered]
    exact perm.map _

/-- A subscription to `#` is not served when a message is published on `a`:
its node has no children, so the search passes it by. -/
theorem hash_subscription_not_served :
    ¬ (forall (ops : List TreeOp) (msg : Message),
      msg.topic.head? ≠ (ascii "$").head? -> DeliversExactly ops msg) := by
  intro always
  have claimed := always [.add { clientID := ascii "c", topic := hash, qos := 0, queue := 0 }]
    { topic := ascii "a" } (by decide) RangeOrder.listed
  have lengths := claimed.length_eq
  revert lengths
  decide +kernel

/-! ## Only matching subscriptions are served -/

/-- A push is called for by a stored subscription: it goes to the queue of the
subscription, whose filter matches, and carries the published message. -/
structure CalledFor (tree : SimpleTopicTree) (msg : Message) (push : QueueRef × Message)
    (sub : Subscription) : Prop where
  stored : (tree.subsAt (levels sub.topic)).lookup sub.clientID = some sub
  fits : filterMatches (levels sub.topic) (levels msg.topic) = true
  queue : push.1 = sub.queue
  topic : push.2.topic = msg.topic
  payload : push.2.payload = msg.payload

/-- Whatever calls built the tree and in whatever order its maps are ranged
over, a message is pushed for matching subscriptions only. -/
theorem addMessage_calledFor (ops : List TreeOp) (order : RangeOrder) (msg : Message)
    {push : QueueRef × Message}
    (pushed : push ∈ (after ops).addMessage order msg) :
    exists sub, CalledFor (after ops) msg push sub := by
  have refines := Refines.after ops
  rw [addMessage_eq_delivered refines] at pushed
  rcases List.mem_map.mp pushed with ⟨sub, served, rfl⟩
  rcases (mem_matching_iff refines msg sub).mp (delivered_subset_matching refines order msg served)
      with ⟨current, fits⟩
  rw [← refines.agrees] at current
  exact ⟨sub, current, fits, rfl, rfl, rfl⟩

/-- A subscription to `+` is served when a message is published on `a`. -/
theorem plus_subscription_called_for :
    exists sub, CalledFor
      (after [.add { clientID := ascii "c", topic := plus, qos := 0, queue := 7 }])
      { topic := ascii "a", payload := [1] }
      (7, { topic := ascii "a", payload := [1] }) sub :=
  addMessage_calledFor _ RangeOrder.listed _ (by decide +kernel)

end SessionMgr
end Sentel
