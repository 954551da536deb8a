import Sentel.Library.RangeDeletion
import Sentel.SessionMgr.TopicDelivery

namespace Sentel
namespace SessionMgr

open Library Base

/-!
# Retained messages

A retained message is kept at the node that a search for its topic reports.
`deleteMessageWithValidator` searches for every topic of a client, without
asking whether a node was found, and deletes messages from the slice of the node
while it ranges over that slice.  The topics of a client are those of its
index, where a topic may stand more than once, and two topics may lead to one
node.  A node is then swept as often as it is reached.
-/

namespace SimpleTopicTree

/-- The messages that are retained at a path. -/
def msgsAt (tree : SimpleTopicTree) (path : List GoString) : List Message :=
  tree.root.readAt TopicData.msgs [] path

def writeMsgs (tree : SimpleTopicTree) (path : List GoString) (msgs : List Message) :
    SimpleTopicTree :=
  { tree with root := Trie.updateAt freshNode (fun node => { node with msgs := msgs }) path tree.root }

theorem freshNode_msgs (level : GoString) : (freshNode level).msgs = [] := rfl

theorem msgsAt_writeMsgs_self (tree : SimpleTopicTree) (path : List GoString)
    (msgs : List Message) : (tree.writeMsgs path msgs).msgsAt path = msgs :=
  @Trie.readAt_updateAt_self _ _ _ _ freshNode (fun node => { node with msgs := msgs })
    TopicData.msgs [] freshNode_msgs (fun _ => msgs) (fun _ => rfl) path tree.root

theorem msgsAt_writeMsgs_of_ne (tree : SimpleTopicTree) {path other : List GoString}
    (different : other ≠ path) (msgs : List Message) :
    (tree.writeMsgs path msgs).msgsAt other = tree.msgsAt other :=
  Trie.readAt_updateAt_of_ne freshNode_msgs different tree.root

def searchTopic (tree : SimpleTopicTree) (order : RangeOrder) (topic : GoString) :
    Option (List GoString) :=
  searchPath order 0 tree.root (levels topic)

def retainMessage (tree : SimpleTopicTree) (order : RangeOrder) (msg : Message) :
    SimpleTopicTree :=
  match tree.searchTopic order msg.topic with
  | none => tree
  | some path => tree.writeMsgs path (tree.msgsAt path ++ [msg])

def sweepTopic (tree : SimpleTopicTree) (order : RangeOrder) (validator : Message -> Bool)
    (topic : GoString) : Except Panic SimpleTopicTree :=
  match tree.searchTopic order topic with
  | none => .error .nilDereference
  | some path =>
    match sweep validator (tree.msgsAt path) with
    | .error cause => .error cause
    | .ok msgs => .ok (tree.writeMsgs path msgs)

def sweepTopics (validator : Message -> Bool) :
    SimpleTopicTree -> List (RangeOrder × GoString) -> Except Panic SimpleTopicTree
  | tree, [] => .ok tree
  | tree, (order, topic) :: rest =>
    match tree.sweepTopic order validator topic with
    | .error cause => .error cause
    | .ok next => sweepTopics validator next rest

def searches (tree : SimpleTopicTree) (orders : Nat -> RangeOrder) (clientID : GoString) :
    List (RangeOrder × GoString) :=
  (tree.getSubscriptionTopics clientID).mapIdx (fun index topic => (orders index, topic))

def deleteMessageWithValidator (tree : SimpleTopicTree) (orders : Nat -> RangeOrder)
    (clientID : GoString) (validator : Message -> Bool) : Except Panic SimpleTopicTree :=
  sweepTopics validator tree (tree.searches orders clientID)

def deleteMessage (tree : SimpleTopicTree) (orders : Nat -> RangeOrder) (clientId : GoString)
    (mid : UInt16) (direction : UInt8) : Except Panic SimpleTopicTree :=
  tree.deleteMessageWithValidator orders clientId
    (fun msg => msg.packetId == mid && msg.direction == direction)

/-- The paths of the nodes that the loop reaches, until it panics. -/
def visited (validator : Message -> Bool) :
    SimpleTopicTree -> List (RangeOrder × GoString) -> List (List GoString)
  | _, [] => []
  | tree, (order, topic) :: rest =>
    match tree.searchTopic order topic with
    | none => []
    | some path =>
      path :: (match tree.sweepTopic order validator topic with
        | .error _ => []
        | .ok next => visited validator next rest)

/-! ## One topic -/

section OneTopic

variable {tree : SimpleTopicTree} {order : RangeOrder} {validator : Message -> Bool}
  {topic : GoString} {path : List GoString} {rest : List (RangeOrder × GoString)}

def swept (tree : SimpleTopicTree) (validator : Message -> Bool) (path : List GoString) :
    SimpleTopicTree :=
  tree.writeMsgs path (skim validator (tree.msgsAt path))

theorem msgsAt_swept (tree : SimpleTopicTree) (validator : Message -> Bool)
    (path other : List GoString) :
    (tree.swept validator path).msgsAt other =
      if other = path then skim validator (tree.msgsAt other) else tree.msgsAt other := by
  by_cases same : other = path
  · rw [if_pos same, same]
    exact msgsAt_writeMsgs_self tree path _
  · rw [if_neg same]
    exact msgsAt_writeMsgs_of_ne tree same _

theorem sweepTopic_lost (lost : tree.searchTopic order topic = none) :
    tree.sweepTopic order validator topic = .error .nilDereference := by
  rw [sweepTopic, lost]

theorem sweepTopic_found (found : tree.searchTopic order topic = some path) :
    tree.sweepTopic order validator topic =
      if overruns validator (tree.msgsAt path) then .error .sliceOutOfRange
      else .ok (tree.swept validator path) := by
  rw [sweepTopic, found]
  simp only [sweep_eq]
  by_cases overrun : overruns validator (tree.msgsAt path) = true
  · rw [if_pos overrun, if_pos overrun]
  · rw [if_neg overrun, if_neg overrun]
    rfl

theorem sweepTopics_lost (lost : tree.searchTopic order topic = none) :
    sweepTopics validator tree ((order, topic) :: rest) = .error .nilDereference ∧
      visited validator tree ((order, topic) :: rest) = [] := by
  rw [sweepTopics, visited, sweepTopic_lost lost, lost]
  exact ⟨rfl, rfl⟩

theorem sweepTopics_overrun (found : tree.searchTopic order topic = some path)
    (overrun : overruns validator (tree.msgsAt path) = true) :
    sweepTopics validator tree ((order, topic) :: rest) = .error .sliceOutOfRange ∧
      visited validator tree ((order, topic) :: rest) = [path] := by
  rw [sweepTopics, visited, sweepTopic_found found, if_pos overrun, found]
  exact ⟨rfl, rfl⟩

theorem sweepTopics_next (found : tree.searchTopic order topic = some path)
    (fine : overruns validator (tree.msgsAt path) = false) :
    sweepTopics validator tree ((order, topic) :: rest) =
        sweepTopics validator (tree.swept validator path) rest ∧
      visited validator tree ((order, topic) :: rest) =
        path :: visited validator (tree.swept validator path) rest := by
  have kept : ¬ overruns validator (tree.msgsAt path) = true := by simp [fine]
  rw [sweepTopics, visited, sweepTopic_found found, if_neg kept, found]
  exact ⟨rfl, rfl⟩

end OneTopic

/-! ## All topics -/

section AllTopics

variable {validator : Message -> Bool}

theorem sweepTopics_ok {tree after : SimpleTopicTree} {searches : List (RangeOrder × GoString)}
    (ended : sweepTopics validator tree searches = .ok after) :
    (visited validator tree searches).length = searches.length ∧
    (forall path, path ∈ visited validator tree searches ->
      overruns validator (tree.msgsAt path) = false) ∧
    forall path, after.msgsAt path =
      (skim validator)^[(visited validator tree searches).count path] (tree.msgsAt path) := by
  induction searches generalizing tree with
  | nil =>
    cases ended
    exact ⟨rfl, fun path member => absurd member List.not_mem_nil, fun path => rfl⟩
  | cons search rest ih =>
    rcases search with ⟨order, topic⟩
    cases found : tree.searchTopic order topic with
    | none =>
      rw [(sweepTopics_lost found).1] at ended
      cases ended
    | some path =>
      cases overrun : overruns validator (tree.msgsAt path) with
      | true =>
        rw [(sweepTopics_overrun found overrun).1] at ended
        cases ended
      | false =>
        have next := @sweepTopics_next tree order validator topic path rest found overrun
        rw [next.1] at ended
        rw [next.2]
        rcases ih ended with ⟨length, fine, msgs⟩
        refine ⟨congrArg Nat.succ length, fun other member => ?_, fun other => ?_⟩
        · by_cases same : other = path
          · rw [same, overrun]
          · have inRest := (List.mem_cons.mp member).resolve_left same
            have kept := fine other inRest
            rwa [msgsAt_swept, if_neg same] at kept
        · rw [msgs other, msgsAt_swept]
          by_cases same : other = path
          · rw [if_pos same, same, List.count_cons_self, Function.iterate_succ_apply]
          · rw [if_neg same, List.count_cons_of_ne (Ne.symm same)]

theorem exists_sweepTopics_ok {tree : SimpleTopicTree} {searches : List (RangeOrder × GoString)}
    (reached : (visited validator tree searches).length = searches.length)
    (fine : forall path, path ∈ visited validator tree searches ->
      overruns validator (tree.msgsAt path) = false) :
    exists after, sweepTopics validator tree searches = .ok after := by
  induction searches generalizing tree with
  | nil => exact ⟨tree, rfl⟩
  | cons search rest ih =>
    rcases search with ⟨order, topic⟩
    cases found : tree.searchTopic order topic with
    | none =>
      rw [(sweepTopics_lost found).2] at reached
      cases reached
    | some path =>
      cases overrun : overruns validator (tree.msgsAt path) with
      | true =>
        rw [(sweepTopics_overrun found overrun).2] at fine
        have kept := fine path List.mem_cons_self
        rw [overrun] at kept
        cases kept
      | false =>
        have next := @sweepTopics_next tree order validator topic path rest found overrun
        rw [next.2] at reached fine
        rw [next.1]
        refine ih (Nat.succ.inj reached) (fun other member => ?_)
        have kept := fine other (List.mem_cons_of_mem path member)
        rw [msgsAt_swept]
        by_cases same : other = path
        · rw [if_pos same]
          exact overruns_skim kept
        · rwa [if_neg same]

end AllTopics

end SimpleTopicTree

/-! ## Reachable trees -/

/-- The calls that change a tree. -/
inductive TreeCall
  | subscription (op : TreeOp)
  | retain (order : RangeOrder) (msg : Message)

namespace SimpleTopicTree

def perform (tree : SimpleTopicTree) : TreeCall -> SimpleTopicTree
  | .subscription op => tree.apply op
  | .retain order msg => tree.retainMessage order msg

/-- The tree after a sequence of calls. -/
def afterCalls (calls : List TreeCall) : SimpleTopicTree :=
  calls.foldl perform newSimpleTopicTree

/-- The deletion does not panic, the nodes that the topics of the client reach
keep exactly the messages that the validator does not accept, and all other
nodes keep their messages. -/
def DeletesExactly (tree : SimpleTopicTree) (orders : Nat -> RangeOrder) (clientID : GoString)
    (validator : Message -> Bool) : Prop :=
  exists after, tree.deleteMessageWithValidator orders clientID validator = .ok after ∧
    forall path, after.msgsAt path =
      if path ∈ visited validator tree (tree.searches orders clientID) then
        (tree.msgsAt path).filter (fun msg => !validator msg)
      else tree.msgsAt path

/-- The deletion is exact if and only if every topic of the client leads to a
node, and at every node that is reached the last message is accepted by the
validator only if it is the only accepted one, and every block of adjacent
accepted messages is shorter than two to the number of times the node is
reached. -/
theorem deletesExactly_iff (calls : List TreeCall) (orders : Nat -> RangeOrder)
    (clientID : GoString) (validator : Message -> Bool) :
    DeletesExactly (afterCalls calls) orders clientID validator ↔
      (visited validator (afterCalls calls) ((afterCalls calls).searches orders clientID)).length =
          ((afterCalls calls).getSubscriptionTopics clientID).length ∧
      forall path,
        path ∈ visited validator (afterCalls calls) ((afterCalls calls).searches orders clientID) ->
        overruns validator ((afterCalls calls).msgsAt path) = false ∧
        forall size, size ∈ blocks validator ((afterCalls calls).msgsAt path) ->
          size < 2 ^ (visited validator (afterCalls calls)
            ((afterCalls calls).searches orders clientID)).count path := by
  generalize afterCalls calls = tree
  have length : (tree.searches orders clientID).length =
      (tree.getSubscriptionTopics clientID).length := by
    rw [searches, List.length_mapIdx]
  rw [← length]
  constructor
  · rintro ⟨after, ended, exactly⟩
    rcases sweepTopics_ok ended with ⟨reached, fine, msgs⟩
    refine ⟨reached, fun path member => ⟨fine path member, ?_⟩⟩
    have same := (msgs path).symm.trans (exactly path)
    rw [if_pos member] at same
    exact (iterate_skim_eq_filter_iff validator _ _).mp same
  · rintro ⟨reached, condition⟩
    rcases exists_sweepTopics_ok reached (fun path member => (condition path member).1) with
      ⟨after, ended⟩
    refine ⟨after, ended, fun path => ?_⟩
    rw [(sweepTopics_ok ended).2.2 path]
    by_cases member : path ∈ visited validator tree (tree.searches orders clientID)
    · rw [if_pos member]
      exact (iterate_skim_eq_filter_iff validator _ _).mpr (condition path member).2
    · rw [if_neg member, List.count_eq_zero.mpr member]
      rfl

def twoRetained : List TreeCall :=
  [.subscription (.add { clientID := ascii "c", topic := ascii "a", qos := 0, queue := 0 }),
   .retain .listed { topic := ascii "a", packetId := 1 },
   .retain .listed { topic := ascii "a", packetId := 2 }]

/-- Deleting both messages panics. -/
theorem deleting_both_panics :
    ¬ DeletesExactly (afterCalls twoRetained) (fun _ => .listed) (ascii "c") (fun _ => true) := by
  rintro ⟨after, ended, _⟩
  have panicked : (afterCalls twoRetained).deleteMessageWithValidator (fun _ => .listed)
      (ascii "c") (fun _ => true) = .error .sliceOutOfRange := rfl
  rw [panicked] at ended
  cases ended

end SimpleTopicTree

end SessionMgr
end Sentel
