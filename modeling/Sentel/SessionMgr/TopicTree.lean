import Mathlib.Data.List.AList
import Sentel.Base.Message
import Sentel.Library.Trie

namespace Sentel
namespace SessionMgr

open Library Base

/-!
# The topic tree of the session manager

A subscription is stored at the node whose path is the list of levels of its
topic filter, under the identifier of the client that made it.  Nodes are
created on demand and never deleted.  Beside the tree there is an index from a
client to the topics it subscribed to.

The maps of the source are ranged over in an order that the run time chooses.
A search meets one map per level, so a choice of order is one arrangement for
each depth, and one for the subscriptions that are finally ranged over.

Removing a topic from a client's index assigns the shortened slice to a local
variable only.  The stored slice keeps its length and sees the entries that
were moved down in the shared array, with the last entry repeated.
-/

/-- The separator of topic levels. -/
def slash : UInt8 := 0x2F

def plus : GoString := ascii "+"

def hash : GoString := ascii "#"

/-- `subscription` -/
structure Subscription where
  clientID : GoString
  topic : GoString
  qos : UInt8
  queue : QueueRef
  retain : Bool := false
  deriving DecidableEq, Repr

/-- The fields of `topicNode` beside its children. -/
structure TopicData where
  level : GoString
  subs : AList (fun _ : GoString => Subscription)
  msgs : List Message

abbrev TopicNode := Trie GoString TopicData

/-- A freshly added node has no subscription, no message and no child. -/
def freshNode (level : GoString) : TopicData where
  level := level
  subs := ∅
  msgs := []

/-- `simpleTopicTree` -/
structure SimpleTopicTree where
  root : TopicNode
  topics : AList (fun _ : GoString => List GoString)

/-- `newSimpleTopicTree` -/
def newSimpleTopicTree : SimpleTopicTree where
  root := ⟨freshNode (ascii "root"), []⟩
  topics := ∅

def levels (topic : GoString) : List GoString := split slash topic

/-- Remove one entry of a slice in place and look at the array through the
old slice header: later entries move down and the last one stays behind. -/
def shiftDown (list : List GoString) (index : Nat) : List GoString :=
  list.take index ++ list.drop (index + 1) ++ list.getLast?.toList

namespace SimpleTopicTree

def addSubscription (tree : SimpleTopicTree) (sub : Subscription) :
    Except GoString SimpleTopicTree :=
  if levels sub.topic = [] then
    .error (ascii "Invalid topic")
  else
    .ok {
      root := Trie.updateAt freshNode
        (fun node => { node with subs := node.subs.insert sub.clientID sub })
        (levels sub.topic) tree.root
      topics := match tree.topics.lookup sub.clientID with
        | none => tree.topics.insert sub.clientID [sub.topic]
        | some list => tree.topics.insert sub.clientID (list ++ [sub.topic]) }

/-- The loop of `removeSubscription` over the client's index. -/
def forgetTopic (topics : AList (fun _ : GoString => List GoString))
    (clientID topic : GoString) : AList (fun _ : GoString => List GoString) :=
  match topics.lookup clientID with
  | none => topics
  | some list =>
    match list.findIdx? (fun entry => entry == topic) with
    | none => topics
    | some index => topics.insert clientID (shiftDown list index)

/-- `removeSubscription` -/
def removeSubscription (tree : SimpleTopicTree) (clientID topic : GoString) :
    Except GoString SimpleTopicTree :=
  match tree.root.descend (levels topic) with
  | none => .error (ascii "topic tree: invalid subscription '" ++ topic ++ ascii "'")
  | some node =>
    match node.value.subs.lookup clientID with
    | none => .error (ascii "topic tree: invalid client id '" ++ clientID ++ ascii "'")
    | some _ =>
      .ok {
        root := Trie.updateAt freshNode
          (fun found => { found with subs := found.subs.erase clientID })
          (levels topic) tree.root
        topics := forgetTopic tree.topics clientID topic }

/-- `getSubscriptionTopics` -/
def getSubscriptionTopics (tree : SimpleTopicTree) (clientID : GoString) : List GoString :=
  (tree.topics.lookup clientID).getD []

/-- `getSubscription` -/
def getSubscription (tree : SimpleTopicTree) (clientID topic : GoString) :
    Except GoString Subscription :=
  match tree.root.descend (levels topic) with
  | none => .error (ascii "topic tree: invalid subscription '" ++ topic ++ ascii "'")
  | some node =>
    match node.value.subs.lookup clientID with
    | none => .error (ascii "topic tree: invalid client id '" ++ clientID ++ ascii "'")
    | some sub => .ok sub

end SimpleTopicTree

/-! ## Searching and delivering -/

/-- The orders in which one search ranges over the maps it meets. -/
structure RangeOrder where
  children : Nat -> List (Sigma fun _ : GoString => TopicNode) ->
    List (Sigma fun _ : GoString => TopicNode)
  children_perm : forall depth entries, (children depth entries).Perm entries
  subs : List (Sigma fun _ : GoString => Subscription) ->
    List (Sigma fun _ : GoString => Subscription)
  subs_perm : forall entries, (subs entries).Perm entries

def RangeOrder.listed : RangeOrder where
  children := fun _ entries => entries
  children_perm := fun _ _ => List.Perm.refl _
  subs := fun entries => entries
  subs_perm := fun _ => List.Perm.refl _

/-- The child test of `searchNode` that descends a level. -/
def entersLevel (level : GoString) (entry : Sigma fun _ : GoString => TopicNode) : Bool :=
  entry.1 == level || entry.1 == plus

/-- The child test of `searchNode` that stops at a multi-level wildcard. -/
def stopsAtHash (entry : Sigma fun _ : GoString => TopicNode) : Bool :=
  entry.1 == hash && decide (0 < entry.2.children.length)

/-- `searchNode`.  The loop over the children returns at the first entry that
passes one of its two tests, whatever the recursive call then finds. -/
def searchNode (order : RangeOrder) : Nat -> TopicNode -> List GoString -> Bool -> Option TopicNode
  | depth, node, [], _ =>
    ((order.children depth node.children).find? stopsAtHash).map (fun entry => entry.2)
  | depth, node, level :: rest, setRetain =>
    match (order.children depth node.children).find?
        (fun entry => entersLevel level entry || stopsAtHash entry) with
    | none => none
    | some entry =>
      if entersLevel level entry then
        if rest.isEmpty then some entry.2
        else searchNode order (depth + 1) entry.2 rest (setRetain && entry.1 != plus)
      else some entry.2

/-- The copy of a published message that `addMessage` makes for a subscription. -/
def copyFor (msg : Message) (sub : Subscription) : Message where
  topic := msg.topic
  packetId := msg.packetId
  direction := msg.direction
  state := msg.state
  qos := sub.qos
  dup := false
  retain := msg.retain
  time := msg.time
  payload := msg.payload

/-- `addMessage`, as the list of messages it pushes with their queues. -/
def SimpleTopicTree.addMessage (order : RangeOrder) (tree : SimpleTopicTree)
    (msg : Message) : List (QueueRef × Message) :=
  match searchNode order 0 tree.root (levels msg.topic) true with
  | none => []
  | some node =>
    (order.subs node.value.subs.entries).map (fun entry => (entry.2.queue, copyFor msg entry.2))

/-! ## Runs of the tree -/

/-- The calls that change the subscriptions of a tree. -/
inductive TreeOp
  | add (sub : Subscription)
  | remove (clientID topic : GoString)
  deriving DecidableEq

namespace SimpleTopicTree

/-- A call that fails leaves the tree as it is. -/
def apply (tree : SimpleTopicTree) : TreeOp -> SimpleTopicTree
  | .add sub => (tree.addSubscription sub).toOption.getD tree
  | .remove clientID topic => (tree.removeSubscription clientID topic).toOption.getD tree

/-- The tree after a sequence of calls. -/
def after (ops : List TreeOp) : SimpleTopicTree :=
  ops.foldl apply newSimpleTopicTree

def subsAt (tree : SimpleTopicTree) (path : List GoString) :
    AList (fun _ : GoString => Subscription) :=
  tree.root.readAt TopicData.subs ∅ path

end SimpleTopicTree

/-! ## The table that a tree implements -/

/-- What the tree is for: one subscription for each client and topic filter. -/
abbrev SubscriptionTable := AList (fun _ : GoString × GoString => Subscription)

namespace SubscriptionTable

/-- The effect that a call is meant to have on the table. -/
def apply (table : SubscriptionTable) : TreeOp -> SubscriptionTable
  | .add sub => table.insert (sub.clientID, sub.topic) sub
  | .remove clientID topic => table.erase (clientID, topic)

/-- The current subscriptions after a sequence of calls. -/
def after (ops : List TreeOp) : SubscriptionTable :=
  ops.foldl apply ∅

end SubscriptionTable

end SessionMgr
end Sentel
