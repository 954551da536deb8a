import Sentel.SessionMgr.ClientHoldings
import Sentel.SessionMgr.TopicDelivery

namespace Sentel
namespace SessionMgr

open Library Base Queue Event

/-!
# The queues that a broker can reach

A message is pushed to the queue that a stored subscription holds, and a
subscription is stored with the queue that is registered for its client at that
moment.  So every queue that the session manager comes to was registered,
subscribed to or about to be pushed to before.  If none of these has a
connection for its observer, no event of the session manager brings the
connection back.
-/

def Subscribed (tree : SimpleTopicTree) (ref : QueueRef) : Prop :=
  exists clientID path sub, tree.stored clientID path = some sub ∧ sub.queue = ref

def Pushable (tree : SimpleTopicTree) (pushes : List (QueueRef × Message)) (ref : QueueRef) : Prop :=
  Subscribed tree ref ∨ exists push, push ∈ pushes ∧ push.1 = ref

def Unreached (broker : Broker) (pushes : List (QueueRef × Message)) (conn : ConnId) : Prop :=
  broker.queueService.Unobserved conn (Pushable broker.tree pushes)

def Built (tree : SimpleTopicTree) : Prop :=
  exists ops, tree = SimpleTopicTree.after ops

theorem Built.apply {tree : SimpleTopicTree} (built : Built tree) (op : TreeOp) :
    Built (tree.apply op) := by
  rcases built with ⟨ops, rfl⟩
  refine ⟨ops ++ [op], ?_⟩
  rw [SimpleTopicTree.after, SimpleTopicTree.after, List.foldl_append]
  rfl

theorem Built.removeTopics {tree : SimpleTopicTree} (built : Built tree) (clientId : GoString)
    (positions : List Nat) : Built (Broker.removeTopics tree clientId positions) := by
  induction positions generalizing tree with
  | nil => exact built
  | cons position later ih =>
    rw [Broker.removeTopics]
    cases (tree.getSubscriptionTopics clientId)[position]? with
    | none => exact ih built
    | some topic => exact ih (built.apply _)

theorem Built.subscribed_of_push {tree : SimpleTopicTree} (built : Built tree) (order : RangeOrder)
    {msg : Message} {push : QueueRef × Message} (pushed : push ∈ tree.addMessage order msg) :
    Subscribed tree push.1 := by
  rcases built with ⟨ops, rfl⟩
  have refines := Refines.after ops
  rw [addMessage_eq_delivered refines] at pushed
  rcases List.mem_map.mp pushed with ⟨sub, served, rfl⟩
  have stored := ((mem_delivered_iff refines order msg sub).mp served).2
  rw [← refines.agrees] at stored
  exact ⟨sub.clientID, levels sub.topic, sub, stored, rfl⟩

namespace Unreached

variable {broker : Broker} {conn : ConnId} (unreached : Unreached broker [] conn)

include unreached

theorem tree {after : SimpleTopicTree}
    (stored : forall clientID path sub, after.stored clientID path = some sub ->
      broker.tree.stored clientID path = some sub ∨
        exists id, broker.queueService.getQueue id = some sub.queue) :
    Unreached { broker with tree := after } [] conn := by
  refine unreached.mono ?_
  rintro ref (⟨clientID, path, sub, found, rfl⟩ | ⟨push, member, _⟩)
  · rcases stored clientID path sub found with before | registered
    · exact .inr (.inl ⟨clientID, path, sub, before, rfl⟩)
    · exact .inl registered
  · exact absurd member List.not_mem_nil

theorem onSessionCreate (dial : Except GoString Unit) (event : SessionCreateEvent) :
    Unreached (broker.onSessionCreate dial event) [] conn := by
  rw [Unreached, Broker.onSessionCreate_tree]
  unfold Broker.onSessionCreate
  split
  · cases broker.findSession event.clientId with
    | some session => exact unreached
    | none =>
      change (broker.addVirtualSession dial event.brokerId
        event.clientId).queueService.Unobserved conn _
      rw [Broker.addVirtualSession_queueService]
      exact QueueService.Unobserved.newQueue unreached _ _ _
  · exact unreached

theorem onSessionDestroy (event : SessionDestroyEvent) :
    Unreached (broker.onSessionDestroy event) [] conn := by
  cases persistent : (broker.findSession event.clientId).any Session.isPersistent with
  | true =>
    unfold Broker.onSessionDestroy
    simp only [if_pos persistent]
    cases broker.queueService.getQueue event.clientId with
    | none => exact unreached
    | some ref => exact QueueService.Unobserved.registerObserver unreached ref nofun
  | false =>
    rw [Broker.onSessionDestroy_clean persistent]
    let positions := List.range (broker.tree.getSubscriptionTopics event.clientId).length
    let swept := Broker.removeTopics broker.tree event.clientId positions
    have fewer : Unreached { broker with tree := swept } [] conn :=
      unreached.tree (fun _ _ _ stored =>
        .inl (Broker.removeTopics_stored positions broker.tree stored))
    exact QueueService.Unobserved.destroyQueue fewer event.clientId

theorem addSubscription (event : TopicSubscribeEvent) :
    Unreached (broker.addSubscription event) [] conn := by
  rcases broker.addSubscription_eq event with ⟨tree, added⟩
  rw [added]
  refine unreached.tree (fun clientID path sub stored => ?_)
  have known := @Broker.addSubscription_stored broker event clientID path sub
    (by rw [added]; exact stored)
  exact known.imp_right (fun registered => ⟨clientID, registered⟩)

theorem removeSubscription (clientID topic : GoString) :
    Unreached { broker with tree := broker.tree.apply (.remove clientID topic) } [] conn := by
  refine unreached.tree (fun other path sub stored => .inl ?_)
  rw [SimpleTopicTree.stored_remove] at stored
  split at stored
  · cases stored
  · exact stored

end Unreached

theorem handleEvent_unreached {broker : Broker} {conn : ConnId} (built : Built broker.tree)
    (unreached : Unreached broker [] conn) (order : RangeOrder) (dial : Except GoString Unit)
    (event : BrokerEvent) :
    Unreached (broker.handleEvent order dial event).1 (broker.handleEvent order dial event).2
      conn := by
  cases event with
  | sessionCreate event => exact unreached.onSessionCreate dial event
  | sessionDestroy event => exact unreached.onSessionDestroy event
  | sessionResume event => exact unreached
  | topicSubscribe event =>
    change Unreached (broker.onTopicSubscribe event) [] conn
    unfold Broker.onTopicSubscribe
    split
    · exact unreached.addSubscription event
    · split
      · exact unreached.addSubscription event
      · exact unreached
  | topicUnsubscribe event =>
    change Unreached (broker.onTopicUnsubscribe event) [] conn
    unfold Broker.onTopicUnsubscribe
    split
    · exact unreached.removeSubscription _ _
    · split
      · exact unreached.removeSubscription _ _
      · exact unreached
  | topicPublish event =>
    refine QueueService.Unobserved.mono unreached ?_
    rintro ref (subscribed | ⟨push, pushed, rfl⟩)
    · exact .inr (.inl subscribed)
    · exact .inr (.inl (built.subscribed_of_push order pushed))

theorem Built.handleEvent {broker : Broker} (built : Built broker.tree) (order : RangeOrder)
    (dial : Except GoString Unit) (event : BrokerEvent) :
    Built (broker.handleEvent order dial event).1.tree := by
  have added : forall event, Built (broker.addSubscription event).tree := by
    intro event
    unfold Broker.addSubscription
    cases broker.queueService.getQueue event.clientID with
    | none => exact built
    | some ref => exact built.apply (.add ⟨event.clientID, event.topic, event.qos, ref, false⟩)
  cases event with
  | sessionCreate event =>
    change Built (broker.onSessionCreate dial event).tree
    rw [Broker.onSessionCreate_tree]
    exact built
  | sessionDestroy event =>
    cases persistent : (broker.findSession event.clientId).any Session.isPersistent with
    | true =>
      rcases Broker.onSessionDestroy_persistent persistent with ⟨service, same, _⟩
      change Built (broker.onSessionDestroy event).tree
      rw [same]
      exact built
    | false =>
      change Built (broker.onSessionDestroy event).tree
      rw [Broker.onSessionDestroy_clean persistent]
      exact built.removeTopics _ _
  | sessionResume event => exact built
  | topicSubscribe event =>
    change Built (broker.onTopicSubscribe event).tree
    unfold Broker.onTopicSubscribe
    split
    · exact added event
    · split
      · exact added event
      · exact built
  | topicUnsubscribe event =>
    change Built (broker.onTopicUnsubscribe event).tree
    unfold Broker.onTopicUnsubscribe
    have removed := built.apply (.remove event.clientID event.topic)
    split
    · exact removed
    · split
      · exact removed
      · exact built
  | topicPublish event => exact built

end SessionMgr
end Sentel
