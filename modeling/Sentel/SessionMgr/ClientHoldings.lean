import Sentel.SessionMgr.SessionManager
import Sentel.SessionMgr.TopicTreeRefinement

namespace Sentel
namespace SessionMgr

open Library Base Queue Event

/-!
# What a broker holds for a client

A broker holds three things under the identifier of a client: a session entry,
a registered queue and the subscriptions in the topic tree.  Every handler of
the session manager changes the holdings of one client only.  The lemmas here
say what it does to them, path by path for the subscriptions, and that the
holdings of every other client stay.

The end of a clean session sweeps the client's index of topics.  The sweep
reads the index through the array that each removal shifts, so it can pass over
entries.  `SweepClears` follows it on the index alone.
-/

namespace SimpleTopicTree

def stored (tree : SimpleTopicTree) (clientID : GoString) (path : List GoString) :
    Option Subscription :=
  (tree.subsAt path).lookup clientID

theorem stored_initial (clientID : GoString) (path : List GoString) :
    newSimpleTopicTree.stored clientID path = none := by
  have absent : newSimpleTopicTree.subsAt path = ∅ :=
    Trie.readAt_fresh freshNode_subs (ascii "root") path
  rw [stored, absent, AList.lookup_empty]

@[simp] theorem stored_add (tree : SimpleTopicTree) (sub : Subscription) (clientID : GoString)
    (path : List GoString) :
    (tree.apply (.add sub)).stored clientID path =
      if clientID = sub.clientID ∧ path = levels sub.topic then some sub
      else tree.stored clientID path := by
  rcases tree.apply_add sub with ⟨topics, applied⟩
  rw [applied, stored, stored]
  by_cases samePath : path = levels sub.topic
  · subst samePath
    rw [subsAt_writeSubs_self]
    by_cases sameClient : clientID = sub.clientID
    · subst sameClient
      rw [if_pos ⟨rfl, rfl⟩, AList.lookup_insert]
    · rw [if_neg (fun both => sameClient both.1), AList.lookup_insert_ne sameClient]
  · rw [if_neg (fun both => samePath both.2), subsAt_writeSubs_of_ne _ _ _ samePath]

@[simp] theorem stored_remove (tree : SimpleTopicTree) (owner topic clientID : GoString)
    (path : List GoString) :
    (tree.apply (.remove owner topic)).stored clientID path =
      if clientID = owner ∧ path = levels topic then none else tree.stored clientID path := by
  by_cases absent : (tree.subsAt (levels topic)).lookup owner = none
  · rw [apply_remove_absent absent]
    split
    case isTrue both => rw [stored, both.1, both.2, absent]
    case isFalse => rfl
  · rw [apply_remove_present absent, stored, stored]
    by_cases samePath : path = levels topic
    · subst samePath
      rw [subsAt_writeSubs_self]
      by_cases sameClient : clientID = owner
      · subst sameClient
        rw [if_pos ⟨rfl, rfl⟩, AList.lookup_erase]
      · rw [if_neg (fun both => sameClient both.1), AList.lookup_erase_ne sameClient]
    · rw [if_neg (fun both => samePath both.2), subsAt_writeSubs_of_ne _ _ _ samePath]

def forgotten (index : List GoString) (topic : GoString) : List GoString :=
  match index.findIdx? (fun entry => entry == topic) with
  | none => index
  | some position => shiftDown index position

theorem getSubscriptionTopics_remove {tree : SimpleTopicTree} {clientID topic : GoString}
    (present : tree.stored clientID (levels topic) ≠ none) :
    (tree.apply (.remove clientID topic)).getSubscriptionTopics clientID =
      forgotten (tree.getSubscriptionTopics clientID) topic := by
  rw [apply_remove_present present]
  change ((forgetTopic tree.topics clientID topic).lookup clientID).getD [] =
    forgotten ((tree.topics.lookup clientID).getD []) topic
  unfold forgetTopic forgotten
  cases listed : tree.topics.lookup clientID with
  | none => simp [listed]
  | some index =>
    cases found : index.findIdx? (fun entry => entry == topic) with
    | none => simp [listed, found]
    | some position => simp [found]

end SimpleTopicTree

/-! ## The sweep at the end of a clean session -/

def SweepClears : List Nat -> List GoString -> (List GoString -> Prop) -> Prop
  | [], _, held => forall path, ¬held path
  | position :: later, index, held =>
    match index[position]? with
    | none => SweepClears later index held
    | some topic =>
      (held (levels topic) ∧ SweepClears later (SimpleTopicTree.forgotten index topic)
        (fun path => held path ∧ path ≠ levels topic)) ∨
      (¬held (levels topic) ∧ SweepClears later index held)

namespace Broker

theorem removeTopics_stored_of_ne {clientId other : GoString} (different : other ≠ clientId)
    (positions : List Nat) (tree : SimpleTopicTree) (path : List GoString) :
    (removeTopics tree clientId positions).stored other path = tree.stored other path := by
  induction positions generalizing tree with
  | nil => rfl
  | cons position later ih =>
    rw [removeTopics]
    cases (tree.getSubscriptionTopics clientId)[position]? with
    | none => exact ih tree
    | some topic =>
      rw [ih, SimpleTopicTree.stored_remove, if_neg (fun both => different both.1)]

theorem removeTopics_clears_iff (clientId : GoString) (positions : List Nat)
    (tree : SimpleTopicTree) :
    (forall path, (removeTopics tree clientId positions).stored clientId path = none) ↔
      SweepClears positions (tree.getSubscriptionTopics clientId)
        (fun path => tree.stored clientId path ≠ none) := by
  induction positions generalizing tree with
  | nil =>
    rw [removeTopics, SweepClears]
    exact forall_congr' (fun path => not_not.symm)
  | cons position later ih =>
    rw [removeTopics, SweepClears]
    cases (tree.getSubscriptionTopics clientId)[position]? with
    | none => exact ih tree
    | some topic =>
      by_cases held : tree.stored clientId (levels topic) = none
      · simp only [SimpleTopicTree.apply_remove_absent held, ih, held]
        simp
      · have remaining : (fun path =>
            (tree.apply (.remove clientId topic)).stored clientId path ≠ none) =
            (fun path => tree.stored clientId path ≠ none ∧ path ≠ levels topic) := by
          funext path
          rw [SimpleTopicTree.stored_remove]
          by_cases same : path = levels topic <;> simp [same]
        simp only [ih, SimpleTopicTree.getSubscriptionTopics_remove held, remaining]
        simp [held]

theorem removeTopics_stored {clientId other : GoString} {path : List GoString} {sub : Subscription}
    (positions : List Nat) (tree : SimpleTopicTree)
    (stored : (removeTopics tree clientId positions).stored other path = some sub) :
    tree.stored other path = some sub := by
  induction positions generalizing tree with
  | nil => exact stored
  | cons position later ih =>
    rw [removeTopics] at stored
    cases listed : (tree.getSubscriptionTopics clientId)[position]? with
    | none =>
      rw [listed] at stored
      exact ih tree stored
    | some topic =>
      rw [listed] at stored
      have kept := ih _ stored
      rw [SimpleTopicTree.stored_remove] at kept
      split at kept
      · cases kept
      · exact kept

theorem removeTopics_same_iff (clientId : GoString) (positions : List Nat)
    (tree : SimpleTopicTree) :
    (forall path, (removeTopics tree clientId positions).stored clientId path =
        tree.stored clientId path) ↔
      forall position, position ∈ positions -> forall topic,
        (tree.getSubscriptionTopics clientId)[position]? = some topic ->
        tree.stored clientId (levels topic) = none := by
  induction positions with
  | nil => simp [removeTopics]
  | cons position later ih =>
    rw [removeTopics]
    cases listed : (tree.getSubscriptionTopics clientId)[position]? with
    | none =>
      simp only [ih, List.forall_mem_cons, listed]
      simp
    | some topic =>
      by_cases absent : tree.stored clientId (levels topic) = none
      · simp only [SimpleTopicTree.apply_remove_absent absent, ih, List.forall_mem_cons, listed]
        simp [absent]
      · simp only [List.forall_mem_cons, listed]
        constructor
        · intro same
          rcases Option.ne_none_iff_exists'.mp absent with ⟨sub, stored⟩
          have kept := removeTopics_stored later _ ((same (levels topic)).trans stored)
          rw [SimpleTopicTree.stored_remove, if_pos ⟨rfl, rfl⟩] at kept
          cases kept
        · exact fun clear => absurd (clear.1 topic rfl) absent

-- Of three topics the second one is passed over.
example :
    let tree := SimpleTopicTree.after
      [.add { clientID := ascii "c", topic := ascii "x", qos := 0, queue := 0 },
        .add { clientID := ascii "c", topic := ascii "y", qos := 0, queue := 0 },
        .add { clientID := ascii "c", topic := ascii "z", qos := 0, queue := 0 }]
    let swept := removeTopics tree (ascii "c") (List.range 3)
    [ascii "x", ascii "y", ascii "z"].map
      (fun topic => (swept.stored (ascii "c") (levels topic)).isSome) = [false, true, false] := by
  decide +kernel

/-! ## The handlers -/

@[simp] theorem findSession_removeSession (broker : Broker) (clientId other : GoString) :
    (broker.removeSession clientId).findSession other =
      if other = clientId then none else broker.findSession other := by
  split
  case isTrue same =>
    rw [same]
    exact AList.lookup_erase clientId broker.sessions
  case isFalse different => exact AList.lookup_erase_ne different

@[simp] theorem findSession_registerSession (broker : Broker) (clientId other : GoString)
    (session : Session) :
    (broker.registerSession clientId session).findSession other =
      if other = clientId then some ((broker.findSession clientId).getD session)
      else broker.findSession other := by
  unfold registerSession
  cases found : broker.findSession clientId with
  | some old =>
    simp only
    split
    case isTrue same => rw [same, found, Option.getD_some]
    case isFalse => rfl
  | none =>
    simp only
    split
    case isTrue same =>
      rw [same]
      exact AList.lookup_insert broker.sessions
    case isFalse different => exact AList.lookup_insert_ne different

@[simp] theorem registerSession_tree (broker : Broker) (clientId : GoString) (session : Session) :
    (broker.registerSession clientId session).tree = broker.tree := by
  rw [registerSession]
  split <;> rfl

@[simp] theorem registerSession_brokerId (broker : Broker) (clientId : GoString)
    (session : Session) :
    (broker.registerSession clientId session).brokerId = broker.brokerId := by
  rw [registerSession]
  split <;> rfl

theorem addVirtualSession_queueService (broker : Broker) (dial : Except GoString Unit)
    (brokerId clientId : GoString) :
    (broker.addVirtualSession dial brokerId clientId).queueService =
      (broker.queueService.newQueue clientId true dial).2 := by
  unfold addVirtualSession
  split
  case h_1 answered => rw [answered]
  case h_2 answered => rw [registerSession_queueService, answered]

theorem onSessionCreate_tree (broker : Broker) (dial : Except GoString Unit)
    (event : SessionCreateEvent) : (broker.onSessionCreate dial event).tree = broker.tree := by
  unfold onSessionCreate addVirtualSession
  split
  · split
    · rfl
    · split
      · rfl
      · exact registerSession_tree _ _ _
  · rfl

theorem onSessionCreate_queueService {broker : Broker} {event : SessionCreateEvent} {ref : QueueRef}
    (registered : broker.queueService.getQueue event.clientId = some ref)
    (dial : Except GoString Unit) :
    (broker.onSessionCreate dial event).queueService = broker.queueService := by
  unfold onSessionCreate
  split
  · cases broker.findSession event.clientId with
    | some session => rfl
    | none =>
      exact (broker.addVirtualSession_queueService dial event.brokerId event.clientId).trans
        (QueueService.newQueue_registered registered dial)
  · rfl

theorem onSessionDestroy_persistent {broker : Broker} {event : SessionDestroyEvent}
    (persistent : (broker.findSession event.clientId).any Session.isPersistent = true) :
    exists service, broker.onSessionDestroy event = { broker with queueService := service } ∧
      service.queues = broker.queueService.queues ∧
      forall ref, service.kind ref = broker.queueService.kind ref := by
  unfold onSessionDestroy
  simp only [if_pos persistent]
  cases broker.queueService.getQueue event.clientId with
  | none => exact ⟨broker.queueService, rfl, rfl, fun _ => rfl⟩
  | some ref => exact ⟨_, rfl, rfl, fun other => QueueService.registerObserver_kind _ ref other none⟩

theorem onSessionDestroy_clean {broker : Broker} {event : SessionDestroyEvent}
    (clean : (broker.findSession event.clientId).any Session.isPersistent = false) :
    broker.onSessionDestroy event =
      { broker.removeSession event.clientId with
        tree := removeTopics broker.tree event.clientId
          (List.range (broker.tree.getSubscriptionTopics event.clientId).length)
        queueService := broker.queueService.destroyQueue event.clientId } := by
  unfold onSessionDestroy
  simp only [clean]
  rfl

/-- What a broker holds for a client is the same in two states: the entry, the
registered queue with its observer, and the subscriptions. -/
structure SameHoldings (before after : Broker) (clientId : GoString) : Prop where
  session : after.findSession clientId = before.findSession clientId
  queue : after.queueService.getQueue clientId = before.queueService.getQueue clientId
  observer : forall ref, before.queueService.getQueue clientId = some ref ->
    after.queueService.observer ref = before.queueService.observer ref
  stored : forall path, after.tree.stored clientId path = before.tree.stored clientId path

theorem onSessionDestroy_other {broker : Broker} {event : SessionDestroyEvent} {clientId : GoString}
    (other : clientId ≠ event.clientId)
    (clean : (broker.findSession event.clientId).any Session.isPersistent = false) :
    SameHoldings broker (broker.onSessionDestroy event) clientId := by
  rw [onSessionDestroy_clean clean]
  refine ⟨?_, ?_, fun _ _ => rfl, fun path => ?_⟩
  · exact (findSession_removeSession broker event.clientId clientId).trans (if_neg other)
  · exact AList.lookup_erase_ne other
  · exact removeTopics_stored_of_ne other _ _ path

/-- A broker holds nothing for a client that the end of a session takes away. -/
def Bare (broker : Broker) (clientId : GoString) : Prop :=
  if (broker.findSession clientId).any Session.isPersistent then
    forall ref, broker.queueService.getQueue clientId = some ref ->
      broker.queueService.observer ref = none
  else
    broker.findSession clientId = none ∧ broker.queueService.getQueue clientId = none ∧
      forall topic, topic ∈ broker.tree.getSubscriptionTopics clientId ->
        broker.tree.stored clientId (levels topic) = none

theorem onSessionDestroy_same_iff (broker : Broker) (event : SessionDestroyEvent) :
    SameHoldings broker (broker.onSessionDestroy event) event.clientId ↔
      broker.Bare event.clientId := by
  unfold Bare
  cases persistent : (broker.findSession event.clientId).any Session.isPersistent with
  | true =>
    rw [if_pos rfl]
    unfold onSessionDestroy
    simp only [if_pos persistent]
    cases found : broker.queueService.getQueue event.clientId with
    | none => exact ⟨fun _ => nofun, fun _ => ⟨rfl, rfl, fun _ _ => rfl, fun _ => rfl⟩⟩
    | some ref =>
      have taken := QueueService.registerObserver_none broker.queueService ref
      constructor
      · intro same other registered
        cases registered
        exact (same.observer ref found).symm.trans taken
      · intro free
        refine ⟨rfl, rfl, fun other registered => ?_, fun _ => rfl⟩
        cases found.symm.trans registered
        exact taken.trans (free ref rfl).symm
  | false =>
    rw [if_neg Bool.false_ne_true, onSessionDestroy_clean persistent]
    have swept := removeTopics_same_iff event.clientId
      (List.range (broker.tree.getSubscriptionTopics event.clientId).length) broker.tree
    constructor
    · intro same
      refine ⟨?_, ?_, fun topic member => ?_⟩
      · exact same.session.symm.trans (AList.lookup_erase _ _)
      · exact same.queue.symm.trans (AList.lookup_erase _ _)
      · rcases List.mem_iff_getElem.mp member with ⟨position, bound, listed⟩
        exact swept.mp same.stored position (List.mem_range.mpr bound) topic
          (List.getElem?_eq_some_iff.mpr ⟨bound, listed⟩)
    · rintro ⟨noSession, noQueue, noTopic⟩
      refine ⟨?_, ?_, fun _ _ => rfl, swept.mpr (fun position _ topic listed => ?_)⟩
      · exact (AList.lookup_erase _ _).trans noSession.symm
      · exact (AList.lookup_erase _ _).trans noQueue.symm
      · exact noTopic topic (List.mem_of_getElem? listed)

theorem addSubscription_stored {broker : Broker} {event : TopicSubscribeEvent}
    {clientID : GoString} {path : List GoString} {sub : Subscription}
    (stored : (broker.addSubscription event).tree.stored clientID path = some sub) :
    broker.tree.stored clientID path = some sub ∨
      broker.queueService.getQueue clientID = some sub.queue := by
  unfold addSubscription at stored
  cases found : broker.queueService.getQueue event.clientID with
  | none =>
    rw [found] at stored
    exact .inl stored
  | some ref =>
    simp only [found, SimpleTopicTree.stored_add] at stored
    split at stored
    case isTrue both =>
      cases stored
      exact .inr (both.1 ▸ found)
    case isFalse => exact .inl stored

theorem addSubscription_eq (broker : Broker) (event : TopicSubscribeEvent) :
    exists tree, broker.addSubscription event = { broker with tree := tree } := by
  unfold addSubscription
  cases broker.queueService.getQueue event.clientID with
  | none => exact ⟨broker.tree, rfl⟩
  | some ref => exact ⟨_, rfl⟩

end Broker

end SessionMgr
end Sentel
