import Sentel.Mqtt.Takeover

namespace Sentel
namespace Mqtt

open Library Handler Base Queue Event SessionMgr Auth SessionM

/-!
# Subscriptions of persistent sessions in a cluster

A client opens a persistent session at one broker of a cluster.  Every event of
that broker travels in order to its own session manager and to the one of
another broker, which is meant to hold the same subscriptions of the client.
The events of SUBSCRIBE and UNSUBSCRIBE packets leave their persistent flag
unset, and the other broker ignores the subscriptions of another broker without
that flag.  It creates a virtual session and a queue for the client and never
stores a subscription.
-/

namespace Replication

open Takeover (handled)

/-! ## Events of a session -/

def Unmarked (brokerId : GoString) (event : BrokerEvent) : Prop :=
  forall subscribed, event = .topicSubscribe subscribed ->
    subscribed.brokerID = brokerId ∧ subscribed.persistent = false

def Announces (brokerId : GoString) (effect : Effect) : Prop :=
  forall event, effect = .notify event -> Unmarked brokerId event

section Announcing

variable (clientID brokerId : GoString)

theorem announces_of_silent {effect : Effect} (silent : Silent effect) :
    Announces brokerId effect :=
  fun event same => absurd same (silent event)

theorem announces_of_reports {effect : Effect} (reports : Reports clientID brokerId effect) :
    Announces brokerId effect :=
  fun event same subscribed kind => absurd kind ((reports event same).2.2 subscribed)

theorem notify_announces {event : BrokerEvent}
    (unmarked : forall brokerId, Unmarked brokerId (event.setBrokerId brokerId)) :
    Keeps (Named clientID brokerId) (Announces brokerId) (notify event) := by
  intro scene named
  rw [notify_apply]
  refine ⟨fun effect member other same => ?_, named⟩
  rw [List.mem_singleton.mp member, named.broker] at same
  cases same
  exact unmarked brokerId

theorem subscribeEach_announces (rounds : Nat) (payload : List UInt8) :
    Keeps (Named clientID brokerId) (Announces brokerId)
      (subscribeEach rounds payload) := by
  have stable := named_stable clientID brokerId
  induction rounds generalizing payload with
  | zero => exact .pure _
  | succ rounds ih =>
    refine .bind .look (fun _ => .ite (fun _ => .bind (readFilter_keeps stable.packet)
      (fun filter => .bind session_keeps (fun session => .bind (.when (fun _ => ?_))
        (fun _ => ih _)))) (fun _ => .pure _))
    apply notify_announces
    intro brokerId subscribed same
    cases same
    exact ⟨rfl, rfl⟩

theorem handleSubscribe_announces :
    Keeps (Named clientID brokerId) (Announces brokerId) handleSubscribe := by
  have stable := named_stable clientID brokerId
  exact .bind .look (fun _ => .bind (.failIf _ _) (fun _ =>
    .bind (reading_keeps stable.packet MqttPacket.readUint16_quiet) (fun _ =>
      .bind (subscribeEach_announces clientID brokerId _ _) (fun _ => .bind (.failIf _ _) (fun _ =>
        sendSubAck_keeps stable.toStable
          (fun bytes => announces_of_silent _ (silent_write SUBACK bytes)) _ _)))))

theorem handleUnsubscribe_announces :
    Keeps (Named clientID brokerId) (Announces brokerId) handleUnsubscribe := by
  apply handleUnsubscribe_keeps (named_stable clientID brokerId)
  · exact fun command bytes => announces_of_silent _ (silent_write command bytes)
  · intro event other same
    cases same
    exact fun _ => nofun

theorem disconnect_announces (reason : Option GoString) :
    Keeps (Named clientID brokerId) (Announces brokerId) (disconnect reason) := by
  intro scene named
  rcases disconnect_reports clientID brokerId reason scene named with ⟨reports, after⟩
  exact ⟨fun effect member => announces_of_reports clientID brokerId (reports effect member), after⟩

theorem handleInput_announces (host : Host) {packet : MqttPacket}
    (kind : packetType packet = SUBSCRIBE ∨ packetType packet = UNSUBSCRIBE) :
    Keeps (Named clientID brokerId) (Announces brokerId)
      (handleInput host (.packet packet)) := by
  have received : Keeps (Named clientID brokerId) (Announces brokerId)
      (receive host (.packet packet)) := by
    intro scene named
    have changed : Named clientID brokerId { scene with packet := packet } :=
      ⟨named.client, named.broker⟩
    rcases kind with subscribe | unsubscribe
    · have handles : receive host (.packet packet) scene =
          handleSubscribe { scene with packet := packet } := handleMqttPacket_subscribe subscribe
      rw [handles]
      exact handleSubscribe_announces clientID brokerId _ changed
    · have handles : receive host (.packet packet) scene =
          handleUnsubscribe { scene with packet := packet } :=
        handleMqttPacket_unsubscribe unsubscribe
      rw [handles]
      exact handleUnsubscribe_announces clientID brokerId _ changed
  refine .bind (.attempt received) (fun answer => ?_)
  cases answer with
  | ok _ => exact .pure _
  | error reason => exact .bind (disconnect_announces clientID brokerId _) (fun _ => .pure _)

end Announcing

/-! ## Two brokers -/

/-- The session of the client with its broker, the other broker, and the events
on their way to the session managers of both. -/
structure State where
  scene : Scene
  remote : Broker
  toLocal : List BrokerEvent
  toRemote : List BrokerEvent

/-- The session receives a packet, an event of the session reaches one of the
session managers, or an event of another client does. -/
inductive Label
  | packet (packet : MqttPacket)
  | deliverLocal (order : RangeOrder) (dial : Except GoString Unit)
  | deliverRemote (order : RangeOrder) (dial : Except GoString Unit)
  | other (remote : Bool) (event : BrokerEvent) (order : RangeOrder) (dial : Except GoString Unit)

def State.notified (state : State) (events : List BrokerEvent) : State :=
  { state with
    toLocal := state.toLocal ++ events
    toRemote := state.toRemote ++ events }

def State.handleLocal (state : State) (order : RangeOrder) (dial : Except GoString Unit)
    (event : BrokerEvent) : State :=
  { state with scene := { state.scene with
      broker := handled state.scene.broker order dial event } }

def State.handleRemote (state : State) (order : RangeOrder) (dial : Except GoString Unit)
    (event : BrokerEvent) : State :=
  { state with remote := handled state.remote order dial event }

def step (host : Host) (clientID : GoString) (state : State) : Label -> Option State
  | .packet packet =>
    if state.scene.session.sessionState ≠ .disconnected ∧
        (packetType packet = SUBSCRIBE ∨ packetType packet = UNSUBSCRIBE) then
      let run := handleInput host (.packet packet) state.scene
      match run.outcome with
      | .ok _ => some ({ state with scene := run.state }.notified (Mqtt.notified run.effects))
      | _ => none
    else none
  | .deliverLocal order dial =>
    match state.toLocal with
    | [] => none
    | event :: later => some ({ state with toLocal := later }.handleLocal order dial event)
  | .deliverRemote order dial =>
    match state.toRemote with
    | [] => none
    | event :: later => some ({ state with toRemote := later }.handleRemote order dial event)
  | .other remote event order dial =>
    if event.getClientId = clientID then none
    else if remote then some (state.handleRemote order dial event)
    else some (state.handleLocal order dial event)

/-- The client opens a persistent session. -/
def opening (host : Host) (clientID : GoString) (session : MqttSession) (willMsg : Option Message)
    (home remote : Broker) : State :=
  let run := serveConnect host 0 willMsg
    ⟨{ session with clientID := clientID }, newMqttPacket, home⟩
  { scene := run.state
    remote := remote
    toLocal := Mqtt.notified run.effects
    toRemote := Mqtt.notified run.effects }

def machine (host : Host) (clientID : GoString) (start : State) : Machine State Label where
  initial := start
  step := step host clientID

/-! ## What the other broker holds -/

/-- A broker holds no subscription of the client. -/
def Unsubscribed (clientID : GoString) (broker : Broker) : Prop :=
  forall path, broker.tree.stored clientID path = none

theorem pushes_same (pushes : List (QueueRef × Message)) (broker : Broker) :
    (pushes.foldl Broker.pushback broker).tree = broker.tree ∧
      (pushes.foldl Broker.pushback broker).brokerId = broker.brokerId := by
  induction pushes generalizing broker with
  | nil => exact ⟨rfl, rfl⟩
  | cons push later ih => exact ih (broker.pushback push)

theorem handled_brokerId (broker : Broker) (order : RangeOrder) (dial : Except GoString Unit)
    (event : BrokerEvent) : (handled broker order dial event).brokerId = broker.brokerId := by
  refine (pushes_same _ _).2.trans ?_
  cases event with
  | sessionCreate event =>
    change (broker.onSessionCreate dial event).brokerId = broker.brokerId
    unfold Broker.onSessionCreate Broker.addVirtualSession
    split
    · split
      · rfl
      · split
        · rfl
        · exact Broker.registerSession_brokerId _ _ _
    · rfl
  | sessionDestroy event =>
    change (broker.onSessionDestroy event).brokerId = broker.brokerId
    unfold Broker.onSessionDestroy
    dsimp only
    split
    · split <;> rfl
    · rfl
  | sessionResume event => rfl
  | topicSubscribe event =>
    change (broker.onTopicSubscribe event).brokerId = broker.brokerId
    rcases broker.addSubscription_eq event with ⟨tree, added⟩
    rw [Broker.onTopicSubscribe, added]
    split
    · rfl
    · split <;> rfl
  | topicUnsubscribe event =>
    change (broker.onTopicUnsubscribe event).brokerId = broker.brokerId
    rw [Broker.onTopicUnsubscribe]
    split
    · rfl
    · split <;> rfl
  | topicPublish event => rfl

theorem Unsubscribed.handled {clientID : GoString} {broker : Broker}
    (unsubscribed : Unsubscribed clientID broker) {event : BrokerEvent}
    (foreign : forall subscribed, event = .topicSubscribe subscribed ->
      subscribed.clientID ≠ clientID ∨
        subscribed.brokerID ≠ broker.brokerId ∧ subscribed.persistent = false)
    (order : RangeOrder) (dial : Except GoString Unit) :
    Unsubscribed clientID (Takeover.handled broker order dial event) := by
  intro path
  rw [Takeover.handled, (pushes_same _ _).1]
  cases event with
  | sessionCreate event =>
    change (broker.onSessionCreate dial event).tree.stored clientID path = none
    rw [Broker.onSessionCreate_tree]
    exact unsubscribed path
  | sessionDestroy event =>
    change (broker.onSessionDestroy event).tree.stored clientID path = none
    cases persistent : (broker.findSession event.clientId).any Session.isPersistent with
    | true =>
      rcases Broker.onSessionDestroy_persistent persistent with ⟨service, same, _⟩
      rw [same]
      exact unsubscribed path
    | false =>
      rw [Broker.onSessionDestroy_clean persistent]
      by_contra present
      rcases Option.ne_none_iff_exists'.mp present with ⟨sub, found⟩
      have before := Broker.removeTopics_stored _ _ found
      rw [unsubscribed path] at before
      cases before
  | sessionResume event => exact unsubscribed path
  | topicSubscribe event =>
    change (broker.onTopicSubscribe event).tree.stored clientID path = none
    rcases foreign event rfl with other | ⟨elsewhere, unmarked⟩
    · have kept : (broker.addSubscription event).tree.stored clientID path = none := by
        rw [Broker.addSubscription]
        split
        · exact unsubscribed path
        · rw [SimpleTopicTree.stored_add, if_neg (fun both => other both.1.symm)]
          exact unsubscribed path
      rw [Broker.onTopicSubscribe]
      split
      · exact kept
      · split
        · exact kept
        · exact unsubscribed path
    · rw [Broker.onTopicSubscribe, if_neg (fun both => by
        rw [unmarked] at both
        cases both.2), if_neg elsewhere]
      exact unsubscribed path
  | topicUnsubscribe event =>
    have kept : (broker.tree.apply (.remove event.clientID event.topic)).stored clientID path =
        none := by
      rw [SimpleTopicTree.stored_remove]
      split
      · rfl
      · exact unsubscribed path
    change (broker.onTopicUnsubscribe event).tree.stored clientID path = none
    rw [Broker.onTopicUnsubscribe]
    split
    · exact kept
    · split
      · exact kept
      · exact unsubscribed path
  | topicPublish event => exact unsubscribed path

/-! ## Runs -/

structure Unreplicated (clientID homeId remoteId : GoString) (state : State) : Prop where
  session : Named clientID homeId state.scene
  remote : state.remote.brokerId = remoteId
  unsubscribed : Unsubscribed clientID state.remote
  flying : forall event, event ∈ state.toRemote -> Unmarked homeId event

/-- The brokers hold the same subscriptions of the client with the same quality
of service. -/
def Agree (clientID : GoString) (state : State) : Prop :=
  forall topic, (state.scene.broker.tree.stored clientID (levels topic)).map Subscription.qos =
    (state.remote.tree.stored clientID (levels topic)).map Subscription.qos

theorem step_unreplicated {host : Host} {clientID homeId remoteId : GoString}
    (distinct : homeId ≠ remoteId) {state next : State} {label : Label}
    (holds : Unreplicated clientID homeId remoteId state)
    (taken : step host clientID state label = some next) :
    Unreplicated clientID homeId remoteId next := by
  cases label with
  | packet packet =>
    simp only [step] at taken
    split at taken
    case isTrue served =>
      rcases handleInput_announces clientID homeId host served.2 state.scene holds.session
        with ⟨announces, named⟩
      split at taken
      · cases taken
        refine ⟨named, holds.remote, holds.unsubscribed, fun event member => ?_⟩
        rcases List.mem_append.mp member with old | added
        · exact holds.flying event old
        · exact announces _ (mem_notified.mp added) event rfl
      · cases taken
    case isFalse => cases taken
  | deliverLocal order dial =>
    simp only [step] at taken
    split at taken
    · cases taken
    · cases taken
      exact ⟨⟨holds.session.client, (handled_brokerId _ _ _ _).trans holds.session.broker⟩,
        holds.remote, holds.unsubscribed, holds.flying⟩
  | deliverRemote order dial =>
    simp only [step] at taken
    split at taken
    case h_1 => cases taken
    case h_2 event later flying =>
      cases taken
      have travelling : forall other, other ∈ event :: later -> Unmarked homeId other := by
        rw [← flying]
        exact holds.flying
      refine ⟨holds.session, (handled_brokerId _ _ _ _).trans holds.remote,
        holds.unsubscribed.handled ?_ order dial,
        fun other member => travelling other (List.mem_cons_of_mem _ member)⟩
      intro subscribed same
      rcases travelling event List.mem_cons_self subscribed same with ⟨origin, unmarked⟩
      refine .inr ⟨?_, unmarked⟩
      rw [origin, holds.remote]
      exact distinct
  | other remote event order dial =>
    simp only [step] at taken
    split at taken
    case isTrue => cases taken
    case isFalse different =>
      split at taken
      · cases taken
        refine ⟨holds.session, (handled_brokerId _ _ _ _).trans holds.remote,
          holds.unsubscribed.handled ?_ order dial, holds.flying⟩
        rintro subscribed rfl
        exact .inl different
      · cases taken
        exact ⟨⟨holds.session.client, (handled_brokerId _ _ _ _).trans holds.session.broker⟩,
          holds.remote, holds.unsubscribed, holds.flying⟩

theorem opening_unreplicated {host : Host} {clientID : GoString} {session : MqttSession}
    {willMsg : Option Message} {home remote : Broker}
    (unsubscribed : Unsubscribed clientID remote) :
    Unreplicated clientID home.brokerId remote.brokerId
      (opening host clientID session willMsg home remote) := by
  rcases serveConnect_reports clientID home.brokerId host 0 willMsg
    ⟨{ session with clientID := clientID }, newMqttPacket, home⟩ ⟨rfl, rfl⟩ with ⟨reports, named⟩
  refine ⟨named, rfl, unsubscribed, fun event member => ?_⟩
  exact announces_of_reports clientID home.brokerId (reports _ (mem_notified.mp member)) event rfl

/-- The brokers agree on the client exactly when its broker holds no
subscription of it. -/
theorem agree_iff {host : Host} {clientID : GoString} {session : MqttSession}
    {willMsg : Option Message} {home remote : Broker} (distinct : home.brokerId ≠ remote.brokerId)
    (unsubscribed : Unsubscribed clientID remote) {state : State}
    (reached : (machine host clientID
      (opening host clientID session willMsg home remote)).Reachable state) :
    Agree clientID state ↔
      forall topic, state.scene.broker.tree.stored clientID (levels topic) = none := by
  have holds : Unreplicated clientID home.brokerId remote.brokerId state :=
    reached.invariant (opening_unreplicated unsubscribed)
      (by
        intro before label after holds _ taken
        exact step_unreplicated distinct holds taken)
  rw [Agree]
  simp only [holds.unsubscribed (levels _), Option.map_none, Option.map_eq_none_iff]

def opened : State :=
  opening quietHost (ascii "c") (newMqttSession 0 reliableConn false) none (newBroker (ascii "a"))
    (newBroker (ascii "b"))

def subscribePacket : MqttPacket :=
  { newMqttPacket with
    command := 0x82, remainingLength := 6, payload := ⟨[0, 7, 0, 1, 97, 1], []⟩ }

def subscribing : List Label :=
  [.packet subscribePacket, .deliverLocal .listed (.ok ()), .deliverLocal .listed (.ok ()),
    .deliverRemote .listed (.ok ()), .deliverRemote .listed (.ok ())]

def unsubscribePacket : MqttPacket :=
  { newMqttPacket with
    command := 0xA2, remainingLength := 5, payload := ⟨[0, 8, 0, 1, 97], []⟩ }

/-- The brokers agree again when the subscription has been taken back. -/
theorem unsubscribed_agree :
    exists state, (machine quietHost (ascii "c") opened).run opened (subscribing ++
        [.packet unsubscribePacket, .deliverLocal .listed (.ok ()),
          .deliverRemote .listed (.ok ())]) = some state ∧
      Agree (ascii "c") state := by
  let sub : Subscription := { clientID := ascii "c", topic := ascii "a", qos := 1, queue := 0 }
  have trees : ((machine quietHost (ascii "c") opened).run opened (subscribing ++
      [.packet unsubscribePacket, .deliverLocal .listed (.ok ()),
        .deliverRemote .listed (.ok ())])).map (fun state => state.scene.broker.tree) =
      some ((newSimpleTopicTree.apply (.add sub)).apply (.remove sub.clientID sub.topic)) := by
    rfl
  rcases Option.map_eq_some_iff.mp trees with ⟨state, executed, tree⟩
  refine ⟨state, executed, (agree_iff (by decide)
    (fun path => SimpleTopicTree.stored_initial _ path)
    (Machine.reachable_of_run .initial executed)).mpr (fun topic => ?_)⟩
  rw [tree, SimpleTopicTree.stored_remove, SimpleTopicTree.stored_add,
    SimpleTopicTree.stored_initial]
  split_ifs <;> rfl

/-- The other broker has registered the client and stores no subscription. -/
theorem subscription_not_replicated :
    exists state, (machine quietHost (ascii "c") opened).Reachable state ∧
      state.toLocal = [] ∧ state.toRemote = [] ∧
      state.remote.findSession (ascii "c") = some (.virtual (ascii "a") true) ∧
      ¬ Agree (ascii "c") state := by
  have executed : ((machine quietHost (ascii "c") opened).run opened subscribing).any
      (fun state => decide (state.toLocal = [] ∧ state.toRemote = [] ∧
        state.remote.findSession (ascii "c") = some (.virtual (ascii "a") true) ∧
        (state.scene.broker.tree.stored (ascii "c") (levels (ascii "a"))).map Subscription.qos =
          some 1 ∧
        (state.remote.tree.stored (ascii "c") (levels (ascii "a"))).map Subscription.qos = none)) =
      true := by
    decide +kernel
  rcases (Option.any_eq_true _ _).mp executed with ⟨state, executed, facts⟩
  rcases of_decide_eq_true facts with ⟨home, remote, registered, stored, missing⟩
  refine ⟨state, Machine.reachable_of_run .initial executed, home, remote, registered,
    fun agree => ?_⟩
  have same := agree (ascii "a")
  rw [stored, missing] at same
  cases same

end Replication

end Mqtt
end Sentel
