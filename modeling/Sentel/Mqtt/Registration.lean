import Sentel.Mqtt.Connecting
import Sentel.Mqtt.Framing
import Sentel.SessionMgr.ClientHoldings

namespace Sentel
namespace Mqtt

open Library Handler Base Queue Event SessionMgr Auth SessionM

/-!
# The registration of sessions

A CONNECT that is accepted registers a queue and a session for its client, and
the events that sessions notify change the subscriptions and, at the end of a
session, remove what was registered.  The events are processed one by one, at
any time after they were notified.  The broker is meant to come to a state in
which every stored subscription uses the registered queue of its client, and
the registered session is the one that connected last.
-/

/-! ## What an accepted CONNECT leaves -/

structure SameRegistry (before after : Broker) : Prop where
  brokerId : after.brokerId = before.brokerId
  sessions : after.sessions = before.sessions
  tree : after.tree = before.tree
  queues : after.queueService.queues = before.queueService.queues
  kinds : forall ref, after.queueService.kind ref = before.queueService.kind ref
  observers : forall ref, after.queueService.observer ref = before.queueService.observer ref

theorem SameRegistry.refl (broker : Broker) : SameRegistry broker broker :=
  ⟨rfl, rfl, rfl, rfl, fun _ => rfl, fun _ => rfl⟩

theorem SameRegistry.trans {first second third : Broker} (one : SameRegistry first second)
    (two : SameRegistry second third) : SameRegistry first third :=
  ⟨two.brokerId.trans one.brokerId, two.sessions.trans one.sessions, two.tree.trans one.tree,
    two.queues.trans one.queues, fun ref => (two.kinds ref).trans (one.kinds ref),
    fun ref => (two.observers ref).trans (one.observers ref)⟩

theorem SameRegistry.registerSession {before after : Broker} (same : SameRegistry before after)
    (clientId : GoString) (session : Session) :
    SameRegistry (before.registerSession clientId session)
      (after.registerSession clientId session) := by
  have found : after.findSession clientId = before.findSession clientId :=
    congrArg (AList.lookup clientId) same.sessions
  unfold Broker.registerSession
  rw [found]
  cases before.findSession clientId with
  | some old => exact same
  | none =>
    exact ⟨same.brokerId, by simp only [same.sessions], same.tree, same.queues, same.kinds,
      same.observers⟩

structure Registered (broker : Broker) (session : MqttSession) (scene : Scene) : Prop where
  same : SameRegistry broker scene.broker
  clientID : scene.session.clientID = session.clientID
  id : scene.session.id = session.id
  cleanSession : scene.session.cleanSession = session.cleanSession

theorem registered_stable (broker : Broker) (session : MqttSession) :
    QueueStable (Registered broker session) where
  packet := fun _ _ holds => ⟨holds.same, holds.clientID, holds.id, holds.cleanSession⟩
  conn := fun _ _ _ holds => ⟨holds.same, holds.clientID, holds.id, holds.cleanSession⟩
  nextPacketID := fun _ _ holds => ⟨holds.same, holds.clientID, holds.id, holds.cleanSession⟩
  protocol := fun _ _ holds => ⟨holds.same, holds.clientID, holds.id, holds.cleanSession⟩
  keepalive := fun _ _ holds => ⟨holds.same, holds.clientID, holds.id, holds.cleanSession⟩
  setContents := fun _ ref msgs holds => ⟨⟨holds.same.brokerId, holds.same.sessions, holds.same.tree,
    (QueueService.setContents_queues _ ref msgs).trans holds.same.queues,
    fun other => (QueueService.setContents_kind _ ref other msgs).trans (holds.same.kinds other),
    fun other => (QueueService.setContents_observer _ ref other msgs).trans
      (holds.same.observers other)⟩,
    holds.clientID, holds.id, holds.cleanSession⟩
  setRetainList := fun _ ref list holds => ⟨⟨holds.same.brokerId, holds.same.sessions,
    holds.same.tree, holds.same.queues,
    fun other => (QueueService.setRetainList_kind _ ref other list).trans (holds.same.kinds other),
    fun other => (QueueService.setRetainList_observer _ ref other list).trans
      (holds.same.observers other)⟩,
    holds.clientID, holds.id, holds.cleanSession⟩

/-- A CONNECT is accepted when its handler reports a new session. -/
def accepted (effects : List Effect) : Bool :=
  (notified effects).any isSessionCreate

theorem accepted_iff {effects : List Effect} :
    accepted effects = true ↔ exists event, Effect.notify (.sessionCreate event) ∈ effects := by
  rw [accepted, List.any_eq_true]
  constructor
  · rintro ⟨event, member, created⟩
    cases event with
    | sessionCreate event => exact ⟨event, mem_notified.mp member⟩
    | _ => cases created
  · rintro ⟨event, member⟩
    exact ⟨_, mem_notified.mpr member, rfl⟩

inductive Greeting (brokerId : GoString) : BrokerEvent -> Prop
  | resume (event : SessionResumeEvent) : Greeting brokerId (.sessionResume event)
  | create (event : SessionCreateEvent) (own : event.brokerId = brokerId) :
      Greeting brokerId (.sessionCreate event)

theorem announce_registers (persistent : Bool) (scene : Scene) :
    SameRegistry (scene.broker.registerSession scene.session.clientID
        (.mqtt scene.session.id (scene.session.cleanSession = 0)))
      (announceSession persistent scene).state.broker ∧
    forall event, Effect.notify event ∈ (announceSession persistent scene).effects ->
      Greeting scene.broker.brokerId event := by
  rw [announceSession, session_bind_apply, setBroker_bind_apply,
    bind_of_ok (notify_apply _ _)]
  let entry : Session := .mqtt scene.session.id (scene.session.cleanSession = 0)
  let broker := scene.broker.registerSession scene.session.clientID entry
  have served : Keeps (Registered broker scene.session) Silent (do
      when (0 < scene.session.keepalive) startKeepAlive
      handleDataAvailableNotification availableAll) :=
    .bind (.when (fun _ => .bind (setSession_keeps (fun _ holds =>
        ⟨holds.same, holds.clientID, holds.id, holds.cleanSession⟩)) (fun _ => .emit (fun _ => nofun))))
      (fun _ => handleDataAvailableNotification_keeps (registered_stable _ _) (fun _ _ => nofun)
        (fun _ => nofun) _)
  rcases served { scene with broker := broker } ⟨.refl _, rfl, rfl, rfl⟩ with ⟨quiet, final⟩
  refine ⟨final.same, fun event member => ?_⟩
  rw [precede_effects, List.mem_append] at member
  rcases member with created | late
  · cases List.mem_singleton.mp created
    exact .create _ (Broker.registerSession_brokerId _ _ _)
  · exact absurd rfl (quiet _ late event)

theorem enterSession_registers {cleanSession conack : UInt8} {scene : Scene}
    (entered : accepted (enterSession cleanSession conack scene).effects = true) :
    SameRegistry (scene.broker.registerSession scene.session.clientID
        (.mqtt scene.session.id (scene.session.cleanSession = 0)))
      (enterSession cleanSession conack scene).state.broker ∧
    forall event, Effect.notify event ∈ (enterSession cleanSession conack scene).effects ->
      Greeting scene.broker.brokerId event := by
  rw [enterSession, setSessionState, setSession_bind_apply] at entered ⊢
  have acked : Keeps (Registered scene.broker scene.session) Silent
      (ignore (sendConnAck conack CONNACK_ACCEPTED)) :=
    .ignore (sendConnAck_keeps (registered_stable _ _).toStable
      (silent_write CONNACK) _ _)
  rcases acked { scene with session :=
    { scene.session with sessionState := .connected } } ⟨.refl _, rfl, rfl, rfl⟩ with ⟨silent, held⟩
  by_cases returned : (ignore (sendConnAck conack CONNACK_ACCEPTED) { scene with session :=
    { scene.session with sessionState := .connected } }).outcome = .ok ()
  · rw [bind_of_returned returned, precede_state, precede_effects]
    have announced := announce_registers (cleanSession = 0)
      (ignore (sendConnAck conack CONNACK_ACCEPTED) { scene with session :=
        { scene.session with sessionState := .connected } }).state
    have registers := held.same.registerSession scene.session.clientID
      (.mqtt scene.session.id (scene.session.cleanSession = 0))
    rw [held.clientID, held.id, held.cleanSession, held.same.brokerId] at announced
    refine ⟨registers.trans announced.1, fun event member => ?_⟩
    rcases List.mem_append.mp member with early | late
    · exact absurd rfl (silent _ early event)
    · exact announced.2 event late
  · rcases accepted_iff.mp entered with ⟨event, member⟩
    rw [(bind_of_stopped _ (fun _ ended => returned ended)).1] at member
    exact absurd rfl (silent _ member _)

def Scene.registration (scene : Scene) (host : Host) (cleanSession : UInt8) (ref : QueueRef) :
    Broker :=
  { (scene.takenOver cleanSession).broker with
    queueService := (scene.newQueue host (cleanSession = 0)).2.registerObserver ref
      (some scene.session.id) }.registerSession scene.session.clientID
        (.mqtt scene.session.id (cleanSession = 0))

theorem openSession_registers {host : Host} {cleanSession : UInt8} {willMsg : Option Message}
    {scene : Scene}
    (entered : accepted (openSession host cleanSession willMsg scene).effects = true) :
    exists ref, (scene.newQueue host (cleanSession = 0)).1 = .ok ref ∧
      SameRegistry (scene.registration host cleanSession ref)
        (openSession host cleanSession willMsg scene).state.broker ∧
      forall event, Effect.notify event ∈ (openSession host cleanSession willMsg scene).effects ->
        Greeting scene.broker.brokerId event := by
  cases answer : (scene.newQueue host (cleanSession = 0)).1 with
  | error reason =>
    -- Without a queue the handler stops before it reports a session.
    rcases @openSession_refused host cleanSession willMsg scene reason answer
        with ⟨effects, resumes, refused⟩
    rw [refused] at entered
    rcases accepted_iff.mp entered with ⟨event, member⟩
    rcases resumes _ member with ⟨other, impossible⟩
    cases impossible
  | ok ref =>
    rcases @openSession_given host cleanSession willMsg scene ref answer
        with ⟨effects, ack, before, given⟩
    rw [given] at entered ⊢
    have early : forall event, Effect.notify event ∈ effects ->
        exists resumed, event = .sessionResume resumed := by
      intro event member
      rcases before _ member with impossible | ⟨resumed, same⟩
      · cases impossible
      · exact ⟨resumed, Effect.notify.inj same⟩
    have late : accepted (enterSession cleanSession ack
        ((scene.prepared cleanSession willMsg).observing ref
          (scene.newQueue host (cleanSession = 0)).2)).effects = true := by
      rcases accepted_iff.mp entered with ⟨event, member⟩
      rcases List.mem_append.mp member with first | second
      · rcases early _ first with ⟨resumed, impossible⟩
        cases impossible
      · exact accepted_iff.mpr ⟨event, second⟩
    rcases enterSession_registers late with ⟨same, greets⟩
    refine ⟨ref, rfl, same, fun event member => ?_⟩
    rcases List.mem_append.mp member with first | second
    · rcases early _ first with ⟨resumed, found⟩
      rw [found]
      exact .resume resumed
    · have own : ((scene.prepared cleanSession willMsg).observing ref
          (scene.newQueue host (cleanSession = 0)).2).broker.brokerId = scene.broker.brokerId := by
        change (scene.takenOver cleanSession).broker.brokerId = _
        rw [takenOver_brokerId]
      exact own ▸ greets event second

structure Accepts (before after : Broker) (clientID : GoString) (id : ConnId) (persistent : Bool) :
    Prop where
  brokerId : after.brokerId = before.brokerId
  tree : after.tree = before.tree
  entry : after.findSession clientID = some (if persistent then .mqtt id true
    else (before.findSession clientID).getD (.mqtt id false))
  otherEntries : forall other, other ≠ clientID -> after.findSession other = before.findSession other
  queue : exists ref, before.queueService.Opens after.queueService clientID persistent ref ∧
    after.queueService.observer ref = some id ∧
    forall old, before.queueService.getQueue clientID = some old ->
      before.queueService.isPersistent old = true ∧ (persistent = true -> old = ref)

theorem openSession_accepts {host : Host} {cleanSession : UInt8} {willMsg : Option Message}
    {scene : Scene}
    (entered : accepted (openSession host cleanSession willMsg scene).effects = true) :
    Accepts scene.broker (openSession host cleanSession willMsg scene).state.broker
      scene.session.clientID scene.session.id (cleanSession = 0) := by
  rcases openSession_registers entered with ⟨ref, given, same, _⟩
  rcases QueueService.newQueue_given given with ⟨opens, reused⟩
  have found : forall other,
      (openSession host cleanSession willMsg scene).state.broker.findSession other =
        (scene.registration host cleanSession ref).findSession other :=
    fun other => congrArg (AList.lookup other) same.sessions
  have removed : forall other, (scene.takenOver cleanSession).broker.findSession other =
      if cleanSession = 0 ∧ other = scene.session.clientID then none
      else scene.broker.findSession other := by
    intro other
    unfold Scene.takenOver
    by_cases persistent : cleanSession = 0 <;> simp [persistent]
  constructor
  · rw [same.brokerId, Scene.registration, Broker.registerSession_brokerId]
    exact takenOver_brokerId scene cleanSession
  · rw [same.tree, Scene.registration, Broker.registerSession_tree]
    exact takenOver_tree scene cleanSession
  · rw [found, Scene.registration, Broker.findSession_registerSession, if_pos rfl]
    change some (((scene.takenOver cleanSession).broker.findSession _).getD _) = _
    rw [removed]
    by_cases persistent : cleanSession = 0 <;> simp [persistent]
  · intro other different
    rw [found, Scene.registration, Broker.findSession_registerSession, if_neg different]
    change (scene.takenOver cleanSession).broker.findSession _ = _
    rw [removed, if_neg (fun both => different both.2)]
  · refine ⟨ref, opens.congr ?_ ?_, ?_, reused⟩
    · rw [same.queues, Scene.registration, Broker.registerSession_queueService]
      rfl
    · intro other
      rw [same.kinds, Scene.registration, Broker.registerSession_queueService]
      exact QueueService.registerObserver_kind _ ref other _
    · rw [same.observers, Scene.registration, Broker.registerSession_queueService]
      exact QueueService.registerObserver_observer opens.opened _

/-! ## Runs of a broker -/

namespace Registration

/-- A broker with the events that wait to be processed, the clients that have
a connection, and for each client the connection whose CONNECT was accepted
last. -/
structure State where
  broker : Broker
  pending : List BrokerEvent
  live : GoString -> Bool
  latest : GoString -> Option ConnId
  next : ConnId

/-- What happens to the broker.  Every connection gets an identifier of its
own. -/
inductive Label
  | connect (host : Host) (session : MqttSession) (cleanSession : UInt8) (willMsg : Option Message)
  | subscribe (clientID topic : GoString) (qos : UInt8)
  | unsubscribe (clientID topic : GoString)
  | disconnect (clientID : GoString)
  | process (order : RangeOrder) (dial : Except GoString Unit)

def State.scene (state : State) (session : MqttSession) : Scene where
  session := { session with id := state.next }
  packet := newMqttPacket
  broker := state.broker

def State.report (state : State) (event : BrokerEvent) : State :=
  { state with pending := state.pending ++ [event.setBrokerId state.broker.brokerId] }

def State.joined (state : State) (clientID : GoString) (broker : Broker)
    (events : List BrokerEvent) : State where
  broker := broker
  pending := state.pending ++ events
  live := Function.update state.live clientID true
  latest := Function.update state.latest clientID (some state.next)
  next := state.next + 1

def step (state : State) : Label -> Option State
  | .connect host session cleanSession willMsg =>
    let run := openSession host cleanSession willMsg (state.scene session)
    if state.live session.clientID = false ∧ accepted run.effects = true then
      some (state.joined session.clientID run.state.broker (notified run.effects))
    else none
  | .subscribe clientID topic qos =>
    if state.live clientID = true then
      some (state.report (.topicSubscribe
        { clientID := clientID, topic := topic, qos := qos, retain := true }))
    else none
  | .unsubscribe clientID topic =>
    if state.live clientID = true then
      some (state.report (.topicUnsubscribe { clientID := clientID, topic := topic }))
    else none
  | .disconnect clientID =>
    if state.live clientID = true then
      some { state.report (.sessionDestroy { clientId := clientID }) with
        live := Function.update state.live clientID false }
    else none
  | .process order dial =>
    match state.pending with
    | [] => none
    | event :: later =>
      some { state with
        broker := (state.broker.handleEvent order dial event).1
        pending := later }

def machine (brokerId : GoString) : Machine State Label where
  initial := {
    broker := newBroker brokerId
    pending := []
    live := fun _ => false
    latest := fun _ => none
    next := 0 }
  step := step

/-- Every stored subscription uses the registered queue of its client, and the
registered session is the one that connected last. -/
structure Consistent (state : State) : Prop where
  queues : forall clientID path sub, state.broker.tree.stored clientID path = some sub ->
    state.broker.queueService.getQueue clientID = some sub.queue
  sessions : forall clientID session, state.broker.findSession clientID = some session ->
    exists id persistent, session = .mqtt id persistent ∧ state.latest clientID = some id
  connected : forall clientID, state.live clientID = true ->
    state.broker.findSession clientID ≠ none

/-- The condition on a step.  A clean session connects only when its client
has no entry.  The end of a session without a persistent entry is processed
only when the sweep of the client's topics clears all its subscriptions. -/
def Guard (state : State) : Label -> Prop
  | .connect _ session cleanSession _ =>
    cleanSession ≠ 0 -> state.broker.findSession session.clientID = none
  | .process _ _ => forall event later, state.pending = .sessionDestroy event :: later ->
      (state.broker.findSession event.clientId).any Session.isPersistent = false ->
      SweepClears (List.range (state.broker.tree.getSubscriptionTopics event.clientId).length)
        (state.broker.tree.getSubscriptionTopics event.clientId)
        (fun path => state.broker.tree.stored event.clientId path ≠ none)
  | _ => True

/-! ## The invariant -/

def endsSession (clientID : GoString) : BrokerEvent -> Bool
  | .sessionDestroy event => event.clientId == clientID
  | _ => false

def endings (pending : List BrokerEvent) (clientID : GoString) : Nat :=
  pending.countP (endsSession clientID)

inductive Own (brokerId : GoString) : BrokerEvent -> Prop
  | greeting {event : BrokerEvent} (greets : Greeting brokerId event) : Own brokerId event
  | destroy (event : SessionDestroyEvent) : Own brokerId (.sessionDestroy event)
  | subscribe (event : TopicSubscribeEvent) (own : event.brokerID = brokerId) :
      Own brokerId (.topicSubscribe event)
  | unsubscribe (event : TopicUnsubscribeEvent) (own : event.brokerID = brokerId) :
      Own brokerId (.topicUnsubscribe event)

inductive Holding (broker : Broker) (clientID : GoString) (live : Bool) (latest : Option ConnId)
    (endings : Nat) : Prop
  | absent (entry : broker.findSession clientID = none)
      (queue : broker.queueService.getQueue clientID = none) (gone : live = false)
      (ended : endings = 0)
  | present {id : ConnId} {ref : QueueRef} {persistent : Bool}
      (entry : broker.findSession clientID = some (.mqtt id persistent))
      (last : latest = some id) (queue : broker.queueService.getQueue clientID = some ref)
      (kind : broker.queueService.kind ref = some persistent)
      (ending : persistent = false -> endings = if live then 0 else 1)

theorem Holding.frame {before after : Broker} {clientID : GoString} {live : Bool}
    {latest : Option ConnId} {endings : Nat}
    (holding : Holding before clientID live latest endings)
    (entry : after.findSession clientID = before.findSession clientID)
    (queue : after.queueService.getQueue clientID = before.queueService.getQueue clientID)
    (kinds : forall ref known, before.queueService.kind ref = some known ->
      after.queueService.kind ref = some known) :
    Holding after clientID live latest endings := by
  cases holding with
  | absent noEntry noQueue gone ended =>
    exact .absent (entry.trans noEntry) (queue.trans noQueue) gone ended
  | present found last registered kind ending =>
    exact .present (entry.trans found) last (queue.trans registered) (kinds _ _ kind) ending

structure Sound (state : State) : Prop where
  own : forall event, event ∈ state.pending -> Own state.broker.brokerId event
  queues : forall clientID path sub, state.broker.tree.stored clientID path = some sub ->
    state.broker.queueService.getQueue clientID = some sub.queue
  holding : forall clientID, Holding state.broker clientID (state.live clientID)
    (state.latest clientID) (endings state.pending clientID)

theorem Sound.consistent {state : State} (sound : Sound state) : Consistent state := by
  refine ⟨sound.queues, ?_, ?_⟩
  · intro clientID session found
    cases sound.holding clientID with
    | absent entry => exact nomatch entry.symm.trans found
    | present entry last =>
      cases entry.symm.trans found
      exact ⟨_, _, rfl, last⟩
  · intro clientID connected missing
    cases sound.holding clientID with
    | absent _ _ gone => exact Bool.false_ne_true (gone.symm.trans connected)
    | present entry => exact nomatch missing.symm.trans entry

theorem sound_initial (brokerId : GoString) : Sound (machine brokerId).initial where
  own := fun _ member => absurd member List.not_mem_nil
  queues := by
    intro clientID path sub stored
    cases (SimpleTopicTree.stored_initial clientID path).symm.trans stored
  holding := fun clientID =>
    .absent (AList.lookup_empty clientID) (AList.lookup_empty clientID) rfl rfl

/-! ### Connecting -/

theorem endings_greetings {brokerId : GoString} {pending events : List BrokerEvent}
    (greets : forall event, event ∈ events -> Greeting brokerId event) (clientID : GoString) :
    endings (pending ++ events) clientID = endings pending clientID := by
  have none : events.countP (endsSession clientID) = 0 := by
    rw [List.countP_eq_zero]
    intro event member
    cases greets event member <;> exact Bool.false_ne_true
  rw [endings, List.countP_append, none, Nat.add_zero]
  rfl

theorem Holding.accept {before after : Broker} {clientID : GoString} {live : Bool}
    {latest : Option ConnId} {endings : Nat} {id : ConnId} {persistent : Bool}
    (holding : Holding before clientID live latest endings)
    (accepts : Accepts before after clientID id persistent)
    (allowed : persistent = false -> before.findSession clientID = none) :
    Holding after clientID true (some id) endings ∧
      forall ref, before.queueService.getQueue clientID = some ref ->
        after.queueService.getQueue clientID = some ref := by
  rcases accepts.queue with ⟨ref, opens, _, reused⟩
  have entry : after.findSession clientID = some (.mqtt id persistent) := by
    rw [accepts.entry]
    cases persistent with
    | true => rfl
    | false =>
      rw [allowed rfl]
      rfl
  cases holding with
  | absent _ noQueue _ ended =>
    refine ⟨.present entry rfl opens.registered opens.opened (fun _ => ended), ?_⟩
    exact fun old found => nomatch noQueue.symm.trans found
  | present found _ registered =>
    -- A clean session has no entry to find, so this one is persistent.
    cases persistent with
    | false => exact nomatch (allowed rfl).symm.trans found
    | true =>
      refine ⟨.present entry rfl opens.registered opens.opened nofun, fun old present => ?_⟩
      rw [(reused old present).2 rfl]
      exact opens.registered

theorem joined_sound {state : State} (sound : Sound state) {clientID : GoString} {broker : Broker}
    {persistent : Bool} {events : List BrokerEvent}
    (accepts : Accepts state.broker broker clientID state.next persistent)
    (allowed : persistent = false -> state.broker.findSession clientID = none)
    (greets : forall event, event ∈ events -> Greeting state.broker.brokerId event) :
    Sound (state.joined clientID broker events) := by
  rcases (sound.holding clientID).accept accepts allowed with ⟨held, kept⟩
  rcases accepts.queue with ⟨_, opens, _⟩
  constructor
  · intro event member
    change Own broker.brokerId event
    rw [accepts.brokerId]
    rcases List.mem_append.mp member with waiting | added
    · exact sound.own event waiting
    · exact .greeting (greets event added)
  · intro other path sub stored
    change broker.tree.stored other path = some sub at stored
    change broker.queueService.getQueue other = some sub.queue
    rw [accepts.tree] at stored
    have pointed := sound.queues other path sub stored
    by_cases same : other = clientID
    · rw [same] at pointed ⊢
      exact kept _ pointed
    · rw [opens.others other same]
      exact pointed
  · intro other
    change Holding broker other (Function.update state.live clientID true other)
      (Function.update state.latest clientID (some state.next) other)
      (endings (state.pending ++ events) other)
    rw [endings_greetings greets]
    by_cases same : other = clientID
    · rw [same, Function.update_self, Function.update_self]
      exact held
    · rw [Function.update_of_ne same, Function.update_of_ne same]
      exact (sound.holding other).frame (accepts.otherEntries other same)
        (opens.others other same) opens.kinds

/-! ### Reporting -/

theorem endings_append (pending : List BrokerEvent) (event : BrokerEvent) (clientID : GoString) :
    endings (pending ++ [event]) clientID =
      endings pending clientID + if endsSession clientID event then 1 else 0 := by
  rw [endings, List.countP_append, List.countP_singleton]
  rfl

theorem endings_cons (event : BrokerEvent) (pending : List BrokerEvent) (clientID : GoString) :
    endings (event :: pending) clientID =
      endings pending clientID + if endsSession clientID event then 1 else 0 := by
  rw [endings, List.countP_cons]
  rfl

theorem report_sound {state : State} (sound : Sound state) {event : BrokerEvent}
    (own : Own state.broker.brokerId (event.setBrokerId state.broker.brokerId))
    (quiet : forall clientID,
      endsSession clientID (event.setBrokerId state.broker.brokerId) = false) :
    Sound (state.report event) := by
  refine ⟨fun other member => ?_, sound.queues, fun clientID => ?_⟩
  · rcases List.mem_append.mp member with waiting | added
    · exact sound.own other waiting
    · exact List.mem_singleton.mp added ▸ own
  · change Holding state.broker clientID (state.live clientID) (state.latest clientID)
      (endings (state.pending ++ [event.setBrokerId state.broker.brokerId]) clientID)
    rw [endings_append, quiet clientID]
    exact sound.holding clientID

theorem disconnect_sound {state : State} (sound : Sound state) {clientID : GoString}
    (connected : state.live clientID = true) :
    Sound { state.report (.sessionDestroy { clientId := clientID }) with
      live := Function.update state.live clientID false } := by
  refine ⟨fun other member => ?_, sound.queues, fun other => ?_⟩
  · rcases List.mem_append.mp member with waiting | added
    · exact sound.own other waiting
    · rw [List.mem_singleton.mp added]
      exact .destroy _
  · change Holding state.broker other (Function.update state.live clientID false other)
      (state.latest other) (endings (state.pending ++ [.sessionDestroy
        { clientId := clientID, brokerId := state.broker.brokerId }]) other)
    rw [endings_append]
    by_cases same : other = clientID
    · subst same
      rw [Function.update_self]
      have holding := sound.holding other
      rw [connected] at holding
      cases holding with
      | absent _ _ gone => exact absurd gone.symm Bool.false_ne_true
      | present entry last queue kind ending =>
        refine .present entry last queue kind (fun clean => ?_)
        rw [ending clean]
        simp [endsSession]
    · have passes : endsSession other (.sessionDestroy
          { clientId := clientID, brokerId := state.broker.brokerId }) = false :=
        beq_eq_false_iff_ne.mpr (fun equal => same equal.symm)
      rw [Function.update_of_ne same, passes]
      exact sound.holding other

/-! ### Processing -/

section Processing

variable {state : State} (sound : Sound state) {event : BrokerEvent} {later : List BrokerEvent}
  (waiting : state.pending = event :: later)

include sound waiting

theorem own_later (other : BrokerEvent) (member : other ∈ later) :
    Own state.broker.brokerId other :=
  sound.own other (waiting ▸ List.mem_cons_of_mem event member)

theorem tree_sound (quiet : forall clientID, endsSession clientID event = false)
    {tree : SimpleTopicTree}
    (stores : forall clientID path sub, tree.stored clientID path = some sub ->
      state.broker.tree.stored clientID path = some sub ∨
        state.broker.queueService.getQueue clientID = some sub.queue) :
    Sound { state with broker := { state.broker with tree := tree }, pending := later } := by
  refine ⟨own_later sound waiting, fun clientID path sub stored => ?_, fun clientID => ?_⟩
  · rcases stores clientID path sub stored with old | pointed
    · exact sound.queues clientID path sub old
    · exact pointed
  · have holding := sound.holding clientID
    rw [waiting, endings_cons, quiet clientID] at holding
    exact holding.frame rfl rfl (fun _ _ known => known)

end Processing

section Ending

variable {state : State} (sound : Sound state) {event : SessionDestroyEvent}
  {later : List BrokerEvent} (waiting : state.pending = .sessionDestroy event :: later)

include waiting in
theorem endings_ending (clientID : GoString) : endings state.pending clientID =
    endings later clientID + if clientID = event.clientId then 1 else 0 := by
  rw [waiting, endings_cons]
  by_cases same : clientID = event.clientId
  · simp [endsSession, same]
  · have passes : endsSession clientID (.sessionDestroy event) = false :=
      beq_eq_false_iff_ne.mpr (fun equal => same equal.symm)
    rw [passes, if_neg same]
    rfl

include sound waiting

theorem persistentEnd_sound
    (persistent : (state.broker.findSession event.clientId).any Session.isPersistent = true) :
    Sound { state with broker := state.broker.onSessionDestroy event, pending := later } := by
  rcases Broker.onSessionDestroy_persistent persistent with ⟨service, handled, queues, kinds⟩
  have registered : forall clientID,
      service.getQueue clientID = state.broker.queueService.getQueue clientID :=
    fun clientID => congrArg (AList.lookup clientID) queues
  rw [handled]
  refine ⟨own_later sound waiting, fun clientID path sub stored => ?_, fun clientID => ?_⟩
  · exact (registered clientID).trans (sound.queues clientID path sub stored)
  · have holding := sound.holding clientID
    rw [endings_ending waiting] at holding
    refine @Holding.frame state.broker _ _ _ _ _ ?_ rfl (registered clientID)
      (fun ref _ known => (kinds ref).trans known)
    by_cases same : clientID = event.clientId
    · rw [if_pos same] at holding
      cases holding with
      | absent _ _ _ ended => exact absurd ended (Nat.succ_ne_zero _)
      | present entry last queue kind _ =>
        refine .present entry last queue kind (fun clean => ?_)
        rw [← same, entry, clean] at persistent
        exact absurd persistent Bool.false_ne_true
    · rw [if_neg same] at holding
      exact holding

theorem cleanEnd_sound
    (clean : (state.broker.findSession event.clientId).any Session.isPersistent = false)
    (sweeps : SweepClears
      (List.range (state.broker.tree.getSubscriptionTopics event.clientId).length)
      (state.broker.tree.getSubscriptionTopics event.clientId)
      (fun path => state.broker.tree.stored event.clientId path ≠ none)) :
    Sound { state with broker := state.broker.onSessionDestroy event, pending := later } := by
  have cleared := (Broker.removeTopics_clears_iff _ _ _).mpr sweeps
  rw [Broker.onSessionDestroy_clean clean]
  refine ⟨own_later sound waiting, fun clientID path sub stored => ?_, fun clientID => ?_⟩
  · by_cases same : clientID = event.clientId
    · rw [same] at stored
      exact nomatch (cleared path).symm.trans stored
    · refine (AList.lookup_erase_ne same).trans (sound.queues clientID path sub ?_)
      exact (Broker.removeTopics_stored_of_ne same _ _ path).symm.trans stored
  · have holding := sound.holding clientID
    rw [endings_ending waiting] at holding
    by_cases same : clientID = event.clientId
    · subst same
      rw [if_pos rfl] at holding
      have ended : state.live event.clientId = false ∧ endings later event.clientId = 0 := by
        cases holding with
        | absent _ _ _ ended => exact absurd ended (Nat.succ_ne_zero _)
        | present entry _ _ _ ending =>
          rw [entry] at clean
          have counted := ending clean
          cases live : state.live event.clientId with
          | true =>
            rw [live] at counted
            exact absurd counted (Nat.succ_ne_zero _)
          | false =>
            rw [live] at counted
            exact ⟨rfl, Nat.succ.inj counted⟩
      exact .absent (AList.lookup_erase _ _) (AList.lookup_erase _ _) ended.1 ended.2
    · rw [if_neg same] at holding
      exact holding.frame (AList.lookup_erase_ne same) (AList.lookup_erase_ne same)
        (fun _ _ known => known)

end Ending

theorem process_sound {state : State} (sound : Sound state) {event : BrokerEvent}
    {later : List BrokerEvent} (waiting : state.pending = event :: later)
    (order : RangeOrder) (dial : Except GoString Unit)
    (allowed : Guard state (.process order dial)) :
    Sound { state with broker := (state.broker.handleEvent order dial event).1, pending := later } := by
  have own : Own state.broker.brokerId event :=
    sound.own event (waiting ▸ List.mem_cons_self)
  have same : forall clientID path sub, state.broker.tree.stored clientID path = some sub ->
      state.broker.tree.stored clientID path = some sub ∨
        state.broker.queueService.getQueue clientID = some sub.queue :=
    fun _ _ _ stored => .inl stored
  cases own with
  | greeting greets =>
    cases greets with
    | resume event => exact tree_sound sound waiting (fun _ => rfl) same
    | create event own =>
      have ignored : state.broker.onSessionCreate dial event = state.broker :=
        if_neg (fun foreign => foreign.1 own)
      change Sound { state with broker := state.broker.onSessionCreate dial event, pending := later }
      rw [ignored]
      exact tree_sound sound waiting (fun _ => rfl) same
  | destroy event =>
    cases clean : (state.broker.findSession event.clientId).any Session.isPersistent with
    | true => exact persistentEnd_sound sound waiting clean
    | false => exact cleanEnd_sound sound waiting clean (allowed event later waiting clean)
  | subscribe event own =>
    have handled : state.broker.onTopicSubscribe event = state.broker.addSubscription event := by
      rw [Broker.onTopicSubscribe, if_neg (fun foreign => foreign.1 own), if_pos own]
    have stores := fun clientID path sub =>
      @Broker.addSubscription_stored state.broker event clientID path sub
    rcases state.broker.addSubscription_eq event with ⟨tree, added⟩
    change Sound { state with broker := state.broker.onTopicSubscribe event, pending := later }
    rw [added] at handled stores
    rw [handled]
    exact tree_sound sound waiting (fun _ => rfl) stores
  | unsubscribe event own =>
    have handled : state.broker.onTopicUnsubscribe event = { state.broker with
        tree := state.broker.tree.apply (.remove event.clientID event.topic) } := by
      rw [Broker.onTopicUnsubscribe, if_neg (fun foreign => foreign.1 own), if_pos own]
    change Sound { state with broker := state.broker.onTopicUnsubscribe event, pending := later }
    rw [handled]
    refine tree_sound sound waiting (fun _ => rfl) (fun clientID path sub stored => .inl ?_)
    rw [SimpleTopicTree.stored_remove] at stored
    split at stored
    · cases stored
    · exact stored

/-! ## The registry of every run -/

theorem step_sound {state next : State} {label : Label} (sound : Sound state)
    (allowed : Guard state label) (taken : step state label = some next) : Sound next := by
  cases label with
  | connect host session cleanSession willMsg =>
    rw [step] at taken
    split at taken
    case isTrue enabled =>
      cases taken
      rcases openSession_registers enabled.2 with ⟨_, _, _, greets⟩
      exact joined_sound sound (openSession_accepts enabled.2)
        (fun clean => allowed (of_decide_eq_false clean))
        (fun event member => greets event (mem_notified.mp member))
    case isFalse => cases taken
  | subscribe clientID topic qos =>
    rw [step] at taken
    split at taken
    · cases taken
      exact report_sound sound (.subscribe _ rfl) (fun _ => rfl)
    · cases taken
  | unsubscribe clientID topic =>
    rw [step] at taken
    split at taken
    · cases taken
      exact report_sound sound (.unsubscribe _ rfl) (fun _ => rfl)
    · cases taken
  | disconnect clientID =>
    rw [step] at taken
    split at taken
    case isTrue connected =>
      cases taken
      exact disconnect_sound sound connected
    case isFalse => cases taken
  | process order dial =>
    rw [step] at taken
    split at taken
    case h_1 => cases taken
    case h_2 event later waiting =>
      cases taken
      exact process_sound sound waiting order dial allowed

/-- In every run that meets the condition the registry is consistent, whether
events wait or not. -/
theorem consistent_of_guarded {brokerId : GoString} {state : State}
    (reached : (machine brokerId).Reaches Guard state) : Consistent state :=
  (reached.invariant (sound_initial brokerId) step_sound).consistent

def arrives (cleanSession : UInt8) : Label :=
  .connect quietHost { newMqttSession 0 reliableConn false with clientID := ascii "c" }
    cleanSession none

def next : Label := .process .listed (.ok ())

def lasting (state : State) : Label -> Bool
  | .connect _ session cleanSession _ =>
    cleanSession == 0 || (state.broker.findSession session.clientID).isNone
  | .process _ _ =>
    match state.pending with
    | .sessionDestroy event :: _ =>
      (state.broker.findSession event.clientId).any Session.isPersistent
    | _ => true
  | _ => true

theorem guard_of_lasting (state : State) (label : Label) (lasts : lasting state label = true) :
    Guard state label := by
  cases label with
  | connect host session cleanSession willMsg =>
    intro clean
    rcases (Bool.or_eq_true _ _).mp lasts with persistent | missing
    · exact absurd (beq_iff_eq.mp persistent) clean
    · exact Option.isNone_iff_eq_none.mp missing
  | process order dial =>
    intro event later waiting clean
    rw [lasting, waiting] at lasts
    exact absurd (clean.symm.trans lasts) Bool.false_ne_true
  | _ => exact True.intro

def comesBack : List Label :=
  [arrives 0, next, .subscribe (ascii "c") (ascii "t") 0, next, .disconnect (ascii "c"), next,
    arrives 0, next, next]

theorem returning_client_consistent :
    exists state, (machine (ascii "b")).Reaches Guard state ∧ state.pending = [] ∧
      state.live (ascii "c") = true ∧ Consistent state := by
  have executed : ((machine (ascii "b")).run (machine (ascii "b")).initial comesBack).any
      (fun state => decide (state.pending = []) && state.live (ascii "c")) = true := by
    decide +kernel
  have lasts : (machine (ascii "b")).Allowed (fun state label => lasting state label = true)
      (machine (ascii "b")).initial comesBack := by
    decide +kernel
  rcases (Option.any_eq_true _ _).mp executed with ⟨state, executed, settled⟩
  rcases (Bool.and_eq_true _ _).mp settled with ⟨settled, live⟩
  have reached := Machine.reaches_of_run .initial (lasts.weaken guard_of_lasting) executed
  exact ⟨state, reached, of_decide_eq_true settled, live, consistent_of_guarded reached⟩

def comesBackClean : List Label :=
  [arrives 0, next, .disconnect (ascii "c"), next, arrives 1, next]

/-- The entry of the old session is still registered. -/
theorem stale_session_registered :
    exists state, (machine (ascii "b")).Reachable state ∧ state.pending = [] ∧
      ¬Consistent state := by
  have executed : exists state, (machine (ascii "b")).run (machine (ascii "b")).initial
      comesBackClean = some state ∧ state.pending = [] ∧
      state.broker.findSession (ascii "c") = some (.mqtt 0 true) ∧
      state.latest (ascii "c") = some 1 := ⟨_, rfl, rfl, rfl, rfl⟩
  rcases executed with ⟨state, executed, settled, entry, latest⟩
  refine ⟨state, Machine.reachable_of_run .initial executed, settled, fun consistent => ?_⟩
  rcases consistent.sessions _ _ entry with ⟨id, persistent, same, last⟩
  cases same
  cases latest.symm.trans last

end Registration

end Mqtt
end Sentel
