import Sentel.Mqtt.Registration

namespace Sentel
namespace Mqtt

open Library Handler Base Queue Event SessionMgr Auth SessionM

/-!
# Connections that share a client identifier

Connections to the brokers of a cluster present the same client identifier, one
after the other or at the same time.  A CONNECT is accepted, or refused because
its client already has a queue, or refused before its client is identified.  The
connection whose CONNECT was accepted last owns the identifier until it ends.
The events of all connections travel to every broker and arrive in any order,
if they arrive.  They name the client and not the connection, so the end of one
connection can reach a broker that holds the session of another one.  The end of
a connection that was never identified names the empty client.
-/

/-! ## The round of the main loop that handles a CONNECT -/

/-- A round of the main loop from the moment the client of a CONNECT is known. -/
def serveConnect (host : Host) (cleanSession : UInt8) (willMsg : Option Message) :
    SessionM (Option GoString) := do
  match ← attempt (openSession host cleanSession willMsg) with
  | .ok _ => return none
  | .error reason =>
    disconnect (some reason)
    return some reason

def CreatesNothing (effect : Effect) : Prop :=
  forall event, effect ≠ .notify (.sessionCreate event)

theorem disconnect_keepsBroker (broker : Broker) (reason : Option GoString) :
    Keeps (fun scene : Scene => scene.broker = broker) CreatesNothing
      (disconnect reason) := by
  refine disconnect_keeps (fun _ holds => holds) (fun _ holds => holds) ?_ reason ?_
  · intro effect ending event same
    rw [same] at ending
    exact ending
  · exact fun scene _ => publishWill_keeps (fun _ _ => nofun) reason scene.session

section Serving

variable {host : Host} {cleanSession : UInt8} {willMsg : Option Message} {scene : Scene}

theorem serveConnect_given {ref : QueueRef}
    (given : (scene.newQueue host (cleanSession = 0)).1 = .ok ref) :
    (serveConnect host cleanSession willMsg scene).effects =
        (openSession host cleanSession willMsg scene).effects ∧
      (serveConnect host cleanSession willMsg scene).state =
        (openSession host cleanSession willMsg scene).state ∧
      forall reason, (serveConnect host cleanSession willMsg scene).outcome ≠ .ok (some reason) := by
  rcases @openSession_given host cleanSession willMsg scene ref given with ⟨effects, ack, _, opened⟩
  have noError : forall reason,
      (openSession host cleanSession willMsg scene).outcome ≠ .error reason := by
    intro reason failed
    rw [opened, precede_outcome] at failed
    exact enterSession_neverFails cleanSession ack _ reason failed
  by_cases returned : (openSession host cleanSession willMsg scene).outcome = .ok ()
  · rw [serveConnect, bind_of_ok (attempt_of_ok returned)]
    exact ⟨List.append_nil _, rfl, fun _ impossible => nomatch impossible⟩
  · rcases attempt_of_stuck
      (fun _ ended => returned ended) noError with ⟨effects, state, stopped⟩
    have ends := @Handler.bind_of_stopped _ _ _ _ _ _ _
      (fun answer : Except GoString Unit => match answer with
        | .ok _ => (pure none : SessionM (Option GoString))
        | .error reason => do
          disconnect (some reason)
          return some reason) stopped
    exact ⟨ends.1.trans effects, ends.2.1.trans state, fun reason => ends.2.2.1 (some reason)⟩

theorem serveConnect_refused {reason : GoString}
    (refused : (scene.newQueue host (cleanSession = 0)).1 = .error reason) :
    accepted (serveConnect host cleanSession willMsg scene).effects = false ∧
      (serveConnect host cleanSession willMsg scene).state.broker =
        (scene.takenOver cleanSession).broker := by
  rcases @openSession_refused host cleanSession willMsg scene reason refused
      with ⟨effects, resumes, failed⟩
  have service : (scene.newQueue host (cleanSession = 0)).2 =
      (scene.takenOver cleanSession).broker.queueService :=
    (QueueService.newQueue_refused refused).trans (takenOver_queueService scene cleanSession).symm
  rw [service] at failed
  have attempted := @Handler.attempt_of_error _ _ _ _ (openSession host cleanSession willMsg) scene
    reason (by rw [failed])
  rw [failed] at attempted
  have closing : Keeps (fun other => other.broker = (scene.takenOver cleanSession).broker)
      CreatesNothing (do disconnect (some reason); return some reason : SessionM (Option GoString)) :=
    .bind (disconnect_keepsBroker _ _) (fun _ => .pure _)
  rw [serveConnect, bind_of_ok attempted, precede_effects, precede_state]
  rcases closing { scene.prepared cleanSession willMsg with
    broker := (scene.takenOver cleanSession).broker } rfl with ⟨silent, same⟩
  refine ⟨Bool.eq_false_iff.mpr (fun entered => ?_), same⟩
  rcases accepted_iff.mp entered with ⟨event, member⟩
  rcases List.mem_append.mp member with early | late
  · rcases resumes _ early with ⟨resumed, impossible⟩
    cases impossible
  · exact silent _ late event rfl

theorem serveConnect_accepts
    (entered : accepted (serveConnect host cleanSession willMsg scene).effects = true) :
    Accepts scene.broker (serveConnect host cleanSession willMsg scene).state.broker
      scene.session.clientID scene.session.id (cleanSession = 0) := by
  cases answer : (scene.newQueue host (cleanSession = 0)).1 with
  | error reason =>
    exact absurd (entered.symm.trans (serveConnect_refused answer).1) Bool.false_ne_true.symm
  | ok ref =>
    rcases @serveConnect_given host cleanSession willMsg scene ref answer with ⟨effects, state, _⟩
    rw [state]
    rw [effects] at entered
    exact openSession_accepts entered

theorem serveConnect_failed {reason : GoString}
    (failed : (serveConnect host cleanSession willMsg scene).outcome = .ok (some reason)) :
    (serveConnect host cleanSession willMsg scene).state.broker =
      (scene.takenOver cleanSession).broker := by
  cases answer : (scene.newQueue host (cleanSession = 0)).1 with
  | error reason => exact (serveConnect_refused answer).2
  | ok ref =>
    exact absurd failed ((@serveConnect_given host cleanSession willMsg scene ref answer).2.2 reason)

end Serving

/-! ## The events of the round -/

def Names (clientID : GoString) (effect : Effect) : Prop :=
  forall event, effect = .notify event -> event.getClientId = clientID

structure Named (clientID brokerId : GoString) (scene : Scene) : Prop where
  client : scene.session.clientID = clientID
  broker : scene.broker.brokerId = brokerId

def Reports (clientID brokerId : GoString) (effect : Effect) : Prop :=
  forall event, effect = .notify event -> event.getClientId = clientID ∧
    event.getBrokerId = brokerId ∧ forall subscribed, event ≠ .topicSubscribe subscribed

theorem named_stable (clientID brokerId : GoString) : QueueStable (Named clientID brokerId) where
  packet := fun _ _ named => ⟨named.client, named.broker⟩
  conn := fun _ _ _ named => ⟨named.client, named.broker⟩
  nextPacketID := fun _ _ named => ⟨named.client, named.broker⟩
  protocol := fun _ _ named => ⟨named.client, named.broker⟩
  keepalive := fun _ _ named => ⟨named.client, named.broker⟩
  setContents := fun _ _ _ named => ⟨named.client, named.broker⟩
  setRetainList := fun _ _ _ named => ⟨named.client, named.broker⟩

section Reporting

variable (clientID brokerId : GoString)

theorem reports_of_silent {effect : Effect} (silent : Silent effect) :
    Reports clientID brokerId effect :=
  fun event same => absurd same (silent event)

theorem notify_reports {event : BrokerEvent}
    (named : forall brokerId, (event.setBrokerId brokerId).getClientId = clientID ∧
      (event.setBrokerId brokerId).getBrokerId = brokerId ∧
      forall subscribed, event.setBrokerId brokerId ≠ .topicSubscribe subscribed) :
    Keeps (Named clientID brokerId) (Reports clientID brokerId) (notify event) := by
  intro scene holds
  rw [notify_apply]
  refine ⟨fun effect member other same => ?_, holds⟩
  rw [List.mem_singleton.mp member, holds.broker] at same
  cases same
  exact named brokerId

theorem takeOverSession_reports (cleanSession : UInt8) :
    Keeps (Named clientID brokerId) (Reports clientID brokerId)
      (takeOverSession cleanSession) := by
  refine session_bind (fun scene named => .ite (fun _ => .bind broker_keeps (fun broker => ?_))
    (fun _ => .pure _))
  cases broker.findSession scene.session.clientID with
  | none => exact .pure _
  | some old =>
    exact .bind (.when (fun _ => notify_reports clientID brokerId
      (fun _ => ⟨named.client, rfl, fun _ => nofun⟩))) (fun _ =>
      .bind (.change (fun _ holds => ⟨holds.client, holds.broker⟩)) (fun _ => .pure _))

theorem openQueue_reports (host : Host) (persistent : Bool) :
    Keeps (Named clientID brokerId) (Reports clientID brokerId)
      (openQueue host persistent) := by
  refine .bind session_keeps (fun session => .bind broker_keeps (fun broker =>
    .bind (.change (fun _ holds => ⟨holds.client, holds.broker⟩)) (fun _ => ?_)))
  cases (broker.queueService.newQueue session.clientID persistent host.dial).1 with
  | error reason => exact .fail _
  | ok ref =>
    exact .bind (setSession_keeps (fun _ holds => ⟨holds.client, holds.broker⟩)) (fun _ =>
      .bind (useQueue_keeps (reports_of_silent _ _ (fun _ => nofun))) (fun _ =>
        .change (fun _ holds => ⟨holds.client, holds.broker⟩)))

theorem openSession_reports (host : Host) (cleanSession : UInt8) (willMsg : Option Message) :
    Keeps (Named clientID brokerId) (Reports clientID brokerId)
      (openSession host cleanSession willMsg) := by
  have stable := named_stable clientID brokerId
  have writes : forall command bytes, Reports clientID brokerId (.write command bytes) :=
    fun command bytes => reports_of_silent _ _ (silent_write command bytes)
  refine .bind (takeOverSession_reports clientID brokerId _) (fun conack =>
    .bind (setSession_keeps (fun _ holds => ⟨holds.client, holds.broker⟩)) (fun _ =>
    .bind (openQueue_reports clientID brokerId host _) (fun _ =>
    .bind (setSession_keeps (fun _ holds => ⟨holds.client, holds.broker⟩)) (fun _ =>
    .bind (.ignore (sendConnAck_keeps stable.toStable (writes CONNACK) _ _)) (fun _ =>
      session_bind (fun scene named => ?_))))))
  refine .bind (.change (fun scene holds => ⟨holds.client, ?_⟩)) (fun _ =>
    .bind (notify_reports clientID brokerId (fun _ => ⟨named.client, rfl, fun _ => nofun⟩))
      (fun _ => .bind (.when (fun _ =>
        .bind (setSession_keeps (fun _ holds => ⟨holds.client, holds.broker⟩))
          (fun _ => .emit (reports_of_silent _ _ (fun _ => nofun)))))
      (fun _ => handleDataAvailableNotification_keeps stable (writes PUBLISH)
        (reports_of_silent _ _ (fun _ => nofun)) _)))
  exact (Broker.registerSession_brokerId _ _ _).trans holds.broker

theorem publishWill_reports {scene : Scene} (named : Named clientID brokerId scene)
    (reason : Option GoString) :
    Keeps (Named clientID brokerId) (Reports clientID brokerId)
      (publishWill reason scene.session) := by
  unfold publishWill
  cases reason with
  | none => exact .pure ()
  | some reason =>
    cases scene.session.willMsg with
    | none => exact .pure ()
    | some will =>
      exact notify_reports clientID brokerId (fun _ => ⟨named.client, rfl, fun _ => nofun⟩)

theorem disconnect_reports (reason : Option GoString) :
    Keeps (Named clientID brokerId) (Reports clientID brokerId) (disconnect reason) :=
  disconnect_keepsReports (fun _ holds => ⟨holds.client, holds.broker⟩)
    (fun _ holds => ⟨holds.client, holds.broker⟩)
    (fun _ _ silent => reports_of_silent clientID brokerId silent) reason
    (fun _ named => ⟨publishWill_reports clientID brokerId named reason,
      notify_reports clientID brokerId (fun _ => ⟨named.client, rfl, fun _ => nofun⟩)⟩)

theorem serveConnect_reports (host : Host) (cleanSession : UInt8) (willMsg : Option Message) :
    Keeps (Named clientID brokerId) (Reports clientID brokerId)
      (serveConnect host cleanSession willMsg) := by
  refine .bind (.attempt (openSession_reports clientID brokerId host cleanSession willMsg))
    (fun answer => ?_)
  cases answer with
  | ok value => exact .pure _
  | error reason => exact .bind (disconnect_reports clientID brokerId _) (fun _ => .pure _)

end Reporting

theorem serveConnect_names (host : Host) (cleanSession : UInt8) (willMsg : Option Message)
    (scene : Scene) {effect : Effect}
    (member : effect ∈ (serveConnect host cleanSession willMsg scene).effects) :
    Names scene.session.clientID effect :=
  fun event same => ((serveConnect_reports scene.session.clientID scene.broker.brokerId host
    cleanSession willMsg scene ⟨rfl, rfl⟩).1 effect member event same).1

/-! ## Connections that are not identified -/

/-- `handleConnect` up to the point where the client is known. -/
def authenticate (host : Host) : SessionM ConnectRequest := do
  let request ← readConnect
  let parsed := parseRequestOptions request.rawClientID request.username request.password
  setSession (fun session => { session with authctx := parsed.1 })
  failWith parsed.2
  let session ← session
  when session.authNeed (checkAuthentication (host.auth.authenticate parsed.1))
  return request

theorem handleConnect_eq (host : Host) (scene : Scene) :
    handleConnect host scene = (do
      let request ← authenticate host
      setSession (fun session => { session with
        clientID := request.context.clientID
        productID := request.context.productID })
      openSession host request.cleanSession request.willMsg : SessionM Unit) scene := by
  rw [handleConnect, authenticate, bind_assoc_apply]
  refine bind_congr_apply (fun request _ => ?_)
  rw [identify, bind_assoc_apply, bind_assoc_apply]
  refine bind_congr_apply (fun _ _ => ?_)
  rw [bind_assoc_apply, bind_assoc_apply]
  refine bind_congr_apply (fun _ _ => ?_)
  rw [bind_assoc_apply, bind_assoc_apply]
  refine bind_congr_apply (fun _ _ => ?_)
  rw [bind_assoc_apply, bind_assoc_apply]
  exact bind_congr_apply (fun _ _ => rfl)

theorem handleInput_identified {host : Host} {packet : MqttPacket} {scene read : Scene}
    {effects : List Effect} {request : ConnectRequest} (connect : packetType packet = CONNECT)
    (known : authenticate host { scene with packet := packet } = ⟨effects, .ok request, read⟩) :
    handleInput host (.packet packet) scene =
      precede effects (serveConnect host request.cleanSession request.willMsg
        { read with session := { read.session with
            clientID := request.context.clientID
            productID := request.context.productID } }) := by
  have received : receive host (.packet packet) scene = _ :=
    (handleMqttPacket_connect connect).trans (handleConnect_eq host { scene with packet := packet })
  have attempted : attempt (receive host (.packet packet)) scene = precede effects
      (attempt (openSession host request.cleanSession request.willMsg)
        { read with session := { read.session with
            clientID := request.context.clientID
            productID := request.context.productID } }) := by
    rw [attempt, received]
    exact attempt_bind_of_ok known
  exact bind_of_precede attempted

theorem handleInput_unidentified {host : Host} {packet : MqttPacket} {scene : Scene}
    {reason : GoString} (connect : packetType packet = CONNECT)
    (failed : (authenticate host { scene with packet := packet }).outcome = .error reason) :
    handleInput host (.packet packet) scene =
      precede (authenticate host { scene with packet := packet }).effects
        ((do disconnect (some reason); return some reason : SessionM (Option GoString))
          (authenticate host { scene with packet := packet }).state) := by
  have received : receive host (.packet packet) scene =
      ⟨(authenticate host { scene with packet := packet }).effects, .error reason,
        (authenticate host { scene with packet := packet }).state⟩ := by
    change handleMqttPacket host { scene with packet := packet } = _
    rw [handleMqttPacket_connect connect, handleConnect_eq, bind_of_error failed]
  have attempted := @attempt_of_error _ _ _ _ (receive host (.packet packet)) scene reason
    (by rw [received])
  rw [received] at attempted
  exact bind_of_ok attempted

def isSessionDestroy : BrokerEvent -> Bool
  | .sessionDestroy _ => true
  | _ => false

structure Unidentified (broker : Broker) (scene : Scene) : Prop where
  client : scene.session.clientID = []
  will : scene.session.willMsg = none
  broker : scene.broker = broker

def EndsNobody (effect : Effect) : Prop :=
  forall event, effect = .notify event -> event.getClientId = [] ∧ isSessionDestroy event = true

section Unidentified

variable (broker : Broker)

theorem unidentified_stable : Stable (Unidentified broker) where
  packet := fun _ _ holds => ⟨holds.client, holds.will, holds.broker⟩
  conn := fun _ _ _ holds => ⟨holds.client, holds.will, holds.broker⟩
  nextPacketID := fun _ _ holds => ⟨holds.client, holds.will, holds.broker⟩
  protocol := fun _ _ holds => ⟨holds.client, holds.will, holds.broker⟩
  keepalive := fun _ _ holds => ⟨holds.client, holds.will, holds.broker⟩

theorem disconnect_endsNobody (reason : Option GoString) :
    Keeps (Unidentified broker) EndsNobody (disconnect reason) := by
  refine disconnect_keepsReports (fun _ holds => ⟨holds.client, holds.will, holds.broker⟩)
    (fun _ holds => ⟨holds.client, holds.will, holds.broker⟩)
    (fun _ _ silent event same => absurd same (silent event)) reason
    (fun scene unidentified => ⟨?will, ?ended⟩)
  case will =>
    unfold publishWill
    rw [unidentified.will]
    cases reason with
    | none | some reason => exact .pure ()
  case ended =>
    rw [unidentified.client]
    refine notify_keeps (fun _ event same => ?_)
    cases same
    exact ⟨rfl, rfl⟩

theorem authenticate_endsNobody (host : Host) :
    Keeps (Unidentified broker) EndsNobody (authenticate host) := by
  have stable := unidentified_stable broker
  have connacks : forall bytes, EndsNobody (.write CONNACK bytes) := fun _ _ => nofun
  exact .bind (readConnect_keeps stable connacks) (fun request =>
    .bind (setSession_keeps (fun _ holds => ⟨holds.client, holds.will, holds.broker⟩)) (fun _ =>
      .bind (.failWith _) (fun _ => .bind session_keeps (fun _ =>
        .bind (.when (fun _ => checkAuthentication_keeps stable connacks
          (disconnect_endsNobody broker) _)) (fun _ => .pure _)))))

theorem handleInput_endsNobody {host : Host} {packet : MqttPacket} {scene : Scene}
    {reason : GoString} (connect : packetType packet = CONNECT)
    (failed : (authenticate host { scene with packet := packet }).outcome = .error reason)
    (unidentified : Unidentified broker scene) :
    (forall effect, effect ∈ (handleInput host (.packet packet) scene).effects ->
      EndsNobody effect) ∧ (handleInput host (.packet packet) scene).state.broker = broker := by
  rcases authenticate_endsNobody broker host { scene with packet := packet }
    ⟨unidentified.client, unidentified.will, unidentified.broker⟩ with ⟨early, between⟩
  have closing : Keeps (Unidentified broker) EndsNobody
      (do disconnect (some reason); return some reason : SessionM (Option GoString)) :=
    .bind (disconnect_endsNobody broker _) (fun _ => .pure _)
  rcases closing _ between with ⟨late, after⟩
  rw [handleInput_unidentified connect failed]
  exact ⟨fun effect member => (List.mem_append.mp member).elim (early effect) (late effect),
    after.broker⟩

end Unidentified

/-! ## Runs of two brokers -/

namespace Takeover

/-- An event on its way to a broker, with the connection it comes from. -/
structure Letter where
  site : Bool
  conn : ConnId
  event : BrokerEvent
  deriving DecidableEq

/-- Two brokers, the events on their way, the broker of every connection that
was accepted and has not ended, and the connection that owns the client
identifier.  `disturbed` records that the end of a session of the client was
delivered to the owner's broker since the owner connected. -/
structure State where
  brokers : Bool -> Broker
  flying : List Letter
  homes : ConnId -> Option Bool
  owner : Option ConnId
  next : ConnId
  disturbed : Bool

inductive Label
  | connect (site : Bool) (host : Host) (session : MqttSession) (cleanSession : UInt8)
      (willMsg : Option Message)
  | refuse (site : Bool) (host : Host) (conn : Connection) (authNeed : Bool) (packet : MqttPacket)
  | subscribe (conn : ConnId) (topic : GoString) (qos : UInt8)
  | unsubscribe (conn : ConnId) (topic : GoString)
  | disconnect (conn : ConnId)
  | deliver (index : Nat) (order : RangeOrder) (dial : Except GoString Unit)

def letters (site : Bool) (conn : ConnId) (events : List BrokerEvent) : List Letter :=
  events.map (fun event => ⟨site, conn, event⟩) ++ events.map (fun event => ⟨!site, conn, event⟩)

def State.scene (state : State) (site : Bool) (clientID : GoString) (session : MqttSession) :
    Scene where
  session := { session with id := state.next, clientID := clientID }
  packet := newMqttPacket
  broker := state.brokers site

def State.report (state : State) (site : Bool) (conn : ConnId) (event : BrokerEvent) : State :=
  { state with flying :=
      state.flying ++ letters site conn [event.setBrokerId (state.brokers site).brokerId] }

def handled (broker : Broker) (order : RangeOrder) (dial : Except GoString Unit)
    (event : BrokerEvent) : Broker :=
  (broker.handleEvent order dial event).2.foldl Broker.pushback
    (broker.handleEvent order dial event).1

/-- The broker of the connection that owns the client identifier. -/
def State.ownerSite (state : State) : Option Bool :=
  state.owner.bind state.homes

def State.served {Value : Type} (state : State) (site : Bool)
    (run : Run Scene Effect GoString Value) : State :=
  { state with
    brokers := Function.update state.brokers site run.state.broker
    flying := state.flying ++ letters site state.next (notified run.effects)
    next := state.next + 1 }

def State.arrival (state : State) (site : Bool) (conn : Connection) (authNeed : Bool)
    (packet : MqttPacket) : Scene where
  session := newMqttSession state.next conn authNeed
  packet := packet
  broker := state.brokers site

theorem State.arrival_endsNobody (state : State) (site : Bool) {host : Host} {conn : Connection}
    {authNeed : Bool} {packet : MqttPacket} {reason : GoString}
    (connect : packetType packet = CONNECT)
    (failed : (authenticate host (state.arrival site conn authNeed packet)).outcome =
      .error reason) :
    (forall effect, effect ∈ (handleInput host (.packet packet)
      (state.arrival site conn authNeed packet)).effects -> EndsNobody effect) ∧
      (handleInput host (.packet packet) (state.arrival site conn authNeed packet)).state.broker =
        state.brokers site := by
  have unidentified : Unidentified (state.brokers site)
      (state.arrival site conn authNeed packet) := ⟨rfl, rfl, rfl⟩
  exact handleInput_endsNobody _ connect failed unidentified

def step (clientID : GoString) (state : State) : Label -> Option State
  | .connect site host session cleanSession willMsg =>
    let run := serveConnect host cleanSession willMsg (state.scene site clientID session)
    if accepted run.effects = true then
      some { state.served site run with
        homes := Function.update state.homes state.next (some site)
        owner := some state.next
        disturbed := false }
    else
      match run.outcome with
      | .ok (some _) => some (state.served site run)
      | _ => none
  | .refuse site host conn authNeed packet =>
    let scene := state.arrival site conn authNeed packet
    let run := handleInput host (.packet packet) scene
    if packetType packet = CONNECT then
      match (authenticate host scene).outcome, run.outcome with
      | .error _, .ok (some _) => some (state.served site run)
      | _, _ => none
    else none
  | .subscribe conn topic qos =>
    (state.homes conn).map (fun site => state.report site conn (.topicSubscribe
      { clientID := clientID, topic := topic, qos := qos, retain := true }))
  | .unsubscribe conn topic =>
    (state.homes conn).map (fun site => state.report site conn (.topicUnsubscribe
      { clientID := clientID, topic := topic }))
  | .disconnect conn =>
    (state.homes conn).map (fun site =>
      { state.report site conn (.sessionDestroy { clientId := clientID }) with
        homes := Function.update state.homes conn none
        owner := if state.owner = some conn then none else state.owner })
  | .deliver index order dial =>
    (state.flying[index]?).map (fun letter =>
      { state with
        brokers := Function.update state.brokers letter.site
          (handled (state.brokers letter.site) order dial letter.event)
        flying := state.flying.eraseIdx index
        disturbed := state.disturbed ||
          (isSessionDestroy letter.event && decide (letter.event.getClientId = clientID) &&
            decide (state.ownerSite = some letter.site)) })

def machine (brokerIds : Bool -> GoString) (clientID : GoString) : Machine State Label where
  initial := {
    brokers := fun site => newBroker (brokerIds site)
    flying := []
    homes := fun _ => none
    owner := none
    next := 0
    disturbed := false }
  step := step clientID

/-- The end of a connection that was refused or superseded is on its way to the
broker of the connection that owns the client identifier. -/
structure Outlived (state : State) (letter : Letter) : Prop where
  ends : isSessionDestroy letter.event = true
  owned : exists owner, state.owner = some owner ∧ owner ≠ letter.conn ∧
    state.homes owner = some letter.site

/-- The delivery of such an event leaves what the broker holds for the owner. -/
def Spares (clientID : GoString) (state next : State) (letter : Letter) : Prop :=
  (state.brokers letter.site).SameHoldings (next.brokers letter.site) clientID

/-! ## The events on their way -/

def Meant (clientID : GoString) (event : BrokerEvent) : Prop :=
  event.getClientId = clientID ∨ event.getClientId = [] ∧ isSessionDestroy event = true

structure Addressed (clientID : GoString) (state : State) : Prop where
  meant : forall letter, letter ∈ state.flying -> Meant clientID letter.event
  nobody : clientID ≠ [] -> forall site, (state.brokers site).findSession [] = none

theorem mem_letters {site : Bool} {conn : ConnId} {events : List BrokerEvent} {letter : Letter}
    (member : letter ∈ letters site conn events) : letter.event ∈ events := by
  rcases List.mem_append.mp member with own | foreign
  · rcases List.mem_map.mp own with ⟨event, found, same⟩
    rw [← same]
    exact found
  · rcases List.mem_map.mp foreign with ⟨event, found, same⟩
    rw [← same]
    exact found

variable {clientID : GoString} {state : State}

theorem Addressed.append (addressed : Addressed clientID state) {site : Bool} {conn : ConnId}
    {events : List BrokerEvent} (meant : forall event, event ∈ events -> Meant clientID event) :
    forall letter, letter ∈ state.flying ++ letters site conn events ->
      Meant clientID letter.event := by
  intro letter member
  rcases List.mem_append.mp member with old | added
  · exact addressed.meant letter old
  · exact meant letter.event (mem_letters added)

theorem Addressed.report (addressed : Addressed clientID state) (site : Bool) (conn : ConnId)
    {event : BrokerEvent}
    (named : forall brokerId, (event.setBrokerId brokerId).getClientId = clientID) :
    Addressed clientID (state.report site conn event) := by
  refine ⟨addressed.append (fun other member => .inl ?_), addressed.nobody⟩
  rw [List.mem_singleton.mp member]
  exact named _

theorem Addressed.served {Value : Type} (addressed : Addressed clientID state) (site : Bool)
    {run : Run Scene Effect GoString Value}
    (meant : forall event, event ∈ notified run.effects -> Meant clientID event)
    (nobody : clientID ≠ [] -> run.state.broker.findSession [] = none) :
    Addressed clientID (state.served site run) := by
  refine ⟨addressed.append meant, fun named other => ?_⟩
  change (Function.update state.brokers site run.state.broker other).findSession [] = none
  rw [Function.update_apply]
  split
  · exact nobody named
  · exact addressed.nobody named other

theorem handled_nobody {broker : Broker} {event : BrokerEvent}
    (meant : event.getClientId ≠ [] ∨ isSessionDestroy event = true)
    (nobody : broker.findSession [] = none) (order : RangeOrder) (dial : Except GoString Unit) :
    (handled broker order dial event).findSession [] = none := by
  have pushes (broker : Broker) (pushed : List (QueueRef × Message)) :
      (pushed.foldl Broker.pushback broker).findSession [] = broker.findSession [] := by
    induction pushed generalizing broker with
    | nil => rfl
    | cons push later ih => exact ih _
  rw [handled, pushes]
  cases event with
  | sessionResume event | topicPublish event => exact nobody
  | sessionCreate event =>
    have other : [] ≠ event.clientId := fun empty => meant.elim (fun named => named empty.symm) nofun
    change (broker.onSessionCreate dial event).findSession [] = none
    unfold Broker.onSessionCreate Broker.addVirtualSession
    split
    · split
      · exact nobody
      · split
        · exact nobody
        · rw [Broker.findSession_registerSession, if_neg other]
          exact nobody
    · exact nobody
  | sessionDestroy event =>
    change (broker.onSessionDestroy event).findSession [] = none
    unfold Broker.onSessionDestroy
    dsimp only
    split
    · split <;> exact nobody
    · refine (broker.findSession_removeSession event.clientId []).trans ?_
      split
      · rfl
      · exact nobody
  | topicSubscribe event =>
    rcases broker.addSubscription_eq event with ⟨tree, added⟩
    change (broker.onTopicSubscribe event).findSession [] = none
    unfold Broker.onTopicSubscribe
    rw [added]
    split
    · exact nobody
    · split <;> exact nobody
  | topicUnsubscribe event =>
    change (broker.onTopicUnsubscribe event).findSession [] = none
    unfold Broker.onTopicUnsubscribe
    split
    · exact nobody
    · split <;> exact nobody

theorem takenOver_other (scene : Scene) (cleanSession : UInt8) {other : GoString}
    (different : other ≠ scene.session.clientID) :
    (scene.takenOver cleanSession).broker.findSession other = scene.broker.findSession other := by
  unfold Scene.takenOver
  split
  · exact (scene.broker.findSession_removeSession _ other).trans (if_neg different)
  · rfl

theorem step_addressed {next : State} {label : Label} (addressed : Addressed clientID state)
    (taken : step clientID state label = some next) : Addressed clientID next := by
  cases label with
  | connect site host session cleanSession willMsg =>
    have meant : forall event, event ∈ notified (serveConnect host cleanSession willMsg
        (state.scene site clientID session)).effects -> Meant clientID event := by
      intro event member
      exact .inl (serveConnect_names host cleanSession willMsg (state.scene site clientID session)
        (mem_notified.mp member) event rfl)
    simp only [step] at taken
    split at taken
    case isTrue entered =>
      cases taken
      have served := addressed.served site meant (fun named =>
        ((serveConnect_accepts entered).otherEntries [] (Ne.symm named)).trans
          (addressed.nobody named site))
      exact ⟨served.meant, served.nobody⟩
    case isFalse =>
      split at taken
      case h_1 reason failed =>
        cases taken
        refine addressed.served site meant (fun named => ?_)
        rw [serveConnect_failed failed, takenOver_other _ _ (Ne.symm named)]
        exact addressed.nobody named site
      case h_2 => cases taken
  | refuse site host conn authNeed packet =>
    simp only [step] at taken
    split at taken
    case isTrue connect =>
      split at taken
      case h_1 reason _ failed _ =>
        cases taken
        rcases state.arrival_endsNobody site connect failed with ⟨ends, same⟩
        refine addressed.served site (fun event member => ?_) (fun named => ?_)
        · exact .inr (ends _ (mem_notified.mp member) event rfl)
        · rw [same]
          exact addressed.nobody named site
      case h_2 => cases taken
    case isFalse => cases taken
  | subscribe conn topic qos | unsubscribe conn topic | disconnect conn =>
    rcases Option.map_eq_some_iff.mp taken with ⟨site, _, same⟩
    have reported {event : BrokerEvent}
        (named : forall brokerId, (event.setBrokerId brokerId).getClientId = clientID) :=
      addressed.report site conn named
    rw [← same]
    exact ⟨(reported (fun _ => rfl)).meant, addressed.nobody⟩
  | deliver index order dial =>
    rcases Option.map_eq_some_iff.mp taken with ⟨letter, found, same⟩
    rw [← same]
    refine ⟨fun other member => addressed.meant other (List.mem_of_mem_eraseIdx member),
      fun named site => ?_⟩
    change (Function.update state.brokers letter.site _ site).findSession [] = none
    rw [Function.update_apply]
    split
    · refine handled_nobody ?_ (addressed.nobody named _) order dial
      rcases addressed.meant letter (List.mem_of_getElem? found) with client | ⟨_, ends⟩
      · exact .inl (client ▸ named)
      · exact .inr ends
    · exact addressed.nobody named site

theorem addressed_of_reachable {brokerIds : Bool -> GoString}
    (reached : (machine brokerIds clientID).Reachable state) : Addressed clientID state := by
  have start : Addressed clientID (machine brokerIds clientID).initial :=
    ⟨fun _ member => absurd member List.not_mem_nil, fun _ _ => rfl⟩
  exact reached.invariant start (fun addressed _ taken => step_addressed addressed taken)

theorem delivered_end {next : State} {index : Nat} {order : RangeOrder}
    {dial : Except GoString Unit} {letter : Letter} (flying : state.flying[index]? = some letter)
    (ends : isSessionDestroy letter.event = true)
    (taken : step clientID state (.deliver index order dial) = some next) :
    exists event : SessionDestroyEvent, letter.event = .sessionDestroy event ∧
      next.brokers letter.site = (state.brokers letter.site).onSessionDestroy event := by
  rcases Option.map_eq_some_iff.mp taken with ⟨delivered, found, same⟩
  cases flying.symm.trans found
  have after : next.brokers letter.site =
      handled (state.brokers letter.site) order dial letter.event := by
    rw [← same]
    exact Function.update_self _ _ _
  cases kind : letter.event with
  | sessionDestroy event =>
    rw [kind] at after
    exact ⟨event, rfl, after⟩
  | _ =>
    rw [kind] at ends
    cases ends

theorem Addressed.spared (addressed : Addressed clientID state) {letter : Letter}
    {event : SessionDestroyEvent} (member : letter ∈ state.flying)
    (kind : letter.event = .sessionDestroy event) (other : event.clientId ≠ clientID) :
    (state.brokers letter.site).SameHoldings
      ((state.brokers letter.site).onSessionDestroy event) clientID := by
  have empty : event.clientId = [] := by
    rcases addressed.meant letter member with named | ⟨nobody, _⟩
    · rw [kind] at named
      exact absurd named other
    · rw [kind] at nobody
      exact nobody
  refine Broker.onSessionDestroy_other other.symm ?_
  rw [empty, addressed.nobody (fun named => other (empty.trans named.symm))]
  rfl

/-- The end of an outlived connection spares the owner exactly when it names
another client, or the owner's broker holds nothing that it takes away. -/
theorem spares_iff {brokerIds : Bool -> GoString} {clientID : GoString} {state next : State}
    (reached : (machine brokerIds clientID).Reachable state) {index : Nat} {order : RangeOrder}
    {dial : Except GoString Unit} {letter : Letter}
    (flying : state.flying[index]? = some letter) (outlived : Outlived state letter)
    (taken : step clientID state (.deliver index order dial) = some next) :
    Spares clientID state next letter ↔
      letter.event.getClientId ≠ clientID ∨ (state.brokers letter.site).Bare clientID := by
  rcases delivered_end flying outlived.ends taken with ⟨event, kind, after⟩
  rw [Spares, after, kind]
  change _ ↔ event.clientId ≠ clientID ∨ _
  by_cases named : event.clientId = clientID
  · rw [or_iff_right (not_not.mpr named), ← named]
    exact Broker.onSessionDestroy_same_iff _ event
  · exact iff_of_true ((addressed_of_reachable reached).spared (List.mem_of_getElem? flying)
      kind named) (.inl named)

def pair : Bool -> GoString := fun site => if site then ascii "a" else ascii "b"

def arrives (cleanSession : UInt8) : Label :=
  .connect true quietHost (newMqttSession 0 reliableConn false) cleanSession none

def thirdOwns : List Label :=
  [arrives 0, arrives 0, arrives 0, .disconnect 0, .disconnect 1, .deliver 10 .listed (.ok ())]

/-- The end of the second connection finds no observer to take away. -/
theorem second_end_spares :
    exists state next letter, (machine pair (ascii "c")).Reachable state ∧
      Outlived state letter ∧ step (ascii "c") state (.deliver 11 .listed (.ok ())) = some next ∧
      Spares (ascii "c") state next letter := by
  let letter : Letter :=
    ⟨true, 1, .sessionDestroy { clientId := ascii "c", brokerId := ascii "a" }⟩
  have executed : ((machine pair (ascii "c")).run (machine pair (ascii "c")).initial thirdOwns).any
      (fun state => decide (state.flying[11]? = some letter ∧ state.owner = some 2 ∧
        state.homes 2 = some true ∧
        (state.brokers true).findSession (ascii "c") = some (.mqtt 2 true) ∧
        (state.brokers true).queueService.getQueue (ascii "c") = some 0 ∧
        (state.brokers true).queueService.observer 0 = none)) = true := by
    decide +kernel
  rcases (Option.any_eq_true _ _).mp executed with ⟨state, executed, facts⟩
  rcases of_decide_eq_true facts with ⟨flying, owned, placed, entry, queue, observer⟩
  have reached := Machine.reachable_of_run .initial executed
  have outlived : Outlived state letter := ⟨rfl, 2, owned, nofun, placed⟩
  have delivers : exists next, step (ascii "c") state (.deliver 11 .listed (.ok ())) = some next := by
    rw [step, flying]
    exact ⟨_, rfl⟩
  rcases delivers with ⟨next, taken⟩
  refine ⟨state, next, letter, reached, outlived, taken,
    (spares_iff reached flying outlived taken).mpr (.inr ?_)⟩
  unfold Broker.Bare
  rw [entry, if_pos (by rfl)]
  intro ref registered
  cases queue.symm.trans registered
  exact observer

def secondRefused : List Label := [arrives 1, arrives 1]

/-- The end of the refused connection removes the session of the owner. -/
theorem refused_end_removes_owner :
    exists state next letter, (machine pair (ascii "c")).Reachable state ∧
      state.flying[2]? = some letter ∧ Outlived state letter ∧
      step (ascii "c") state (.deliver 2 .listed (.ok ())) = some next ∧
      ¬Spares (ascii "c") state next letter := by
  let letter : Letter :=
    ⟨true, 1, .sessionDestroy { clientId := ascii "c", brokerId := ascii "a" }⟩
  have executed :
      ((machine pair (ascii "c")).run (machine pair (ascii "c")).initial secondRefused).any
      (fun state => decide (state.flying[2]? = some letter ∧ state.owner = some 0 ∧
          state.homes 0 = some true ∧
          (state.brokers true).findSession (ascii "c") = some (.mqtt 0 false)) &&
        (step (ascii "c") state (.deliver 2 .listed (.ok ()))).any (fun next =>
          decide ((next.brokers true).findSession (ascii "c") = none))) = true := by
    decide +kernel
  rcases (Option.any_eq_true _ _).mp executed with ⟨state, executed, facts⟩
  rcases (Bool.and_eq_true _ _).mp facts with ⟨facts, delivered⟩
  rcases of_decide_eq_true facts with ⟨flying, owned, placed, entry⟩
  rcases (Option.any_eq_true _ _).mp delivered with ⟨next, taken, removed⟩
  refine ⟨state, next, letter, Machine.reachable_of_run .initial executed, flying,
    ⟨rfl, 0, owned, nofun, placed⟩, taken, fun spares => ?_⟩
  have same := spares.session
  rw [entry] at same
  cases (of_decide_eq_true removed).symm.trans same

/-! ## The owner observes its queue until then -/

def ObservedBy (broker : Broker) (clientID : GoString) (conn : ConnId) : Prop :=
  exists ref, broker.queueService.getQueue clientID = some ref ∧
    broker.queueService.observer ref = some conn

variable {broker : Broker} {clientID : GoString} {conn : ConnId}

theorem ObservedBy.not_bare (observed : ObservedBy broker clientID conn) :
    ¬broker.Bare clientID := by
  rcases observed with ⟨ref, registered, observer⟩
  unfold Broker.Bare
  split
  · exact fun free => nomatch (free ref registered).symm.trans observer
  · exact fun empty => nomatch empty.2.1.symm.trans registered

theorem ObservedBy.congr {before after : Broker} (observed : ObservedBy before clientID conn)
    (queues : after.queueService.queues = before.queueService.queues) (observers : forall ref,
      after.queueService.observer ref = before.queueService.observer ref) :
    ObservedBy after clientID conn := by
  rcases observed with ⟨ref, registered, observer⟩
  exact ⟨ref, (congrArg (AList.lookup clientID) queues).trans registered,
    (observers ref).trans observer⟩

theorem ObservedBy.spared {before after : Broker} (observed : ObservedBy before clientID conn)
    (same : before.SameHoldings after clientID) : ObservedBy after clientID conn := by
  rcases observed with ⟨ref, registered, observer⟩
  exact ⟨ref, same.queue.trans registered, (same.observer ref registered).trans observer⟩

theorem ObservedBy.pushes (observed : ObservedBy broker clientID conn)
    (pushes : List (QueueRef × Message)) :
    ObservedBy (pushes.foldl Broker.pushback broker) clientID conn := by
  induction pushes generalizing broker with
  | nil => exact observed
  | cons push later ih =>
    apply ih
    exact observed.congr (QueueService.setContents_queues _ _ _)
      (fun ref => QueueService.setContents_observer _ _ ref _)

theorem ObservedBy.handled (observed : ObservedBy broker clientID conn) {event : BrokerEvent}
    (other : isSessionDestroy event = false) (named : event.getClientId = clientID)
    (order : RangeOrder) (dial : Except GoString Unit) :
    ObservedBy (handled broker order dial event) clientID conn := by
  apply ObservedBy.pushes
  cases event with
  | sessionDestroy event => cases other
  | sessionResume event | topicPublish event => exact observed
  | sessionCreate event =>
    rcases id observed with ⟨ref, registered, _⟩
    cases named
    have same := Broker.onSessionCreate_queueService registered dial
    exact observed.congr (congrArg QueueService.queues same)
      (fun other => congrArg (QueueService.observer · other) same)
  | topicSubscribe event =>
    rcases broker.addSubscription_eq event with ⟨tree, added⟩
    have kept : ObservedBy (broker.addSubscription event) clientID conn := by
      rw [added]
      exact observed
    change ObservedBy (broker.onTopicSubscribe event) clientID conn
    unfold Broker.onTopicSubscribe
    split
    · exact kept
    · split
      · exact kept
      · exact observed
  | topicUnsubscribe event =>
    change ObservedBy (broker.onTopicUnsubscribe event) clientID conn
    unfold Broker.onTopicUnsubscribe
    split
    · exact observed
    · split <;> exact observed

def OwnerObserves (clientID : GoString) (state : State) : Prop :=
  forall owner site, state.owner = some owner -> state.homes owner = some site ->
    state.disturbed = false -> ObservedBy (state.brokers site) clientID owner

theorem step_ownerObserves {state next : State} {label : Label}
    (addressed : Addressed clientID state) (observes : OwnerObserves clientID state)
    (taken : step clientID state label = some next) : OwnerObserves clientID next := by
  cases label with
  | connect site host session cleanSession willMsg =>
    simp only [step, State.served] at taken
    split at taken
    case isTrue entered =>
      cases taken
      intro owner home owned placed _
      cases owned
      cases (Function.update_self _ _ _).symm.trans placed
      rcases (serveConnect_accepts entered).queue with ⟨ref, opens, observer, _⟩
      change ObservedBy (Function.update state.brokers site _ site) clientID state.next
      rw [Function.update_self]
      exact ⟨ref, opens.registered, observer⟩
    case isFalse =>
      split at taken
      case h_1 reason failed =>
        cases taken
        intro owner home owned placed calm
        have observed := observes owner home owned placed calm
        change ObservedBy (Function.update state.brokers site _ home) clientID owner
        by_cases same : home = site
        · subst same
          rw [Function.update_self, serveConnect_failed failed]
          have service := takenOver_queueService (state.scene home clientID session) cleanSession
          exact observed.congr (congrArg QueueService.queues service)
            (fun ref => congrArg (QueueService.observer · ref) service)
        · rw [Function.update_of_ne same]
          exact observed
      case h_2 => cases taken
  | refuse site host conn authNeed packet =>
    simp only [step, State.served] at taken
    split at taken
    case isTrue connect =>
      split at taken
      case h_1 reason _ failed _ =>
        cases taken
        intro owner home owned placed calm
        have same := (state.arrival_endsNobody site connect failed).2
        change ObservedBy (Function.update state.brokers site _ home) clientID owner
        rw [same, Function.update_eq_self]
        exact observes owner home owned placed calm
      case h_2 => cases taken
    case isFalse => cases taken
  | subscribe conn topic qos | unsubscribe conn topic =>
    rcases Option.map_eq_some_iff.mp taken with ⟨site, _, same⟩
    rw [← same]
    exact observes
  | disconnect conn =>
    rcases Option.map_eq_some_iff.mp taken with ⟨site, _, same⟩
    rw [← same]
    intro owner home owned placed calm
    change (if state.owner = some conn then none else state.owner) = some owner at owned
    change Function.update state.homes conn none owner = some home at placed
    by_cases mine : state.owner = some conn
    · rw [if_pos mine] at owned
      cases owned
    · rw [if_neg mine] at owned
      have different : owner ≠ conn := fun equal => mine (equal ▸ owned)
      rw [Function.update_of_ne different] at placed
      exact observes owner home owned placed calm
  | deliver index order dial =>
    rcases Option.map_eq_some_iff.mp taken with ⟨letter, found, same⟩
    rw [← same]
    intro owner home owned placed calm
    rcases (Bool.or_eq_false_iff).mp calm with ⟨calm, kind⟩
    have observed := observes owner home owned placed calm
    change ObservedBy (Function.update state.brokers letter.site _ home) clientID owner
    by_cases arrived : home = letter.site
    · subst arrived
      rw [Function.update_self]
      have here : state.ownerSite = some letter.site := by
        rw [State.ownerSite, show state.owner = some owner from owned]
        exact placed
      rw [here, decide_eq_true rfl, Bool.and_true] at kind
      have member := List.mem_of_getElem? found
      cases ends : isSessionDestroy letter.event with
      | false =>
        rcases addressed.meant letter member with named | ⟨_, destroys⟩
        · exact observed.handled ends named order dial
        · cases ends.symm.trans destroys
      | true =>
        rw [ends, Bool.true_and, decide_eq_false_iff_not] at kind
        cases event : letter.event with
        | sessionDestroy destroyed =>
          rw [event] at kind
          exact observed.spared (addressed.spared member event kind)
        | _ =>
          rw [event] at ends
          cases ends
    · rw [Function.update_of_ne arrived]
      exact observed

/-- The first end of an outlived connection of the client that reaches the
owner's broker always takes something away. -/
theorem not_spares_of_undisturbed {brokerIds : Bool -> GoString} {state next : State}
    (reached : (machine brokerIds clientID).Reachable state) (undisturbed : state.disturbed = false)
    {index : Nat} {order : RangeOrder} {dial : Except GoString Unit} {letter : Letter}
    (flying : state.flying[index]? = some letter) (outlived : Outlived state letter)
    (identified : letter.event.getClientId = clientID)
    (taken : step clientID state (.deliver index order dial) = some next) :
    ¬Spares clientID state next letter := by
  have start : Addressed clientID (machine brokerIds clientID).initial ∧
      OwnerObserves clientID (machine brokerIds clientID).initial :=
    ⟨⟨fun _ member => absurd member List.not_mem_nil, fun _ _ => rfl⟩,
      fun _ _ owned => nomatch owned⟩
  have keeps : forall {state label next},
      Addressed clientID state ∧ OwnerObserves clientID state -> True ->
      (machine brokerIds clientID).step state label = some next ->
      Addressed clientID next ∧ OwnerObserves clientID next :=
    fun holds _ taken => ⟨step_addressed holds.1 taken, step_ownerObserves holds.1 holds.2 taken⟩
  rcases reached.invariant start keeps with ⟨addressed, observes⟩
  rcases outlived.owned with ⟨owner, owned, _, placed⟩
  rcases delivered_end flying outlived.ends taken with ⟨event, kind, after⟩
  rw [kind] at identified
  have named : event.clientId = clientID := identified
  intro spares
  rw [Spares, after, ← named, Broker.onSessionDestroy_same_iff, named] at spares
  exact (observes owner letter.site owned placed undisturbed).not_bare spares

/-- The end of the first of two connections is such an end. -/
theorem first_end_takes :
    exists state next letter, (machine pair (ascii "c")).Reachable state ∧
      Outlived state letter ∧ step (ascii "c") state (.deliver 6 .listed (.ok ())) = some next ∧
      ¬Spares (ascii "c") state next letter := by
  let letter : Letter :=
    ⟨true, 0, .sessionDestroy { clientId := ascii "c", brokerId := ascii "a" }⟩
  have executed : ((machine pair (ascii "c")).run (machine pair (ascii "c")).initial
      [arrives 0, arrives 0, .disconnect 0]).any (fun state => decide (
        state.flying[6]? = some letter ∧ state.disturbed = false ∧ state.owner = some 1 ∧
        state.homes 1 = some true)) = true := by
    decide +kernel
  rcases (Option.any_eq_true _ _).mp executed with ⟨state, executed, facts⟩
  rcases of_decide_eq_true facts with ⟨flying, calm, owned, placed⟩
  have reached := Machine.reachable_of_run .initial executed
  have outlived : Outlived state letter := ⟨rfl, 1, owned, nofun, placed⟩
  have delivers : exists next, step (ascii "c") state (.deliver 6 .listed (.ok ())) = some next := by
    rw [step, flying]
    exact ⟨_, rfl⟩
  rcases delivers with ⟨next, taken⟩
  exact ⟨state, next, letter, reached, outlived, taken,
    not_spares_of_undisturbed reached calm flying outlived rfl taken⟩

end Takeover

end Mqtt
end Sentel
