import Sentel.Mqtt.Connecting
import Sentel.Mqtt.Publishing

namespace Sentel
namespace Mqtt

open Library Handler Base Queue Event SessionMgr Auth SessionM

/-!
# Messages that wait for an acknowledgement

A message of quality of service 1 is kept from the PUBLISH frame that carries
it until a PUBACK names the identifier of that frame, and is sent again under
the same identifier when its client connects again.  The session keeps such
messages in the list of its queue.

What should be in the list can be read off the connection: the frames that
were written and the identifiers that came back.  A delivery is a session
together with this record, and the property compares the two.  The list
itself is searched by a field of the message that sending never sets, and the
counter that identifiers are drawn from starts again with every connection.
-/

/-! ## What the connection shows -/

def publishFrames (effects : List Effect) : List (List UInt8) :=
  effects.filterMap (fun effect => match effect with
    | .write command bytes => if command = PUBLISH then some bytes else none
    | _ => none)

def Carries (frame : List UInt8) (msg : Message) : Prop :=
  Fits msg ∧ (publishHead msg).isPrefixOf frame ∧ msg.payload.isSuffixOf frame ∧
    frame.length = (publishHead msg).length + (if 0 < msg.qos then 2 else 0) + msg.payload.length

instance (frame : List UInt8) (msg : Message) : Decidable (Carries frame msg) :=
  inferInstanceAs (Decidable (_ ∧ _ ∧ _ ∧ _))

def word (bytes : List UInt8) : UInt16 :=
  ((bytes.headD 0).toUInt16 <<< 8) + (bytes.tail.headD 0).toUInt16

/-- The packet identifier that the receiver of a PUBLISH frame finds in it:
behind the fixed header, the length of the topic and the topic. -/
def frameId (frame : List UInt8) : UInt16 :=
  let body := (frame.tail.dropWhile (fun byte => byte &&& 0x80 ≠ 0)).tail
  word (body.drop (2 + (word body).toNat))

def frameDup (frame : List UInt8) : Bool := (frame.headD 0) &&& 8 = 8

def sentBy : List Message -> List (List UInt8) -> List (UInt16 × Message)
  | [], _ => []
  | _ :: later, [] => sentBy later []
  | msg :: later, frame :: frames =>
    if Carries frame msg then (frameId frame, msg) :: sentBy later frames
    else sentBy later (frame :: frames)

def marked (msg : Message) : Message := { msg with dup := true }

def newlyAwaiting (msgs : List Message) (frames : List (List UInt8)) : List (UInt16 × Message) :=
  ((sentBy msgs frames).filter (fun entry => entry.2.qos = 1)).map
    (fun entry => (entry.1, marked entry.2))

/-! ## Deliveries -/

/-- A session and the messages whose frames have not been acknowledged. -/
structure Delivery where
  scene : Scene
  awaiting : List (UInt16 × Message)
  alive : Bool := true

namespace Delivery

def queued (state : Delivery) : List Message :=
  (state.scene.session.queue.map state.scene.broker.queueService.contents).getD []

def retainList (state : Delivery) : TransientList :=
  (state.scene.session.queue.map state.scene.broker.queueService.getRetainList).getD
    newTransientList

/-- What can happen to a connected client. -/
inductive Label
  | push (msg : Message)
  | available
  | puback (msb lsb : UInt8)
  | reconnect (session : MqttSession) (willMsg : Option Message)

def pubackPacket (msb lsb : UInt8) : MqttPacket :=
  { newMqttPacket with command := PUBACK, remainingLength := 2, payload := ⟨[msb, lsb], []⟩ }

def renewed (state : Delivery) (session : MqttSession) : Scene :=
  { state.scene with session := { session with
      conn := some reliableConn
      clientID := state.scene.session.clientID
      nextPacketID := 0
      sessionState := .new
      queue := none } }

def step (host : Host) (persistent : Bool) (state : Delivery) : Label -> Option Delivery
  | .push msg =>
    if state.alive then
      match state.scene.session.queue with
      | none => none
      | some ref =>
        some { state with scene :=
          { state.scene with broker := state.scene.broker.pushback (ref, msg) } }
    else none
  | .available =>
    if state.alive then
      let run := handleInput host (.available availableQueue) state.scene
      some {
        scene := run.state
        awaiting := state.awaiting ++ newlyAwaiting state.queued (publishFrames run.effects)
        alive := run.outcome = .ok none }
    else none
  | .puback msb lsb =>
    if state.alive then
      let run := handleInput host (.packet (pubackPacket msb lsb)) state.scene
      some {
        scene := run.state
        awaiting := state.awaiting.filter (fun entry => entry.1 ≠ word [msb, lsb])
        alive := run.outcome = .ok none }
    else none
  | .reconnect session willMsg =>
    if state.alive ∧ persistent then
      let run := openSession host 0 willMsg (state.renewed session)
      some {
        scene := run.state
        awaiting := state.awaiting ++ newlyAwaiting state.queued
          ((publishFrames run.effects).drop state.awaiting.length)
        alive := run.outcome = .ok () }
    else none

def start (brokerId clientID : GoString) (persistent : Bool) : Delivery where
  scene :=
    let opened := newQueueService.allocate clientID persistent
    { session := { newMqttSession 0 reliableConn false with
        clientID := clientID
        cleanSession := if persistent then 0 else 1
        sessionState := .connected
        queue := some opened.1 }
      packet := newMqttPacket
      broker := { newBroker brokerId with
        queueService := opened.2.registerObserver opened.1 (some 0) }.registerSession clientID
          (.mqtt 0 persistent) }
  awaiting := []

def machine (host : Host) (brokerId clientID : GoString) (persistent : Bool) :
    Machine Delivery Label where
  initial := start brokerId clientID persistent
  step := step host persistent

/-! ## The property -/

/-- The list holds exactly the messages that wait for an acknowledgement. -/
def RetainsExactly (state : Delivery) : Prop :=
  state.retainList.Holds (state.awaiting.map Prod.snd)

/-- Acknowledging the identifier of a message removes it and nothing else. -/
def AcksOne (before after : Delivery) (id : UInt16) : Prop :=
  forall entry, entry ∈ before.awaiting -> entry.1 = id ->
    exists old new, before.retainList.Holds old ∧ after.retainList.Holds new ∧
      old.Perm (entry.2 :: new)

def Resends (entry : UInt16 × Message) (frame : List UInt8) : Prop :=
  Carries frame entry.2 ∧ frameDup frame ∧ frameId frame = entry.1

/-- What one step has to do. -/
def Honest (host : Host) (before : Delivery) (label : Label) (after : Delivery) : Prop :=
  match label with
  | .push _ => True
  | .available => True
  | .puback msb lsb => AcksOne before after (word [msb, lsb])
  | .reconnect session willMsg =>
    List.Forall₂ Resends before.awaiting ((publishFrames
      (openSession host 0 willMsg (before.renewed session)).effects).take before.awaiting.length)

/-! ## The condition -/

/-- Every queued message of quality of service 1 has a frame, and the list can
take it. -/
def QueueReady (state : Delivery) : Prop :=
  forall msg, msg ∈ state.queued -> msg.qos = 1 -> Fits msg ∧ state.retainList.buf ≠ []

instance (state : Delivery) : Decidable state.QueueReady :=
  inferInstanceAs (Decidable (forall msg, msg ∈ state.queued -> msg.qos = 1 ->
    Fits msg ∧ state.retainList.buf ≠ []))

def SameIds : UInt16 -> List (UInt16 × Message) -> Prop
  | _, [] => True
  | next, entry :: later =>
    frameId (publishFrame entry.2 (drawPacketID next).1) = entry.1 ∧
      SameIds (drawPacketID next).2 later

instance decidableSameIds : (next : UInt16) -> (awaiting : List (UInt16 × Message)) ->
    Decidable (SameIds next awaiting)
  | _, [] => .isTrue True.intro
  | next, _ :: later => @instDecidableAnd _ _ _ (decidableSameIds (drawPacketID next).2 later)

/-- A step that the list and the counter follow. -/
def Followed (state : Delivery) : Label -> Prop
  | .push _ => True
  | .available => state.QueueReady
  | .puback msb lsb =>
    state.awaiting.filter (fun entry => entry.1 = word [msb, lsb]) =
      (state.awaiting.find? (fun entry => entry.2.packetId = word [msb, lsb])).toList
  | .reconnect _ _ => SameIds 0 state.awaiting ∧ state.QueueReady

instance (state : Delivery) : (label : Label) -> Decidable (state.Followed label)
  | .push _ => .isTrue True.intro
  | .available => inferInstanceAs (Decidable state.QueueReady)
  | .puback _ _ => inferInstanceAs (Decidable (_ = _))
  | .reconnect _ _ => inferInstanceAs (Decidable (_ ∧ _))

end Delivery

/-! ## Sending a list of messages -/

def framesOfAll : UInt16 -> List Message -> List (List UInt8)
  | _, [] => []
  | next, msg :: later => framesOf next msg ++ framesOfAll (counterAfter next msg) later

def counterAfterAll : UInt16 -> List Message -> UInt16
  | next, [] => next
  | next, msg :: later => counterAfterAll (counterAfter next msg) later

theorem publishFrames_append (first second : List Effect) :
    publishFrames (first ++ second) = publishFrames first ++ publishFrames second :=
  List.filterMap_append

theorem publishFrames_writes (frames : List (List UInt8)) :
    publishFrames (frames.map (Effect.write PUBLISH)) = frames := by
  induction frames with
  | nil => rfl
  | cons frame later ih =>
    rw [List.map_cons]
    change frame :: publishFrames (later.map (Effect.write PUBLISH)) = _
    rw [ih]

variable {msg : Message} {msgs : List Message}

theorem carries_publishFrame (fits : Fits msg) (pid : UInt16) :
    Carries (publishFrame msg pid) msg := by
  refine ⟨fits, ?_, ?_, ?_⟩
  · rw [List.isPrefixOf_iff_prefix, publishFrame, List.append_assoc]
    exact List.prefix_append _ _
  · rw [List.isSuffixOf_iff_suffix, publishFrame]
    exact List.suffix_append _ _
  · rw [publishFrame, List.length_append, List.length_append, identifierBytes]
    split <;> rfl

theorem sentBy_oversize (oversize : ¬ Fits msg) (later : List Message)
    (frames : List (List UInt8)) :
    sentBy (msg :: later) frames = sentBy later frames := by
  cases frames with
  | nil => rfl
  | cons frame frames => rw [sentBy, if_neg (fun carries => oversize carries.1)]

theorem sentBy_framesOfAll (next : UInt16) (msgs : List Message) :
    (sentBy msgs (framesOfAll next msgs)).map Prod.snd = msgs.filter (fun msg => Fits msg) := by
  induction msgs generalizing next with
  | nil => rfl
  | cons msg later ih =>
    rw [framesOfAll, framesOf]
    by_cases fits : Fits msg
    · rw [if_pos fits, List.singleton_append, sentBy, if_pos (carries_publishFrame fits _),
        List.map_cons, ih, List.filter_cons_of_pos (by simpa using fits)]
    · rw [if_neg fits, List.nil_append, sentBy_oversize fits, ih,
        List.filter_cons_of_neg (by simpa using fits)]

theorem newlyAwaiting_framesOfAll (next : UInt16)
    (fit : forall msg, msg ∈ msgs -> msg.qos = 1 -> Fits msg) :
    (newlyAwaiting msgs (framesOfAll next msgs)).map Prod.snd =
      (msgs.filter (fun msg => msg.qos = 1)).map marked := by
  have sent := sentBy_framesOfAll next msgs
  have kept : (msgs.filter (fun msg => Fits msg)).filter (fun msg => msg.qos = 1) =
      msgs.filter (fun msg => msg.qos = 1) := by
    rw [List.filter_filter]
    apply List.filter_congr
    intro msg member
    by_cases one : msg.qos = 1
    · simp [one, fit msg member one]
    · simp [one]
  rw [newlyAwaiting, List.map_map, ← kept, ← sent, List.filter_map, List.map_map]
  rfl

/-! ## Serving the queue -/

structure Route where
  clientID : GoString
  persistent : Bool
  ref : QueueRef

structure Serving (route : Route) (next : UInt16) (msgs : List Message) (list : TransientList)
    (scene : Scene) : Prop where
  queue : scene.session.queue = some route.ref
  conn : scene.session.conn = some reliableConn
  client : scene.session.clientID = route.clientID
  counter : scene.session.nextPacketID = next
  serves : scene.broker.queueService.Serves route.ref route.clientID route.persistent msgs list
  registered : scene.broker.queueService.getQueue route.clientID = some route.ref

section Serving

variable {route : Route} {next : UInt16} {msgs : List Message} {list : TransientList}
  {scene : Scene}

theorem Serving.useQueue (serving : Serving route next msgs list scene) :
    SessionM.useQueue scene = ⟨[.accessQueue], .ok route.ref, scene⟩ :=
  useQueue_of_queue serving.queue

theorem Serving.sendPublish (serving : Serving route next msgs list scene) (msg : Message) :
    Mqtt.sendPublish msg scene = ⟨(framesOf next msg).map (Effect.write PUBLISH), .ok (),
        scene.counted (counterAfter next msg)⟩ ∧
      Serving route (counterAfter next msg) msgs list (scene.counted (counterAfter next msg)) := by
  refine ⟨?_, serving.queue, serving.conn, serving.client, rfl, serving.serves,
    serving.registered⟩
  rw [sendPublish_eq serving.conn, serving.counter]

theorem Serving.withService (serving : Serving route next msgs list scene)
    {service : QueueService} {left : List Message} {after : TransientList}
    (serves : service.Serves route.ref route.clientID route.persistent left after)
    (same : service.queues = scene.broker.queueService.queues) :
    Serving route next left after { scene with broker :=
      { scene.broker with queueService := service } } := by
  refine ⟨serving.queue, serving.conn, serving.client, serving.counter, serves, ?_⟩
  have registered := serving.registered
  rw [QueueService.getQueue] at registered ⊢
  rw [same]
  exact registered

variable {kept : List Message}

theorem Serving.retain (serving : Serving route next msgs list scene) (holds : list.Holds kept)
    {msg : Message} (roomy : msg.qos = 1 -> list.buf ≠ []) :
    exists after scene', when (msg.qos = 1) (retainMessage route.ref (marked msg)) scene =
        ⟨[], .ok (), scene'⟩ ∧
      Serving route next msgs after scene' ∧
      after.Holds (kept ++ ([msg].filter (fun msg => msg.qos = 1)).map marked) ∧
      (msg.qos = 1 ∨ list.buf ≠ [] -> after.buf ≠ []) := by
  by_cases one : msg.qos = 1
  · rcases holds.pushback (roomy one) (marked msg) with ⟨after, pushed, holds, nonempty⟩
    refine ⟨after, _, ?_, serving.withService (serving.serves.setRetainList after) rfl, ?_,
      fun _ => nonempty⟩
    · rw [when_pos one, retainMessage, broker_bind_apply, serving.serves.getRetainList,
        pushed]
      rfl
    · rw [List.filter_cons_of_pos (by simpa using one)]
      exact holds
  · refine ⟨list, scene, ?_, serving, ?_, fun either => either.resolve_left one⟩
    · rw [when_neg one]
      rfl
    · rw [List.filter_cons_of_neg (by simpa using one)]
      simpa using holds

theorem Serving.drainQueue (serving : Serving route next msgs list scene) (holds : list.Holds kept)
    (roomy : forall msg, msg ∈ msgs -> msg.qos = 1 -> list.buf ≠ []) {rounds : Nat}
    (enough : msgs.length < rounds) :
    exists effects after scene', Mqtt.drainQueue rounds scene = ⟨effects, .ok (), scene'⟩ ∧
      Serving route (counterAfterAll next msgs) [] after scene' ∧
      after.Holds (kept ++ (msgs.filter (fun msg => msg.qos = 1)).map marked) ∧
      publishFrames effects = framesOfAll next msgs := by
  -- Every round sends the front message, so the messages decrease with the rounds.
  induction msgs generalizing rounds scene next list kept with
  | nil =>
    rcases Nat.exists_eq_succ_of_ne_zero (Nat.ne_of_gt enough) with ⟨rounds, rfl⟩
    refine ⟨[.accessQueue], list, scene, ?_, serving, by simpa using holds, rfl⟩
    have empty : ¬ 0 < scene.broker.queueService.length route.ref := by
      rw [serving.serves.length]
      exact Nat.lt_irrefl 0
    rw [Mqtt.drainQueue, bind_of_ok serving.useQueue, broker_bind_apply, if_neg empty]
    rfl
  | cons msg later ih =>
    rcases Nat.exists_eq_succ_of_ne_zero (Nat.ne_of_gt
      (Nat.lt_of_le_of_lt (Nat.zero_le _) enough)) with ⟨rounds, rfl⟩
    have waiting : 0 < scene.broker.queueService.length route.ref := by
      rw [serving.serves.length]
      exact Nat.succ_pos _
    rcases serving.sendPublish msg with ⟨sent, counted⟩
    let left : Scene := { scene.counted (counterAfter next msg) with broker :=
      { scene.broker with queueService := scene.broker.queueService.pop route.ref } }
    have popped : Serving route (counterAfter next msg) later list left :=
      counted.withService counted.serves.pop (QueueService.setContents_queues _ _ _)
    rcases popped.retain holds (roomy msg List.mem_cons_self)
        with ⟨grown, scene', retained, serving', holds', wide⟩
    rcases ih serving' holds' (fun other member one => wide (.inr
        (roomy other (List.mem_cons_of_mem _ member) one))) (Nat.lt_of_succ_lt_succ enough)
        with ⟨effects, after, final, drained, servingFinal, holdsFinal, frames⟩
    refine ⟨.accessQueue :: ((framesOf next msg).map (Effect.write PUBLISH) ++ effects), after,
      final, ?_, servingFinal, ?_, ?_⟩
    · rw [Mqtt.drainQueue, bind_of_ok serving.useQueue, broker_bind_apply, if_pos waiting,
        serving.serves.front]
      change precede _ ((attempt (Mqtt.sendPublish msg) >>= _) scene) = _
      rw [bind_of_ok (attempt_of_returned sent)]
      change precede _ (precede _ ((when (msg.qos = 1)
        (retainMessage route.ref (marked msg)) >>= fun _ => Mqtt.drainQueue rounds) left)) = _
      rw [bind_of_ok retained, drained]
      rfl
    · rw [List.append_assoc, ← List.map_append, ← List.filter_append] at holdsFinal
      exact holdsFinal
    · rw [← List.singleton_append, publishFrames_append, publishFrames_append,
        publishFrames_writes, frames]
      rfl

theorem Serving.resendEach (serving : Serving route next msgs list scene) (holds : list.Holds kept)
    (indices : List Nat) :
    exists effects scene', Mqtt.resendEach indices scene = ⟨effects, .ok (), scene'⟩ ∧
      Serving route (counterAfterAll next (indices.filterMap (fun index => kept[index]?))) msgs list
        scene' ∧
      publishFrames effects =
        framesOfAll next (indices.filterMap (fun index => kept[index]?)) := by
  induction indices generalizing scene next with
  | nil => exact ⟨[], scene, rfl, serving, rfl⟩
  | cons index later ih =>
    have opened : Mqtt.resendEach (index :: later) scene = precede [.accessQueue]
        ((do resend kept[index]?; Mqtt.resendEach later : SessionM Unit) scene) := by
      rw [Mqtt.resendEach, bind_of_ok serving.useQueue, broker_bind_apply,
        serving.serves.getRetainList, holds.get]
    cases found : kept[index]? with
    | none =>
      rcases ih serving with ⟨effects, scene', resent, serving', frames⟩
      rw [List.filterMap_cons_none found]
      refine ⟨.accessQueue :: effects, scene', ?_, serving', frames⟩
      rw [opened, found, resend, pure_bind_apply, resent]
      rfl
    | some msg =>
      rcases serving.sendPublish msg with ⟨sent, counted⟩
      rcases ih counted with ⟨effects, scene', resent, serving', frames⟩
      rw [List.filterMap_cons_some found]
      refine ⟨.accessQueue :: ((framesOf next msg).map (Effect.write PUBLISH) ++ effects), scene',
        ?_, serving', ?_⟩
      · rw [opened, found, resend, bind_of_ok (ignore_of_ok sent), resent]
        rfl
      · rw [← List.singleton_append, publishFrames_append, publishFrames_append,
          publishFrames_writes, frames]
        rfl

theorem filterMap_range_getElem? (kept : List Message) :
    (List.range kept.length).filterMap (fun index => kept[index]?) = kept := by
  induction kept with
  | nil => rfl
  | cons msg later ih =>
    rw [List.length_cons, List.range_succ_eq_map, List.filterMap_cons]
    simp only [List.getElem?_cons_zero, List.filterMap_map]
    exact congrArg (List.cons msg) ih

theorem Serving.resendRetained (serving : Serving route next msgs list scene)
    (holds : list.Holds kept) :
    exists effects scene', Mqtt.resendRetained scene = ⟨effects, .ok (), scene'⟩ ∧
      Serving route (counterAfterAll next kept) msgs list scene' ∧
      publishFrames effects = framesOfAll next kept := by
  rcases serving.resendEach holds (List.range kept.length)
      with ⟨effects, scene', resent, serving', frames⟩
  rw [filterMap_range_getElem?] at serving' frames
  refine ⟨.accessQueue :: effects, scene', ?_, serving', frames⟩
  rw [Mqtt.resendRetained, bind_of_ok serving.useQueue, broker_bind_apply,
    serving.serves.getRetainList, TransientList.length, holds.count, resent]
  rfl

theorem Serving.sendQueued (serving : Serving route next msgs list scene) (holds : list.Holds kept)
    (roomy : forall msg, msg ∈ msgs -> msg.qos = 1 -> list.buf ≠ []) :
    exists effects after scene', Mqtt.sendQueued scene = ⟨effects, .ok (), scene'⟩ ∧
      Serving route (counterAfterAll next msgs) [] after scene' ∧
      after.Holds (kept ++ (msgs.filter (fun msg => msg.qos = 1)).map marked) ∧
      publishFrames effects = framesOfAll next msgs := by
  have rounds : drainRounds scene = msgs.length + 0 + 1 := by
    rw [drainRounds, serving.queue, serving.conn, Option.map_some, serving.serves.length]
    rfl
  have enough : msgs.length < drainRounds scene := by omega
  rw [Mqtt.sendQueued, look_bind_apply]
  exact serving.drainQueue holds roomy enough

/-! ## Notices and connections -/

theorem publishFrames_eq_nil {effects : List Effect}
    (none' : forall effect, effect ∈ effects -> forall bytes, effect ≠ .write PUBLISH bytes) :
    publishFrames effects = [] := by
  apply List.filterMap_eq_nil_iff.mpr
  intro effect member
  cases effect with
  | write command bytes =>
    exact if_neg (fun same => none' _ member bytes (by rw [same]))
  | _ => rfl

theorem handleInput_available (host : Host) {effects : List Effect} {after : Scene}
    (sent : Mqtt.sendQueued scene = ⟨effects, .ok (), after⟩) :
    handleInput host (.available availableQueue) scene = ⟨effects, .ok none, after⟩ := by
  have received : receive host (.available availableQueue) scene = ⟨effects, .ok (), after⟩ := by
    rw [receive, handleDataAvailableNotification, when_neg_bind_apply (by decide),
      when_pos (by decide), sent]
  rw [handleInput, bind_of_ok (attempt_of_returned received)]
  simp [precede]

theorem Serving.enterSession (serving : Serving route next msgs list scene)
    (cleanSession conack : UInt8) :
    exists effects scene', publishFrames effects = [] ∧
      Serving route next msgs list scene' ∧
      Mqtt.enterSession cleanSession conack scene =
        precede effects (handleDataAvailableNotification availableAll scene') := by
  let connected : Scene :=
    { scene with session := { scene.session with sessionState := .connected } }
  let registered : Scene := { connected with
    broker := (scene.broker.registerSession scene.session.clientID
      (.mqtt scene.session.id (scene.session.cleanSession = 0))) }
  have servingRegistered : Serving route next msgs list registered := by
    have same : registered.broker.queueService = scene.broker.queueService :=
      Broker.registerSession_queueService _ _ _
    refine ⟨serving.queue, serving.conn, serving.client, serving.counter, ?_, ?_⟩
    · rw [same]
      exact serving.serves
    · rw [same]
      exact serving.registered
  rcases @SendsFrame.reliable _ _ connected (sendConnAck_frame conack CONNACK_ACCEPTED) serving.conn
      with ⟨bytes, acked⟩
  let created : Effect := .notify ((BrokerEvent.sessionCreate
    { clientId := scene.session.clientID, persistent := cleanSession = 0 }).setBrokerId
    registered.broker.brokerId)
  have entered : Mqtt.enterSession cleanSession conack scene =
      precede [.write CONNACK bytes, created] ((do
        when (0 < scene.session.keepalive) startKeepAlive
        handleDataAvailableNotification availableAll : SessionM Unit) registered) := by
    rw [Mqtt.enterSession, setSessionState, setSession_bind_apply,
      bind_of_ok (ignore_of_ok acked), announceSession, session_bind_apply,
      setBroker_bind_apply, bind_of_ok (notify_apply _ _)]
    rfl
  by_cases timed : 0 < scene.session.keepalive
  · let timing : Scene :=
      { registered with session := { registered.session with aliveTimer := true } }
    have started : startKeepAlive registered = ⟨[.startTimer], .ok (), timing⟩ := rfl
    refine ⟨[.write CONNACK bytes, created, .startTimer], timing, rfl,
      ⟨servingRegistered.queue, servingRegistered.conn, servingRegistered.client,
        servingRegistered.counter, servingRegistered.serves, servingRegistered.registered⟩, ?_⟩
    rw [entered, when_pos timed, bind_of_ok started]
    simp [precede]
  · refine ⟨[.write CONNACK bytes, created], registered, rfl, servingRegistered, ?_⟩
    rw [entered, when_neg_bind_apply timed]

theorem Serving.notifyAll (serving : Serving route next msgs list scene) (holds : list.Holds kept)
    (roomy : forall msg, msg ∈ msgs -> msg.qos = 1 -> list.buf ≠ []) :
    exists effects after scene' next',
      handleDataAvailableNotification availableAll scene = ⟨effects, .ok (), scene'⟩ ∧
      Serving route next' [] after scene' ∧
      after.Holds (kept ++ (msgs.filter (fun msg => msg.qos = 1)).map marked) ∧
      publishFrames effects =
        framesOfAll next kept ++ framesOfAll (counterAfterAll next kept) msgs := by
  rcases serving.resendRetained holds with ⟨resends, middle, resent, servingMiddle, resendFrames⟩
  rcases servingMiddle.sendQueued holds roomy
      with ⟨sends, after, final, sent, servingFinal, holdsFinal, frames⟩
  refine ⟨resends ++ sends, after, final, _, ?_, servingFinal, holdsFinal, ?_⟩
  · rw [handleDataAvailableNotification, when_pos (by decide), bind_of_ok resent,
      when_pos (by decide), sent]
    rfl
  · rw [publishFrames_append, resendFrames, frames]

theorem Serving.puback (serving : Serving route next msgs list scene) (host : Host)
    (msb lsb : UInt8) :
    exists scene', handleInput host (.packet (Delivery.pubackPacket msb lsb)) scene =
        ⟨[.accessQueue], .ok none, scene'⟩ ∧
      Serving route next msgs (list.remove (word [msb, lsb])) scene' := by
  let received : Scene := { scene with packet := Delivery.pubackPacket msb lsb }
  let read : Scene := { scene with packet := { Delivery.pubackPacket msb lsb with pos := 2 } }
  have servingRead : Serving route next msgs list read :=
    ⟨serving.queue, serving.conn, serving.client, serving.counter, serving.serves,
      serving.registered⟩
  have pid : reading MqttPacket.readUint16 received = ⟨[], .ok (word [msb, lsb]), read⟩ := rfl
  have dispatched : handleMqttPacket host received = handlePubAck received := by
    have kind : packetType received.packet = PUBACK :=
      (by decide : PUBACK &&& 0xF0 = PUBACK)
    rw [handleMqttPacket, look_bind_apply, kind, if_neg (by decide), if_neg (by decide),
      if_neg (by decide), if_neg (by decide), if_neg (by decide), if_neg (by decide),
      if_neg (by decide), if_pos rfl]
  have handled : receive host (.packet (Delivery.pubackPacket msb lsb)) scene =
      ⟨[.accessQueue], .ok (), { read with broker := { read.broker with
        queueService := read.broker.queueService.setRetainList route.ref
          ((read.broker.queueService.getRetainList route.ref).remove (word [msb, lsb])) } }⟩ := by
    have sized : ¬ received.packet.remainingLength ≠ 2 := not_not.mpr rfl
    change handleMqttPacket host received = _
    rw [dispatched, handlePubAck, look_bind_apply,
      failIf_neg_bind_apply sized, bind_of_ok pid,
      bind_of_ok servingRead.useQueue]
    rfl
  refine ⟨_, ?_, servingRead.withService (serving.serves.setRetainList _) rfl⟩
  rw [handleInput, bind_of_ok (attempt_of_returned handled),
    servingRead.serves.getRetainList]
  rfl

end Serving

theorem openSession_serving {route : Route} {msgs kept : List Message} {list : TransientList}
    {scene : Scene} (persistent : route.persistent = true)
    (conn : scene.session.conn = some reliableConn)
    (client : scene.session.clientID = route.clientID) (counter : scene.session.nextPacketID = 0)
    (serves : scene.broker.queueService.Serves route.ref route.clientID route.persistent msgs list)
    (registered : scene.broker.queueService.getQueue route.clientID = some route.ref)
    (holds : list.Holds kept) (roomy : forall msg, msg ∈ msgs -> msg.qos = 1 -> list.buf ≠ [])
    (host : Host) (willMsg : Option Message) :
    exists effects after scene' next', openSession host 0 willMsg scene =
        ⟨effects, .ok (), scene'⟩ ∧
      Serving route next' [] after scene' ∧
      after.Holds (kept ++ (msgs.filter (fun msg => msg.qos = 1)).map marked) ∧
      publishFrames effects =
        framesOfAll 0 kept ++ framesOfAll (counterAfterAll 0 kept) msgs := by
  have answer : scene.newQueue host true = (.ok route.ref, scene.broker.queueService) := by
    rw [Scene.newQueue, QueueService.newQueue, client, registered]
    simp [serves.isPersistent, persistent]
  have given : (scene.newQueue host (decide ((0 : UInt8) = 0))).1 = .ok route.ref := by
    change (scene.newQueue host true).1 = _
    rw [answer]
  rcases @openSession_given host 0 willMsg scene route.ref given with ⟨before, ack, quiet, opened⟩
  have serving : Serving route 0 msgs list
      ((scene.prepared 0 willMsg).observing route.ref (scene.newQueue host true).2) := by
    rw [answer]
    exact ⟨rfl, conn, client, counter, serves.registerObserver _, registered⟩
  rcases serving.enterSession 0 ack with ⟨entering, middle, noFrames, servingMiddle, entered⟩
  rcases servingMiddle.notifyAll holds roomy
      with ⟨sends, after, final, next', notified, servingFinal, holdsFinal, frames⟩
  have noneBefore : publishFrames before = [] := by
    apply publishFrames_eq_nil
    intro effect member bytes same
    rw [same] at member
    rcases quiet _ member with accessed | ⟨event, resumed⟩
    · cases accessed
    · cases resumed
  refine ⟨before ++ (entering ++ sends), after, final, next', ?_, servingFinal, holdsFinal, ?_⟩
  · rw [opened]
    change precede before (enterSession 0 ack ((scene.prepared 0 willMsg).observing route.ref
      (scene.newQueue host true).2)) = _
    rw [entered, notified]
    rfl
  · rw [publishFrames_append, publishFrames_append, noneBefore, noFrames, frames]
    rfl

/-! ## The record of the frames -/

structure Kept (msg : Message) : Prop where
  one : msg.qos = 1
  dup : msg.dup = true
  fits : Fits msg

theorem fits_of_mem_sentBy {frames : List (List UInt8)} {entry : UInt16 × Message}
    (member : entry ∈ sentBy msgs frames) : Fits entry.2 := by
  fun_induction sentBy msgs frames with
  | case1 frames => cases member
  | case2 msg later ih => exact ih member
  | case3 msg later frame frames carries ih =>
    rcases List.mem_cons.mp member with rfl | member
    · exact carries.1
    · exact ih member
  | case4 msg later frame frames carries ih => exact ih member

theorem kept_of_mem_newlyAwaiting {frames : List (List UInt8)} {entry : UInt16 × Message}
    (member : entry ∈ newlyAwaiting msgs frames) : Kept entry.2 := by
  rcases List.mem_map.mp member with ⟨sent, filtered, rfl⟩
  rcases List.mem_filter.mp filtered with ⟨member, one⟩
  have fits : Fits sent.2 := fits_of_mem_sentBy member
  exact ⟨of_decide_eq_true one, rfl, fits⟩

theorem frameDup_publishFrame (kept : Kept msg) (pid : UInt16) :
    frameDup (publishFrame msg pid) = true := by
  have first : (publishFrame msg pid).headD 0 =
      (PUBLISH ||| (if msg.dup then (8 : UInt8) else 0) |||
        (if 0 < msg.qos then msg.qos <<< 1 else 0) ||| (if false then (1 : UInt8) else 0)) := rfl
  rw [kept.one, kept.dup] at first
  rw [frameDup, first]
  decide

theorem framesOf_kept (kept : Kept msg) (next : UInt16) :
    framesOf next msg = [publishFrame msg (drawPacketID next).1] ∧
      counterAfter next msg = (drawPacketID next).2 := by
  have asked : 0 < msg.qos := by
    rw [kept.one]
    decide
  rw [framesOf, if_pos kept.fits, identifierFor, if_pos asked, counterAfter, if_pos asked]
  exact ⟨rfl, rfl⟩

theorem resends_framesOfAll {next : UInt16} {awaiting : List (UInt16 × Message)}
    (kept : forall entry, entry ∈ awaiting -> Kept entry.2)
    (same : Delivery.SameIds next awaiting) :
    List.Forall₂ Delivery.Resends awaiting (framesOfAll next (awaiting.map Prod.snd)) := by
  induction awaiting generalizing next with
  | nil => exact .nil
  | cons entry later ih =>
    have known := kept entry List.mem_cons_self
    rw [List.map_cons, framesOfAll, (framesOf_kept known next).1, (framesOf_kept known next).2,
      List.singleton_append]
    refine .cons ⟨carries_publishFrame known.fits _, frameDup_publishFrame known _, same.1⟩ ?_
    exact ih (fun other member => kept other (List.mem_cons_of_mem _ member)) same.2

theorem filter_eq_eraseP {Entry : Type} {marked found : Entry -> Bool} {entries : List Entry}
    (only : entries.filter marked = (entries.find? found).toList) :
    entries.filter (fun entry => !marked entry) = entries.eraseP found := by
  induction entries with
  | nil => rfl
  | cons entry later ih =>
    cases isFound : found entry with
    | true =>
      rw [List.find?_cons_of_pos isFound, Option.toList_some] at only
      rw [List.eraseP_cons_of_pos isFound]
      cases isMarked : marked entry with
      | true =>
        rw [List.filter_cons_of_pos isMarked] at only
        have rest := (List.cons.inj only).2
        rw [List.filter_cons_of_neg (by simp [isMarked])]
        apply List.filter_eq_self.mpr
        intro other member
        have unmarked := List.filter_eq_nil_iff.mp rest other member
        simpa using unmarked
      | false =>
        rw [List.filter_cons_of_neg (by simp [isMarked])] at only
        have member : entry ∈ later.filter marked := by
          rw [only]
          exact List.mem_singleton_self entry
        rw [(List.mem_filter.mp member).2] at isMarked
        cases isMarked
    | false =>
      rw [List.find?_cons_of_neg (by simp [isFound])] at only
      rw [List.eraseP_cons_of_neg (by simp [isFound])]
      cases isMarked : marked entry with
      | true =>
        rw [List.filter_cons_of_pos isMarked] at only
        have member : entry ∈ (later.find? found).toList := by
          rw [← only]
          exact List.mem_cons_self
        have isOther := List.find?_some (Option.mem_toList.mp member)
        rw [isFound] at isOther
        cases isOther
      | false =>
        rw [List.filter_cons_of_neg (by simp [isMarked])] at only
        rw [List.filter_cons_of_pos (by simp [isMarked]), ih only]

/-! ## Every followed run -/

namespace Delivery

structure Tracked (persistent : Bool) (state : Delivery) : Prop where
  alive : state.alive = true
  served : exists route next msgs list, route.persistent = persistent ∧
    Serving route next msgs list state.scene ∧ list.Holds (state.awaiting.map Prod.snd)
  kept : forall entry, entry ∈ state.awaiting -> Kept entry.2

section Steps

variable {route : Route} {next : UInt16} {msgs : List Message} {list : TransientList}
  {state : Delivery} {persistent : Bool} {host : Host}

theorem queued_of_serving (serving : Serving route next msgs list state.scene) :
    state.queued = msgs := by
  rw [queued, serving.queue, Option.map_some, Option.getD_some, serving.serves.contents]

theorem retainList_of_serving (serving : Serving route next msgs list state.scene) :
    state.retainList = list := by
  rw [retainList, serving.queue, Option.map_some, Option.getD_some, serving.serves.getRetainList]

theorem Tracked.retainsExactly (tracked : Tracked persistent state) : state.RetainsExactly := by
  rcases tracked.served with ⟨route, next, msgs, list, _, serving, holds⟩
  rw [RetainsExactly, retainList_of_serving serving]
  exact holds

theorem tracked_start (brokerId clientID : GoString) (persistent : Bool) :
    Tracked persistent (start brokerId clientID persistent) := by
  let route : Route := ⟨clientID, persistent, 0⟩
  have service : (start brokerId clientID persistent).scene.broker.queueService =
      (newQueueService.allocate clientID persistent).2.registerObserver 0 (some 0) :=
    Broker.registerSession_queueService _ _ _
  have serves : (newQueueService.allocate clientID persistent).2.Serves 0 clientID persistent []
      newTransientList := by
    refine ⟨⟨_, rfl, rfl, rfl, rfl⟩, ?_⟩
    cases persistent with
    | true | false => rfl
  refine ⟨rfl, ⟨route, 0, [], newTransientList, rfl, ⟨rfl, rfl, rfl, rfl, ?_, ?_⟩,
    TransientList.newTransientList_holds⟩, fun _ member => absurd member List.not_mem_nil⟩
  · rw [service]
    exact serves.registerObserver _
  · rw [service]
    exact AList.lookup_insert _

theorem kept_append (tracked : Tracked persistent state) (msgs : List Message)
    (frames : List (List UInt8)) :
    forall entry, entry ∈ state.awaiting ++ newlyAwaiting msgs frames -> Kept entry.2 := by
  intro entry member
  rcases List.mem_append.mp member with old | new
  · exact tracked.kept entry old
  · exact kept_of_mem_newlyAwaiting new

theorem tracked_push (tracked : Tracked persistent state) {msg : Message} {after : Delivery}
    (taken : step host persistent state (.push msg) = some after) : Tracked persistent after := by
  rcases tracked.served with ⟨route, next, msgs, list, same, serving, holds⟩
  rw [step, if_pos tracked.alive, serving.queue] at taken
  cases taken
  exact ⟨tracked.alive, ⟨route, next, msgs ++ [msg], list, same,
    serving.withService (serving.serves.pushback msg) (QueueService.setContents_queues _ _ _),
    holds⟩, tracked.kept⟩

variable {after : Delivery}

theorem tracked_available (tracked : Tracked persistent state) (ready : state.QueueReady)
    (taken : step host persistent state .available = some after) : Tracked persistent after := by
  rcases tracked.served with ⟨route, next, msgs, list, same, serving, holds⟩
  rw [QueueReady, queued_of_serving serving, retainList_of_serving serving] at ready
  rcases serving.sendQueued holds (fun msg member one => (ready msg member one).2)
      with ⟨effects, grown, scene', sent, serving', holds', frames⟩
  rw [step, if_pos tracked.alive] at taken
  simp only [handleInput_available host sent, queued_of_serving serving, frames,
    Option.some.injEq] at taken
  subst taken
  refine ⟨by simp, ⟨route, _, [], grown, same, serving', ?_⟩, kept_append tracked _ _⟩
  rw [List.map_append,
    newlyAwaiting_framesOfAll next (fun msg member one => (ready msg member one).1)]
  exact holds'

theorem framesOfAll_kept_length {awaiting : List (UInt16 × Message)}
    (kept : forall entry, entry ∈ awaiting -> Kept entry.2) (next : UInt16) :
    (framesOfAll next (awaiting.map Prod.snd)).length = awaiting.length := by
  induction awaiting generalizing next with
  | nil => rfl
  | cons entry later ih =>
    have known := kept entry List.mem_cons_self
    rw [List.map_cons, framesOfAll, (framesOf_kept known next).1, List.singleton_append,
      List.length_cons, ih (fun other member => kept other (List.mem_cons_of_mem _ member)),
      List.length_cons]

theorem tracked_puback (tracked : Tracked persistent state) {msb lsb : UInt8}
    (followed : state.Followed (.puback msb lsb))
    (taken : step host persistent state (.puback msb lsb) = some after) :
    Tracked persistent after ∧ AcksOne state after (word [msb, lsb]) := by
  rcases tracked.served with ⟨route, next, msgs, list, same, serving, holds⟩
  rcases serving.puback host msb lsb with ⟨scene', handled, serving'⟩
  let id := word [msb, lsb]
  let left := state.awaiting.filter (fun entry => entry.1 ≠ id)
  rw [step, if_pos tracked.alive] at taken
  simp only [handled, Option.some.injEq] at taken
  subst taken
  have erased : left = state.awaiting.eraseP (fun entry => entry.2.packetId = id) := by
    rw [← filter_eq_eraseP followed]
    exact List.filter_congr (fun entry _ => by simp [id])
  have removed : (list.remove id).Holds (left.map Prod.snd) := by
    have shorter := holds.remove id
    rw [List.eraseP_map] at shorter
    rw [erased]
    exact shorter
  refine ⟨⟨by simp, ⟨route, next, msgs, _, same, serving', removed⟩, ?_⟩, ?_⟩
  · intro entry member
    exact tracked.kept entry (List.mem_filter.mp member).1
  · intro entry member named
    refine ⟨state.awaiting.map Prod.snd, left.map Prod.snd, tracked.retainsExactly, ?_, ?_⟩
    · rw [retainList, serving'.queue, Option.map_some, Option.getD_some,
        serving'.serves.getRetainList]
      exact removed
    · have single : state.awaiting.filter (fun entry => entry.1 = id) = [entry] := by
        have among : entry ∈ state.awaiting.filter (fun entry => entry.1 = id) :=
          List.mem_filter.mpr ⟨member, decide_eq_true named⟩
        rw [followed] at among ⊢
        rw [Option.mem_toList.mp among]
        rfl
      have split := List.filter_append_perm (fun entry => decide (entry.1 = id)) state.awaiting
      rw [single] at split
      have rest : state.awaiting.filter (fun entry => !decide (entry.1 = id)) = left :=
        List.filter_congr (fun entry _ => by simp)
      rw [rest] at split
      exact (split.map Prod.snd).symm

theorem tracked_reconnect (tracked : Tracked persistent state) {session : MqttSession}
    {willMsg : Option Message} (followed : state.Followed (.reconnect session willMsg))
    (taken : step host persistent state (.reconnect session willMsg) = some after) :
    Tracked persistent after ∧ Honest host state (.reconnect session willMsg) after := by
  rcases tracked.served with ⟨route, next, msgs, list, same, serving, holds⟩
  rcases followed with ⟨sameIds, ready⟩
  rw [QueueReady, queued_of_serving serving, retainList_of_serving serving] at ready
  by_cases enabled : state.alive ∧ persistent
  · rcases @openSession_serving route msgs _ list (state.renewed session) (same.trans enabled.2) rfl
        serving.client rfl serving.serves serving.registered holds
        (fun msg member one => (ready msg member one).2) host willMsg
        with ⟨effects, grown, scene', next', opened, serving', holds', frames⟩
    have length := framesOfAll_kept_length tracked.kept 0
    rw [step, if_pos enabled] at taken
    simp only [opened, queued_of_serving serving, frames, Option.some.injEq] at taken
    subst taken
    refine ⟨⟨by simp, ⟨route, next', [], grown, same, serving', ?_⟩,
      kept_append tracked _ _⟩, ?_⟩
    · rw [List.drop_left' length, List.map_append,
        newlyAwaiting_framesOfAll _ (fun msg member one => (ready msg member one).1)]
      exact holds'
    · rw [Honest, opened, frames, List.take_left' length]
      exact resends_framesOfAll tracked.kept sameIds
  · rw [step, if_neg enabled] at taken
    cases taken

end Steps

/-- In every run whose steps are followed, the list holds exactly the messages
that wait for an acknowledgement, and every acknowledgement and every new
connection does what it has to do. -/
theorem retainsExactly_of_followed (host : Host) (brokerId clientID : GoString) (persistent : Bool)
    {state : Delivery}
    (reached : (machine host brokerId clientID persistent).Reaches Followed state) :
    state.RetainsExactly ∧ forall label after, state.Followed label ->
      (machine host brokerId clientID persistent).step state label = some after ->
      Honest host state label after := by
  have tracked : Tracked persistent state := by
    refine reached.invariant (tracked_start brokerId clientID persistent) ?_
    intro state label after tracked followed taken
    cases label with
    | push msg => exact @tracked_push state persistent host tracked msg after taken
    | available => exact tracked_available tracked followed taken
    | puback msb lsb => exact (tracked_puback tracked followed taken).1
    | reconnect session willMsg => exact (tracked_reconnect tracked followed taken).1
  refine ⟨tracked.retainsExactly, ?_⟩
  intro label after followed taken
  cases label with
  | push msg | available => exact True.intro
  | puback msb lsb => exact (tracked_puback tracked followed taken).2
  | reconnect session willMsg => exact (tracked_reconnect tracked followed taken).2

def sampleMessage : Message := { topic := ascii "t", qos := 1, payload := [1] }

def firstAcknowledged : List Label :=
  [.push sampleMessage, .available, .reconnect (newMqttSession 1 reliableConn false) none,
    .puback 0 0]

/-- The first message of a client is handled as it has to be. -/
theorem first_message_followed :
    exists state, (machine quietHost (ascii "b") (ascii "c") true).Reaches Followed state ∧
      state.awaiting = [] ∧ state.RetainsExactly := by
  have executed : exists state, (machine quietHost (ascii "b") (ascii "c") true).run
      (start (ascii "b") (ascii "c") true) firstAcknowledged = some state ∧
      state.awaiting = [] := ⟨_, rfl, rfl⟩
  have allowed : (machine quietHost (ascii "b") (ascii "c") true).Allowed Followed
      (start (ascii "b") (ascii "c") true) firstAcknowledged :=
    ⟨True.intro, by decide, by decide, by decide, True.intro⟩
  rcases executed with ⟨state, executed, empty⟩
  have reached := Machine.reaches_of_run .initial allowed executed
  exact ⟨state, reached, empty, (retainsExactly_of_followed _ _ _ _ reached).1⟩

def secondAcknowledged : List Label :=
  [.push sampleMessage, .push sampleMessage, .available, .puback 0 1]

/-- The acknowledged message stays in the list. -/
theorem acknowledged_message_kept :
    exists state, (machine quietHost (ascii "b") (ascii "c") true).Reachable state ∧
      ¬ state.RetainsExactly := by
  have executed : exists state, (machine quietHost (ascii "b") (ascii "c") true).run
      (start (ascii "b") (ascii "c") true) secondAcknowledged = some state ∧
      state.retainList.count = 2 ∧ state.awaiting.length = 1 := ⟨_, rfl, rfl, rfl⟩
  rcases executed with ⟨state, executed, count, awaiting⟩
  refine ⟨state, Machine.reachable_of_run .initial executed, ?_⟩
  intro exact
  have length := exact.count
  rw [count, List.length_map, awaiting] at length
  cases length

end Delivery

end Mqtt
end Sentel
