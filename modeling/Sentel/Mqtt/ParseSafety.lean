import Sentel.Library.Stepwise
import Sentel.Mqtt.ConnectFrame
import Sentel.Mqtt.Filters

namespace Sentel
namespace Mqtt

open Library Handler SessionM

/-!
# Parsing stays inside the packet

Six handlers read fields from the packet they are given.  The lengths of the
fields come from the packet itself.  Each handler is decomposed below into the
reads it makes and the calls between them, which leave the packet alone.  Every
read compares the position with the announced length before it takes bytes, so
in a packet whose buffer is as long as announced no read leaves the buffer,
whatever the bytes are.  The calls between the reads do not panic either, except
that a CONNECT packet is refused with a CONNACK, whose writing can panic.

The two loops end because every round reads a string, whose length field alone
has two bytes.
-/

/-! ## One read -/

/-- The calls that take bytes from the packet. -/
inductive IsRead : (Value : Type) -> SessionM Value -> Prop
  | byte : IsRead UInt8 (reading MqttPacket.readByte)
  | uint16 : IsRead UInt16 (reading MqttPacket.readUint16)
  | bytes (count : Nat) : IsRead (List UInt8) (reading (MqttPacket.readBytes count))
  | string : IsRead GoString (reading MqttPacket.readString)

/-- The packet is the one the handler began with, apart from its position,
which is not beyond the end. -/
structure Within (start packet : MqttPacket) : Prop where
  same : packet = { start with pos := packet.pos }
  bounded : packet.pos ≤ start.remainingLength

/-- A read moves the position forward, not beyond the end, and does not index
or slice outside the buffer. -/
structure StaysInside (start : MqttPacket) (read : Access MqttPacket) : Prop where
  calm : read.panic = none
  before : Within start read.before
  after : Within start read.after
  forward : read.before.pos ≤ read.after.pos

namespace Within

variable {start packet : MqttPacket}

theorem announced (inside : Within start packet) :
    packet.remainingLength = start.remainingLength := by
  rw [inside.same]

theorem complete (inside : Within start packet) (whole : start.Complete) : packet.Complete := by
  rw [inside.same]
  exact whole

theorem room (inside : Within start packet) : packet.pos ≤ packet.remainingLength := by
  rw [inside.announced]
  exact inside.bounded

theorem advance (inside : Within start packet) {count : Nat}
    (room : packet.pos + count ≤ start.remainingLength) : Within start (packet.advance count) where
  same := by
    rw [MqttPacket.advance, inside.same]
  bounded := room

end Within

structure Moves {Value : Type} (read : PacketM Effect Value) (packet : MqttPacket) : Prop where
  ends : (read packet).outcome.Ends
  moves : exists count, packet.pos + count ≤ packet.remainingLength ∧
    (read packet).state = packet.advance count

namespace Moves

variable {packet : MqttPacket} {Value : Type} {read : PacketM Effect Value}

theorem of_ok {effects : List Effect} {value : Value} {count : Nat}
    (done : read packet = ⟨effects, .ok value, packet.advance count⟩)
    (room : packet.pos + count ≤ packet.remainingLength) : Moves read packet where
  ends := by
    rw [done]
    trivial
  moves := ⟨count, room, by rw [done]⟩

theorem of_error {effects : List Effect} {reason : GoString}
    (inside : packet.pos ≤ packet.remainingLength)
    (done : read packet = ⟨effects, .error reason, packet⟩) : Moves read packet where
  ends := by
    rw [done]
    trivial
  moves := ⟨0, inside, by rw [done]; rfl⟩

theorem bind {Next : Type} {next : Value -> PacketM Effect Next} (first : Moves read packet)
    (later : forall value, Moves (next value) (read packet).state) :
    Moves (read >>= next) packet := by
  rcases first with ⟨ends, count, room, moved⟩
  refine ⟨ends_bind ends (fun value _ => (later value).ends), ?_⟩
  rcases returned_or_stopped read packet with ⟨value, returned⟩ | never
  · rcases (later value).moves with ⟨more, enough, movedOn⟩
    rw [moved] at enough movedOn
    refine ⟨count + more, ?_, ?_⟩
    · rw [← Nat.add_assoc]
      exact enough
    · rw [bind_of_returned returned, moved, precede_state, movedOn]
      change ({ packet with pos := packet.pos + count + more } : MqttPacket) = _
      rw [Nat.add_assoc]
      rfl
  · exact ⟨count, room, (bind_of_stopped next never).2.1.trans moved⟩

end Moves

section Reads

variable {packet : MqttPacket} (complete : packet.Complete)
  (inside : packet.pos ≤ packet.remainingLength)

include complete inside

theorem leaves_unread : packet.Leaves packet.unread where
  complete := complete
  size := by
    rw [MqttPacket.unread, List.length_drop, ← complete]
    omega
  unread := rfl

theorem readByte_moves : Moves MqttPacket.readByte packet := by
  have leaves := leaves_unread complete inside
  cases behind : packet.unread with
  | nil =>
    rw [behind] at leaves
    exact .of_error inside leaves.readByte_nil
  | cons byte rest =>
    rw [behind] at leaves
    have size := leaves.size
    rw [List.length_cons] at size
    exact .of_ok leaves.readByte (by omega)

theorem readUint16_moves : Moves MqttPacket.readUint16 packet := by
  have leaves := leaves_unread complete inside
  have size := leaves.size
  by_cases short : packet.unread.length < 2
  · exact .of_error inside (leaves.readUint16_short short)
  · rcases behind : packet.unread with _ | ⟨first, _ | ⟨second, rest⟩⟩
    · rw [behind] at short
      exact absurd Nat.two_pos short
    · rw [behind] at short
      exact absurd Nat.one_lt_two short
    · rw [behind] at leaves
      exact .of_ok leaves.readUint16 (by omega)

theorem readBytes_moves (count : Nat) : Moves (MqttPacket.readBytes count) packet := by
  by_cases beyond : packet.remainingLength < packet.pos + count
  · have refused : (MqttPacket.readBytes count : PacketM Effect (List UInt8)) packet =
        ⟨[], .error mqttErrorInvalidProtocol, packet⟩ := by
      rw [MqttPacket.readBytes, look_bind_apply, failIf_pos_bind_apply beyond]
    exact .of_error inside refused
  · have leaves := leaves_unread complete inside
    have size := leaves.size
    have length : (packet.unread.take count).length = count := by
      rw [List.length_take]
      omega
    have parts := (List.take_append_drop count packet.unread).symm
    have done := @MqttPacket.readBytes_unread Effect packet complete _ _ parts inside
    rw [length] at done
    exact .of_ok done (by omega)

theorem readString_moves : Moves MqttPacket.readString packet := by
  have size := readUint16_moves complete inside
  rcases size.moves with ⟨count, room, moved⟩
  refine size.bind (fun length => ?_)
  rw [moved]
  exact readBytes_moves (complete.advance count) room length.toNat

end Reads

namespace Within

variable {start : MqttPacket}

theorem of_moves {Value : Type} {read : PacketM Effect Value} {scene : Scene}
    (inside : Within start scene.packet) (moves : Moves read scene.packet) :
    StaysInside start (accessOf Scene.packet (reading read) scene) ∧
      Within start (reading read scene).state.packet := by
  rcases moves with ⟨ends, count, room, moved⟩
  rw [inside.announced] at room
  have after : Within start (reading read scene).state.packet := by
    change Within start (read scene.packet).state
    rw [moved]
    exact inside.advance room
  refine ⟨⟨panicOf_ends ends, inside, after, ?_⟩, after⟩
  change scene.packet.pos ≤ (read scene.packet).state.pos
  rw [moved]
  exact Nat.le_add_right _ _

theorem read (complete : start.Complete) {Value : Type} {call : SessionM Value}
    (listed : IsRead Value call) (scene : Scene) (inside : Within start scene.packet) :
    StaysInside start (accessOf Scene.packet call scene) ∧
      Within start (call scene).state.packet := by
  have whole := inside.complete complete
  cases listed with
  | byte => exact inside.of_moves (readByte_moves whole inside.room)
  | uint16 => exact inside.of_moves (readUint16_moves whole inside.room)
  | bytes count => exact inside.of_moves (readBytes_moves whole inside.room count)
  | string => exact inside.of_moves (readString_moves whole inside.room)

end Within

/-! ## The reads of the handlers -/

/-- A part of a handler, decomposed into its reads and the calls between them.
The excuse says which panics a connection may cause. -/
abbrev Reads {Value : Type} (excuse : Option Connection -> Panic -> Prop) (call : SessionM Value) :
    Type 1 :=
  Stepwise Scene.packet (fun scene => scene.session.conn) excuse IsRead Value call

def noExcuse : Option Connection -> Panic -> Prop := fun _ _ => False

structure Parses (excuse : Option Connection -> Panic -> Prop) (handler : SessionM Unit) where
  Parsed : Type
  phase : SessionM Parsed
  finish : Parsed -> SessionM Unit
  whole : forall scene, handler scene = (phase >>= finish) scene
  reads : Reads excuse phase

/-- A CONNACK over the connection ends in the panic. -/
def ConnackPanics (conn : Option Connection) (cause : Panic) : Prop :=
  exists scene result, scene.session.conn = conn ∧
    (sendConnAck 0 result scene).outcome = .panic cause

theorem refuse_panics {Value : Type} {result : UInt8} {reason : GoString} {scene : Scene}
    {cause : Panic}
    (panicked : ((refuse result reason : SessionM Value) scene).outcome = .panic cause) :
    ConnackPanics scene.session.conn cause := by
  refine ⟨scene, result, rfl, ?_⟩
  rw [refuse] at panicked
  rcases returned_or_stopped (ignore (sendConnAck 0 result)) scene with ⟨value, sent⟩ | stopped
  · rw [bind_of_returned sent] at panicked
    cases panicked
  · have ignored := panic_of_bind stopped panicked
    rcases returned_or_stopped (attempt (sendConnAck 0 result)) scene with ⟨_, tried⟩ | never
    · have returned : (ignore (sendConnAck 0 result) scene).outcome = .ok () := by
        change ((attempt (sendConnAck 0 result) >>= fun _ => pure ()) scene).outcome = _
        rw [bind_of_returned tried]
        rfl
      exact absurd returned (stopped ())
    · exact attempt_panic_iff.mp (panic_of_bind never ignored)

namespace Reads

section Between

variable {excuse : Option Connection -> Panic -> Prop}

def still {Value : Type} {call : SessionM Value}
    (same : forall scene, ((call scene).state.packet, (call scene).state.session.conn,
      panicOf (call scene)) = (scene.packet, scene.session.conn, none)) : Reads excuse call :=
  .spare
    (fun scene _ _ => ⟨congrArg Prod.fst (same scene),
      congrArg (fun traces => traces.2.1) (same scene)⟩)
    (fun scene cause panicked => by
      have calm : panicOf (call scene) = none := congrArg (fun traces => traces.2.2) (same scene)
      rw [panicOf, panicked] at calm
      cases calm)

def check {condition : Prop} [Decidable condition] {reason : GoString} :
    Reads excuse (failIf condition reason) :=
  .branch (still (fun _ => rfl)) (still (fun _ => rfl))

def readingOr {Value : Type} {read : PacketM Effect Value} (listed : IsRead Value (reading read)) :
    Reads excuse (Mqtt.readingOr read) :=
  .bind (.attempt listed) (Stepwise.answered
    (fun _ => still (fun _ => rfl)) (fun _ => still (fun _ => rfl)))

def readWill (will willQos : UInt8) (willRetain : Bool) :
    Reads excuse (Mqtt.readWill will willQos willRetain) :=
  .branch
    (.bind (readingOr .string) (fun _ => .bind check (fun _ =>
      .bind (still (fun _ => rfl)) (fun _ => .bind (readingOr .uint16) (fun length =>
        .bind (.branch (readingOr (.bytes length.toNat)) (still (fun _ => rfl))) (fun _ =>
          still (fun _ => rfl)))))))
    (.bind (still (fun _ => rfl)) (fun _ => .bind check (fun _ => still (fun _ => rfl))))

def readFilter : Reads excuse Mqtt.readFilter :=
  .bind (.access .string) (fun _ => .bind (.access .byte) (fun _ =>
    .bind check (fun _ => still (fun _ => rfl))))

def subscribeEach : (rounds : Nat) -> (payload : List UInt8) ->
    Reads excuse (Mqtt.subscribeEach rounds payload)
  | 0, _ => still (fun _ => rfl)
  | rounds + 1, payload =>
    .bind (still (fun _ => rfl)) (fun _ => .branch
      (.bind readFilter (fun filter => .bind (still (fun _ => rfl)) (fun _ =>
        .bind (.branch (still (fun _ => rfl)) (still (fun _ => rfl))) (fun _ =>
          subscribeEach rounds (payload ++ [filter.2])))))
      (still (fun _ => rfl)))

def unsubscribeEach : (rounds : Nat) -> Reads excuse (Mqtt.unsubscribeEach rounds)
  | 0 => still (fun _ => rfl)
  | rounds + 1 =>
    .bind (still (fun _ => rfl)) (fun _ => .branch
      (.bind (readingOr .string) (fun _ => .bind (still (fun _ => rfl)) (fun _ =>
        .bind (still (fun _ => rfl)) (fun _ => unsubscribeEach rounds))))
      (still (fun _ => rfl)))

def readPublish (host : Host) : Reads excuse (Mqtt.readPublish host) :=
  .bind (still (fun _ => rfl)) (fun _ => .bind check (fun _ =>
    .bind (.bind (.attempt .string) (Stepwise.answered
      (fun _ => still (fun _ => rfl)) (fun _ => still (fun _ => rfl)))) (fun _ =>
      .bind (.branch (.access .uint16) (still (fun _ => rfl))) (fun _ =>
        .bind (.bind (still (fun _ => rfl)) (fun _ => .branch
          (.bind check (fun _ => .access (.bytes _))) (still (fun _ => rfl)))) (fun _ =>
          still (fun _ => rfl))))))

end Between

def refusal {Value : Type} (result : UInt8) (reason : GoString) :
    Reads ConnackPanics (refuse result reason : SessionM Value) :=
  .spare (fun scene value returned => absurd returned (refuse_never _ _ scene value))
    (fun _ _ panicked => refuse_panics panicked)

def checkProtocol (name : GoString) (version cflags : UInt8) :
    Reads ConnackPanics (Mqtt.checkProtocol name version cflags) :=
  .branch
    (.bind (.branch (refusal _ _) (still (fun _ => rfl))) (fun _ => still (fun _ => rfl)))
    (.branch
      (.bind (.branch (refusal _ _) (still (fun _ => rfl))) (fun _ =>
        .bind (still (fun _ => rfl)) (fun _ => .bind check (fun _ =>
          .bind (still (fun _ => rfl)) (fun _ => check)))))
      (still (fun _ => rfl)))

def readClientID : Reads ConnackPanics Mqtt.readClientID :=
  .bind (.attempt .string) (Stepwise.answered
    (fun _ => .branch (refusal _ _) (still (fun _ => rfl))) (fun _ => refusal _ _))

def readCredentials (cflags : UInt8) : Reads ConnackPanics (Mqtt.readCredentials cflags) :=
  .bind (.branch (refusal _ _) (still (fun _ => rfl))) (fun _ =>
    .bind (.attempt .string) (fun username => .bind (.attempt .string) (fun password =>
      match username, password with
      | .ok _, .ok _ => still (fun _ => rfl)
      | .ok _, .error _ => refusal _ _
      | .error _, _ => refusal _ _)))

def readConnect : Reads ConnackPanics Mqtt.readConnect :=
  .bind (.bind (still (fun _ => rfl)) (fun _ => check)) (fun _ =>
    .bind (.access .string) (fun _ => .bind (.access .byte) (fun _ =>
      .bind (.access .byte) (fun cflags => .bind (checkProtocol _ _ _) (fun _ =>
        .bind (still (fun _ => rfl)) (fun _ => .bind check (fun _ => .bind check (fun _ =>
          .bind (.access .uint16) (fun _ => .bind (still (fun _ => rfl)) (fun _ =>
            .bind readClientID (fun _ => .bind (readWill _ _ _) (fun _ =>
              .bind (readCredentials cflags) (fun _ => still (fun _ => rfl))))))))))))))

end Reads

namespace Parses

open Reads

variable {excuse : Option Connection -> Panic -> Prop}

def handleConnect (host : Host) : Parses ConnackPanics (Mqtt.handleConnect host) where
  Parsed := ConnectRequest
  phase := Mqtt.readConnect
  finish := fun request => do
    identify host request
    openSession host request.cleanSession request.willMsg
  whole := fun _ => rfl
  reads := Reads.readConnect

def readIdentifier (refused : Scene -> Prop) [DecidablePred refused] (reason : GoString) :
    SessionM (Scene × UInt16) := do
  let scene ← look
  failIf (refused scene) reason
  let pid ← reading MqttPacket.readUint16
  return (scene, pid)

def readIdentifierReads (refused : Scene -> Prop) [DecidablePred refused] (reason : GoString) :
    Reads excuse (readIdentifier refused reason) :=
  .bind (still (fun _ => rfl)) (fun _ => .bind check (fun _ => .bind (.access .uint16) (fun _ =>
    still (fun _ => rfl))))

theorem readIdentifier_bind (refused : Scene -> Prop) [DecidablePred refused] (reason : GoString)
    {Next : Type} (next : Scene × UInt16 -> SessionM Next) (scene : Scene) :
    (readIdentifier refused reason >>= next) scene =
      (do
        let scene ← look
        failIf (refused scene) reason
        let pid ← reading MqttPacket.readUint16
        next (scene, pid) : SessionM Next) scene := by
  rw [readIdentifier, bind_assoc_apply]
  refine bind_congr_apply (fun now _ => ?_)
  rw [bind_assoc_apply]
  refine bind_congr_apply (fun _ _ => ?_)
  rw [bind_assoc_apply]
  exact bind_congr_apply (fun _ _ => pure_bind_apply _)

abbrev misflagged (scene : Scene) : Prop :=
  scene.session.protocol = .mqtt311 ∧ scene.packet.command &&& 0x0F ≠ 0x02

def handleSubscribe : Parses excuse Mqtt.handleSubscribe where
  Parsed := (Scene × UInt16) × List UInt8
  phase := do
    let read ← readIdentifier misflagged mqttErrorInvalidProtocol
    let payload ← Mqtt.subscribeEach read.1.packet.remainingLength []
    return (read, payload)
  finish := fun parsed => do
    failIf (parsed.1.1.session.protocol = .mqtt311 ∧ parsed.2 = []) mqttErrorInvalidProtocol
    sendSubAck parsed.1.2 parsed.2
  whole := by
    intro scene
    rw [bind_assoc_apply, readIdentifier_bind, Mqtt.handleSubscribe]
    refine bind_congr_apply (fun _ _ => bind_congr_apply (fun _ _ => bind_congr_apply
      (fun _ _ => ?_)))
    rw [bind_assoc_apply]
    exact bind_congr_apply (fun _ _ => (pure_bind_apply _).symm)
  reads := .bind (readIdentifierReads _ _) (fun read =>
    .bind (Reads.subscribeEach read.1.packet.remainingLength []) (fun _ => still (fun _ => rfl)))

def handleUnsubscribe : Parses excuse Mqtt.handleUnsubscribe where
  Parsed := UInt16
  phase := do
    let read ← readIdentifier misflagged mqttErrorInvalidProtocol
    Mqtt.unsubscribeEach read.1.packet.remainingLength
    return read.2
  finish := fun pid => sendCommandWithPacketID UNSUBACK pid false
  whole := by
    intro scene
    rw [bind_assoc_apply, readIdentifier_bind, Mqtt.handleUnsubscribe]
    refine bind_congr_apply (fun _ _ => bind_congr_apply (fun _ _ => bind_congr_apply
      (fun _ _ => ?_)))
    rw [bind_assoc_apply]
    exact bind_congr_apply (fun _ _ => (pure_bind_apply _).symm)
  reads := .bind (readIdentifierReads _ _) (fun read =>
    .bind (Reads.unsubscribeEach read.1.packet.remainingLength) (fun _ => still (fun _ => rfl)))

def handlePublish (host : Host) : Parses excuse (Mqtt.handlePublish host) where
  Parsed := Event.TopicPublishEvent × UInt16
  phase := Mqtt.readPublish host
  finish := fun received => do
    let session ← session
    failIf (host.refusesPublish session received.1.topic) mqttErrorConnectRefused
    if received.1.qos = 0 then notify (.topicPublish received.1)
    else if received.1.qos = 1 then
      notify (.topicPublish received.1)
      sendPubAck received.2
    else if received.1.qos = 2 then fail (ascii "MQTT qos 2 is not supported now")
    else fail mqttErrorInvalidProtocol
  whole := fun _ => rfl
  reads := Reads.readPublish host

def handlePubAck : Parses excuse Mqtt.handlePubAck where
  Parsed := Scene × UInt16
  phase := readIdentifier (fun scene => scene.packet.remainingLength ≠ 2)
    (ascii "PUBACK remainingLength error")
  finish := fun read => do
    let ref ← useQueue
    setQueueService (fun service =>
      service.setRetainList ref ((service.getRetainList ref).remove read.2))
  whole := by
    intro scene
    rw [readIdentifier_bind]
    rfl
  reads := readIdentifierReads _ _

def handlePubRel : Parses excuse Mqtt.handlePubRel where
  Parsed := Scene × UInt16
  phase := readIdentifier misflagged mqttErrorInvalidProtocol
  finish := fun read => sendPubComp read.2
  whole := by
    intro scene
    rw [readIdentifier_bind]
    rfl
  reads := readIdentifierReads _ _

end Parses

/-! ## Loops -/

structure Reached (start : MqttPacket) (floor : Nat) (packet : MqttPacket) : Prop where
  inside : Within start packet
  above : floor ≤ packet.pos

section Loops

variable {start : MqttPacket} (complete : start.Complete) {scene : Scene}

include complete

theorem Reached.read {floor : Nat} {Value : Type} {call : SessionM Value}
    (listed : IsRead Value call) (now : Scene) (reached : Reached start floor now.packet) :
    StaysInside start (accessOf Scene.packet call now) ∧
      Reached start floor (call now).state.packet := by
  have read := Within.read complete listed now reached.inside
  exact ⟨read.1, read.2, reached.above.trans read.1.forward⟩

theorem Reads.forward {floor : Nat} {Value : Type} {call : SessionM Value}
    (reads : Reads noExcuse call)
    (reached : Reached start floor scene.packet) {value : Value}
    (returned : (call scene).outcome = .ok value) :
    Reached start floor (call scene).state.packet :=
  (reads.holds_throughout (fun _ _ listed now => Reached.read complete listed now) scene
    reached).2 value returned

theorem Reads.after {floor : Nat} {Value Next : Type} {call : SessionM Value}
    {next : Value -> SessionM Next} (later : forall value, Reads noExcuse (next value))
    (reached : forall value, (call scene).outcome = .ok value ->
      Reached start floor (call scene).state.packet) {result : Next}
    (returned : ((call >>= next) scene).outcome = .ok result) :
    Reached start floor ((call >>= next) scene).state.packet := by
  rcases returned_of_bind returned with ⟨value, first, rest⟩
  rw [bind_of_returned first, precede_state]
  exact Reads.forward complete (later value) (reached value first) rest

theorem readString_advances {text : GoString} (inside : Within start scene.packet)
    (returned : (reading MqttPacket.readString scene).outcome = .ok text) :
    Reached start (scene.packet.pos + 2) (reading MqttPacket.readString scene).state.packet := by
  have leaves := leaves_unread (inside.complete complete) inside.room
  cases scanned : MqttPacket.scanString scene.packet.unread with
  | none =>
    have broken := (@MqttPacket.Leaves.readString_broken Effect _ _ leaves scanned).2
    exact absurd (returned.symm.trans broken) (fun same => nomatch same)
  | some found =>
    refine ⟨(Within.read complete .string scene inside).2, ?_⟩
    rw [reading_apply (leaves.readString_found scanned).1]
    change _ ≤ scene.packet.pos + (2 + found.1.length)
    omega

theorem readingOr_advances {text : GoString} (inside : Within start scene.packet)
    (returned : (readingOr MqttPacket.readString scene).outcome = .ok text) :
    Reached start (scene.packet.pos + 2) (readingOr MqttPacket.readString scene).state.packet := by
  have leaves := leaves_unread (inside.complete complete) inside.room
  cases scanned : MqttPacket.scanString scene.packet.unread with
  | none =>
    have broken := (readTopicName_scanner.broken leaves scanned).2
    exact absurd (returned.symm.trans broken) (fun same => nomatch same)
  | some found =>
    have read := reading_apply (leaves.readString_found scanned).1
    have reached := readString_advances complete inside (congrArg Run.outcome read)
    rw [readingOr, bind_of_ok (attempt_of_returned read)]
    rw [read] at reached
    exact reached

end Loops

/-- The body of the loop of `handleSubscribe`. -/
def subscribeRound : SessionM UInt8 := do
  let filter ← readFilter
  let session ← session
  when (filter.2 ≠ 0x80) (notify (.topicSubscribe
    { clientID := session.clientID
      topic := session.mountpoint ++ filter.1
      qos := filter.2
      retain := true }))
  return filter.2

/-- The body of the loop of `handleUnsubscribe`. -/
def unsubscribeRound : SessionM Unit := do
  let topic ← readingOr MqttPacket.readString
  let session ← session
  notify (.topicUnsubscribe { clientID := session.clientID, topic := topic })

/-- A loop that repeats its body up to the end of the packet.  A round that
returns has moved the position on by at least two bytes. -/
structure ReadLoop {Entry Result : Type} (start : MqttPacket) (round : SessionM Entry)
    (collect : Result -> Entry -> Result) (loop : Nat -> Result -> SessionM Result) : Prop where
  exhausted : forall result scene, loop 0 result scene = ⟨[], .ok result, scene⟩
  repeated : forall rounds result scene, loop (rounds + 1) result scene =
    if scene.packet.pos < scene.packet.remainingLength then
      (round >>= fun entry => loop rounds (collect result entry)) scene
    else ⟨[], .ok result, scene⟩
  advances : forall scene entry, Within start scene.packet -> (round scene).outcome = .ok entry ->
    Reached start (scene.packet.pos + 2) (round scene).state.packet

theorem ReadLoop.more {Entry Result : Type} {start : MqttPacket} {round : SessionM Entry}
    {collect : Result -> Entry -> Result} {loop : Nat -> Result -> SessionM Result}
    (reads : ReadLoop start round collect loop) {rounds : Nat} (spare : Nat) {result : Result}
    {scene : Scene} (inside : Within start scene.packet)
    (enough : start.remainingLength ≤ scene.packet.pos + rounds) :
    loop (rounds + spare) result scene = loop rounds result scene := by
  induction rounds generalizing result scene with
  | zero =>
    have ended : ¬ scene.packet.pos < scene.packet.remainingLength := by
      rw [inside.announced]
      omega
    cases spare with
    | zero => rfl
    | succ spare => rw [Nat.zero_add, reads.repeated, if_neg ended, reads.exhausted]
  | succ rounds ih =>
    rw [Nat.add_right_comm, reads.repeated, reads.repeated]
    by_cases going : scene.packet.pos < scene.packet.remainingLength
    · rw [if_pos going, if_pos going]
      refine bind_congr_apply (fun entry returned => ?_)
      have reached := reads.advances scene entry inside returned
      have above := reached.above
      exact ih reached.inside (by omega)
    · rw [if_neg going, if_neg going]

section Handlers

variable {start : MqttPacket} (complete : start.Complete)

include complete

theorem readFilter_advances {scene : Scene} {filter : GoString × UInt8}
    (inside : Within start scene.packet) (returned : (readFilter scene).outcome = .ok filter) :
    Reached start (scene.packet.pos + 2) (readFilter scene).state.packet :=
  Reads.after complete (fun _ => .bind (.access .byte) (fun _ =>
    .bind Reads.check (fun _ => Reads.still (fun _ => rfl))))
    (fun _ read => readString_advances complete inside read) returned

theorem subscribeEach_readLoop :
    ReadLoop start subscribeRound (fun payload qos => payload ++ [qos]) subscribeEach where
  exhausted := fun _ _ => rfl
  repeated := by
    intro rounds payload scene
    rw [subscribeEach, look_bind_apply]
    by_cases going : scene.packet.pos < scene.packet.remainingLength
    · rw [if_pos going, if_pos going, subscribeRound, bind_assoc_apply]
      refine bind_congr_apply (fun filter _ => ?_)
      rw [bind_assoc_apply]
      refine bind_congr_apply (fun session _ => ?_)
      rw [bind_assoc_apply]
      rfl
    · rw [if_neg going, if_neg going]
      rfl
  advances := fun _ _ inside returned =>
    Reads.after complete (fun _ => .bind (Reads.still (fun _ => rfl)) (fun _ =>
      .bind (.branch (Reads.still (fun _ => rfl)) (Reads.still (fun _ => rfl))) (fun _ =>
        Reads.still (fun _ => rfl))))
      (fun _ read => readFilter_advances complete inside read) returned

theorem unsubscribeEach_readLoop :
    ReadLoop start unsubscribeRound (fun result _ => result)
      (fun rounds (_ : Unit) => unsubscribeEach rounds) where
  exhausted := fun _ _ => rfl
  repeated := by
    intro rounds _ scene
    rw [unsubscribeEach, look_bind_apply]
    by_cases going : scene.packet.pos < scene.packet.remainingLength
    · rw [if_pos going, if_pos going, unsubscribeRound, bind_assoc_apply]
      refine bind_congr_apply (fun topic _ => ?_)
      rw [bind_assoc_apply]
    · rw [if_neg going, if_neg going]
      rfl
  advances := fun _ _ inside returned =>
    Reads.after complete (fun _ => .bind (Reads.still (fun _ => rfl)) (fun _ =>
      Reads.still (fun _ => rfl)))
      (fun _ read => readingOr_advances complete inside read) returned

end Handlers

/-! ## All handlers -/

/-- The handlers that read fields from their packet. -/
inductive Parser
  | connect
  | subscribe
  | unsubscribe
  | publish
  | pubAck
  | pubRel

namespace Parser

def handler (host : Host) : Parser -> SessionM Unit
  | .connect => handleConnect host
  | .subscribe => handleSubscribe
  | .unsubscribe => handleUnsubscribe
  | .publish => handlePublish host
  | .pubAck => handlePubAck
  | .pubRel => handlePubRel

/-- Only a CONNECT packet is answered while it is parsed. -/
def Excuse : Parser -> Option Connection -> Panic -> Prop
  | .connect => ConnackPanics
  | _ => noExcuse

def parses (host : Host) : (parser : Parser) -> Parses parser.Excuse (parser.handler host)
  | .connect => Parses.handleConnect host
  | .subscribe => Parses.handleSubscribe
  | .unsubscribe => Parses.handleUnsubscribe
  | .publish => Parses.handlePublish host
  | .pubAck => Parses.handlePubAck
  | .pubRel => Parses.handlePubRel

end Parser

theorem IsRead.conn {Value : Type} {call : SessionM Value} (listed : IsRead Value call)
    (scene : Scene) : (call scene).state.session.conn = scene.session.conn := by
  cases listed <;> rfl

/-- Whatever bytes a packet holds, all reads stay inside it and move forward,
parsing does not panic unless the CONNACK of a refused CONNECT packet does, and
both loops end by themselves. -/
theorem parsing_stays_inside (host : Host) (scene : Scene) (complete : scene.packet.Complete)
    (inside : scene.packet.pos ≤ scene.packet.remainingLength) :
    (forall parser read, read ∈ (Parser.parses host parser).reads.steps scene ->
      StaysInside scene.packet read) ∧
    (forall parser cause, ((Parser.parses host parser).phase scene).outcome = .panic cause ->
      parser = .connect ∧ ConnackPanics scene.session.conn cause) ∧
    ReadLoop scene.packet subscribeRound (fun payload qos => payload ++ [qos]) subscribeEach ∧
    ReadLoop scene.packet unsubscribeRound (fun result _ => result)
      (fun rounds (_ : Unit) => unsubscribeEach rounds) ∧
    forall now spare, Within scene.packet now.packet ->
      (forall payload, subscribeEach (scene.packet.remainingLength + spare) payload now =
        subscribeEach scene.packet.remainingLength payload now) ∧
      unsubscribeEach (scene.packet.remainingLength + spare) now =
        unsubscribeEach scene.packet.remainingLength now := by
  have subscribes := subscribeEach_readLoop complete
  have unsubscribes := unsubscribeEach_readLoop complete
  have stays (parser : Parser) : forall read,
      read ∈ (Parser.parses host parser).reads.steps scene -> StaysInside scene.packet read :=
    ((Parser.parses host parser).reads.holds_throughout
      (fun _ _ listed now => Within.read complete listed now) scene ⟨rfl, inside⟩).1
  refine ⟨stays, fun parser cause panicked => ?_, subscribes, unsubscribes,
    fun now spare held => ?_⟩
  · rcases ((Parser.parses host parser).reads.panics_or_excused
      (fun _ _ listed => listed.conn) scene).2 cause panicked with ⟨read, member, panic⟩ | excused
    · have calm := (stays parser read member).calm
      rw [panic] at calm
      cases calm
    · cases parser with
      | connect => exact ⟨rfl, excused⟩
      | subscribe | unsubscribe | publish | pubAck | pubRel => exact excused.elim
  · have enough := Nat.le_add_left scene.packet.remainingLength now.packet.pos
    exact ⟨fun payload => subscribes.more spare held enough,
      @ReadLoop.more _ _ _ _ _ _ unsubscribes _ spare () now held enough⟩

/-- A SUBSCRIBE packet whose filter announces nine bytes and has one: the read
of the filter stops behind the length field. -/
theorem lying_length_stays_inside :
    ((Parser.parses signingHost .subscribe).reads.steps (receiving 0x82 [0, 7, 0, 9, 97])).map
        (fun read => (read.before.pos, read.after.pos)) = [(0, 2), (2, 4)] ∧
      (forall read, read ∈ (Parser.parses signingHost .subscribe).reads.steps
          (receiving 0x82 [0, 7, 0, 9, 97]) ->
        StaysInside (receiving 0x82 [0, 7, 0, 9, 97]).packet read) ∧
      forall cause, ((Parser.parses signingHost .subscribe).phase
        (receiving 0x82 [0, 7, 0, 9, 97])).outcome ≠ .panic cause := by
  have inside := parsing_stays_inside signingHost (receiving 0x82 [0, 7, 0, 9, 97])
    (receiving_holds 0x82 [0, 7, 0, 9, 97]).complete (by decide)
  refine ⟨by decide, inside.1 .subscribe, fun cause panicked => ?_⟩
  exact nomatch (inside.2.1 .subscribe cause panicked).1

end Mqtt
end Sentel
