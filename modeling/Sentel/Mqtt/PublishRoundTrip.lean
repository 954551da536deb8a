import Sentel.Mqtt.Fields
import Sentel.Mqtt.FrameStream

namespace Sentel
namespace Mqtt

open Library Handler Base Queue Event SessionMgr Auth SessionM

/-!
# Sent messages and received messages

What `sendPublish` writes should be readable by a session of the same program:
the decoder finds one packet in the bytes, and `handlePublish` finds the
topic, the payload, the quality of service, the duplicate flag and the packet
identifier in that packet.  The length of the topic and the identifier are
written by `writeUint16`, which drops bits, and a message without a frame is
taken for sent.  These are the only obstacles.
-/

/-- The duplicate flag that `handlePublish` finds in a packet. -/
def dupFlag (packet : MqttPacket) : UInt8 := (packet.command &&& 0x08) >>> 3

/-- The payload passes the size limit of `handlePublish`. -/
def Host.Admits (host : Host) (payload : List UInt8) : Prop :=
  payload ≠ [] -> (payload.length : Int) ≤ host.messageSizeLimit

instance (host : Host) (payload : List UInt8) : Decidable (host.Admits payload) :=
  inferInstanceAs (Decidable (_ -> _))

/-- `handlePublish` finds the message and the identifier in the packet. -/
def ReadsBack (host : Host) (receiver : Scene) (msg : Message) (pid : UInt16) : Prop :=
  dupFlag receiver.packet = (if msg.dup then 1 else 0) ∧
    exists event id, (readPublish host receiver).outcome = .ok (event, id) ∧
      event.topic = msg.topic ∧ event.payload = msg.payload ∧ event.qos = msg.qos ∧
        (0 < msg.qos -> id = pid)

def ArrivesInOneWrite (bufferSize : Nat) (stream : ByteStream) : Prop :=
  forall command size header, fixedHeader stream.bytes = some (command, size, header) ->
    size ≤ bufferSize ∧ size ≤ (stream.skip header).available

def StaysQueued (scene : Scene) (msg : Message) : Prop :=
  forall ref, scene.session.queue = some ref -> scene.broker.queueService.front ref = some msg ->
    (drainQueue 1 scene).state.broker.queueService.front ref = some msg

/-- Where a frame is received: any new session. -/
structure Receiver where
  id : ConnId
  conn : Connection
  authNeed : Bool
  broker : Broker

def Receiver.scene (receiver : Receiver) (packet : MqttPacket) : Scene where
  session := newMqttSession receiver.id receiver.conn receiver.authNeed
  packet := packet
  broker := receiver.broker

/-- What is sent for the message can be received, and a message that is too
large is refused. -/
def SendsReadably (host : Host) (receiver : Receiver) (scene : Scene) (msg : Message) : Prop :=
  ((sendPublish msg scene).outcome = .ok () ->
    exists frame, written (sendPublish msg scene).effects = [frame] ∧
      forall bufferSize stream, stream.bytes = frame -> ArrivesInOneWrite bufferSize stream ->
        exists packet, newMqttPacket.decodeThrough bufferSize stream = (.ok packet, []) ∧
          forall pid, (makePacketID scene).outcome = .ok pid ->
            ReadsBack host (receiver.scene packet) msg pid) ∧
  (¬ Fits msg ->
    (exists reason, (sendPublish msg scene).outcome = .error reason) ∧ StaysQueued scene msg)

/-! ## Decoding the frame -/

def publishBody (msg : Message) (pid : UInt16) : List UInt8 :=
  MqttPacket.uint16Bytes msg.topic.length.toUInt16 ++ msg.topic ++ identifierBytes msg pid ++
    msg.payload

theorem publishBody_length (msg : Message) (pid : UInt16) :
    (publishBody msg pid).length = (publishPacket msg).remainingLength := by
  change _ = 2 + msg.topic.length + msg.payload.length + (if 0 < msg.qos then 2 else 0)
  simp only [publishBody, List.length_append, identifierBytes_length, MqttPacket.uint16Bytes,
    List.length_cons, List.length_nil]
  omega

def outgoingPublish (msg : Message) (pid : UInt16) (fits : Fits msg) : Outgoing where
  packet := publishPacket msg
  body := publishBody msg pid
  sized := publishBody_length msg pid
  nonempty := by
    change 0 < 2 + msg.topic.length + msg.payload.length + (if 0 < msg.qos then 2 else 0)
    omega
  fits := fits

theorem outgoingPublish_frame (msg : Message) (pid : UInt16) (fits : Fits msg) :
    (outgoingPublish msg pid fits).frame = publishFrame msg pid := by
  rw [Outgoing.frame_eq]
  simp [outgoingPublish, Outgoing.lengthBytes, publishBody, publishFrame, publishHead]

theorem outgoingPublish_header (msg : Message) (pid : UInt16) (fits : Fits msg) :
    fixedHeader (publishFrame msg pid) = some ((publishPacket msg).headerByte,
      (publishPacket msg).remainingLength,
      (outgoingPublish msg pid fits).lengthBytes.length + 1) := by
  let out := outgoingPublish msg pid fits
  rw [← outgoingPublish_frame msg pid fits, out.frame_eq]
  exact fixedHeader_frame out.packet.headerByte out.nonempty out.fits out.body

variable {msg : Message} {scene : Scene}

theorem decodeThrough_publish (fits : Fits msg) (pid : UInt16) {bufferSize : Nat}
    {stream : ByteStream} (bytes : stream.bytes = publishFrame msg pid)
    (whole : ArrivesInOneWrite bufferSize stream) :
    exists packet, newMqttPacket.decodeThrough bufferSize stream = (.ok packet, []) ∧
      packet.Holds (publishPacket msg).headerByte (publishBody msg pid) := by
  let out := outgoingPublish msg pid fits
  have frame : out.frame = publishFrame msg pid := outgoingPublish_frame msg pid fits
  rcases whole _ _ _ (by
    rw [bytes]
    exact outgoingPublish_header msg pid fits) with ⟨room, together⟩
  rw [Nat.add_comm] at together
  rcases @Outgoing.decodeThrough_frame out bufferSize stream [] (by rw [bytes, frame, List.append_nil])
      (out.sized ▸ room) (out.sized ▸ together)
      with ⟨packet, decoded, command, announced, start, body⟩
  have rest : stream.skip out.frame.length = [] := by
    rw [← ByteStream.bytes_eq_nil_iff, ByteStream.bytes_skip, bytes, frame]
    exact List.drop_length
  rw [rest] at decoded
  exact ⟨packet, decoded, command, start, announced.trans out.sized.symm, body⟩

theorem publishFrame_arrives (fits : Fits msg) (pid : UInt16) :
    exists bufferSize stream, stream.bytes = publishFrame msg pid ∧
      ArrivesInOneWrite bufferSize stream := by
  let out := outgoingPublish msg pid fits
  have nonempty : publishFrame msg pid ≠ [] := by
    rw [← outgoingPublish_frame msg pid fits, out.frame_eq]
    exact List.cons_ne_nil _ _
  have bytes : ByteStream.bytes [⟨publishFrame msg pid, nonempty⟩] = publishFrame msg pid := by
    rw [ByteStream.bytes_cons, ByteStream.bytes_nil, List.append_nil]
  refine ⟨(publishFrame msg pid).length, [⟨publishFrame msg pid, nonempty⟩], bytes, ?_⟩
  intro command size header found
  rw [bytes, outgoingPublish_header msg pid fits] at found
  cases found
  have length := out.frame_length
  change out.frame.length = _ + (publishPacket msg).remainingLength at length
  rw [outgoingPublish_frame msg pid fits] at length
  rw [ByteStream.available_skip_single]
  change _ ∧ _ ≤ (publishFrame msg pid).length - (out.lengthBytes.length + 1)
  omega

/-! ## The flags -/

theorem qos_cases {qos : UInt8} (small : qos ≤ 2) : qos = 0 ∨ qos = 1 ∨ qos = 2 := by
  have bound : qos.toNat ≤ 2 := UInt8.le_iff_toNat_le.mp small
  have cases : qos.toNat = 0 ∨ qos.toNat = 1 ∨ qos.toNat = 2 := by omega
  exact cases.imp UInt8.toNat_inj.mp (Or.imp UInt8.toNat_inj.mp UInt8.toNat_inj.mp)

theorem headerByte_flags (small : msg.qos ≤ 2) :
    ((publishPacket msg).headerByte &&& 0x06) >>> 1 = msg.qos ∧
      ((publishPacket msg).headerByte &&& 0x08) >>> 3 = if msg.dup then 1 else 0 := by
  have header : (publishPacket msg).headerByte =
      PUBLISH ||| (if msg.dup then (8 : UInt8) else 0) |||
        (if 0 < msg.qos then msg.qos <<< 1 else 0) ||| 0 := rfl
  rw [header]
  rcases qos_cases small with same | same | same <;> rw [same] <;> cases msg.dup <;> decide

/-! ## Reading the body -/

theorem readPayload_unread (host : Host) {scene : Scene} {payload : List UInt8}
    (leaves : scene.packet.Leaves payload) (admitted : host.Admits payload) :
    readPayload host scene = ⟨[], .ok payload, scene.advance payload.length⟩ := by
  have length : scene.packet.remainingLength - scene.packet.pos = payload.length := by
    rw [leaves.size, Nat.add_sub_cancel_left]
  rw [readPayload, look_bind_apply]
  simp only [length]
  by_cases empty : payload = []
  · subst empty
    rw [List.length_nil, if_neg (Nat.lt_irrefl 0)]
    rfl
  · have whole : scene.packet.unread = payload ++ [] := by rw [leaves.unread, List.append_nil]
    have inside : scene.packet.pos ≤ scene.packet.remainingLength := by
      rw [leaves.size]
      exact Nat.le_add_right _ _
    have allowed : ¬ host.messageSizeLimit <
        ((scene.packet.remainingLength - scene.packet.pos : Nat) : Int) := by
      rw [length]
      exact Int.not_lt.mpr (admitted empty)
    rw [if_pos (List.length_pos_iff.mpr empty), failIf_neg_bind_apply allowed]
    exact reading_apply (MqttPacket.readBytes_unread leaves.complete whole inside)

theorem readPayload_refused {host : Host} {scene : Scene} {payload : List UInt8}
    (leaves : scene.packet.Leaves payload) (refused : ¬ host.Admits payload) :
    readPayload host scene = ⟨[], .error mqttErrorInvalidProtocol, scene⟩ := by
  rcases Classical.not_imp.mp refused with ⟨nonempty, exceeds⟩
  have length : payload.length = scene.packet.remainingLength - scene.packet.pos := by
    rw [leaves.size, Nat.add_sub_cancel_left]
  have positive := List.length_pos_iff.mpr nonempty
  rw [length] at positive exceeds
  rw [readPayload, look_bind_apply, if_pos positive, failIf_pos_bind_apply (Int.not_le.mp exceeds)]

def readBehindTopic (host : Host) (qos : UInt8) (event : TopicPublishEvent) :
    SessionM (TopicPublishEvent × UInt16) := do
  let pid ← (if 0 < qos then reading MqttPacket.readUint16 else pure 0)
  let payload ← readPayload host
  return ({ event with payload := payload }, pid)

def topicEvent (scene : Scene) (qos : UInt8) (text : GoString) : TopicPublishEvent :=
  { clientID := scene.session.clientID
    productID := scene.session.productID
    topic := scene.session.mountpoint ++ text
    qos := qos
    retain := decide (0 < scene.packet.command &&& 0x01) }

theorem readPublish_unread (host : Host) {scene : Scene} {qos : UInt8}
    (flags : (scene.packet.command &&& 0x06) >>> 1 = qos) (small : qos ≤ 2) {first second : UInt8}
    {text rest : List UInt8} (leaves : scene.packet.Leaves (first :: second :: (text ++ rest)))
    (sized : (uint16Of first second).toNat = text.length) :
    readPublish host scene = readBehindTopic host qos (topicEvent scene qos text)
        (scene.advance (2 + text.length)) ∧
      (scene.advance (2 + text.length)).packet.Leaves rest := by
  have valid : ¬ (scene.packet.command &&& 0x06) >>> 1 > 2 := by
    rw [flags]
    exact UInt8.not_lt.mpr small
  rcases leaves.readString_found (MqttPacket.scanString_append sized rest) with ⟨found, left⟩
  have topic : readTopic scene.session.clientID scene =
      ⟨[], .ok text, scene.advance (2 + text.length)⟩ := by
    rw [readTopic, bind_of_ok (attempt_of_returned (reading_apply found))]
    rfl
  subst flags
  refine ⟨?_, left⟩
  rw [readPublish, look_bind_apply, failIf_neg_bind_apply valid, bind_of_ok topic]
  rfl

theorem readBehindTopic_topic {host : Host} {qos : UInt8} {event event' : TopicPublishEvent}
    {id : UInt16} (returned : (readBehindTopic host qos event scene).outcome = .ok (event', id)) :
    event'.topic = event.topic := by
  rcases returned_of_bind returned with ⟨pid, _, returned⟩
  rcases returned_of_bind returned with ⟨payload, _, returned⟩
  cases returned
  rfl

theorem readBehindTopic_unread (host : Host) (event : TopicPublishEvent) {qos first second : UInt8}
    {payload : List UInt8} {scene : Scene}
    (leaves : scene.packet.Leaves ((if 0 < qos then [first, second] else []) ++ payload))
    (admitted : host.Admits payload) :
    exists count, readBehindTopic host qos event scene =
      ⟨[], .ok ({ event with payload := payload }, if 0 < qos then uint16Of first second else 0),
        scene.advance count⟩ := by
  rw [readBehindTopic]
  by_cases asked : 0 < qos
  · rw [if_pos asked] at leaves
    have rest := @readPayload_unread host (scene.advance 2) payload leaves.advance admitted
    refine ⟨2 + payload.length, ?_⟩
    rw [if_pos asked, if_pos asked, bind_of_ok (reading_apply leaves.readUint16), bind_of_ok rest,
      Scene.advance_advance]
    rfl
  · rw [if_neg asked, List.nil_append] at leaves
    refine ⟨payload.length, ?_⟩
    rw [if_neg asked, if_neg asked, pure_bind_apply,
      bind_of_ok (readPayload_unread host leaves admitted)]
    rfl

theorem readPublish_body (host : Host) {scene : Scene} {command qos msb lsb first second : UInt8}
    {topic payload : List UInt8}
    (holds : scene.packet.Holds command
      (msb :: lsb :: (topic ++ ((if 0 < qos then [first, second] else []) ++ payload))))
    (sized : (uint16Of msb lsb).toNat = topic.length) (flags : (command &&& 0x06) >>> 1 = qos)
    (small : qos ≤ 2) (admitted : host.Admits payload) :
    exists count, readPublish host scene =
      ⟨[], .ok ({ topicEvent scene qos topic with payload := payload },
        if 0 < qos then uint16Of first second else 0), scene.advance count⟩ := by
  rcases readPublish_unread host (holds.command.symm ▸ flags) small holds.leaves sized
    with ⟨start, left⟩
  rcases readBehindTopic_unread host (topicEvent scene qos topic) left admitted with ⟨count, run⟩
  refine ⟨2 + topic.length + count, ?_⟩
  rw [start, run, Scene.advance_advance]

theorem readPublish_refused (host : Host) {scene : Scene}
    {command qos msb lsb first second : UInt8} {topic payload : List UInt8}
    (holds : scene.packet.Holds command
      (msb :: lsb :: (topic ++ ([first, second] ++ payload))))
    (sized : (uint16Of msb lsb).toNat = topic.length) (flags : (command &&& 0x06) >>> 1 = qos)
    (small : qos ≤ 2) (asked : 0 < qos) (refused : ¬ host.Admits payload) :
    exists after, readPublish host scene = ⟨[], .error mqttErrorInvalidProtocol, after⟩ := by
  rcases readPublish_unread host (holds.command.symm ▸ flags) small holds.leaves sized
    with ⟨start, left⟩
  have failed := @readPayload_refused host ((scene.advance (2 + topic.length)).advance 2) payload
    left.advance refused
  refine ⟨(scene.advance (2 + topic.length)).advance 2, ?_⟩
  rw [start, readBehindTopic, if_pos asked, bind_of_ok (reading_apply left.readUint16),
    bind_of_error (congrArg Run.outcome failed), failed]
  rfl

/-! ## Reading the frame back -/

section ReadingBack

variable {msg : Message} {pid : UInt16} {packet : MqttPacket}

def announcedTopic (msg : Message) : Nat :=
  (uint16Of ((msg.topic.length.toUInt16 >>> 8) &&& 0xF).toUInt8
    (msg.topic.length.toUInt16 &&& 0xF).toUInt8).toNat

theorem announcedTopic_le (short : msg.topic.length < 65536) :
    announcedTopic msg ≤ msg.topic.length := by
  have length : msg.topic.length.toUInt16.toNat = msg.topic.length :=
    UInt16.toNat_ofNat_of_lt' short
  rw [announcedTopic, toNat_uint16Of_uint16Bytes, length]
  omega

theorem announcedTopic_eq_iff (short : msg.topic.length < 65536) :
    announcedTopic msg = msg.topic.length ↔ NibbleBytes msg.topic.length.toUInt16 := by
  have length : msg.topic.length.toUInt16.toNat = msg.topic.length :=
    UInt16.toNat_ofNat_of_lt' short
  rw [← uint16Of_uint16Bytes_iff, ← UInt16.toNat_inj, length]
  rfl

theorem readPublish_eq
    (decodes : packet.Holds (publishPacket msg).headerByte (publishBody msg pid)) (host : Host)
    (receiver : Receiver) (small : msg.qos ≤ 2) (short : msg.topic.length < 65536) :
    readPublish host (receiver.scene packet) =
      readBehindTopic host msg.qos
        (topicEvent (receiver.scene packet) msg.qos (msg.topic.take (announcedTopic msg)))
        ((receiver.scene packet).advance (2 + announcedTopic msg)) := by
  have taken : (msg.topic.take (announcedTopic msg)).length = announcedTopic msg := by
    rw [List.length_take, Nat.min_eq_left (announcedTopic_le short)]
  have flags : (packet.command &&& 0x06) >>> 1 = msg.qos := by
    rw [decodes.command]
    exact (headerByte_flags small).1
  have body : publishBody msg pid = ((msg.topic.length.toUInt16 >>> 8) &&& 0xF).toUInt8 ::
      (msg.topic.length.toUInt16 &&& 0xF).toUInt8 ::
        (msg.topic.take (announcedTopic msg) ++ (msg.topic.drop (announcedTopic msg) ++
          (identifierBytes msg pid ++ msg.payload))) := by
    rw [publishBody, ← List.append_assoc (msg.topic.take _), List.take_append_drop]
    simp [MqttPacket.uint16Bytes]
  have leaves := decodes.leaves
  rw [body] at leaves
  have read := (@readPublish_unread host (receiver.scene packet) _ flags small _ _ _ _ leaves
    taken.symm).1
  rw [taken] at read
  exact read

theorem readsBack_iff
    (decodes : packet.Holds (publishPacket msg).headerByte (publishBody msg pid)) (host : Host)
    (receiver : Receiver) (small : msg.qos ≤ 2) (short : msg.topic.length < 65536) (admitted : host.Admits msg.payload) :
    ReadsBack host (receiver.scene packet) msg pid ↔
      NibbleBytes msg.topic.length.toUInt16 ∧ (0 < msg.qos -> NibbleBytes pid) := by
  have dup : dupFlag packet = if msg.dup then 1 else 0 := by
    rw [dupFlag, decodes.command]
    exact (headerByte_flags small).2
  rw [ReadsBack]
  by_cases lossless : NibbleBytes msg.topic.length.toUInt16
  · have body : publishBody msg pid = ((msg.topic.length.toUInt16 >>> 8) &&& 0xF).toUInt8 ::
        (msg.topic.length.toUInt16 &&& 0xF).toUInt8 :: (msg.topic ++
          ((if 0 < msg.qos then [((pid >>> 8) &&& 0xF).toUInt8, (pid &&& 0xF).toUInt8] else []) ++
            msg.payload)) := by
      rw [publishBody, List.append_assoc, List.append_assoc]
      rfl
    rw [body] at decodes
    rcases @readPublish_body host (receiver.scene packet) _ _ _ _ _ _ _ _ decodes
      ((announcedTopic_eq_iff short).mpr lossless) (headerByte_flags small).1 small admitted
        with ⟨count, run⟩
    rw [run]
    constructor
    · rintro ⟨_, event, id, returned, _, _, _, identifier⟩
      refine ⟨lossless, fun asked => (uint16Of_uint16Bytes_iff pid).mp ?_⟩
      rw [if_pos asked] at returned
      cases returned
      exact identifier asked
    · rintro ⟨_, identifier⟩
      refine ⟨dup, _, _, rfl, List.nil_append _, rfl, rfl, fun asked => ?_⟩
      rw [if_pos asked]
      exact (uint16Of_uint16Bytes_iff pid).mpr (identifier asked)
  · rw [readPublish_eq decodes host receiver small short]
    refine iff_of_false ?_ (fun both => lossless both.1)
    rintro ⟨_, event, id, returned, topic, _⟩
    -- A shorter topic was read.
    have cut : msg.topic.take (announcedTopic msg) = msg.topic :=
      (readBehindTopic_topic returned).symm.trans topic
    have length := congrArg List.length cut
    rw [List.length_take, Nat.min_eq_left (announcedTopic_le short)] at length
    exact lossless ((announcedTopic_eq_iff short).mp length)

end ReadingBack

/-! ## The whole way -/

theorem publishFrame_drawn (msg : Message) (pid : UInt16) :
    publishFrame msg (if 0 < msg.qos then pid else 0) = publishFrame msg pid := by
  by_cases asked : 0 < msg.qos
  · rw [if_pos asked]
  · rw [publishFrame, publishFrame, identifierBytes, identifierBytes, if_neg asked, if_neg asked]

theorem written_publish (opened : scene.session.conn = some reliableConn) (fits : Fits msg) :
    written (sendPublish msg scene).effects =
      [publishFrame msg (drawPacketID scene.session.nextPacketID).1] := by
  rw [sendPublish_eq opened msg, framesOf, if_pos fits, identifierFor, publishFrame_drawn]
  rfl

section Sending

variable (host : Host) (receiver : Receiver) {scene : Scene} {msg : Message}
  (opened : scene.session.conn = some reliableConn) (short : msg.topic.length < 65536)
  (small : msg.qos ≤ 2) (admitted : host.Admits msg.payload)

include opened in
theorem sendPublish_returns : (sendPublish msg scene).outcome = .ok () := by
  rw [sendPublish_eq opened msg]

theorem makePacketID_returns :
    (makePacketID scene).outcome = .ok (drawPacketID scene.session.nextPacketID).1 := by
  rw [makePacketID_eq]

include opened short small admitted

variable {host receiver} in
theorem SendsReadably.lossless (readable : SendsReadably host receiver scene msg) :
    Fits msg ∧ NibbleBytes msg.topic.length.toUInt16 ∧
      (0 < msg.qos -> NibbleBytes (drawPacketID scene.session.nextPacketID).1) := by
  have sent := @sendPublish_returns scene msg opened
  have fits : Fits msg := by
    by_contra oversize
    rcases readable.2 oversize with ⟨⟨reason, failed⟩, _⟩
    rw [sent] at failed
    cases failed
  refine ⟨fits, ?_⟩
  rcases readable.1 sent with ⟨frame, frames, decoded⟩
  rw [written_publish opened fits] at frames
  cases frames
  rcases publishFrame_arrives fits (drawPacketID scene.session.nextPacketID).1
      with ⟨bufferSize, stream, bytes, whole⟩
  rcases decoded bufferSize stream bytes whole with ⟨packet, found, reads⟩
  rcases decodeThrough_publish fits _ bytes whole with ⟨packet', found', decodes⟩
  rw [found] at found'
  cases found'
  exact (readsBack_iff decodes host receiver small short admitted).mp
    (reads _ makePacketID_returns)

/-- A sent message can be received exactly when it has a frame and neither the
length of its topic nor its identifier loses bits in `writeUint16`. -/
theorem sendsReadably_iff :
    SendsReadably host receiver scene msg ↔
      Fits msg ∧ NibbleBytes msg.topic.length.toUInt16 ∧
        (0 < msg.qos -> NibbleBytes (drawPacketID scene.session.nextPacketID).1) := by
  refine ⟨fun readable => readable.lossless opened short small admitted, ?_⟩
  rintro ⟨fits, lossless⟩
  refine ⟨fun _ => ⟨_, written_publish opened fits, ?_⟩, fun oversize => absurd fits oversize⟩
  intro bufferSize stream bytes whole
  rcases decodeThrough_publish fits _ bytes whole with ⟨packet, found, decodes⟩
  refine ⟨packet, found, fun pid returned => ?_⟩
  rw [makePacketID_returns] at returned
  cases returned
  exact (readsBack_iff decodes host receiver small short admitted).mpr lossless

end Sending

def idleScene : Scene where
  session := newMqttSession 1 reliableConn false
  packet := newMqttPacket
  broker := newBroker (ascii "b")

def idleReceiver : Receiver where
  id := 2
  conn := reliableConn
  authNeed := false
  broker := newBroker (ascii "b")

/-- A message with a short topic arrives. -/
theorem short_topic_readable :
    SendsReadably quietHost idleReceiver idleScene
      { topic := ascii "t", qos := 1, payload := ascii "on" } :=
  (@sendsReadably_iff quietHost idleReceiver idleScene
      { topic := ascii "t", qos := 1, payload := ascii "on" } rfl (by decide) (by decide)
      (by decide)).mpr
    ⟨by decide, by decide, by decide⟩

/-- The length of a topic of 16 bytes is sent as 0, and the receiver reads an
empty topic. -/
theorem long_topic_unreadable :
    ¬ SendsReadably quietHost idleReceiver idleScene
      { topic := ascii "/devices/lamp/on", qos := 1, payload := ascii "1" } := by
  intro readable
  have lossless := readable.lossless rfl (by decide) (by decide) (by decide)
  exact absurd lossless.2.1 (by decide)

end Mqtt
end Sentel
