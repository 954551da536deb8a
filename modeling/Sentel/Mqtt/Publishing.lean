import Sentel.Mqtt.Framing

namespace Sentel
namespace Mqtt

open Library Handler Base Queue Event SessionMgr Auth SessionM MqttPacket

/-!
# PUBLISH frames

The frame of a message consists of the fixed header, the topic, the packet
identifier if the quality of service asks for one, and the payload.  A message
whose remaining length does not fit into four bytes has no frame.  The errors
of assembling such a packet are ignored, so sending it succeeds and writes
nothing.
-/

/-- The largest remaining length that four bytes can encode. -/
def maxRemainingLength : Nat := 268435455

/-- The message has a frame. -/
def Fits (msg : Message) : Prop :=
  (publishPacket msg).remainingLength ≤ maxRemainingLength

instance (msg : Message) : Decidable (Fits msg) := inferInstanceAs (Decidable (_ ≤ _))

def publishHead (msg : Message) : List UInt8 :=
  (publishPacket msg).headerByte ::
    (remainingBytes 5 (publishPacket msg).remainingLength ++
      uint16Bytes msg.topic.length.toUInt16 ++ msg.topic)

def identifierBytes (msg : Message) (pid : UInt16) : List UInt8 :=
  if 0 < msg.qos then uint16Bytes pid else []

def publishFrame (msg : Message) (pid : UInt16) : List UInt8 :=
  publishHead msg ++ identifierBytes msg pid ++ msg.payload

theorem identifierBytes_length (msg : Message) (pid : UInt16) :
    (identifierBytes msg pid).length = if 0 < msg.qos then 2 else 0 := by
  rw [identifierBytes]
  split <;> rfl

theorem remainingBytes_length (rounds remaining : Nat) :
    (remainingBytes rounds remaining).length < rounds ↔
      0 < rounds ∧ remaining < 128 ^ (rounds - 1) := by
  induction rounds generalizing remaining with
  | zero => simp
  | succ rounds ih =>
    rw [remainingBytes]
    by_cases zero : remaining = 0
    · rw [if_pos zero, zero]
      exact iff_of_true (Nat.succ_pos _) ⟨Nat.succ_pos _, Nat.pow_pos (by decide)⟩
    · rw [if_neg zero]
      simp only [List.length_cons, Nat.add_lt_add_iff_right, Nat.succ_pos, true_and,
        Nat.add_sub_cancel, ih]
      cases rounds with
      | zero => simp; omega
      | succ rounds =>
        rw [Nat.div_lt_iff_lt_mul (by decide)]
        simp [Nat.pow_succ]

theorem remainingBytes_length_le (rounds remaining : Nat) :
    (remainingBytes rounds remaining).length ≤ rounds := by
  induction rounds generalizing remaining with
  | zero => exact Nat.le_refl 0
  | succ rounds ih =>
    rw [remainingBytes]
    split
    · exact Nat.zero_le _
    · exact Nat.succ_le_succ (ih _)

theorem remainingBytes_fits_iff (remaining : Nat) :
    remaining ≤ maxRemainingLength ↔ (remainingBytes 5 remaining).length ≠ 5 := by
  have bound := remainingBytes_length_le 5 remaining
  have short := remainingBytes_length 5 remaining
  rw [maxRemainingLength]
  simp only [Nat.reducePow, Nat.reduceSub] at short
  omega

theorem fits_iff (msg : Message) :
    Fits msg ↔
      (remainingBytes 5 (publishPacket msg).remainingLength).length ≠ 5 :=
  remainingBytes_fits_iff _

/-! ## Assembling -/

def fillPublish (msg : Message) (pid : UInt16) : PacketM Effect Unit := do
  ignore (writeString msg.topic)
  when (0 < msg.qos) (ignore (writeUint16 pid))
  ignore (writeBytes msg.payload)

theorem fillIdentifier (started : MqttPacket) (front rest : List UInt8) (msg : Message)
    (pid : UInt16) :
    when (0 < msg.qos) (ignore (writeUint16 pid) : PacketM Effect Unit)
        (started.filling front
          (List.replicate (if 0 < msg.qos then 2 else 0) 0 ++ rest)) =
      ⟨[], .ok (), started.filling (front ++ identifierBytes msg pid) rest⟩ := by
  by_cases asked : 0 < msg.qos
  · rw [when_pos asked, if_pos asked, identifierBytes, if_pos asked]
    exact ignore_of_ok (writeUint16_filling started front 0 0 rest pid)
  · rw [when_neg asked, if_neg asked, identifierBytes, if_neg asked, List.append_nil]
    rfl

theorem fillPublish_filling (started : MqttPacket) (header : List UInt8) (msg : Message)
    (pid : UInt16) :
    fillPublish msg pid (started.filling header
        (List.replicate (publishPacket msg).remainingLength 0)) =
      ⟨[], .ok (), started.filling (header ++ uint16Bytes msg.topic.length.toUInt16 ++
        msg.topic ++ identifierBytes msg pid ++ msg.payload) []⟩ := by
  have room : List.replicate (publishPacket msg).remainingLength (0 : UInt8) =
      0 :: 0 :: (List.replicate msg.topic.length 0 ++
        (List.replicate (if 0 < msg.qos then 2 else 0) 0 ++ List.replicate msg.payload.length 0)) := by
    change List.replicate
      (2 + msg.topic.length + msg.payload.length + (if 0 < msg.qos then 2 else 0)) 0 = _
    rw [← List.replicate_add, ← List.replicate_add, ← List.replicate_succ, ← List.replicate_succ]
    congr 1
    omega
  have payload := @MqttPacket.writeBytes_filling Effect started (header ++
    uint16Bytes msg.topic.length.toUInt16 ++ msg.topic ++ identifierBytes msg pid)
    (List.replicate msg.payload.length 0) [] msg.payload List.length_replicate
  rw [List.append_nil] at payload
  rw [room, fillPublish, bind_of_ok (ignore_of_ok
      (writeString_filling started header 0 0 _ List.length_replicate)),
    bind_of_ok (fillIdentifier started _ _ msg pid), ignore_of_ok payload]
  rfl

def assembledPublish (msg : Message) (pid : UInt16) : MqttPacket :=
  filling { publishPacket msg with
      remainingCount := (remainingBytes 5 (publishPacket msg).remainingLength).length }
    (publishFrame msg pid) []

theorem publishFrame_ne_nil (msg : Message) (pid : UInt16) : publishFrame msg pid ≠ [] :=
  List.cons_ne_nil _ _

theorem assembledPublish_length (msg : Message) (pid : UInt16) :
    0 < (assembledPublish msg pid).length ∧
      (assembledPublish msg pid).length = (assembledPublish msg pid).payload.elems.length :=
  ⟨filling_length_pos _ [] (publishFrame_ne_nil msg pid), List.length_append.symm⟩

variable {msg : Message} {scene : Scene}

theorem sendPacket_fits (fits : Fits msg) (pid : UInt16) (scene : Scene) :
    sendPacket (publishPacket msg) (fillPublish msg pid) scene =
      writePacket (assembledPublish msg pid) scene := by
  let header := (publishPacket msg).headerByte ::
    remainingBytes 5 (publishPacket msg).remainingLength
  let started : MqttPacket := { publishPacket msg with
    remainingCount := (remainingBytes 5 (publishPacket msg).remainingLength).length }
  have frame : header ++ uint16Bytes msg.topic.length.toUInt16 ++ msg.topic ++
      identifierBytes msg pid ++ msg.payload = publishFrame msg pid := by
    simp [header, publishFrame, publishHead]
  have filled := fillPublish_filling started header msg pid
  rw [frame] at filled
  exact sendPacket_of_built (built_of_fill ((fits_iff msg).mp fits) filled) scene

theorem sendPacket_publish (fits : Fits msg) (pid : UInt16)
    (opened : scene.session.conn = some reliableConn) :
    sendPacket (publishPacket msg) (fillPublish msg pid) scene =
      ⟨[.write PUBLISH (publishFrame msg pid)], .ok (), scene⟩ := by
  rcases assembledPublish_length msg pid with ⟨positive, sized⟩
  rw [sendPacket_fits fits, writePacket_reliable positive sized opened]
  change Run.mk [Effect.write PUBLISH (publishFrame msg pid ++ [])] _ _ = _
  rw [List.append_nil]

/-! ## Messages without a frame -/

section Oversize

variable {packet : MqttPacket} (empty : packet.length = 0)

include empty

theorem writeByte_empty (byte : UInt8) :
    (writeByte byte : PacketM Effect Unit) packet =
      ⟨[], .error mqttErrorInvalidProtocol, packet⟩ := by
  have full : packet.length < packet.pos + 1 := by omega
  rw [writeByte, look_bind_apply, failIf_pos_bind_apply full]

theorem writeUint16_empty (data : UInt16) :
    (writeUint16 data : PacketM Effect Unit) packet =
      ⟨[], .error mqttErrorInvalidProtocol, packet⟩ := by
  have failed := writeByte_empty empty ((data >>> 8) &&& 0xF).toUInt8
  have outcome : ((writeByte ((data >>> 8) &&& 0xF).toUInt8 : PacketM Effect Unit)
      packet).outcome = .error mqttErrorInvalidProtocol := by
    rw [failed]
  rw [writeUint16, bind_of_error outcome, failed]

theorem writeString_empty (text : GoString) :
    (writeString text : PacketM Effect Unit) packet =
      ⟨[], .error mqttErrorInvalidProtocol, packet⟩ := by
  have failed := writeUint16_empty empty text.length.toUInt16
  have outcome : ((writeUint16 text.length.toUInt16 : PacketM Effect Unit)
      packet).outcome = .error mqttErrorInvalidProtocol := by
    rw [failed]
  rw [writeString, bind_of_error outcome, failed]

theorem writeBytes_empty (bytes : List UInt8) :
    ignore (writeBytes bytes : PacketM Effect Unit) packet =
      ⟨[], .ok (), packet⟩ := by
  cases bytes with
  | nil =>
    by_cases beyond : packet.length < packet.pos + 0
    · apply ignore_of_error
      rw [writeBytes, look_bind_apply, List.length_nil,
        failIf_pos_bind_apply beyond]
    · apply ignore_of_ok
      rw [writeBytes, look_bind_apply, List.length_nil,
        failIf_neg_bind_apply beyond]
      rfl
  | cons byte rest =>
    have full : packet.length < packet.pos + (byte :: rest).length := by
      rw [List.length_cons]
      omega
    apply ignore_of_error
    rw [writeBytes, look_bind_apply, failIf_pos_bind_apply full]

theorem fillPublish_empty (msg : Message) (pid : UInt16) :
    fillPublish msg pid packet = ⟨[], .ok (), packet⟩ := by
  have identifier : when (0 < msg.qos)
      (ignore (writeUint16 pid) : PacketM Effect Unit) packet =
      ⟨[], .ok (), packet⟩ := by
    by_cases asked : 0 < msg.qos
    · rw [when_pos asked]
      exact ignore_of_error (writeUint16_empty empty pid)
    · rw [when_neg asked]
      rfl
  rw [fillPublish, bind_of_ok (ignore_of_error (writeString_empty empty msg.topic)),
    bind_of_ok identifier, writeBytes_empty empty]
  rfl

end Oversize

theorem sendPacket_oversize (oversize : ¬ Fits msg) (pid : UInt16) (scene : Scene) :
    sendPacket (publishPacket msg) (fillPublish msg pid) scene = ⟨[], .ok (), scene⟩ := by
  have long : (remainingBytes 5 (publishPacket msg).remainingLength).length = 5 := by
    by_contra short
    exact oversize ((fits_iff msg).mpr short)
  let failed : MqttPacket := { publishPacket msg with remainingCount := 5 }
  have refused : (initializePacket : PacketM Effect Unit) (publishPacket msg) =
      ⟨[], .error (ascii "Invalid packet payload size"), failed⟩ := by
    rw [initializePacket, look_bind_apply, if_pos long]
    rfl
  have built : (do ignore initializePacket; fillPublish msg pid :
      PacketM Effect Unit) (publishPacket msg) = ⟨[], .ok (), failed⟩ := by
    have empty : failed.length = 0 := rfl
    rw [bind_of_ok (ignore_of_error refused), fillPublish_empty empty]
    rfl
  rw [sendPacket_of_built built]
  rfl

/-! ## Sending a message -/

/-- `makePacketID` on the counter: the identifier and the next counter. -/
def drawPacketID (next : UInt16) : UInt16 × UInt16 :=
  if next < 65535 then (next, next + 1) else (0, 0)

def counterAfter (next : UInt16) (msg : Message) : UInt16 :=
  if 0 < msg.qos then (drawPacketID next).2 else next

def identifierFor (next : UInt16) (msg : Message) : UInt16 :=
  if 0 < msg.qos then (drawPacketID next).1 else 0

def framesOf (next : UInt16) (msg : Message) : List (List UInt8) :=
  if Fits msg then [publishFrame msg (identifierFor next msg)] else []

def Scene.counted (scene : Scene) (next : UInt16) : Scene :=
  { scene with session := { scene.session with nextPacketID := next } }

theorem makePacketID_eq (scene : Scene) :
    makePacketID scene = ⟨[], .ok (drawPacketID scene.session.nextPacketID).1,
      scene.counted (drawPacketID scene.session.nextPacketID).2⟩ := by
  rw [makePacketID, session_bind_apply, drawPacketID]
  split <;> rfl

theorem sendPublish_draws (msg : Message) (scene : Scene) :
    sendPublish msg scene =
      sendPacket (publishPacket msg)
        (fillPublish msg (identifierFor scene.session.nextPacketID msg))
        (scene.counted (counterAfter scene.session.nextPacketID msg)) := by
  rw [sendPublish, identifierFor, counterAfter]
  by_cases asked : 0 < msg.qos
  · simp only [if_pos asked]
    rw [bind_of_ok (makePacketID_eq scene)]
    rfl
  · simp only [if_neg asked]
    rw [pure_bind_apply]
    rfl

theorem sendPublish_eq (opened : scene.session.conn = some reliableConn) (msg : Message) :
    sendPublish msg scene =
      ⟨(framesOf scene.session.nextPacketID msg).map (Effect.write PUBLISH), .ok (),
        scene.counted (counterAfter scene.session.nextPacketID msg)⟩ := by
  have counted : (scene.counted (counterAfter scene.session.nextPacketID msg)).session.conn =
      some reliableConn := opened
  rw [sendPublish_draws, framesOf]
  by_cases fits : Fits msg
  · rw [sendPacket_publish fits _ counted, if_pos fits]
    rfl
  · rw [sendPacket_oversize fits, if_neg fits]
    rfl

theorem useQueue_of_queue {ref : QueueRef} (queue : scene.session.queue = some ref) :
    useQueue scene = ⟨[.accessQueue], .ok ref, scene⟩ := by
  rw [useQueue, session_bind_apply, queue]
  rfl

end Mqtt
end Sentel
