import Mathlib.Data.Nat.Bitwise
import Sentel.Mqtt.SessionRules

namespace Sentel
namespace Mqtt

open Library Handler SessionM

/-!
# Reading the fields of a packet

The reading functions compare the position with the announced length and then
take bytes from the buffer.  In a packet whose buffer is as long as announced
they read exactly the bytes that follow the position.  The lemmas below state
this once for each function, in terms of the bytes that are still unread.

A field of two bytes is read big-endian.  `writeUint16` writes only four bits
of each byte, so it and `readUint16` agree on the numbers whose two bytes are
both below 16 and on no others.
-/

/-! ## Two bytes -/

/-- The number that `readUint16` makes of two bytes. -/
def uint16Of (first second : UInt8) : UInt16 :=
  (first.toUInt16 <<< 8) + second.toUInt16

/-- The two bytes of a number, most significant first. -/
def bigEndian (data : UInt16) : List UInt8 :=
  [(data.toNat / 256).toUInt8, (data.toNat % 256).toUInt8]

/-- Both bytes of the number are below 16. -/
def NibbleBytes (data : UInt16) : Prop :=
  data.toNat / 256 < 16 ∧ data.toNat % 256 < 16

instance : DecidablePred NibbleBytes := fun _ => inferInstanceAs (Decidable (_ ∧ _))

theorem toNat_uint16Of (first second : UInt8) :
    (uint16Of first second).toNat = first.toNat * 256 + second.toNat := by
  have high := first.toNat_lt
  have low := second.toNat_lt
  have shifted : (first.toUInt16 <<< 8).toNat = first.toNat * 256 := by
    rw [UInt16.toNat_shiftLeft, UInt8.toNat_toUInt16, Nat.shiftLeft_eq]
    exact Nat.mod_eq_of_lt (by change first.toNat * 256 < 65536; omega)
  rw [uint16Of, UInt16.toNat_add, shifted, UInt8.toNat_toUInt16]
  exact Nat.mod_eq_of_lt (by omega)

theorem toNat_toUInt8_of_lt {number : Nat} (small : number < 256) :
    number.toUInt8.toNat = number :=
  UInt8.toNat_ofNat_of_lt' small

theorem uint16Of_bigEndian (data : UInt16) :
    uint16Of (data.toNat / 256).toUInt8 (data.toNat % 256).toUInt8 = data := by
  have bound := data.toNat_lt
  apply UInt16.toNat_inj.mp
  rw [toNat_uint16Of, toNat_toUInt8_of_lt (by omega), toNat_toUInt8_of_lt (by omega)]
  omega

theorem uint16Of_inj {first second first' second' : UInt8}
    (same : uint16Of first second = uint16Of first' second') :
    first = first' ∧ second = second' := by
  have value := congrArg UInt16.toNat same
  rw [toNat_uint16Of, toNat_uint16Of] at value
  have low := second.toNat_lt
  have low' := second'.toNat_lt
  constructor
  · apply UInt8.toNat_inj.mp
    omega
  · apply UInt8.toNat_inj.mp
    omega

theorem bigEndian_eq_iff (first second : UInt8) (data : UInt16) :
    [first, second] = bigEndian data ↔ uint16Of first second = data := by
  constructor
  · intro same
    cases same
    exact uint16Of_bigEndian data
  · intro same
    rcases uint16Of_inj (same.trans (uint16Of_bigEndian data).symm) with ⟨rfl, rfl⟩
    rfl

theorem toNat_land_15 (data : UInt16) : (data &&& 0xF).toUInt8.toNat = data.toNat % 16 := by
  have low := Nat.and_two_pow_sub_one_eq_mod data.toNat 4
  rw [UInt16.toNat_toUInt8, UInt16.toNat_and]
  change (data.toNat &&& 15) % 256 = _
  rw [show (15 : Nat) = 2 ^ 4 - 1 from rfl, low]
  omega

theorem toNat_shiftRight_8 (data : UInt16) : (data >>> 8).toNat = data.toNat / 256 := by
  rw [UInt16.toNat_shiftRight]
  exact Nat.shiftRight_eq_div_pow data.toNat 8

theorem toNat_uint16Of_uint16Bytes (data : UInt16) :
    (uint16Of ((data >>> 8) &&& 0xF).toUInt8 (data &&& 0xF).toUInt8).toNat =
      data.toNat / 256 % 16 * 256 + data.toNat % 16 := by
  rw [toNat_uint16Of, toNat_land_15, toNat_land_15, toNat_shiftRight_8]

theorem uint16Of_uint16Bytes_iff (data : UInt16) :
    uint16Of ((data >>> 8) &&& 0xF).toUInt8 (data &&& 0xF).toUInt8 = data ↔ NibbleBytes data := by
  have bound := data.toNat_lt
  rw [← UInt16.toNat_inj, toNat_uint16Of_uint16Bytes, NibbleBytes]
  omega

/-! ## The unread bytes -/

namespace MqttPacket

def unread (packet : MqttPacket) : List UInt8 :=
  packet.payload.elems.drop packet.pos

/-- The buffer is as long as announced. -/
def Complete (packet : MqttPacket) : Prop :=
  packet.remainingLength = packet.payload.elems.length

def advance (packet : MqttPacket) (count : Nat) : MqttPacket :=
  { packet with pos := packet.pos + count }

/-- The packet has been decoded: its buffer is the body, and nothing is read yet. -/
structure Holds (packet : MqttPacket) (command : UInt8) (body : List UInt8) : Prop where
  command : packet.command = command
  start : packet.pos = 0
  announced : packet.remainingLength = body.length
  elems : packet.payload.elems = body

variable {packet : MqttPacket} {command : UInt8} {body : List UInt8}

theorem Holds.complete (holds : packet.Holds command body) : packet.Complete := by
  rw [Complete, holds.announced, holds.elems]

theorem Holds.unread (holds : packet.Holds command body) : packet.unread = body := by
  rw [MqttPacket.unread, holds.start, List.drop_zero, holds.elems]

theorem unread_advance {packet : MqttPacket} {bytes rest : List UInt8}
    (unread : packet.unread = bytes ++ rest) : (packet.advance bytes.length).unread = rest := by
  change packet.payload.elems.drop (packet.pos + bytes.length) = rest
  rw [← List.drop_drop]
  change packet.unread.drop bytes.length = rest
  rw [unread, List.drop_left]

theorem index_unread (offset : Nat) {byte : UInt8} (found : packet.unread[offset]? = some byte) :
    packet.payload.index (packet.pos + offset) = .ok byte := by
  rw [unread, List.getElem?_drop] at found
  rw [GoSlice.index, found]

section Reading

variable {Effect : Type} {packet : MqttPacket} (complete : packet.Complete)

include complete

theorem Complete.advance (count : Nat) : (packet.advance count).Complete := complete

variable {rest : List UInt8}

theorem Complete.unread_length (unread : packet.unread = rest) (nonempty : rest ≠ []) :
    packet.remainingLength = packet.pos + rest.length := by
  have length : packet.unread.length = packet.payload.elems.length - packet.pos :=
    List.length_drop
  have positive := List.length_pos_iff.mpr nonempty
  rw [unread, ← complete] at length
  omega

theorem Complete.subslice_unread {bytes : List UInt8} (unread : packet.unread = bytes ++ rest)
    (inside : packet.pos ≤ packet.remainingLength) :
    packet.payload.subslice packet.pos (packet.pos + bytes.length) = .ok bytes := by
  have length : packet.unread.length = packet.payload.elems.length - packet.pos :=
    List.length_drop
  rw [unread, List.length_append] at length
  have fits : packet.pos ≤ packet.pos + bytes.length ∧
      packet.pos + bytes.length ≤ packet.payload.capacity := by
    rw [Complete] at complete
    rw [GoSlice.capacity]
    omega
  have start : packet.pos ≤ packet.payload.elems.length := complete ▸ inside
  rw [GoSlice.subslice, if_pos fits, Nat.add_sub_cancel_left, List.drop_append_of_le_length start]
  change Except.ok ((packet.unread ++ packet.payload.spare).take bytes.length) = _
  rw [unread, List.append_assoc, List.take_left]

theorem readByte_unread {byte : UInt8} {rest : List UInt8} (unread : packet.unread = byte :: rest) :
    (readByte : PacketM Effect UInt8) packet = ⟨[], .ok byte, packet.advance 1⟩ := by
  have size := complete.unread_length unread (List.cons_ne_nil _ _)
  have room : ¬ packet.remainingLength < packet.pos + 1 := by
    rw [List.length_cons] at size
    omega
  have found : packet.payload.index packet.pos = .ok byte :=
    index_unread 0 (by rw [unread]; rfl)
  rw [readByte, look_bind_apply, failIf_neg_bind_apply room, found]
  rfl

theorem readUint16_unread {first second : UInt8}
    (unread : packet.unread = first :: second :: rest) :
    (readUint16 : PacketM Effect UInt16) packet =
      ⟨[], .ok (uint16Of first second), packet.advance 2⟩ := by
  have size := complete.unread_length unread (List.cons_ne_nil _ _)
  have room : ¬ packet.remainingLength < packet.pos + 2 := by
    rw [List.length_cons, List.length_cons] at size
    omega
  have found : packet.payload.index packet.pos = .ok first :=
    index_unread 0 (by rw [unread]; rfl)
  have next : packet.payload.index (packet.pos + 1) = .ok second :=
    index_unread 1 (by rw [unread]; rfl)
  rw [readUint16, look_bind_apply, failIf_neg_bind_apply room, found,
    ofPanic_ok_bind_apply, change_bind_apply, next]
  rfl

theorem readBytes_unread {bytes rest : List UInt8} (unread : packet.unread = bytes ++ rest)
    (inside : packet.pos ≤ packet.remainingLength) :
    (readBytes bytes.length : PacketM Effect (List UInt8)) packet =
      ⟨[], .ok bytes, packet.advance bytes.length⟩ := by
  have length : packet.unread.length = packet.payload.elems.length - packet.pos :=
    List.length_drop
  have room : ¬ packet.remainingLength < packet.pos + bytes.length := by
    rw [unread, List.length_append, ← complete] at length
    omega
  rw [readBytes, look_bind_apply, failIf_neg_bind_apply room,
    complete.subslice_unread unread inside]
  rfl

theorem readString_unread {first second : UInt8} {text : List UInt8}
    (unread : packet.unread = first :: second :: (text ++ rest))
    (sized : (uint16Of first second).toNat = text.length) :
    (readString : PacketM Effect GoString) packet =
      ⟨[], .ok text, packet.advance (2 + text.length)⟩ := by
  have size := complete.unread_length unread (List.cons_ne_nil _ _)
  rw [List.length_cons, List.length_cons, List.length_append] at size
  have behind : (packet.advance 2).unread = text ++ rest :=
    @unread_advance packet [first, second] (text ++ rest) unread
  have inside : (packet.advance 2).pos ≤ (packet.advance 2).remainingLength := by
    change packet.pos + 2 ≤ packet.remainingLength
    omega
  have room : ¬ (packet.advance 2).remainingLength < (packet.advance 2).pos + text.length := by
    change ¬ packet.remainingLength < packet.pos + 2 + text.length
    omega
  rw [readString, bind_of_ok (readUint16_unread complete unread), precede_nil,
    look_bind_apply, sized, failIf_neg_bind_apply room,
    (complete.advance 2).subslice_unread behind inside]
  change Run.mk [] _ ({ packet with pos := packet.pos + 2 + text.length } : MqttPacket) = _
  rw [Nat.add_assoc]
  rfl

end Reading

structure Leaves (packet : MqttPacket) (bytes : List UInt8) : Prop where
  complete : packet.Complete
  size : packet.remainingLength = packet.pos + bytes.length
  unread : packet.unread = bytes

theorem Holds.leaves (holds : packet.Holds command body) : packet.Leaves body where
  complete := holds.complete
  size := by rw [holds.announced, holds.start, Nat.zero_add]
  unread := holds.unread

/-- A string field at the head of some bytes, and the bytes behind it. -/
def scanString : List UInt8 -> Option (GoString × List UInt8)
  | first :: second :: rest =>
    let size := (uint16Of first second).toNat
    if size ≤ rest.length then some (rest.take size, rest.drop size) else none
  | _ => none

theorem scanString_eq_some {bytes text rest : List UInt8}
    (scanned : scanString bytes = some (text, rest)) :
    exists first second, bytes = first :: second :: (text ++ rest) ∧
      (uint16Of first second).toNat = text.length := by
  rcases bytes with _ | ⟨first, _ | ⟨second, behind⟩⟩
  · cases scanned
  · cases scanned
  rw [scanString] at scanned
  by_cases fits : (uint16Of first second).toNat ≤ behind.length
  · rw [if_pos fits] at scanned
    cases scanned
    refine ⟨first, second, ?_, (List.length_take_of_le fits).symm⟩
    rw [List.take_append_drop]
  · rw [if_neg fits] at scanned
    cases scanned

theorem scanString_append {first second : UInt8} {text : GoString}
    (sized : (uint16Of first second).toNat = text.length) (rest : List UInt8) :
    scanString (first :: second :: (text ++ rest)) = some (text, rest) := by
  have fits : text.length ≤ (text ++ rest).length := by
    rw [List.length_append]
    exact Nat.le_add_right _ _
  rw [scanString, sized, if_pos fits, List.take_left, List.drop_left]

namespace Leaves

variable {Effect : Type} {packet : MqttPacket} {bytes : List UInt8}

theorem advance {front back : List UInt8} (leaves : packet.Leaves (front ++ back)) :
    (packet.advance front.length).Leaves back where
  complete := leaves.complete
  size := by
    have size := leaves.size
    rw [List.length_append] at size
    change packet.remainingLength = packet.pos + front.length + back.length
    omega
  unread := unread_advance leaves.unread

theorem more_iff (leaves : packet.Leaves bytes) :
    packet.pos < packet.remainingLength ↔ bytes ≠ [] := by
  rw [leaves.size, ← List.length_pos_iff]
  omega

theorem readByte {byte : UInt8} {rest : List UInt8} (leaves : packet.Leaves (byte :: rest)) :
    (MqttPacket.readByte : PacketM Effect UInt8) packet = ⟨[], .ok byte, packet.advance 1⟩ :=
  readByte_unread leaves.complete leaves.unread

theorem readByte_nil (leaves : packet.Leaves []) :
    (MqttPacket.readByte : PacketM Effect UInt8) packet =
      ⟨[], .error mqttErrorInvalidProtocol, packet⟩ := by
  have size := leaves.size
  rw [List.length_nil] at size
  rw [MqttPacket.readByte, look_bind_apply, failIf_pos_bind_apply (by omega)]

theorem readUint16 {first second : UInt8} {rest : List UInt8}
    (leaves : packet.Leaves (first :: second :: rest)) :
    (MqttPacket.readUint16 : PacketM Effect UInt16) packet =
      ⟨[], .ok (uint16Of first second), packet.advance 2⟩ :=
  readUint16_unread leaves.complete leaves.unread

theorem readUint16_short (leaves : packet.Leaves bytes) (short : bytes.length < 2) :
    (MqttPacket.readUint16 : PacketM Effect UInt16) packet =
      ⟨[], .error mqttErrorInvalidProtocol, packet⟩ := by
  have size := leaves.size
  rw [MqttPacket.readUint16, look_bind_apply, failIf_pos_bind_apply (by omega)]

theorem readString_found (leaves : packet.Leaves bytes) {text rest : List UInt8}
    (scanned : scanString bytes = some (text, rest)) :
    (MqttPacket.readString : PacketM Effect GoString) packet =
        ⟨[], .ok text, packet.advance (2 + text.length)⟩ ∧
      (packet.advance (2 + text.length)).Leaves rest := by
  rcases scanString_eq_some scanned with ⟨first, second, rfl, sized⟩
  refine ⟨readString_unread leaves.complete leaves.unread sized, ?_⟩
  rw [Nat.add_comm]
  exact @Leaves.advance packet (first :: second :: text) rest leaves

theorem readString_broken (leaves : packet.Leaves bytes) (scanned : scanString bytes = none) :
    ((MqttPacket.readString : PacketM Effect GoString) packet).effects = [] ∧
      ((MqttPacket.readString : PacketM Effect GoString) packet).outcome =
        .error mqttErrorInvalidProtocol := by
  rw [MqttPacket.readString]
  by_cases short : bytes.length < 2
  · rw [bind_of_error (by rw [leaves.readUint16_short short]),
      leaves.readUint16_short short]
    exact ⟨rfl, rfl⟩
  rcases bytes with _ | ⟨first, _ | ⟨second, behind⟩⟩
  · exact absurd Nat.two_pos short
  · exact absurd Nat.one_lt_two short
  have large : ¬ (uint16Of first second).toNat ≤ behind.length := by
    intro fits
    rw [scanString, if_pos fits] at scanned
    cases scanned
  have beyond : (packet.advance 2).remainingLength <
      (packet.advance 2).pos + (uint16Of first second).toNat := by
    have size := leaves.size
    change packet.remainingLength < packet.pos + 2 + _
    rw [List.length_cons, List.length_cons] at size
    omega
  rw [bind_of_ok leaves.readUint16, precede_nil, look_bind_apply,
    failIf_pos_bind_apply beyond]
  exact ⟨rfl, rfl⟩

end Leaves

end MqttPacket

/-! ## Reading within a session -/

def Scene.advance (scene : Scene) (count : Nat) : Scene :=
  { scene with packet := scene.packet.advance count }

theorem Scene.advance_advance (scene : Scene) (first second : Nat) :
    (scene.advance first).advance second = scene.advance (first + second) := by
  change { scene with packet := { scene.packet with pos := scene.packet.pos + first + second } } = _
  rw [Nat.add_assoc]
  rfl

theorem reading_apply {Value : Type} {read : PacketM Effect Value} {scene : Scene} {value : Value}
    {count : Nat} (done : read scene.packet = ⟨[], .ok value, scene.packet.advance count⟩) :
    reading read scene = ⟨[], .ok value, scene.advance count⟩ := by
  rw [reading, within, done]
  rfl

end Mqtt
end Sentel
