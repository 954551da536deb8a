import Sentel.Mqtt.Framing
import Sentel.Mqtt.Fields

namespace Sentel
namespace Mqtt

open Library Handler MqttPacket

/-!
# The field codec

A packet is assembled and taken apart field by field, by four writing and four
reading functions.  Reading undoes writing as long as the writer puts down both
halves of a number in full, which `writeUint16` does for numbers with two bytes
below 16 only; a string begins with its length, so the same restriction holds
for strings.

A number and a string are written in parts.  Each part is checked against the
buffer on its own, so a field that does not fit may leave its first part behind.
-/

/-- A value that is written in one call.  The length of a string must fit in
its length field. -/
inductive Field
  | byte (value : UInt8)
  | uint16 (value : UInt16)
  | bytes (value : List UInt8)
  | text (value : { text : GoString // text.length < 65536 })
  deriving DecidableEq

/-- The call that reads a field back. -/
inductive FieldKind
  | byte
  | uint16
  | bytes (count : Nat)
  | text
  deriving DecidableEq

namespace Field

def kind : Field -> FieldKind
  | .byte _ => .byte
  | .uint16 _ => .uint16
  | .bytes value => .bytes value.length
  | .text _ => .text

/-- The room that a field takes. -/
def size : Field -> Nat
  | .byte _ => 1
  | .uint16 _ => 2
  | .bytes value => value.length
  | .text value => 2 + value.val.length

def write : Field -> PacketM Effect Unit
  | .byte value => writeByte value
  | .uint16 value => writeUint16 value
  | .bytes value => writeBytes value
  | .text value => writeString value.val

def encoded : Field -> List UInt8
  | .byte value => [value]
  | .uint16 value => uint16Bytes value
  | .bytes value => value
  | .text value => uint16Bytes value.val.length.toUInt16 ++ value.val

end Field

def FieldKind.read : FieldKind -> PacketM Effect Field
  | .byte => do
    let value ← readByte
    return .byte value
  | .uint16 => do
    let value ← readUint16
    return .uint16 value
  | .bytes count => do
    let value ← readBytes count
    return .bytes value
  | .text => do
    let value ← readString
    if short : value.length < 65536 then return .text ⟨value, short⟩
    else fail mqttErrorInvalidProtocol

/-- The calls that write a sequence of fields. -/
def writeAll : List Field -> PacketM Effect Unit
  | [] => pure ()
  | field :: rest => do
    field.write
    writeAll rest

def readAll : List FieldKind -> PacketM Effect (List Field)
  | [] => pure []
  | kind :: rest => do
    let field ← kind.read
    let fields ← readAll rest
    return field :: fields

/-- The room that a sequence of fields takes. -/
def totalSize (fields : List Field) : Nat :=
  (fields.map Field.size).sum

theorem totalSize_cons (field : Field) (rest : List Field) :
    totalSize (field :: rest) = field.size + totalSize rest := by
  simp [totalSize]

/-! ## Writing -/

theorem Field.encoded_length (field : Field) : field.encoded.length = field.size := by
  cases field with
  | byte value | uint16 value | bytes value => rfl
  | text value => simp [encoded, size, uint16Bytes]; omega

variable {field : Field} {fields : List Field} {rest : List UInt8} {packet : MqttPacket}

theorem Field.write_fits (packet : MqttPacket) (front : List UInt8) {gap : List UInt8}
    (back : List UInt8) (sized : gap.length = field.size) :
    field.write (packet.filling front (gap ++ back)) =
      ⟨[], .ok (), packet.filling (front ++ field.encoded) back⟩ := by
  cases field with
  | byte value =>
    obtain ⟨first, rfl⟩ := List.length_eq_one_iff.mp sized
    exact writeByte_filling packet front first back value
  | uint16 value =>
    obtain ⟨first, second, rfl⟩ := List.length_eq_two.mp sized
    exact writeUint16_filling packet front first second back value
  | bytes value => exact writeBytes_filling packet front back sized
  | text value =>
    rcases gap with _ | ⟨first, _ | ⟨second, gap⟩⟩
    · simp only [size, List.length_nil] at sized
      omega
    · simp only [size, List.length_cons, List.length_nil] at sized
      omega
    · have rest : gap.length = value.val.length := by
        simp [size] at sized
        omega
      have written := @MqttPacket.writeString_filling Effect packet front first second gap back
        value.val rest
      rw [List.append_assoc] at written
      exact written

theorem writeAll_fits (packet : MqttPacket) (front : List UInt8) {gap : List UInt8}
    (back : List UInt8) (sized : gap.length = totalSize fields) :
    writeAll fields (packet.filling front (gap ++ back)) =
      ⟨[], .ok (), packet.filling (front ++ fields.flatMap Field.encoded) back⟩ := by
  induction fields generalizing front gap with
  | nil =>
    rw [List.length_eq_zero_iff.mp sized, List.flatMap_nil, List.append_nil]
    rfl
  | cons field rest ih =>
    rw [totalSize_cons] at sized
    have parts : gap = gap.take field.size ++ gap.drop field.size :=
      (List.take_append_drop _ _).symm
    have head : (gap.take field.size).length = field.size := by
      rw [List.length_take]
      omega
    have tail : (gap.drop field.size).length = totalSize rest := by
      rw [List.length_drop]
      omega
    rw [parts, List.append_assoc, writeAll,
      bind_of_ok (Field.write_fits packet front _ head), precede_nil,
      ih _ tail, List.flatMap_cons, List.append_assoc]

/-! ## Writing into a buffer that is too small -/

section Short

variable (packet : MqttPacket) (front : List UInt8)

theorem writeByte_full (value : UInt8) :
    (writeByte value : PacketM Effect Unit) (packet.filling front []) =
      ⟨[], .error mqttErrorInvalidProtocol, packet.filling front []⟩ := by
  have full : (packet.filling front []).length < (packet.filling front []).pos + 1 := by
    simp [filling]
  rw [writeByte, look_bind_apply, failIf_pos_bind_apply full]

theorem writeBytes_short {back value : List UInt8} (short : back.length < value.length) :
    (writeBytes value : PacketM Effect Unit) (packet.filling front back) =
      ⟨[], .error mqttErrorInvalidProtocol, packet.filling front back⟩ := by
  have beyond : (packet.filling front back).length <
      (packet.filling front back).pos + value.length := by
    simp only [filling]
    omega
  rw [writeBytes, look_bind_apply, failIf_pos_bind_apply beyond]

theorem writeUint16_full (value : UInt16) :
    (writeUint16 value : PacketM Effect Unit) (packet.filling front []) =
      ⟨[], .error mqttErrorInvalidProtocol, packet.filling front []⟩ := by
  have failed := writeByte_full packet front ((value >>> 8) &&& 0xF).toUInt8
  rw [writeUint16, bind_of_error (by rw [failed]), failed]

theorem writeUint16_half (value : UInt16) (gap : UInt8) :
    (writeUint16 value : PacketM Effect Unit) (packet.filling front [gap]) =
      ⟨[], .error mqttErrorInvalidProtocol,
        packet.filling (front ++ [((value >>> 8) &&& 0xF).toUInt8]) []⟩ := by
  rw [writeUint16,
    bind_of_ok (writeByte_filling packet front gap [] _), writeByte_full]
  rfl

theorem filling_longer_ne {front back front' back' : List UInt8}
    (longer : front.length < front'.length) :
    packet.filling front' back' ≠ packet.filling front back := by
  intro same
  have position := congrArg pos same
  change front'.length = front.length at position
  omega

end Short

/-- A field is written by one part only. -/
def Field.single : Field -> Bool
  | .byte _ => true
  | .uint16 _ => false
  | .bytes _ => true
  | .text _ => false

theorem Field.write_short (packet : MqttPacket) (front : List UInt8) {back : List UInt8}
    (short : back.length < field.size) :
    (exists reason, (field.write (packet.filling front back)).outcome = .error reason) ∧
      ((field.write (packet.filling front back)).state = packet.filling front back ↔
        field.single = true ∨ back = []) := by
  cases field with
  | byte value =>
    have empty : back = [] := List.length_eq_zero_iff.mp (Nat.lt_one_iff.mp short)
    subst empty
    rw [write, writeByte_full]
    exact ⟨⟨_, rfl⟩, iff_of_true rfl (.inl rfl)⟩
  | bytes value =>
    rw [write, writeBytes_short packet front short]
    exact ⟨⟨_, rfl⟩, iff_of_true rfl (.inl rfl)⟩
  | uint16 value =>
    rcases back with _ | ⟨gap, _ | ⟨other, later⟩⟩
    · rw [write, writeUint16_full]
      exact ⟨⟨_, rfl⟩, iff_of_true rfl (.inr rfl)⟩
    · rw [write, writeUint16_half]
      refine ⟨⟨_, rfl⟩, iff_of_false (filling_longer_ne packet (by simp)) ?_⟩
      simp [single]
    · simp only [size, List.length_cons] at short
      omega
  | text value =>
    rcases back with _ | ⟨first, _ | ⟨second, later⟩⟩
    · have failed := writeUint16_full packet front value.val.length.toUInt16
      rw [write, writeString, bind_of_error (by rw [failed]), failed]
      exact ⟨⟨_, rfl⟩, iff_of_true rfl (.inr rfl)⟩
    · have failed := writeUint16_half packet front value.val.length.toUInt16 first
      rw [write, writeString, bind_of_error (by rw [failed]), failed]
      refine ⟨⟨_, rfl⟩, iff_of_false (filling_longer_ne packet (by simp)) ?_⟩
      simp [single]
    · have beyond : later.length < value.val.length := by
        simp [size] at short
        omega
      rw [write, writeString, bind_of_ok
        (writeUint16_filling packet front first second later _),
        writeBytes_short packet _ beyond]
      refine ⟨⟨_, rfl⟩, iff_of_false ?_ ?_⟩
      · exact filling_longer_ne packet (by simp [uint16Bytes])
      · simp [single]

/-! ## Reading back -/

/-- The numbers of a field, its length included, have two bytes below 16. -/
def Field.Nibble : Field -> Prop
  | .byte _ => True
  | .uint16 value => NibbleBytes value
  | .bytes _ => True
  | .text value => NibbleBytes value.val.length.toUInt16

theorem toNat_length {text : GoString} (short : text.length < 65536) :
    text.length.toUInt16.toNat = text.length :=
  UInt16.toNat_ofNat_of_lt' short

theorem scanString_length {first second : UInt8} {behind text : List UInt8}
    (scanned : scanString (first :: second :: behind) = some (text, rest)) :
    text.length = (uint16Of first second).toNat := by
  rcases scanString_eq_some scanned with ⟨_, _, same, sized⟩
  cases same
  exact sized.symm

theorem scanString_encoded {text : GoString} (short : text.length < 65536)
    (nibble : NibbleBytes text.length.toUInt16) (rest : List UInt8) :
    scanString (uint16Bytes text.length.toUInt16 ++ text ++ rest) =
      some (text, rest) := by
  have value := (uint16Of_uint16Bytes_iff text.length.toUInt16).mpr nibble
  exact scanString_append ((congrArg UInt16.toNat value).trans (toNat_length short)) rest

theorem Field.read_of_nibble (leaves : packet.Leaves (field.encoded ++ rest))
    (nibble : field.Nibble) :
    field.kind.read packet = ⟨[], .ok field, packet.advance field.size⟩ := by
  cases field with
  | byte value => exact bind_of_ok leaves.readByte
  | uint16 value =>
    have found : (readUint16 : PacketM Effect UInt16) packet = _ := leaves.readUint16
    rw [(uint16Of_uint16Bytes_iff value).mpr nibble] at found
    exact bind_of_ok found
  | bytes value =>
    have inside : packet.pos ≤ packet.remainingLength := by
      rw [leaves.size]
      exact Nat.le_add_right _ _
    exact bind_of_ok
      (readBytes_unread leaves.complete leaves.unread inside)
  | text value =>
    have found : (readString : PacketM Effect GoString) packet = _ :=
      (leaves.readString_found (scanString_encoded value.property nibble rest)).1
    rw [kind, FieldKind.read, bind_of_ok found]
    rw [dif_pos value.property]
    rfl

theorem Field.nibble_of_read (leaves : packet.Leaves (field.encoded ++ rest))
    (back : (field.kind.read packet).outcome = .ok field) : field.Nibble := by
  cases field with
  | byte value | bytes value => exact True.intro
  | uint16 value =>
    have found : (readUint16 : PacketM Effect UInt16) packet = _ := leaves.readUint16
    rw [kind, FieldKind.read, bind_of_ok found] at back
    apply (uint16Of_uint16Bytes_iff value).mp
    injection back with same
    injection same
  | text value =>
    cases scanned : scanString ((Field.text value).encoded ++ rest) with
    | none =>
      have broken : ((readString : PacketM Effect GoString) packet).outcome = _ :=
        (leaves.readString_broken scanned).2
      rw [kind, FieldKind.read, bind_of_error broken] at back
      cases back
    | some found =>
      have read : (readString : PacketM Effect GoString) packet = _ :=
        (leaves.readString_found scanned).1
      rw [kind, FieldKind.read, bind_of_ok read] at back
      have size : found.1.length < 65536 := by
        by_contra long
        rw [dif_neg long] at back
        cases back
      rw [dif_pos size] at back
      have same : found.1 = value.val := by
        injection back with same
        injection same with same
        exact congrArg Subtype.val same
      have length := scanString_length scanned
      rw [same] at length
      apply (uint16Of_uint16Bytes_iff _).mp
      apply UInt16.toNat_inj.mp
      rw [← length, toNat_length value.property]

theorem readAll_of_nibble (leaves : packet.Leaves (fields.flatMap Field.encoded ++ rest))
    (nibble : forall field, field ∈ fields -> field.Nibble) :
    readAll (fields.map Field.kind) packet =
      ⟨[], .ok fields, packet.advance (totalSize fields)⟩ := by
  induction fields generalizing packet with
  | nil => rfl
  | cons field later ih =>
    rw [List.flatMap_cons, List.append_assoc] at leaves
    have behind := leaves.advance
    rw [field.encoded_length] at behind
    rw [List.map_cons, readAll, bind_of_ok
      (Field.read_of_nibble leaves (nibble field List.mem_cons_self)), precede_nil,
      bind_of_ok
        (ih behind (fun other member => nibble other (List.mem_cons_of_mem _ member))),
      totalSize_cons]
    change Run.mk [] _ ({ packet with pos := packet.pos + _ + _ } : MqttPacket) = _
    rw [Nat.add_assoc]
    rfl

theorem nibble_of_readAll (leaves : packet.Leaves (fields.flatMap Field.encoded ++ rest))
    (back : (readAll (fields.map Field.kind) packet).outcome = .ok fields) :
    forall field, field ∈ fields -> field.Nibble := by
  induction fields generalizing packet with
  | nil =>
    intro field member
    exact absurd member List.not_mem_nil
  | cons field later ih =>
    rw [List.flatMap_cons, List.append_assoc] at leaves
    rw [List.map_cons, readAll] at back
    rcases returned_of_bind back with ⟨first, returned, continued⟩
    rcases returned_of_bind continued with ⟨others, remaining, combined⟩
    have parts : first :: others = field :: later := by
      injection combined
    cases parts
    have nibble := Field.nibble_of_read leaves returned
    rw [Field.read_of_nibble leaves nibble] at remaining
    have behind := leaves.advance
    rw [field.encoded_length] at behind
    intro other member
    rcases List.mem_cons.mp member with rfl | later
    · exact nibble
    · exact ih behind remaining other later

/-! ## The round trip -/

def MqttPacket.reopened (packet : MqttPacket) (start : Nat) : MqttPacket :=
  { packet with pos := start, remainingLength := packet.length }

theorem filling_pos (packet : MqttPacket) (front back : List UInt8) :
    (packet.filling front back).pos = front.length := rfl

theorem reopened_leaves (packet : MqttPacket) (front middle back : List UInt8) :
    ((packet.filling (front ++ middle) back).reopened front.length).Leaves (middle ++ back) where
  complete := by
    simp [Complete, reopened, filling]
    omega
  size := by
    simp [reopened, filling]
    omega
  unread := by
    simp [unread, reopened, filling]

def RoundTrips (start : MqttPacket) (fields : List Field) : Prop :=
  exists after, writeAll fields start = ⟨[], .ok (), after⟩ ∧
    (readAll (fields.map Field.kind) (after.reopened start.pos)).outcome = .ok fields ∧
    (readAll (fields.map Field.kind) (after.reopened start.pos)).state.pos = after.pos

def RefusesField (packet : MqttPacket) (field : Field) : Prop :=
  (exists reason, (field.write packet).outcome = .error reason) ∧
    (field.write packet).state = packet

/-- The codec is exact for a sequence of writes into a buffer with some room: if
all of them fit they can be read back, and the first one that does not fit is
refused where it is made. -/
def CodecExact (packet : MqttPacket) (front room : List UInt8) (fields : List Field) : Prop :=
  (totalSize fields ≤ room.length -> RoundTrips (packet.filling front room) fields) ∧
  forall before field later, fields = before ++ field :: later ->
    totalSize before ≤ room.length -> room.length < totalSize before + field.size ->
      RefusesField (writeAll before (packet.filling front room)).state field

theorem roundTrips_iff (packet : MqttPacket) (front room : List UInt8)
    (fits : totalSize fields ≤ room.length) :
    RoundTrips (packet.filling front room) fields ↔
      forall field, field ∈ fields -> field.Nibble := by
  have parts : room = room.take (totalSize fields) ++ room.drop (totalSize fields) :=
    (List.take_append_drop _ _).symm
  have sized : (room.take (totalSize fields)).length = totalSize fields :=
    List.length_take_of_le fits
  have written := writeAll_fits packet front (room.drop (totalSize fields)) sized
  rw [← parts] at written
  have leaves := reopened_leaves packet front (fields.flatMap Field.encoded)
    (room.drop (totalSize fields))
  constructor
  · rintro ⟨after, wrote, read, _⟩
    rw [written] at wrote
    injection wrote with _ _ same
    subst same
    exact nibble_of_readAll leaves read
  · intro nibble
    refine ⟨_, written, ?_⟩
    rw [filling_pos packet front room, readAll_of_nibble leaves nibble]
    refine ⟨rfl, ?_⟩
    have length : (fields.flatMap Field.encoded).length = totalSize fields := by
      rw [List.length_flatMap, totalSize]
      simp only [Field.encoded_length]
    simp [advance, reopened, filling, length]

theorem refuses_iff (packet : MqttPacket) (front room : List UInt8) {before : List Field}
    (fits : totalSize before ≤ room.length) (short : room.length < totalSize before + field.size) :
    RefusesField (writeAll before (packet.filling front room)).state field ↔
      field.single = true ∨ room.length = totalSize before := by
  have parts : room = room.take (totalSize before) ++ room.drop (totalSize before) :=
    (List.take_append_drop _ _).symm
  have sized : (room.take (totalSize before)).length = totalSize before :=
    List.length_take_of_le fits
  have written := writeAll_fits packet front (room.drop (totalSize before)) sized
  rw [← parts] at written
  have left : (room.drop (totalSize before)).length < field.size := by
    rw [List.length_drop]
    omega
  have refused := Field.write_short packet (front ++ before.flatMap Field.encoded) left
  have full : room.drop (totalSize before) = [] ↔ room.length = totalSize before := by
    rw [List.drop_eq_nil_iff]
    omega
  rw [written, RefusesField, and_iff_right refused.1, refused.2, full]

/-- The codec is exact for a sequence of writes exactly when, if all of it fits,
its numbers and string lengths have two bytes below 16, and when the first
write that does not fit, if there is one, has one part only or meets a full
buffer. -/
theorem codecExact_iff (packet : MqttPacket) (front room : List UInt8) (fields : List Field) :
    CodecExact packet front room fields ↔
      (totalSize fields ≤ room.length -> forall field, field ∈ fields -> field.Nibble) ∧
      forall before field later, fields = before ++ field :: later ->
        totalSize before ≤ room.length -> room.length < totalSize before + field.size ->
          field.single = true ∨ room.length = totalSize before := by
  refine and_congr ?_ ?_
  · exact imp_congr_right (fun fits => roundTrips_iff packet front room fits)
  · refine forall_congr' (fun before => forall_congr' (fun field => forall_congr' (fun later => ?_)))
    refine imp_congr_right (fun _ => imp_congr_right (fun fits => imp_congr_right (fun short => ?_)))
    exact refuses_iff packet front room fits short

/-- The number 16 is written as 0. -/
theorem sixteen_not_read_back :
    ¬ CodecExact {} [] [0, 0] [.uint16 16] := by
  rintro ⟨roundTrip, _⟩
  rcases roundTrip (by decide) with ⟨after, written, read, _⟩
  have wrote : writeAll [.uint16 16] (({} : MqttPacket).filling [] [0, 0]) =
      ⟨[], .ok (), ({} : MqttPacket).filling [0, 0] []⟩ := rfl
  rw [wrote] at written
  injection written with _ _ same
  subst same
  cases read

end Mqtt
end Sentel
