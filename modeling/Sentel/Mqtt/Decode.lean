import Mathlib.Data.Nat.Bitwise
import Mathlib.Tactic.Ring
import Sentel.Mqtt.Packet

namespace Sentel
namespace Mqtt

open Library ByteStream

/-!
# Decoding packets from a connection

The decoder copies the command byte, the bytes of the length field and the
body of a packet out of the connection.  A packet is itself the writer of
these copies, and its `Write` keeps the slice it was handed last.  The command
and the length bytes are copied one at a time, so one write carries each of
them.  The body is copied in as many writes as the connection needs reads, and
only the last of them is kept.

The format that the decoder implements is stated separately, over plain byte
lists.  The decoder agrees with it exactly on the streams whose body arrives
in one read.
-/

def copyBufferSize : Nat := 32 * 1024

namespace MqttPacket

def write (packet : MqttPacket) (buf : GoSlice) : MqttPacket :=
  { packet with buf := buf }

section Decoding

variable (bufferSize : Nat)

def copyByte (packet : MqttPacket) (stream : ByteStream) :
    Except GoString (MqttPacket × UInt8) × ByteStream :=
  match stream.copyN bufferSize write packet 1 with
  | (1, packet, rest) =>
    match packet.buf.elems with
    | byte :: _ => (.ok (packet, byte), rest)
    | [] => (.error mqttErrorInvalidProtocol, rest)
  | (_, _, rest) => (.error mqttErrorInvalidProtocol, rest)

/-- The loop of `DecodeFromReader` over the length field.  It refuses a fifth
length byte, so five rounds are enough. -/
def decodeLength : Nat -> MqttPacket -> ByteStream -> Except GoString MqttPacket × ByteStream
  | 0, _, stream => (.error mqttErrorInvalidProtocol, stream)
  | rounds + 1, packet, stream =>
    match packet.copyByte bufferSize stream with
    | (.error reason, rest) => (.error reason, rest)
    | (.ok (packet, byte), rest) =>
      let packet := { packet with remainingCount := packet.remainingCount - 1 }
      if packet.remainingCount < -4 then (.error mqttErrorInvalidProtocol, rest)
      else
        let packet := { packet with
          remainingLength :=
            packet.remainingLength + (byte &&& 127).toNat * packet.remainingMult
          remainingMult := packet.remainingMult * 128 }
        if byte &&& 128 = 0 then (.ok packet, rest)
        else decodeLength rounds packet rest

def decodeCommand (packet : MqttPacket) (stream : ByteStream) :
    Except GoString MqttPacket × ByteStream :=
  if packet.command = 0 then
    match packet.copyByte bufferSize stream with
    | (.error reason, rest) => (.error reason, rest)
    | (.ok (packet, byte), rest) => (.ok { packet with command := byte }, rest)
  else (.ok packet, stream)

def decodeBody (packet : MqttPacket) (stream : ByteStream) :
    Except GoString MqttPacket × ByteStream :=
  let packet := { packet with remainingCount := packet.remainingCount * -1 }
  let packet := if 0 < packet.remainingLength then
    { packet with toprocess := packet.remainingLength, payload := {} } else packet
  if 0 < packet.toprocess then
    match stream.copyN bufferSize write packet packet.toprocess with
    | (length, filled, rest) =>
      if length = packet.toprocess then
        (.ok { filled with payload := filled.buf, pos := 0 }, rest)
      else (.error mqttErrorInvalidProtocol, rest)
  else (.ok { packet with pos := 0 }, stream)

/-- `DecodeFromReader` through a copy buffer of the given size, with the part of
the stream that it leaves unread. -/
def decodeThrough (packet : MqttPacket) (stream : ByteStream) :
    Except GoString MqttPacket × ByteStream :=
  match packet.decodeCommand bufferSize stream with
  | (.error reason, rest) => (.error reason, rest)
  | (.ok packet, rest) =>
    let measured := if packet.remainingCount ≤ 0 then packet.decodeLength bufferSize 5 rest
      else (.ok packet, rest)
    match measured with
    | (.error reason, rest) => (.error reason, rest)
    | (.ok packet, rest) => packet.decodeBody bufferSize rest

end Decoding

def decodeFromReader (packet : MqttPacket) (stream : ByteStream) :
    Except GoString MqttPacket × ByteStream :=
  packet.decodeThrough copyBufferSize stream

end MqttPacket

/-! ## The packet format -/

/-- The value and the size of a length field of at most `limit` bytes: base
128, least significant digit first, with a continuation bit on every byte but
the last. -/
def lengthField : Nat -> List UInt8 -> Option (Nat × Nat)
  | 0, _ => none
  | _ + 1, [] => none
  | limit + 1, byte :: rest =>
    if byte < 128 then some (byte.toNat, 1)
    else (lengthField limit rest).map
      (fun later => (byte.toNat - 128 + 128 * later.1, later.2 + 1))

def fixedHeader : List UInt8 -> Option (UInt8 × Nat × Nat)
  | [] => none
  | command :: rest =>
    (lengthField 4 rest).map (fun field => (command, field.1, field.2 + 1))

/-- What a stream of bytes carries first: command, announced length, body. -/
def expectedPacket (bytes : List UInt8) : Option (UInt8 × Nat × List UInt8) :=
  match fixedHeader bytes with
  | none => none
  | some (command, size, header) =>
    if header + size ≤ bytes.length then
      some (command, size, (bytes.drop header).take size)
    else none

def reported : Except GoString MqttPacket -> Option (UInt8 × Nat × List UInt8)
  | .error _ => none
  | .ok packet => some (packet.command, packet.remainingLength, packet.payload.elems)

/-- The decoder reports what the bytes of the stream carry. -/
def DecodesExactly (stream : ByteStream) : Prop :=
  reported (newMqttPacket.decodeFromReader stream).1 = expectedPacket stream.bytes

instance : DecidablePred DecodesExactly :=
  fun stream => inferInstanceAs
    (Decidable (reported (newMqttPacket.decodeFromReader stream).1 = expectedPacket stream.bytes))

/-- The body of a complete packet fits the copy buffer and lies in the segment
that is read first. -/
def BodyArrivesWhole (stream : ByteStream) : Prop :=
  forall command size header, fixedHeader stream.bytes = some (command, size, header) ->
    header + size ≤ stream.bytes.length ->
    size = 0 ∨ size ≤ copyBufferSize ∧ size ≤ (stream.skip header).available

/-! ## The decoder against the format -/

theorem copyBufferSize_pos : 0 < copyBufferSize := by decide

theorem toNat_land_127 (byte : UInt8) : (byte &&& 127).toNat = byte.toNat % 128 := by
  rw [UInt8.toNat_and]
  exact Nat.and_two_pow_sub_one_eq_mod byte.toNat 7

theorem digit_of_last {byte : UInt8} (last : byte < 128) : (byte &&& 127).toNat = byte.toNat := by
  rw [toNat_land_127]
  exact Nat.mod_eq_of_lt (UInt8.lt_iff_toNat_lt.mp last)

theorem digit_of_continued {byte : UInt8} (continued : ¬ byte < 128) :
    (byte &&& 127).toNat = byte.toNat - 128 := by
  have bound : byte.toNat < 256 := UInt8.toNat_lt byte
  have large : ¬ byte.toNat < 128 := fun less => continued (UInt8.lt_iff_toNat_lt.mpr less)
  rw [toNat_land_127]
  omega

theorem land_128_eq_zero_iff (byte : UInt8) : byte &&& 128 = 0 ↔ byte < 128 := by
  have bound : byte.toNat < 256 := UInt8.toNat_lt byte
  have bit : byte.toNat &&& 2 ^ 7 = 2 ^ 7 * (byte.toNat.testBit 7).toNat := by
    rw [Nat.and_comm, Nat.two_pow_and]
  rw [Nat.testBit_eq_decide_div_mod_eq] at bit
  rw [← UInt8.toNat_inj, UInt8.toNat_and, UInt8.lt_iff_toNat_lt]
  change byte.toNat &&& 2 ^ 7 = 0 ↔ byte.toNat < 128
  rw [bit]
  by_cases set : byte.toNat / 2 ^ 7 % 2 = 1
  · simp only [set, decide_true, Bool.toNat_true]
    omega
  · simp only [set, decide_false, Bool.toNat_false]
    omega

namespace MqttPacket

theorem foldl_write (slices : List GoSlice) (packet : MqttPacket) :
    slices.foldl write packet = { packet with buf := slices.getLast?.getD packet.buf } := by
  induction slices generalizing packet with
  | nil => rfl
  | cons slice rest ih =>
    rw [List.foldl_cons, ih]
    cases rest with
    | nil => rfl
    | cons next others => rw [List.getLast?_cons_cons, write]; rfl

section Copying

variable {bufferSize : Nat} (room : 0 < bufferSize)

include room

variable {stream : ByteStream} {packet : MqttPacket}

theorem copyByte_nil (packet : MqttPacket) (empty : stream.bytes = []) :
    packet.copyByte bufferSize stream = (.error mqttErrorInvalidProtocol, stream.skip 1) := by
  have count := copyN_count room write packet stream 1
  have rest := copyN_rest room write packet stream 1
  rw [empty] at count
  rw [copyByte]
  rcases copied : stream.copyN bufferSize write packet 1 with ⟨length, filled, after⟩
  rw [copied] at count rest
  cases count
  cases rest
  rfl

theorem copyByte_cons (packet : MqttPacket) {byte : UInt8} {more : List UInt8}
    (shape : stream.bytes = byte :: more) :
    packet.copyByte bufferSize stream =
      (.ok ({ packet with buf := ⟨[byte], []⟩ }, byte), stream.skip 1) := by
  rw [copyByte, copyN_one room write packet shape]
  rfl

theorem decodeLength_spec (limit : Nat) (packet : MqttPacket) (stream : ByteStream)
    (counter : packet.remainingCount = (limit : Int) - 4) :
    match lengthField limit stream.bytes with
    | none => exists rest,
        packet.decodeLength bufferSize (limit + 1) stream = (.error mqttErrorInvalidProtocol, rest)
    | some (value, size) => exists count mult buf,
        packet.decodeLength bufferSize (limit + 1) stream =
          (.ok { packet with
            remainingCount := count
            remainingLength := packet.remainingLength + value * packet.remainingMult
            remainingMult := mult
            buf := buf }, stream.skip size) := by
  induction limit generalizing packet stream with
  | zero =>
    rw [lengthField, decodeLength]
    cases shape : stream.bytes with
    | nil =>
      rw [copyByte_nil room packet shape]
      exact ⟨_, rfl⟩
    | cons byte more =>
      rw [copyByte_cons room packet shape]
      have below : packet.remainingCount - 1 < -4 := by omega
      simp only [below, if_true]
      exact ⟨_, rfl⟩
  | succ limit ih =>
    rw [decodeLength]
    cases shape : stream.bytes with
    | nil =>
      rw [copyByte_nil room packet shape, lengthField]
      exact ⟨_, rfl⟩
    | cons byte more =>
      rw [copyByte_cons room packet shape, lengthField]
      have above : ¬ packet.remainingCount - 1 < -4 := by omega
      simp only [above, if_false]
      by_cases small : byte < 128
      · simp only [land_128_eq_zero_iff, small, digit_of_last small, if_true]
        exact ⟨_, _, _, rfl⟩
      · simp only [land_128_eq_zero_iff, small, digit_of_continued small, if_false]
        have tail : (stream.skip 1).bytes = more := by
          rw [bytes_skip, shape]
          rfl
        have later := ih
          { packet with
            buf := ⟨[byte], []⟩
            remainingCount := packet.remainingCount - 1
            remainingLength :=
              packet.remainingLength + (byte.toNat - 128) * packet.remainingMult
            remainingMult := packet.remainingMult * 128 }
          (stream.skip 1) (by
            change packet.remainingCount - 1 = _
            omega)
        rw [tail] at later
        cases field : lengthField limit more with
        | none =>
          rw [field] at later
          exact later
        | some found =>
          rw [field] at later
          rcases found with ⟨value, size⟩
          rcases later with ⟨count, mult, buf, decoded⟩
          refine ⟨count, mult, buf, decoded.trans ?_⟩
          rw [skip_skip, Nat.add_comm 1 size]
          have sum : packet.remainingLength + (byte.toNat - 128) * packet.remainingMult +
              value * (packet.remainingMult * 128) =
              packet.remainingLength +
                (byte.toNat - 128 + 128 * value) * packet.remainingMult := by
            ring
          simp only [sum]

theorem decodeThrough_command {command : UInt8} {more : List UInt8}
    (shape : stream.bytes = command :: more) :
    newMqttPacket.decodeThrough bufferSize stream =
      match MqttPacket.decodeLength bufferSize 5
        { newMqttPacket with buf := ⟨[command], []⟩, command := command } (stream.skip 1) with
      | (.error reason, rest) => (.error reason, rest)
      | (.ok packet, rest) => packet.decodeBody bufferSize rest := by
  have named : newMqttPacket.decodeCommand bufferSize stream =
      (.ok { newMqttPacket with buf := ⟨[command], []⟩, command := command }, stream.skip 1) := by
    simp only [decodeCommand, copyByte_cons room newMqttPacket shape]
    rfl
  rw [decodeThrough, named]
  rfl

theorem decodeThrough_header (stream : ByteStream) :
    match fixedHeader stream.bytes with
    | none => reported (newMqttPacket.decodeThrough bufferSize stream).1 = none
    | some (command, size, header) => exists packet : MqttPacket,
        newMqttPacket.decodeThrough bufferSize stream =
            packet.decodeBody bufferSize (stream.skip header) ∧
          packet.command = command ∧ packet.remainingLength = size ∧
          packet.toprocess = 0 ∧ packet.payload = {} := by
  cases shape : stream.bytes with
  | nil =>
    have refused : newMqttPacket.decodeCommand bufferSize stream =
        (.error mqttErrorInvalidProtocol, stream.skip 1) := by
      simp only [decodeCommand, copyByte_nil room newMqttPacket shape]
      rfl
    simp only [fixedHeader, decodeThrough, refused, reported]
  | cons command more =>
    rw [decodeThrough_command room shape, fixedHeader]
    have tail : (stream.skip 1).bytes = more := by
      rw [bytes_skip, shape]
      rfl
    have field := decodeLength_spec room 4
      { newMqttPacket with buf := ⟨[command], []⟩, command := command } (stream.skip 1) rfl
    rw [tail] at field
    cases found : lengthField 4 more with
    | none =>
      rw [found] at field
      rcases field with ⟨rest, refused⟩
      simp only [Option.map_none, refused, reported]
    | some pair =>
      rw [found] at field
      rcases pair with ⟨value, size⟩
      rcases field with ⟨count, mult, buf, accepted⟩
      simp only [Option.map_some, accepted, skip_skip, Nat.add_comm 1 size]
      refine ⟨_, rfl, rfl, ?_, rfl, rfl⟩
      change 0 + value * 1 = value
      omega

omit room in
theorem decodeBody_zero (stream : ByteStream) (none_left : packet.remainingLength = 0)
    (unset : packet.toprocess = 0) (fresh : packet.payload = {}) :
    reported (packet.decodeBody bufferSize stream).1 = some (packet.command, 0, []) := by
  simp [decodeBody, none_left, unset, reported, fresh]

theorem decodeBody_pos {size : Nat} (announced : packet.remainingLength = size)
    (positive : 0 < size) :
    reported (packet.decodeBody bufferSize stream).1 =
      if size ≤ stream.bytes.length then
        some (packet.command, size, ((stream.copyReads bufferSize size size).1.getLast?).getD
          packet.buf.elems)
      else none := by
  subst announced
  have count := copyN_count room write
    { packet with
      remainingCount := packet.remainingCount * -1
      toprocess := packet.remainingLength
      payload := {} } stream packet.remainingLength
  simp only [decodeBody, positive, if_true, count]
  by_cases complete : packet.remainingLength ≤ stream.bytes.length
  · rw [Nat.min_eq_left complete, if_pos rfl, if_pos complete]
    simp only [copyN, foldl_write, reported]
    have elems := shareBuffer_elems
      (List.replicate (min bufferSize packet.remainingLength) 0)
      (stream.copyReads bufferSize packet.remainingLength packet.remainingLength).1
    have last := congrArg List.getLast? elems
    rw [List.getLast?_map] at last
    rw [← last]
    cases (shareBuffer (List.replicate (min bufferSize packet.remainingLength) 0)
      (stream.copyReads bufferSize packet.remainingLength packet.remainingLength).1).getLast?
      with
    | none | some slice => rfl
  · have short : min packet.remainingLength stream.bytes.length ≠ packet.remainingLength := by
      omega
    rw [if_neg short, if_neg complete]
    rfl

theorem decodeBody_whole {size : Nat} (announced : packet.remainingLength = size)
    (positive : 0 < size) (fits : size ≤ bufferSize) (together : size ≤ stream.available) :
    exists count spare, packet.decodeBody bufferSize stream =
      (.ok { packet with
        remainingCount := count
        toprocess := size
        payload := ⟨stream.bytes.take size, spare⟩
        buf := ⟨stream.bytes.take size, spare⟩
        pos := 0 }, stream.skip size) := by
  subst announced
  let started : MqttPacket := { packet with
    remainingCount := packet.remainingCount * -1
    toprocess := packet.remainingLength
    payload := {} }
  have enough : packet.remainingLength ≤ stream.bytes.length :=
    Nat.le_trans together (available_le stream)
  have count := copyN_count room write started stream packet.remainingLength
  have rest := copyN_rest room write started stream packet.remainingLength
  have last := (copyReads_getLast_iff room positive enough).mpr ⟨fits, together⟩
  obtain ⟨slice, written, elems⟩ : exists slice,
      (stream.copyN bufferSize write started packet.remainingLength).2.1 =
        { started with buf := slice } ∧
      slice.elems = stream.bytes.take packet.remainingLength := by
    have handed := shareBuffer_elems
      (List.replicate (min bufferSize packet.remainingLength) 0)
      (stream.copyReads bufferSize packet.remainingLength packet.remainingLength).1
    rw [← handed, List.getLast?_map] at last
    obtain ⟨slice, found, same⟩ := Option.map_eq_some_iff.mp last
    refine ⟨slice, ?_, same⟩
    rw [copyN, foldl_write, found]
    rfl
  rw [Nat.min_eq_left enough] at count
  rcases copied : stream.copyN bufferSize write started packet.remainingLength with
    ⟨length, filled, after⟩
  rw [copied] at count rest written
  refine ⟨packet.remainingCount * -1, slice.spare, ?_⟩
  simp only [decodeBody, positive, if_true]
  change (match stream.copyN bufferSize write started packet.remainingLength with
    | (length, filled, rest) => _) = _
  rw [copied]
  simp only at count rest written
  subst count rest written
  rw [← elems]
  simp [started]

end Copying

end MqttPacket

variable {size : Nat}

theorem lengthField_le {limit : Nat} {bytes : List UInt8} {value : Nat}
    (found : lengthField limit bytes = some (value, size)) : size ≤ bytes.length := by
  induction limit generalizing bytes value size with
  | zero => cases found
  | succ limit ih =>
    cases bytes with
    | nil => cases found
    | cons byte rest =>
      rw [lengthField] at found
      split at found
      · cases found
        simp
      · rcases Option.map_eq_some_iff.mp found with ⟨⟨value, size⟩, later, same⟩
        cases same
        exact Nat.succ_le_succ (ih later)

theorem fixedHeader_le {bytes : List UInt8} {command : UInt8} {header : Nat}
    (found : fixedHeader bytes = some (command, size, header)) : header ≤ bytes.length := by
  cases bytes with
  | nil => cases found
  | cons first rest =>
    rcases Option.map_eq_some_iff.mp found with ⟨⟨value, count⟩, field, same⟩
    cases same
    exact Nat.succ_le_succ (lengthField_le field)

theorem lastRead_eq_body_iff (positive : 0 < size) {stream : ByteStream}
    (complete : size ≤ stream.bytes.length) (default : List UInt8) :
    ((stream.copyReads copyBufferSize size size).1.getLast?).getD default =
        stream.bytes.take size ↔
      size ≤ copyBufferSize ∧ size ≤ stream.available := by
  rw [← copyReads_getLast_iff copyBufferSize_pos positive complete]
  have spec := (copyReads_spec copyBufferSize_pos size size (Nat.le_refl _) stream).1
  cases last : (stream.copyReads copyBufferSize size size).1.getLast? with
  | none =>
    -- Without a read nothing would have been copied.
    rw [List.getLast?_eq_none_iff.mp last, List.flatten_nil] at spec
    have length := congrArg List.length spec
    rw [List.length_nil, List.length_take] at length
    omega
  | some got => simp

/-- The decoder reports the packet that the bytes carry exactly when a
nonempty body arrives in a single read of the copy. -/
theorem decodesExactly_iff (stream : ByteStream) :
    DecodesExactly stream ↔ BodyArrivesWhole stream := by
  unfold DecodesExactly BodyArrivesWhole expectedPacket MqttPacket.decodeFromReader
  have decoded := MqttPacket.decodeThrough_header copyBufferSize_pos stream
  cases fields : fixedHeader stream.bytes with
  | none =>
    rw [fields] at decoded
    simp [decoded]
  | some triple =>
    rw [fields] at decoded
    rcases triple with ⟨command, size, header⟩
    rcases decoded with ⟨packet, shape, sameCommand, announced, unset, fresh⟩
    have length : (stream.skip header).bytes.length = stream.bytes.length - header := by
      rw [bytes_skip, List.length_drop]
    have reach : header ≤ stream.bytes.length := fixedHeader_le fields
    rw [shape]
    by_cases empty : size = 0
    · subst size
      rw [MqttPacket.decodeBody_zero _ empty unset fresh]
      simp [sameCommand, empty, reach]
    · have positive : 0 < size := Nat.pos_of_ne_zero empty
      rw [MqttPacket.decodeBody_pos copyBufferSize_pos announced positive]
      by_cases complete : size ≤ (stream.skip header).bytes.length
      · have whole : header + size ≤ stream.bytes.length := by omega
        have body := lastRead_eq_body_iff positive complete packet.buf.elems
        rw [bytes_skip] at body
        simp only [if_pos complete, if_pos whole, Option.some.injEq, Prod.mk.injEq, sameCommand,
          true_and, body]
        constructor
        · rintro arrives _ _ _ ⟨-, rfl, rfl⟩ _
          exact Or.inr arrives
        · intro arrives
          exact (arrives command size header ⟨rfl, rfl, rfl⟩ whole).resolve_left empty
      · have partly : ¬ header + size ≤ stream.bytes.length := by omega
        simp only [if_neg complete, if_neg partly, true_iff]
        intro _ _ _ same whole
        cases same
        exact absurd whole partly

/-- A body that arrives in two segments: the packet carries two bytes, and the
decoder keeps only the second one. -/
theorem split_body_not_decoded :
    ¬ DecodesExactly [⟨[0x40, 0x02, 0x12], by decide⟩, ⟨[0x34], by decide⟩] := by
  decide

end Mqtt
end Sentel
