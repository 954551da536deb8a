import Sentel.Mqtt.Decode
import Sentel.Mqtt.Publishing

namespace Sentel
namespace Mqtt

open Library MqttPacket

/-!
# Streams of frames

A frame starts with the byte that `initializePacket` computes from the command
and the flags, followed by the length field and the body.  The length field
that the encoder writes is the one that the decoder reads, for every length
that four bytes can hold.  The decoder therefore finds the frames of a stream
one after the other and leaves nothing over, as long as each body reaches the
packet in one write.
-/

/-- A packet that can be built, with the body it is filled with. -/
structure Outgoing where
  packet : MqttPacket
  body : List UInt8
  sized : body.length = packet.remainingLength
  nonempty : 0 < packet.remainingLength
  fits : packet.remainingLength ≤ maxRemainingLength

namespace Outgoing

def build (out : Outgoing) : PacketM Effect Unit := do
  initializePacket
  writeBytes out.body

/-- The buffer of the packet once its body is filled in. -/
def frame (out : Outgoing) : List UInt8 :=
  (out.build out.packet).state.payload.elems

def lengthBytes (out : Outgoing) : List UInt8 :=
  remainingBytes 5 out.packet.remainingLength

/-- The first byte, the announced length and the body. -/
def content (out : Outgoing) : UInt8 × Nat × List UInt8 :=
  (out.packet.headerByte, out.packet.remainingLength, out.body)

end Outgoing

/-- Decode a number of packets, each into a fresh one. -/
def decodeEach (bufferSize : Nat) :
    Nat -> ByteStream -> Option (List (UInt8 × Nat × List UInt8)) × ByteStream
  | 0, stream => (some [], stream)
  | count + 1, stream =>
    match newMqttPacket.decodeThrough bufferSize stream with
    | (.error _, rest) => (none, rest)
    | (.ok packet, rest) =>
      let later := decodeEach bufferSize count rest
      (later.1.map (fun contents =>
        (packet.command, packet.remainingLength, packet.payload.elems) :: contents), later.2)

/-- Every body reaches the packet in one write: it fits the copy buffer and lies
in the segment that is read when the decoder comes to it. -/
def BodiesArriveWhole (bufferSize : Nat) : List Outgoing -> ByteStream -> Prop
  | [], _ => True
  | out :: later, stream =>
    out.body.length ≤ bufferSize ∧
      out.body.length ≤ (stream.skip (1 + out.lengthBytes.length)).available ∧
      BodiesArriveWhole bufferSize later (stream.skip out.frame.length)

/-! ## The length field -/

theorem toNat_or_128 {digit : Nat} (small : digit < 128) :
    (digit.toUInt8 ||| 0x80).toNat = digit + 128 := by
  have value : digit.toUInt8.toNat = digit :=
    UInt8.toNat_ofNat_of_lt' (Nat.lt_trans small (by decide))
  have split := @Nat.two_pow_add_eq_or_of_lt 7 digit small 1
  rw [UInt8.toNat_or, value, Nat.or_comm, Nat.add_comm digit]
  exact split.symm

theorem remainingBytes_last (rounds : Nat) {remaining : Nat} (positive : 0 < remaining)
    (small : remaining < 128) :
    remainingBytes (rounds + 1) remaining = [remaining.toUInt8] := by
  have last : remaining / 128 = 0 := Nat.div_eq_of_lt small
  simp only [remainingBytes, Nat.ne_of_gt positive, if_false, last, if_true,
    Nat.mod_eq_of_lt small]
  cases rounds <;> rfl

theorem remainingBytes_more (rounds : Nat) {remaining : Nat} (large : 128 ≤ remaining) :
    remainingBytes (rounds + 1) remaining =
      ((remaining % 128).toUInt8 ||| 0x80) ::
        remainingBytes rounds (remaining / 128) := by
  have positive : remaining ≠ 0 := by omega
  have more : remaining / 128 ≠ 0 := by omega
  simp only [remainingBytes, positive, if_false, more]

theorem lengthField_remainingBytes (limit remaining : Nat) (positive : 0 < remaining)
    (bounded : remaining < 128 ^ limit) (rest : List UInt8) :
    lengthField limit (remainingBytes (limit + 1) remaining ++ rest) =
      some (remaining, (remainingBytes (limit + 1) remaining).length) := by
  induction limit generalizing remaining with
  | zero =>
    rw [Nat.pow_zero] at bounded
    omega
  | succ limit ih =>
    by_cases small : remaining < 128
    · have value : remaining.toUInt8.toNat = remaining :=
        UInt8.toNat_ofNat_of_lt' (Nat.lt_trans small (by decide))
      have final : remaining.toUInt8 < 128 := by
        rw [UInt8.lt_iff_toNat_lt, value]
        exact small
      rw [remainingBytes_last _ positive small, List.cons_append, List.nil_append, lengthField,
        if_pos final, value]
      rfl
    · have large : 128 ≤ remaining := Nat.le_of_not_lt small
      have value := toNat_or_128 (Nat.mod_lt remaining (by decide : 0 < 128))
      have goesOn : ¬ ((remaining % 128).toUInt8 ||| 0x80) < 128 := by
        rw [UInt8.lt_iff_toNat_lt, value]
        exact Nat.not_lt_of_le (Nat.le_add_left _ _)
      have later := ih (remaining / 128) (by omega)
        (Nat.div_lt_of_lt_mul (by rw [← Nat.pow_succ']; exact bounded))
      rw [remainingBytes_more _ large, List.cons_append, lengthField, if_neg goesOn, later,
        Option.map_some, value, Nat.add_sub_cancel, Nat.mod_add_div]
      rfl

theorem fixedHeader_frame (command : UInt8) {remaining : Nat} (positive : 0 < remaining)
    (fits : remaining ≤ maxRemainingLength) (rest : List UInt8) :
    fixedHeader (command :: (remainingBytes 5 remaining ++ rest)) =
      some (command, remaining, (remainingBytes 5 remaining).length + 1) := by
  have bounded : remaining < 128 ^ 4 := by
    rw [maxRemainingLength] at fits
    omega
  rw [fixedHeader, lengthField_remainingBytes 4 remaining positive bounded]
  rfl

/-! ## One frame -/

namespace Outgoing

theorem frame_eq (out : Outgoing) :
    out.frame = out.packet.headerByte :: (out.lengthBytes ++ out.body) := by
  have short := (remainingBytes_fits_iff _).mp out.fits
  have filled := @MqttPacket.writeBytes_filling Effect
    { out.packet with remainingCount := out.lengthBytes.length }
    (out.packet.headerByte :: out.lengthBytes) (List.replicate out.packet.remainingLength 0) []
    out.body (by rw [List.length_replicate, out.sized])
  rw [List.append_nil] at filled
  rw [frame, build, Handler.bind_of_ok (initializePacket_filling out.packet short)]
  change (writeBytes out.body (filling
    { out.packet with remainingCount := out.lengthBytes.length }
    (out.packet.headerByte :: out.lengthBytes) _)).state.payload.elems = _
  rw [filled]
  simp [filling]

theorem frame_length (out : Outgoing) :
    out.frame.length = (out.lengthBytes.length + 1) + out.packet.remainingLength := by
  rw [frame_eq, List.length_cons, List.length_append, out.sized]
  omega

theorem decodeThrough_frame (out : Outgoing) {bufferSize : Nat} {stream : ByteStream}
    {rest : List UInt8} (begins : stream.bytes = out.frame ++ rest)
    (fits : out.body.length ≤ bufferSize)
    (together : out.body.length ≤ (stream.skip (1 + out.lengthBytes.length)).available) :
    exists packet : MqttPacket,
      newMqttPacket.decodeThrough bufferSize stream = (.ok packet, stream.skip out.frame.length) ∧
        packet.command = out.packet.headerByte ∧
        packet.remainingLength = out.packet.remainingLength ∧
        packet.pos = 0 ∧ packet.payload.elems = out.body := by
  have room : 0 < bufferSize := by
    have positive := out.nonempty
    have sized := out.sized
    omega
  have decoded := decodeThrough_header room stream
  have shape : stream.bytes = out.packet.headerByte ::
      (remainingBytes 5 out.packet.remainingLength ++ (out.body ++ rest)) := by
    rw [begins, frame_eq, List.cons_append, List.append_assoc]
    rfl
  have header : fixedHeader stream.bytes =
      some (out.packet.headerByte, out.packet.remainingLength, out.lengthBytes.length + 1) := by
    rw [shape]
    exact fixedHeader_frame out.packet.headerByte out.nonempty out.fits (out.body ++ rest)
  rw [header] at decoded
  rcases decoded with ⟨packet, same, command, announced, _, _⟩
  rw [Nat.add_comm] at together
  rw [out.sized] at fits together
  rcases decodeBody_whole room announced out.nonempty fits together
      with ⟨count, spare, body⟩
  have following : (stream.skip (out.lengthBytes.length + 1)).bytes = out.body ++ rest := by
    rw [ByteStream.bytes_skip, shape, List.drop_succ_cons]
    exact List.drop_left
  rw [same, body]
  refine ⟨_, Prod.ext rfl ?_, command, announced, rfl, ?_⟩
  · rw [frame_length]
    exact ByteStream.skip_skip stream _ _
  · change (stream.skip (out.lengthBytes.length + 1)).bytes.take out.packet.remainingLength = _
    rw [following, ← out.sized, List.take_left]

end Outgoing

/-! ## Whole streams -/

theorem decodeEach_frames {bufferSize : Nat} (outgoing : List Outgoing) (stream : ByteStream)
    (bytes : stream.bytes = (outgoing.map Outgoing.frame).flatten)
    (whole : BodiesArriveWhole bufferSize outgoing stream) :
    decodeEach bufferSize outgoing.length stream = (some (outgoing.map Outgoing.content), []) := by
  induction outgoing generalizing stream with
  | nil =>
    rw [(ByteStream.bytes_eq_nil_iff stream).mp bytes]
    rfl
  | cons out later ih =>
    rcases whole with ⟨fits, together, rest⟩
    rw [List.map_cons, List.flatten_cons] at bytes
    rcases out.decodeThrough_frame bytes fits together
        with ⟨packet, decoded, command, announced, _, body⟩
    have left : (stream.skip out.frame.length).bytes = (later.map Outgoing.frame).flatten := by
      rw [ByteStream.bytes_skip, bytes]
      exact List.drop_left
    rw [List.length_cons, decodeEach, decoded]
    simp only [ih _ left rest, command, announced, body, Option.map_some]
    rfl

theorem initializePacket_fails_iff (packet : MqttPacket) :
    (exists reason, (initializePacket packet : Run _ Effect _ _).outcome =
        .error reason) ↔
      maxRemainingLength < packet.remainingLength := by
  by_cases fits : packet.remainingLength ≤ maxRemainingLength
  · have short := (remainingBytes_fits_iff _).mp fits
    rw [initializePacket_filling packet short]
    exact iff_of_false (fun ⟨_, failed⟩ => nomatch failed) (Nat.not_lt_of_le fits)
  · have long : (remainingBytes 5 packet.remainingLength).length = 5 :=
      not_not.mp (mt (remainingBytes_fits_iff _).mpr fits)
    rw [initializePacket, Handler.look_bind_apply, if_pos long]
    exact iff_of_true ⟨_, rfl⟩ (Nat.lt_of_not_le fits)

/-- Frames delimit themselves: decoding their concatenation gives back what they
carry and consumes every byte, and no packet but one that is too long fails to
be built. -/
theorem frames_delimit_themselves {bufferSize : Nat} (outgoing : List Outgoing)
    (stream : ByteStream) (bytes : stream.bytes = (outgoing.map Outgoing.frame).flatten)
    (whole : BodiesArriveWhole bufferSize outgoing stream) :
    decodeEach bufferSize outgoing.length stream =
        (some (outgoing.map Outgoing.content), []) ∧
      forall packet : MqttPacket,
        (exists reason, (initializePacket packet : Run _ Effect _ _).outcome =
            .error reason) ↔
          268435455 < packet.remainingLength :=
  ⟨decodeEach_frames outgoing stream bytes whole, initializePacket_fails_iff⟩

def twoPackets : List Outgoing :=
  [⟨{ command := PUBACK, remainingLength := 2 }, [1, 2], rfl, by decide, by decide⟩,
    ⟨{ command := PUBLISH, qos := 1, remainingLength := 5 }, [0, 1, 0x61, 0, 7], rfl, by decide,
      by decide⟩]

/-- The two packets arrive in one segment. -/
theorem two_packets_delimited :
    decodeEach copyBufferSize 2 [⟨[0x40, 2, 1, 2, 0x32, 5, 0, 1, 0x61, 0, 7], by decide⟩] =
      (some [(0x40, 2, [1, 2]), (0x32, 5, [0, 1, 0x61, 0, 7])], []) :=
  (@frames_delimit_themselves copyBufferSize twoPackets _ (by decide)
    ⟨by decide, by decide, by decide, by decide, True.intro⟩).1

end Mqtt
end Sentel
