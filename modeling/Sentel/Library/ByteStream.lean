import Sentel.Library.GoSlice

namespace Sentel
namespace Library

/-!
Byte streams as a connection delivers them.

The bytes of a stream arrive in segments, and a read returns at most one
segment: all of it, or as much as the reader asks for.  The same bytes may be
cut into segments in any way.  Copying a number of bytes from a stream reads
repeatedly through a buffer of fixed size and hands every read to the writer,
so a writer sees the cuts even though the bytes are the same.
-/

/-- A segment is a nonempty run of bytes. -/
abbrev Segment := { bytes : List UInt8 // bytes ≠ [] }

/-- The segments still to be read. -/
abbrev ByteStream := List Segment

namespace ByteStream

/-- The bytes of a stream, without their cuts. -/
def bytes (stream : ByteStream) : List UInt8 :=
  (stream.map Subtype.val).flatten

/-- How many bytes the next read can return at most. -/
def available : ByteStream -> Nat
  | [] => 0
  | segment :: _ => segment.val.length

def suffix (segment : Segment) (count : Nat) (longer : count < segment.val.length) : Segment :=
  ⟨segment.val.drop count, by
    intro empty
    have bound := List.drop_eq_nil_iff.mp empty
    exact absurd longer (Nat.not_lt_of_ge bound)⟩

/-- Skip a number of bytes and keep the remaining cuts. -/
def skip : ByteStream -> Nat -> ByteStream
  | [], _ => []
  | segment :: more, count =>
    if fits : segment.val.length ≤ count then skip more (count - segment.val.length)
    else suffix segment count (Nat.lt_of_not_ge fits) :: more

def read (limit : Nat) : ByteStream -> Option (List UInt8 × ByteStream)
  | [] => none
  | segment :: more =>
    if fits : segment.val.length ≤ limit then some (segment.val, more)
    else some (segment.val.take limit, suffix segment limit (Nat.lt_of_not_ge fits) :: more)

def copyReads (bufferSize : Nat) : Nat -> Nat -> ByteStream -> List (List UInt8) × ByteStream
  | 0, _, stream => ([], stream)
  | rounds + 1, remaining, stream =>
    if remaining = 0 then ([], stream)
    else
      match stream.read (min bufferSize remaining) with
      | none => ([], stream)
      | some (got, rest) =>
        let later := copyReads bufferSize rounds (remaining - got.length) rest
        (got :: later.1, later.2)

def shareBuffer : List UInt8 -> List (List UInt8) -> List GoSlice
  | _, [] => []
  | buffer, got :: later =>
    ⟨got, buffer.drop got.length⟩ :: shareBuffer (got ++ buffer.drop got.length) later

def copyN {Writer : Type} (bufferSize : Nat) (write : Writer -> GoSlice -> Writer)
    (writer : Writer) (stream : ByteStream) (count : Nat) : Nat × Writer × ByteStream :=
  let reads := stream.copyReads bufferSize count count
  let buffer := List.replicate (min bufferSize count) 0
  (reads.1.flatten.length, (shareBuffer buffer reads.1).foldl write writer, reads.2)

@[simp] theorem bytes_nil : bytes [] = [] := rfl

@[simp] theorem bytes_cons (segment : Segment) (more : ByteStream) :
    bytes (segment :: more) = segment.val ++ bytes more := rfl

theorem available_le (stream : ByteStream) : stream.available ≤ stream.bytes.length := by
  cases stream with
  | nil => exact Nat.le_refl 0
  | cons segment more => simp [available]

theorem bytes_eq_nil_iff (stream : ByteStream) : stream.bytes = [] ↔ stream = [] := by
  cases stream with
  | nil => simp
  | cons segment more => simp [segment.property]

/-! ## Skipping -/

theorem available_skip_single (segment : Segment) (count : Nat) :
    (skip [segment] count).available = segment.val.length - count := by
  by_cases fits : segment.val.length ≤ count
  · rw [skip, dif_pos fits, Nat.sub_eq_zero_of_le fits]
    rfl
  · rw [skip, dif_neg fits]
    exact List.length_drop

theorem skip_zero (stream : ByteStream) : stream.skip 0 = stream := by
  cases stream with
  | nil => rfl
  | cons segment more =>
    have positive : 0 < segment.val.length := List.length_pos_iff.mpr segment.property
    rw [skip, dif_neg (Nat.not_le_of_lt positive)]
    rfl

theorem bytes_skip (stream : ByteStream) (count : Nat) :
    (stream.skip count).bytes = stream.bytes.drop count := by
  induction stream generalizing count with
  | nil => simp [skip]
  | cons segment more ih =>
    rw [skip, bytes_cons]
    by_cases fits : segment.val.length ≤ count
    · rw [dif_pos fits, ih, List.drop_append, List.drop_eq_nil_of_le fits, List.nil_append]
    · have short : count - segment.val.length = 0 := by omega
      rw [dif_neg fits, bytes_cons, List.drop_append, short]
      rfl

theorem skip_skip (stream : ByteStream) (first second : Nat) :
    (stream.skip first).skip second = stream.skip (first + second) := by
  induction stream generalizing first with
  | nil => rfl
  | cons segment more ih =>
    by_cases fits : segment.val.length ≤ first
    · have both : segment.val.length ≤ first + second := by omega
      have rest : first + second - segment.val.length = first - segment.val.length + second := by
        omega
      rw [skip, dif_pos fits, ih, skip, dif_pos both, rest]
    · rw [skip, dif_neg fits, skip, skip]
      have kept : (suffix segment first (Nat.lt_of_not_ge fits)).val.length =
          segment.val.length - first := List.length_drop
      by_cases both : segment.val.length ≤ first + second
      · have inner : (suffix segment first (Nat.lt_of_not_ge fits)).val.length ≤ second := by
          omega
        have rest : second - (suffix segment first (Nat.lt_of_not_ge fits)).val.length =
            first + second - segment.val.length := by omega
        rw [dif_pos both, dif_pos inner, rest]
      · have inner : ¬ (suffix segment first (Nat.lt_of_not_ge fits)).val.length ≤ second := by
          omega
        rw [dif_neg both, dif_neg inner]
        simp only [suffix, List.drop_drop]

/-! ## Reading -/

theorem read_eq {stream : ByteStream} (nonempty : stream ≠ []) (limit : Nat) :
    stream.read limit = some (stream.bytes.take (min limit stream.available),
      stream.skip (min limit stream.available)) := by
  cases stream with
  | nil => exact absurd rfl nonempty
  | cons segment more =>
    rw [read, available, skip, bytes_cons]
    by_cases fits : segment.val.length ≤ limit
    · rw [dif_pos fits, Nat.min_eq_right fits, dif_pos (Nat.le_refl _), Nat.sub_self, skip_zero,
        List.take_left]
    · have below : limit ≤ segment.val.length := by omega
      have shorter : ¬ segment.val.length ≤ min limit segment.val.length := by omega
      rw [dif_neg fits, dif_neg shorter]
      simp only [Nat.min_eq_left below, List.take_append_of_le_length below]

theorem read_nil (limit : Nat) : read limit [] = none := rfl

theorem copyReads_succ {bufferSize rounds remaining : Nat} {stream : ByteStream}
    (nonempty : stream ≠ []) (some_left : remaining ≠ 0) :
    stream.copyReads bufferSize (rounds + 1) remaining =
      (let got := min (min bufferSize remaining) stream.available
       let later := (stream.skip got).copyReads bufferSize rounds (remaining - got)
       (stream.bytes.take got :: later.1, later.2)) := by
  rw [copyReads, if_neg some_left, read_eq nonempty]
  have bound := available_le stream
  have length : (stream.bytes.take (min (min bufferSize remaining) stream.available)).length =
      min (min bufferSize remaining) stream.available := by
    rw [List.length_take]
    omega
  simp only [length]

theorem available_pos {stream : ByteStream} (nonempty : stream ≠ []) : 0 < stream.available := by
  cases stream with
  | nil => exact absurd rfl nonempty
  | cons segment more => exact List.length_pos_iff.mpr segment.property

theorem copyReads_spec {bufferSize : Nat} (room : 0 < bufferSize) (rounds remaining : Nat)
    (enough : remaining ≤ rounds) (stream : ByteStream) :
    (stream.copyReads bufferSize rounds remaining).1.flatten = stream.bytes.take remaining ∧
      (stream.copyReads bufferSize rounds remaining).2 = stream.skip remaining := by
  induction rounds generalizing remaining stream with
  | zero =>
    have none_left : remaining = 0 := Nat.le_zero.mp enough
    subst remaining
    exact ⟨rfl, (skip_zero stream).symm⟩
  | succ rounds ih =>
    by_cases none_left : remaining = 0
    · subst remaining
      rw [copyReads, if_pos rfl]
      exact ⟨rfl, (skip_zero stream).symm⟩
    · by_cases empty : stream = []
      · subst stream
        rw [copyReads, if_neg none_left, read_nil]
        exact ⟨by simp, rfl⟩
      · rw [copyReads_succ empty none_left]
        have positive := available_pos empty
        let got := min (min bufferSize remaining) stream.available
        have bounds : 0 < got ∧ got ≤ remaining := by omega
        have later := ih (remaining - got) (by omega) (stream.skip got)
        constructor
        · change stream.bytes.take got ++
            ((stream.skip got).copyReads bufferSize rounds (remaining - got)).1.flatten = _
          rw [later.1, bytes_skip]
          have sum : remaining = got + (remaining - got) := by omega
          conv_rhs => rw [sum, List.take_add]
        · change ((stream.skip got).copyReads bufferSize rounds (remaining - got)).2 = _
          rw [later.2, skip_skip]
          congr 1
          omega

theorem copyReads_getLast_iff {bufferSize : Nat} (room : 0 < bufferSize) {count : Nat}
    (positive : 0 < count) {stream : ByteStream} (enough : count ≤ stream.bytes.length) :
    (stream.copyReads bufferSize count count).1.getLast? = some (stream.bytes.take count) ↔
      count ≤ bufferSize ∧ count ≤ stream.available := by
  have nonempty : stream ≠ [] := by
    intro empty
    subst stream
    exact absurd enough (Nat.not_le_of_lt positive)
  rcases Nat.exists_eq_succ_of_ne_zero (Nat.ne_of_gt positive) with ⟨rounds, shape⟩
  have spec := copyReads_spec room count count (Nat.le_refl _) stream
  have full : ((stream.copyReads bufferSize count count).1.flatten).length = count := by
    rw [spec.1, List.length_take, Nat.min_eq_left enough]
  have unfolded := @copyReads_succ bufferSize rounds count stream nonempty
    (Nat.ne_of_gt positive)
  let got := min (min bufferSize count) stream.available
  have gotPositive : 0 < got := by
    have ready := available_pos nonempty
    omega
  have gotLength : (stream.bytes.take got).length = got := by
    rw [List.length_take]
    have bound := available_le stream
    omega
  let later := (stream.skip got).copyReads bufferSize rounds (count - got)
  have listed : (stream.copyReads bufferSize count count).1 = stream.bytes.take got :: later.1 := by
    have rounded := congrArg (fun rounds => stream.copyReads bufferSize rounds count) shape
    exact congrArg Prod.fst (rounded.trans unfolded)
  constructor
  · intro last
    by_cases whole : got = count
    · omega
    · exfalso
      rw [listed] at last full
      rw [List.flatten_cons, List.length_append, gotLength] at full
      cases laterShape : later.1 with
      | nil =>
        rw [laterShape] at full
        simp only [List.flatten_nil, List.length_nil] at full
        omega
      | cons next others =>
        rw [laterShape, List.getLast?_cons_cons] at last
        have member : stream.bytes.take count ∈ later.1 := by
          rw [laterShape]
          exact List.mem_of_getLast? last
        have inner := (List.sublist_flatten_of_mem member).length_le
        rw [List.length_take, Nat.min_eq_left enough] at inner
        omega
  · rintro ⟨fits, together⟩
    have whole : got = count := by omega
    have done : later.1 = [] := by
      change ((stream.skip got).copyReads bufferSize rounds (count - got)).1 = []
      rw [whole, Nat.sub_self]
      cases rounds with
      | zero | succ rounds => rfl
    rw [listed, done, whole]
    rfl

/-! ## Copying -/

theorem shareBuffer_elems (buffer : List UInt8) (reads : List (List UInt8)) :
    (shareBuffer buffer reads).map GoSlice.elems = reads := by
  induction reads generalizing buffer with
  | nil => rfl
  | cons got later ih => rw [shareBuffer, List.map_cons, ih]

section Copying

variable {Writer : Type} {bufferSize : Nat} (room : 0 < bufferSize)
  (write : Writer -> GoSlice -> Writer)

include room

theorem copyN_count (writer : Writer) (stream : ByteStream)
    (count : Nat) :
    (stream.copyN bufferSize write writer count).1 = min count stream.bytes.length := by
  have spec := copyReads_spec room count count (Nat.le_refl _) stream
  rw [copyN, spec.1, List.length_take]

theorem copyN_rest (writer : Writer) (stream : ByteStream)
    (count : Nat) :
    (stream.copyN bufferSize write writer count).2.2 = stream.skip count :=
  (copyReads_spec room count count (Nat.le_refl _) stream).2

theorem copyN_one (writer : Writer) {stream : ByteStream}
    {byte : UInt8} {more : List UInt8} (shape : stream.bytes = byte :: more) :
    stream.copyN bufferSize write writer 1 = (1, write writer ⟨[byte], []⟩, stream.skip 1) := by
  have nonempty : stream ≠ [] := by
    intro empty
    subst stream
    cases shape
  have ready := available_pos nonempty
  have got : min (min bufferSize 1) stream.available = 1 := by omega
  have reads : stream.copyReads bufferSize 1 1 = ([[byte]], stream.skip 1) := by
    rw [copyReads_succ nonempty Nat.one_ne_zero, got, shape]
    rfl
  have single : min bufferSize 1 = 1 := by omega
  rw [copyN, reads, single]
  rfl

end Copying

end ByteStream

end Library
end Sentel
