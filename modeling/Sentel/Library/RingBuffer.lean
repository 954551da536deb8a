import Mathlib.Data.List.ReduceOption
import Mathlib.Data.Nat.Bitwise
import Mathlib.Logic.Function.Basic

namespace Sentel
namespace Library

/-!
# Queues in a ring buffer

The items of a queue stand in an array from a head on, and go on at the start
of the array when they reach its end.  The length of the array is a power of
two, so an index is reduced by masking its bits.  A full array is replaced by
one of twice the length, and one that is a quarter full by one of half the
length; the items are then copied to the front.

A call that would index outside the array, or that finds the queue empty where
it may not be, has no result.  `RingQueue` is a queue that was filled and emptied
through the calls.  Its calls have results, and they do with the list of its
items what they should.
-/

universe u

def minQueueLen : Nat := 16

/-- The array is given by its length and its cells.  A cell without an item is
nil. -/
structure RingBuffer (Item : Type u) where
  len : Nat
  buf : Nat -> Option Item
  head : Nat
  tail : Nat
  count : Nat

namespace RingBuffer

variable {Item : Type u}

def new : RingBuffer Item where
  len := minQueueLen
  buf := fun _ => none
  head := 0
  tail := 0
  count := 0

variable (q : RingBuffer Item)

def resize : RingBuffer Item where
  len := q.count <<< 1
  buf := fun i =>
    if q.head < q.tail then if i < q.tail - q.head then q.buf (q.head + i) else none
    else
      let n := min (q.count <<< 1) (q.len - q.head)
      if i < n then q.buf (q.head + i) else if i < n + q.tail then q.buf (i - n) else none
  head := 0
  tail := q.count
  count := q.count

def place (elem : Item) : Option (RingBuffer Item) :=
  if q.tail < q.len then
    some { q with
      buf := Function.update q.buf q.tail (some elem)
      tail := (q.tail + 1) &&& (q.len - 1)
      count := q.count + 1 }
  else none

def add (elem : Item) : Option (RingBuffer Item) :=
  if q.count = q.len then q.resize.place elem else q.place elem

def peek : Option (Option Item) :=
  if 0 < q.count ∧ q.head < q.len then some (q.buf q.head) else none

def cleared : RingBuffer Item :=
  { q with
    buf := Function.update q.buf q.head none
    head := (q.head + 1) &&& (q.len - 1)
    count := q.count - 1 }

def remove : Option (RingBuffer Item) :=
  if 0 < q.count ∧ q.head < q.len then
    some (if minQueueLen < q.cleared.len ∧ q.cleared.count <<< 2 = q.cleared.len then
      q.cleared.resize else q.cleared)
  else none

/-! ## The items of a queue -/

def cell (i : Nat) : Option Item := q.buf ((q.head + i) % q.len)

def items : List Item := ((List.range q.count).map q.cell).reduceOption

structure Sound : Prop where
  size : exists bits, 4 ≤ bits ∧ q.len = 2 ^ bits
  head : q.head < q.len
  tail : q.tail = (q.head + q.count) % q.len
  fits : q.count ≤ q.len
  filled : forall i, i < q.count -> (q.cell i).isSome

theorem wrap_eq {index size : Nat} (once : index < 2 * size) :
    index % size = if index < size then index else index - size := by
  split
  · next inside => exact Nat.mod_eq_of_lt inside
  · next outside =>
      rw [Nat.mod_eq_sub_mod (Nat.le_of_not_lt outside)]
      apply Nat.mod_eq_of_lt
      omega

theorem wrap_ne {head first second size : Nat} (inside : head < size) (firstIn : first < size)
    (secondIn : second < size) (different : first ≠ second) :
    (head + first) % size ≠ (head + second) % size := by
  rw [wrap_eq (by omega), wrap_eq (by omega)]
  split <;> split <;> omega

variable {q}

theorem items_congr {other : RingBuffer Item} (count : q.count = other.count)
    (same : forall i, i < q.count -> q.cell i = other.cell i) : q.items = other.items := by
  rw [items, items, ← count]
  exact congrArg _ (List.map_congr_left (fun i member => same i (List.mem_range.mp member)))

theorem resize_len : q.resize.len = 2 * q.count := by
  rw [resize, Nat.shiftLeft_eq, Nat.mul_comm, Nat.pow_one]

namespace Sound

theorem mask (sound : Sound q) (index : Nat) : index &&& (q.len - 1) = index % q.len := by
  rcases sound.size with ⟨bits, _, power⟩
  rw [power, Nat.and_two_pow_sub_one_eq_mod]

theorem items_length (sound : Sound q) : q.items.length = q.count := by
  have all : forall cell, cell ∈ (List.range q.count).map q.cell -> cell.isSome := by
    intro cell member
    rcases List.mem_map.mp member with ⟨i, inside, rfl⟩
    exact sound.filled i (List.mem_range.mp inside)
  rw [items, List.reduceOption_length_eq_iff.mpr all, List.length_map, List.length_range]

theorem resize_cell (sound : Sound q) {i : Nat} (inside : i < q.count) :
    q.resize.cell i = q.cell i := by
  have head := sound.head
  have tail := sound.tail
  have fits := sound.fits
  rw [wrap_eq (by omega)] at tail
  have start : q.resize.head = 0 := rfl
  have twice : q.count <<< 1 = 2 * q.count := resize_len
  rw [cell, cell, resize_len, start, Nat.zero_add, Nat.mod_eq_of_lt (by omega),
    wrap_eq (by omega : q.head + i < 2 * q.len)]
  simp only [RingBuffer.resize, twice]
  split at tail
  · -- the items do not reach the end of the old array
    rw [if_pos (by omega), if_pos (by omega), if_pos (by omega)]
  · rw [if_neg (by omega), Nat.min_eq_right (by omega)]
    by_cases first : q.head + i < q.len
    · rw [if_pos (by omega), if_pos first]
    · rw [if_neg (by omega), if_pos (by omega), if_neg first]
      apply congrArg
      omega

theorem resize (sound : Sound q) (nonempty : 0 < q.count)
    (power : exists bits, 4 ≤ bits ∧ 2 * q.count = 2 ^ bits) : Sound q.resize where
  size := by
    rw [resize_len]
    exact power
  head := by
    rw [resize_len]
    exact Nat.mul_pos Nat.two_pos nonempty
  tail := by
    rw [resize_len]
    change q.count = (0 + q.count) % (2 * q.count)
    rw [Nat.zero_add, Nat.mod_eq_of_lt (by omega)]
  fits := by
    rw [resize_len]
    exact Nat.le_mul_of_pos_left _ Nat.two_pos
  filled := by
    intro i inside
    rw [sound.resize_cell inside]
    exact sound.filled i inside

theorem resize_items (sound : Sound q) : q.resize.items = q.items :=
  items_congr rfl (fun _ => sound.resize_cell)

theorem place (sound : Sound q) (room : q.count < q.len) (elem : Item) :
    exists after, q.place elem = some after ∧ Sound after ∧ after.items = q.items ++ [elem] := by
  have inside : q.tail < q.len := by
    rw [sound.tail]
    exact Nat.mod_lt _ (Nat.zero_lt_of_lt room)
  let after : RingBuffer Item :=
    { q with
      buf := Function.update q.buf q.tail (some elem)
      tail := (q.tail + 1) &&& (q.len - 1)
      count := q.count + 1 }
  have last : after.cell q.count = some elem := by
    change Function.update q.buf q.tail (some elem) ((q.head + q.count) % q.len) = _
    rw [← sound.tail, Function.update_self]
  have earlier : forall i, i < q.count -> after.cell i = q.cell i := by
    intro i member
    change Function.update q.buf q.tail (some elem) ((q.head + i) % q.len) = _
    rw [sound.tail, Function.update_of_ne (wrap_ne sound.head (member.trans room) room
      (Nat.ne_of_lt member))]
    rfl
  refine ⟨after, if_pos inside, ⟨sound.size, sound.head, ?_, room, ?_⟩, ?_⟩
  · change (q.tail + 1) &&& (q.len - 1) = (q.head + (q.count + 1)) % q.len
    rw [sound.mask, sound.tail, Nat.mod_add_mod, Nat.add_assoc]
  · intro i member
    by_cases newest : i = q.count
    · rw [newest, last]
      rfl
    · rw [earlier i (Nat.lt_of_le_of_ne (Nat.le_of_lt_succ member) newest)]
      exact sound.filled i (Nat.lt_of_le_of_ne (Nat.le_of_lt_succ member) newest)
  · change ((List.range (q.count + 1)).map after.cell).reduceOption = _
    rw [List.range_succ, List.map_append, List.reduceOption_append, List.map_singleton, last]
    exact congrArg (· ++ [elem]) (congrArg _ (List.map_congr_left
      (fun i member => earlier i (List.mem_range.mp member))))

theorem add (sound : Sound q) (elem : Item) :
    exists after, q.add elem = some after ∧ Sound after ∧ after.items = q.items ++ [elem] := by
  have head := sound.head
  have fits := sound.fits
  rw [RingBuffer.add]
  by_cases full : q.count = q.len
  · rw [if_pos full, ← sound.resize_items]
    rcases sound.size with ⟨bits, low, power⟩
    have doubled : 2 * q.count = 2 ^ (bits + 1) := by
      rw [full, power, Nat.pow_succ, Nat.mul_comm]
    have room : q.resize.count < q.resize.len := by
      rw [resize_len]
      change q.count < 2 * q.count
      omega
    exact (sound.resize (by omega) ⟨bits + 1, by omega, doubled⟩).place room elem
  · rw [if_neg full]
    exact sound.place (Nat.lt_of_le_of_ne fits full) elem

theorem cleared_cell (sound : Sound q) {i : Nat} (inside : i + 1 < q.count) :
    q.cleared.cell i = q.cell (i + 1) := by
  have head := sound.head
  have fits := sound.fits
  have other := wrap_ne head (by omega : i + 1 < q.len) (by omega) (Nat.succ_ne_zero i)
  rw [Nat.add_zero q.head, Nat.mod_eq_of_lt head] at other
  change Function.update q.buf q.head none ((((q.head + 1) &&& (q.len - 1)) + i) % q.len) = _
  rw [sound.mask, Nat.mod_add_mod, Nat.add_assoc, Nat.add_comm 1 i, Function.update_of_ne other]
  rfl

theorem cleared (sound : Sound q) (nonempty : 0 < q.count) : Sound q.cleared where
  size := sound.size
  head := by
    change (q.head + 1) &&& (q.len - 1) < q.len
    rw [sound.mask]
    exact Nat.mod_lt _ (Nat.zero_lt_of_lt sound.head)
  tail := by
    change q.tail = (((q.head + 1) &&& (q.len - 1)) + (q.count - 1)) % q.len
    rw [sound.mask, Nat.mod_add_mod, sound.tail, Nat.add_assoc, Nat.add_sub_cancel' nonempty]
  fits := Nat.le_trans (Nat.sub_le _ _) sound.fits
  filled := by
    intro i inside
    have next : i + 1 < q.count := Nat.add_lt_of_lt_sub inside
    rw [sound.cleared_cell next]
    exact sound.filled _ next

theorem items_eq (sound : Sound q) (nonempty : 0 < q.count) :
    exists first, q.peek = some (some first) ∧ q.items = first :: q.cleared.items := by
  rcases Option.isSome_iff_exists.mp (sound.filled 0 nonempty) with ⟨first, found⟩
  refine ⟨first, ?_, ?_⟩
  · rw [cell, Nat.add_zero, Nat.mod_eq_of_lt sound.head] at found
    rw [RingBuffer.peek, if_pos ⟨nonempty, sound.head⟩, found]
  · rcases Nat.exists_eq_add_of_lt nonempty with ⟨fewer, count⟩
    rw [Nat.zero_add] at count
    have fewer_eq : q.cleared.count = fewer := by
      change q.count - 1 = fewer
      rw [count, Nat.add_sub_cancel]
    rw [items, items, fewer_eq, count, List.range_succ_eq_map, List.map_cons, found,
      List.reduceOption_cons_of_some, List.map_map]
    refine congrArg (first :: ·) (congrArg _ (List.map_congr_left (fun i member => ?_)))
    have inside := List.mem_range.mp member
    exact (sound.cleared_cell (by omega)).symm

theorem peek (sound : Sound q) (nonempty : 0 < q.count) :
    exists item, q.peek = some item ∧ item = q.items.head? := by
  rcases sound.items_eq nonempty with ⟨first, peeked, items⟩
  exact ⟨_, peeked, by rw [items, List.head?_cons]⟩

theorem remove (sound : Sound q) (nonempty : 0 < q.count) :
    exists after, q.remove = some after ∧ Sound after ∧ after.items = q.items.tail := by
  have kept := sound.cleared nonempty
  rcases sound.items_eq nonempty with ⟨first, _, rest⟩
  rw [RingBuffer.remove, if_pos ⟨nonempty, sound.head⟩, rest, List.tail_cons]
  refine ⟨_, rfl, ?_⟩
  by_cases shrinks : minQueueLen < q.cleared.len ∧ q.cleared.count <<< 2 = q.cleared.len
  · rw [if_pos shrinks]
    refine ⟨?_, kept.resize_items⟩
    rcases kept.size with ⟨bits, low, power⟩
    rcases shrinks with ⟨large, quarter⟩
    rw [Nat.shiftLeft_eq] at quarter
    rw [power] at quarter large
    have more : 4 < bits := (Nat.pow_lt_pow_iff_right (by decide : 1 < 2)).mp large
    have whole : 2 ^ bits = 2 * 2 ^ (bits - 1) := by
      rw [← Nat.pow_succ', Nat.succ_eq_add_one, Nat.sub_add_cancel (by omega)]
    have positive : 0 < 2 ^ bits := Nat.two_pow_pos bits
    exact kept.resize (by omega) ⟨bits - 1, by omega, by omega⟩
  · rw [if_neg shrinks]
    exact ⟨kept, rfl⟩

end Sound
end RingBuffer

/-- A queue that was filled and emptied through its calls. -/
structure RingQueue (Item : Type u) extends RingBuffer Item where
  sound : toRingBuffer.Sound

namespace RingQueue

variable {Item Result : Type u} {call : Option Result} {Spec : Result -> Prop}

theorem isSome_of_result (result : exists after, call = some after ∧ Spec after) : call.isSome := by
  rcases result with ⟨after, found, _⟩
  rw [found]
  rfl

theorem get_of_result (result : exists after, call = some after ∧ Spec after) :
    Spec (call.get (isSome_of_result result)) := by
  rcases result with ⟨after, rfl, holds⟩
  exact holds

def new : RingQueue Item where
  toRingBuffer := .new
  sound := ⟨⟨4, Nat.le_refl 4, rfl⟩, by simp [RingBuffer.new, minQueueLen], rfl, Nat.zero_le _,
    fun _ inside => absurd inside (Nat.not_lt_zero _)⟩

variable (q : RingQueue Item)

def length : Nat := q.count

def items : List Item := q.toRingBuffer.items

def add (elem : Item) : RingQueue Item where
  toRingBuffer := (q.toRingBuffer.add elem).get (isSome_of_result (q.sound.add elem))
  sound := (get_of_result (q.sound.add elem)).1

@[simp] theorem items_new : (new : RingQueue Item).items = [] := rfl

theorem length_eq : q.length = q.items.length := q.sound.items_length.symm

@[simp] theorem items_add (elem : Item) : (q.add elem).items = q.items ++ [elem] :=
  (get_of_result (q.sound.add elem)).2

variable (nonempty : 0 < q.length)

def peek : Option Item := q.toRingBuffer.peek.get (isSome_of_result (q.sound.peek nonempty))

def remove : RingQueue Item where
  toRingBuffer := q.toRingBuffer.remove.get (isSome_of_result (q.sound.remove nonempty))
  sound := (get_of_result (q.sound.remove nonempty)).1

@[simp] theorem peek_eq : q.peek nonempty = q.items.head? :=
  get_of_result (q.sound.peek nonempty)

@[simp] theorem items_remove : (q.remove nonempty).items = q.items.tail :=
  (get_of_result (q.sound.remove nonempty)).2

end RingQueue

end Library
end Sentel
