import Mathlib.Data.List.Basic

namespace Sentel
namespace Library

/-!
# Slices that share their arrays

A slice shows a part of an array, and several slices may show the same part.
`append` writes behind the end of a slice as long as the capacity of the slice
allows it, so a slice that shows these cells too is changed.  Otherwise the
elements are copied to a new array, which no other slice shows.

The arrays stand one behind the other in a memory.  How much room a new array
has beyond the elements is up to the runtime.
-/

universe u

structure Slice where
  start : Nat
  length : Nat
  capacity : Nat
  fits : length ≤ capacity
  deriving DecidableEq

def Slice.full (start length : Nat) : Slice := ⟨start, length, length, Nat.le_refl length⟩

def Slice.Shows (slice : Slice) (address : Nat) : Prop :=
  slice.start ≤ address ∧ address < slice.start + slice.length

/-- The cells, the first address that is in no array, and the spare room of a
new array by the old capacity and the new length. -/
structure Memory (Elem : Type u) where
  cells : Nat -> Elem
  next : Nat
  spare : Nat -> Nat -> Nat

namespace Memory

variable {Elem : Type u} (memory : Memory Elem)

def ofList [Inhabited Elem] (elems : List Elem) : Memory Elem where
  cells := fun address => elems.getD address default
  next := elems.length
  spare := fun _ _ => 0

def readAt (start count : Nat) : List Elem :=
  (List.range count).map (fun i => memory.cells (start + i))

def read (slice : Slice) : List Elem := memory.readAt slice.start slice.length

def write (start : Nat) (values : List Elem) : Memory Elem :=
  { memory with
    cells := fun address =>
      if start ≤ address then (values[address - start]?).getD (memory.cells address)
      else memory.cells address }

def append (slice : Slice) (values : List Elem) : Slice × Memory Elem :=
  let length := slice.length + values.length
  if room : length ≤ slice.capacity then
    (⟨slice.start, length, slice.capacity, room⟩, memory.write (slice.start + slice.length) values)
  else
    let capacity := length + memory.spare slice.capacity length
    (⟨memory.next, length, capacity, Nat.le_add_right _ _⟩,
      { memory.write memory.next (memory.read slice ++ values) with next := memory.next + capacity })

def Holds (slice : Slice) : Prop := slice.start + slice.capacity ≤ memory.next

instance (slice : Slice) : Decidable (memory.Holds slice) := inferInstanceAs (Decidable (_ ≤ _))

def Spares (slice : Slice) (values : List Elem) (other : Slice) : Prop :=
  slice.length + values.length ≤ slice.capacity -> forall i value, values[i]? = some value ->
    other.Shows (slice.start + slice.length + i) ->
      memory.cells (slice.start + slice.length + i) = value

variable {memory} {start : Nat} {values : List Elem} {slice other : Slice}

theorem write_cell (i : Nat) :
    (memory.write start values).cells (start + i) =
      (values[i]?).getD (memory.cells (start + i)) := by
  rw [write]
  dsimp only
  rw [if_pos (Nat.le_add_right _ _), Nat.add_sub_cancel_left]

theorem write_cell_of_lt {address : Nat} (before : address < start) :
    (memory.write start values).cells address = memory.cells address :=
  if_neg (Nat.not_le_of_lt before)

theorem readAt_add (start first second : Nat) :
    memory.readAt start (first + second) =
      memory.readAt start first ++ memory.readAt (start + first) second := by
  simp only [readAt, List.range_add, List.map_append, List.map_map, Function.comp_def,
    Nat.add_assoc]

theorem readAt_write_self (start : Nat) (values : List Elem) :
    (memory.write start values).readAt start values.length = values := by
  apply List.ext_getElem
  · simp [readAt]
  · intro i _ inside
    simp [readAt, write_cell, inside]

theorem read_eq_iff {after : Memory Elem} :
    after.read slice = memory.read slice ↔
      forall address, slice.Shows address -> after.cells address = memory.cells address := by
  rw [read, read, readAt, readAt, List.map_inj_left]
  constructor
  · rintro same address ⟨low, high⟩
    have cell := same (address - slice.start) (List.mem_range.mpr (Nat.sub_lt_left_of_lt_add low high))
    rwa [Nat.add_sub_cancel' low] at cell
  · intro same i inside
    exact same _ ⟨Nat.le_add_right _ _, Nat.add_lt_add_left (List.mem_range.mp inside) _⟩

theorem read_write_iff :
    (memory.write start values).read slice = memory.read slice ↔
      forall i value, values[i]? = some value -> slice.Shows (start + i) ->
        memory.cells (start + i) = value := by
  rw [read_eq_iff]
  constructor
  · intro same i value found shown
    rw [← same _ shown, write_cell, found]
    rfl
  · intro same address shown
    by_cases before : address < start
    · exact write_cell_of_lt before
    · rcases Nat.exists_eq_add_of_le (Nat.le_of_not_lt before) with ⟨i, rfl⟩
      rw [write_cell]
      cases found : values[i]? with
      | none => rfl
      | some value => exact (same i value found shown).symm

theorem write_read (slice : Slice) : memory.write slice.start (memory.read slice) = memory := by
  have same : (memory.write slice.start (memory.read slice)).cells = memory.cells := by
    funext address
    by_cases before : address < slice.start
    · exact write_cell_of_lt before
    · rcases Nat.exists_eq_add_of_le (Nat.le_of_not_lt before) with ⟨i, rfl⟩
      rw [write_cell, read, readAt, List.getElem?_map]
      cases found : (List.range slice.length)[i]? with
      | none => rfl
      | some index =>
        rw [List.getElem?_eq_some_iff] at found
        rcases found with ⟨_, rfl⟩
        rw [List.getElem_range]
        rfl
  exact congrArg (fun cells => { memory with cells := cells }) same

/-! ## Appending -/

theorem append_next_le (slice : Slice) (values : List Elem) :
    memory.next ≤ (memory.append slice values).2.next := by
  rw [append]
  split
  · exact Nat.le_refl _
  · exact Nat.le_add_right _ _

theorem holds_append (holds : memory.Holds slice) (values : List Elem) :
    (memory.append slice values).2.Holds (memory.append slice values).1 := by
  rw [append]
  split
  · exact holds
  · exact Nat.le_refl _

theorem Holds.append (holds : memory.Holds other) (slice : Slice) (values : List Elem) :
    (memory.append slice values).2.Holds other :=
  Nat.le_trans holds (append_next_le slice values)

theorem read_append (slice : Slice) (values : List Elem) :
    (memory.append slice values).2.read (memory.append slice values).1 =
      memory.read slice ++ values := by
  rw [append]
  split
  · change (memory.write (slice.start + slice.length) values).readAt slice.start
      (slice.length + values.length) = _
    rw [readAt_add, readAt_write_self]
    refine congrArg (· ++ values) (read_eq_iff.mpr (fun address shown => ?_))
    exact write_cell_of_lt shown.2
  · have count : (memory.read slice ++ values).length = slice.length + values.length := by
      simp [read, readAt]
    change (memory.write memory.next (memory.read slice ++ values)).readAt memory.next
      (slice.length + values.length) = _
    rw [← count, readAt_write_self]

theorem read_append_other_iff (holds : memory.Holds other) :
    (memory.append slice values).2.read other = memory.read other ↔
      memory.Spares slice values other := by
  rw [append, Spares]
  split
  · next room =>
      rw [forall_prop_of_true room]
      exact read_write_iff
  · next full =>
      refine iff_of_true (read_eq_iff.mpr (fun address shown => ?_)) (fun room => absurd room full)
      -- a new array stands behind all cells of the other slice
      apply write_cell_of_lt
      have inside := shown.2
      have whole := other.fits
      rw [Holds] at holds
      omega

end Memory

end Library
end Sentel
