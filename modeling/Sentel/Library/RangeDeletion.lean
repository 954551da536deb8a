import Mathlib.Algebra.Group.Nat.Defs
import Mathlib.Data.List.Induction
import Mathlib.Logic.Function.Iterate
import Sentel.Library.Handler

namespace Sentel
namespace Library

/-!
Deleting from a slice while ranging over it.

A range loop copies the header of its slice once and reads the entries from the
array that the slice shares.  A deletion in the body moves the later entries
one place down and shortens the slice of the loop's owner, but not the header
of the loop.  Two things go wrong.  The entry behind a deleted one takes its
place and is not looked at.  And at the end the loop reads the places that were
given up: they hold the last entry, and if it passes the test, the deletion is
asked for behind the end of the slice.

A loop that does not panic halves every block of adjacent entries that pass
the test.
-/

variable {Item : Type}

def sweepFrom (test : Item -> Bool) : Nat -> Nat -> List Item -> Nat -> Except Panic (List Item)
  | 0, _, array, live => .ok (array.take live)
  | rounds + 1, index, array, live =>
    match array[index]? with
    | none => .error .indexOutOfRange
    | some item =>
      if test item then
        if index + 1 ≤ live then
          sweepFrom test rounds (index + 1)
            (array.take index ++ (array.take live).drop (index + 1) ++ array.drop (live - 1))
            (live - 1)
        else .error .sliceOutOfRange
      else sweepFrom test rounds (index + 1) array live

def sweep (test : Item -> Bool) (items : List Item) : Except Panic (List Item) :=
  sweepFrom test items.length 0 items items.length

def skim (test : Item -> Bool) : List Item -> List Item
  | [] => []
  | [item] => if test item then [] else [item]
  | item :: next :: later =>
    if test item then next :: skim test later else item :: skim test (next :: later)

/-- The last entry passes the test and is not the only one. -/
def overruns (test : Item -> Bool) (items : List Item) : Bool :=
  items.getLast?.any test && items.dropLast.any test

/-! ## The loop -/

theorem sweepFrom_stale (test : Item -> Bool) (array : List Item) {index live rounds : Nat}
    (behind : live ≤ index) (size : index + rounds = array.length) :
    sweepFrom test rounds index array live =
      if (array.drop index).any test then .error .sliceOutOfRange else .ok (array.take live) := by
  induction rounds generalizing index with
  | zero =>
    have nothing : array.drop index = [] := List.drop_eq_nil_of_le (by omega)
    rw [nothing]
    rfl
  | succ rounds ih =>
    have inside : index < array.length := by omega
    have found : array[index]? = some array[index] := List.getElem?_eq_getElem inside
    rw [sweepFrom]
    simp only [found]
    rw [List.drop_eq_getElem_cons inside, List.any_cons]
    by_cases passes : test array[index] = true
    · have beyond : ¬ index + 1 ≤ live := by omega
      rw [if_pos passes, if_neg beyond]
      simp [passes]
    · rw [if_neg passes, ih (by omega) (by omega)]
      simp [passes]

section Rounds

variable (test : Item -> Bool) (front stale : List Item) {item : Item} (rest : List Item)

theorem getElem?_pending : (front ++ (item :: rest) ++ stale)[front.length]? = some item := by
  simp

theorem sweepFrom_keep (fails : ¬ test item = true) :
    sweepFrom test ((item :: rest).length + stale.length) front.length
        (front ++ (item :: rest) ++ stale) (front.length + (item :: rest).length) =
      sweepFrom test (rest.length + stale.length) (front ++ [item]).length
        ((front ++ [item]) ++ rest ++ stale) ((front ++ [item]).length + rest.length) := by
  have rounds : (item :: rest).length + stale.length = rest.length + stale.length + 1 := by
    rw [List.length_cons]
    omega
  rw [rounds, sweepFrom]
  simp only [getElem?_pending]
  rw [if_neg fails]
  simp only [List.length_append, List.length_cons, List.length_nil, List.append_assoc,
    List.cons_append, List.nil_append]
  congr 1
  omega

theorem sweepFrom_delete (passes : test item = true) :
    sweepFrom test ((item :: rest).length + stale.length) front.length
        (front ++ (item :: rest) ++ stale) (front.length + (item :: rest).length) =
      sweepFrom test (rest.length + stale.length) (front.length + 1)
        (front ++ rest ++ ((item :: rest).getLast (List.cons_ne_nil _ _) :: stale))
        (front.length + rest.length) := by
  have rounds : (item :: rest).length + stale.length = rest.length + stale.length + 1 := by
    rw [List.length_cons]
    omega
  have room : front.length + 1 ≤ front.length + (item :: rest).length := by
    rw [List.length_cons]
    omega
  have before : (front ++ (item :: rest) ++ stale).take front.length = front := by
    rw [List.append_assoc, List.take_left]
  have moved : ((front ++ (item :: rest) ++ stale).take
      (front.length + (item :: rest).length)).drop (front.length + 1) = rest := by
    rw [← List.length_append, List.take_left, ← List.drop_drop, List.drop_left]
    rfl
  have given : (front ++ (item :: rest) ++ stale).drop
      (front.length + (item :: rest).length - 1) =
      (item :: rest).getLast (List.cons_ne_nil _ _) :: stale := by
    have parts : front ++ (item :: rest) ++ stale =
        (front ++ (item :: rest).dropLast) ++
          ((item :: rest).getLast (List.cons_ne_nil _ _) :: stale) := by
      conv_lhs => rw [← List.dropLast_concat_getLast (List.cons_ne_nil item rest)]
      simp only [List.append_assoc, List.cons_append, List.nil_append]
    have size : front.length + (item :: rest).length - 1 =
        (front ++ (item :: rest).dropLast).length := by
      rw [List.length_append, List.length_dropLast, List.length_cons]
      omega
    rw [size, parts, List.drop_left]
  have shorter : front.length + (item :: rest).length - 1 = front.length + rest.length := by
    rw [List.length_cons]
    omega
  rw [rounds, sweepFrom]
  simp only [getElem?_pending]
  rw [if_pos passes, if_pos room, before, moved, given, shorter]

end Rounds

theorem overruns_cons (test : Item -> Bool) (item : Item) (rest : List Item) :
    overruns test (item :: rest) =
      (test ((item :: rest).getLast (List.cons_ne_nil _ _)) &&
        (item :: rest).dropLast.any test) := by
  rw [overruns, List.getLast?_eq_some_getLast (List.cons_ne_nil _ _)]
  rfl

theorem overruns_cons_cons (test : Item -> Bool) (item next : Item) (later : List Item) :
    overruns test (item :: next :: later) =
      if test item then test ((next :: later).getLast (List.cons_ne_nil _ _))
      else overruns test (next :: later) := by
  rw [overruns_cons, overruns_cons, List.getLast_cons_cons, List.dropLast_cons_cons, List.any_cons]
  cases test item <;> simp

variable {test : Item -> Bool} {item : Item} {items : List Item}

theorem last_of_overruns {next : Item} {later : List Item} (overrun : overruns test later = true) :
    test ((next :: later).getLast (List.cons_ne_nil _ _)) = true := by
  cases later with
  | nil => cases overrun
  | cons item rest =>
    rw [overruns_cons, Bool.and_eq_true] at overrun
    rw [List.getLast_cons_cons]
    exact overrun.1

theorem sweepFrom_nil (test : Item -> Bool) (front stale : List Item) :
    sweepFrom test (([] : List Item).length + stale.length) front.length (front ++ [] ++ stale)
        (front.length + ([] : List Item).length) =
      if stale.any test then .error .sliceOutOfRange else .ok front := by
  rw [sweepFrom_stale test _ (by simp) (by simp)]
  simp

theorem sweepFrom_eq (test : Item -> Bool) (front pending stale : List Item) :
    sweepFrom test (pending.length + stale.length) front.length (front ++ pending ++ stale)
        (front.length + pending.length) =
      if stale.any test || overruns test pending then .error .sliceOutOfRange
      else .ok (front ++ skim test pending) := by
  induction pending using skim.induct test generalizing front stale with
  | case1 =>
    rw [sweepFrom_nil]
    simp [overruns, skim]
  | case2 item passes =>
    rw [sweepFrom_delete test front stale [] passes,
      sweepFrom_stale test _ (by simp) (by simp; omega)]
    simp [overruns, skim, passes]
  | case3 item fails =>
    rw [sweepFrom_keep test front stale [] fails, sweepFrom_nil]
    simp [overruns, skim, fails]
  | case4 item next later passes ih =>
    have rounds : (next :: later).length + stale.length =
        later.length + ((next :: later).getLast (List.cons_ne_nil _ _) :: stale).length := by
      simp only [List.length_cons]
      omega
    have index : front.length + 1 = (front ++ [next]).length := by simp
    have live : front.length + (next :: later).length =
        (front ++ [next]).length + later.length := by
      simp only [List.length_append, List.length_cons, List.length_nil]
      omega
    have array : front ++ next :: later = front ++ [next] ++ later := by simp
    rw [sweepFrom_delete test front stale (next :: later) passes, List.getLast_cons_cons,
      rounds, index, live, array, ih, overruns_cons_cons, if_pos passes, skim, if_pos passes,
      List.append_assoc, List.singleton_append, List.any_cons]
    -- a loop that overruns on the rest does so because of the last entry
    cases overrun : overruns test later with
    | true => simp [last_of_overruns overrun]
    | false => simp [Bool.or_comm]
  | case5 item next later fails ih =>
    rw [sweepFrom_keep test front stale (next :: later) fails, ih, overruns_cons_cons,
      if_neg fails, skim, if_neg fails, List.append_assoc, List.singleton_append]

theorem sweep_eq (test : Item -> Bool) (items : List Item) :
    sweep test items =
      if overruns test items then .error .sliceOutOfRange else .ok (skim test items) := by
  have whole := sweepFrom_eq test [] items []
  simpa [sweep] using whole

/-! ## What is left -/

theorem skim_pos (passes : test item = true) (next : Item) (later : List Item) :
    skim test (item :: next :: later) = next :: skim test later := by
  rw [skim, if_pos passes]

theorem skim_neg (fails : ¬ test item = true) (rest : List Item) :
    skim test (item :: rest) = item :: skim test rest := by
  cases rest with
  | nil => simp [skim, fails]
  | cons next later => rw [skim, if_neg fails]

theorem filter_skim (test : Item -> Bool) (items : List Item) :
    (skim test items).filter (fun item => !test item) = items.filter (fun item => !test item) := by
  induction items using skim.induct test with
  | case1 => rfl
  | case2 item passes => simp [skim, passes]
  | case3 item fails => simp [skim, fails]
  | case4 item next later passes ih =>
    rw [skim_pos passes, List.filter_cons, ih, List.filter_cons, List.filter_cons]
    simp [passes]
  | case5 item next later fails ih =>
    rw [skim_neg fails, List.filter_cons, List.filter_cons, ih]

theorem getLast?_skim (fails : items.getLast?.any test = false) :
    (skim test items).getLast? = items.getLast? := by
  induction items using skim.induct test with
  | case1 => rfl
  | case2 item passes => simp [passes] at fails
  | case3 item kept => simp [skim, kept]
  | case4 item next later passes ih =>
    rw [List.getLast?_cons_cons] at fails ⊢
    rw [skim_pos passes, List.getLast?_cons, List.getLast?_cons, ih]
    cases last : later.getLast? with
    | none => rfl
    | some entry => rwa [List.getLast?_cons, last] at fails
  | case5 item next later kept ih =>
    rw [List.getLast?_cons_cons] at fails ⊢
    rw [skim_neg kept, List.getLast?_cons, ih fails, List.getLast?_cons]
    rfl

theorem skim_concat {front : List Item} {last : Item} (fails : front.any test = false)
    (passes : test last = true) : skim test (front ++ [last]) = front := by
  induction front with
  | nil => rw [List.nil_append, skim, if_pos passes]
  | cons item rest ih =>
    rw [List.any_cons, Bool.or_eq_false_iff] at fails
    rw [List.cons_append, skim_neg (by simp [fails.1]), ih fails.2]

theorem overruns_skim (fine : overruns test items = false) :
    overruns test (skim test items) = false := by
  rw [overruns, Bool.and_eq_false_iff] at fine
  cases passes : items.getLast?.any test with
  | false => rw [overruns, getLast?_skim passes, passes, Bool.false_and]
  | true =>
    rw [passes] at fine
    have front := fine.resolve_left (by simp)
    cases items using List.reverseRecOn with
    | nil => cases passes
    | append_singleton items last _ =>
      rw [List.getLast?_concat] at passes
      rw [List.dropLast_concat] at front
      rw [skim_concat front passes, overruns]
      refine Bool.and_eq_false_iff.mpr (.inr ?_)
      rw [List.any_eq_false] at front ⊢
      intro item member
      exact front item (List.dropLast_sublist items |>.subset member)

/-- The sizes of the blocks of adjacent entries that pass the test; the blocks
are separated by the entries that fail it, so some may be empty. -/
def blocks (test : Item -> Bool) : List Item -> List Nat
  | [] => [0]
  | item :: rest =>
    if test item then (blocks test rest).modifyHead Nat.succ else 0 :: blocks test rest

theorem blocks_pos (passes : test item = true) (rest : List Item) :
    blocks test (item :: rest) = (blocks test rest).modifyHead Nat.succ := by
  rw [blocks, if_pos passes]

theorem blocks_neg (fails : ¬ test item = true) (rest : List Item) :
    blocks test (item :: rest) = 0 :: blocks test rest := by
  rw [blocks, if_neg fails]

theorem map_half_modifyHead (sizes : List Nat) :
    ((sizes.modifyHead Nat.succ).modifyHead Nat.succ).map (fun size => size / 2) =
      (sizes.map (fun size => size / 2)).modifyHead Nat.succ := by
  cases sizes with
  | nil => rfl
  | cons size rest =>
    simp only [List.modifyHead_cons, List.map_cons]
    congr 1
    omega

theorem blocks_skim (test : Item -> Bool) (items : List Item) :
    blocks test (skim test items) = (blocks test items).map (fun size => size / 2) := by
  induction items using skim.induct test with
  | case1 => rfl
  | case2 item passes => simp [skim, blocks, passes]
  | case3 item fails => simp [skim, blocks, fails]
  | case4 item next later passes ih =>
    rw [skim, if_pos passes, blocks_pos passes]
    by_cases next_passes : test next = true
    · rw [blocks_pos next_passes, blocks_pos next_passes, map_half_modifyHead, ih]
    · rw [blocks_neg next_passes, blocks_neg next_passes, ih]
      rfl
  | case5 item next later fails ih =>
    rw [skim, if_neg fails, blocks_neg fails, blocks_neg fails, ih]
    rfl

theorem blocks_iterate_skim (test : Item -> Bool) (count : Nat) (items : List Item) :
    blocks test ((skim test)^[count] items) =
      (blocks test items).map (fun size => size / 2 ^ count) := by
  induction count generalizing items with
  | zero => simp
  | succ count ih =>
    rw [Function.iterate_succ_apply, ih, blocks_skim, List.map_map]
    refine List.map_congr_left (fun size _ => ?_)
    rw [Function.comp_apply, Nat.div_div_eq_div_mul, Nat.pow_succ, Nat.mul_comm]

theorem blocks_ne_nil (test : Item -> Bool) (items : List Item) : blocks test items ≠ [] := by
  induction items with
  | nil => exact List.cons_ne_nil _ _
  | cons item rest ih =>
    by_cases passes : test item = true
    · rw [blocks_pos passes]
      simpa using ih
    · rw [blocks_neg passes]
      exact List.cons_ne_nil _ _

theorem blocks_zero_iff :
    (forall size, size ∈ blocks test items -> size = 0) ↔
      forall item, item ∈ items -> test item = false := by
  induction items with
  | nil => simp [blocks]
  | cons item rest ih =>
    by_cases passes : test item = true
    · rw [blocks_pos passes]
      refine iff_of_false ?_ ?_
      · intro zero
        rcases List.exists_cons_of_ne_nil (blocks_ne_nil test rest) with ⟨size, others, shape⟩
        rw [shape] at zero
        exact Nat.succ_ne_zero size (zero _ List.mem_cons_self)
      · intro none
        have fails := none item List.mem_cons_self
        rw [passes] at fails
        cases fails
    · rw [blocks_neg passes]
      simp [ih, passes]

theorem filter_iterate_skim (test : Item -> Bool) (count : Nat) (items : List Item) :
    ((skim test)^[count] items).filter (fun item => !test item) =
      items.filter (fun item => !test item) := by
  induction count generalizing items with
  | zero => rfl
  | succ count ih => rw [Function.iterate_succ_apply, ih, filter_skim]

theorem iterate_skim_eq_filter_iff (test : Item -> Bool) (count : Nat) (items : List Item) :
    (skim test)^[count] items = items.filter (fun item => !test item) ↔
      forall size, size ∈ blocks test items -> size < 2 ^ count := by
  have emptied : (forall item, item ∈ (skim test)^[count] items -> test item = false) ↔
      forall size, size ∈ blocks test items -> size < 2 ^ count := by
    rw [← blocks_zero_iff, blocks_iterate_skim]
    simp only [List.mem_map, forall_exists_index, and_imp, forall_apply_eq_imp_iff₂]
    refine forall_congr' (fun size => imp_congr_right (fun _ => ?_))
    rw [Nat.div_eq_zero_iff]
    exact or_iff_right (Nat.ne_of_gt (Nat.two_pow_pos count))
  rw [← emptied]
  constructor
  · intro same item member
    rw [same] at member
    simpa using (List.mem_filter.mp member).2
  · intro fails
    rw [← filter_iterate_skim test count items]
    refine (List.filter_eq_self.mpr (fun item member => ?_)).symm
    rw [fails item member]
    rfl

end Library
end Sentel
