import Mathlib.Algebra.BigOperators.Fin
import Mathlib.Algebra.Order.BigOperators.Group.List
import Mathlib.Algebra.Order.Group.Nat
import Mathlib.Data.List.TakeWhile
import Mathlib.Data.Nat.ModEq

namespace Sentel
namespace Mns

/-!
# The rate monitor of the client

A queue of the client counts its calls in a ring of buckets, one for each second,
and waits before a call as long as the rate is over the limit.  The ring is
advanced by calls only, never by the clock: a bucket keeps its count until a call
falls into it from another bucket.  This module tells by the times of the calls
which of them are counted after every sequence of calls, and compares the rate
that is returned with the calls of the last seconds.

Times are counted in seconds.
-/

/-- The number of buckets.  It is raised to five and is an `int32`. -/
structure Delay where
  seconds : Nat
  low : 5 ≤ seconds
  high : seconds < 2 ^ 31

namespace Delay

/-- The check in `NewQPSMonitor`. -/
def clamp (delaySecond : Int32) : Delay :=
  if small : delaySecond.toInt < 5 then ⟨5, by decide, by decide⟩
  else ⟨delaySecond.toInt.toNat, by omega, by have := delaySecond.toInt_lt; omega⟩

variable (delay : Delay)

/-- The bucket of a time: the second of the minute modulo the number of buckets. -/
def index (now : Nat) : Fin delay.seconds :=
  ⟨now % 60 % delay.seconds, Nat.mod_lt _ (Nat.lt_of_lt_of_le (by decide) delay.low)⟩

def first : Fin delay.seconds := ⟨0, Nat.lt_of_lt_of_le (by decide) delay.low⟩

end Delay

structure QPSMonitor (delay : Delay) where
  latestIndex : Fin delay.seconds
  totalQueries : Fin delay.seconds -> Int32

namespace QPSMonitor

variable {delay : Delay} (p : QPSMonitor delay)

/-- `NewQPSMonitor`, after the check of its argument. -/
def fresh (delay : Delay) : QPSMonitor delay where
  latestIndex := delay.first
  totalQueries := fun _ => 0

def newQPSMonitor (delaySecond : Int32) : QPSMonitor (Delay.clamp delaySecond) :=
  fresh (Delay.clamp delaySecond)

def enter (index : Fin delay.seconds) : QPSMonitor delay :=
  if p.latestIndex ≠ index then
    { latestIndex := index, totalQueries := Function.update p.totalQueries index 0 }
  else p

def pulse (now : Nat) : QPSMonitor delay :=
  let index := delay.index now
  let entered := p.enter index
  { entered with totalQueries :=
      Function.update entered.totalQueries index (entered.totalQueries index + 1) }

/-- The loop of `QPS`. -/
def totalCount : Int32 :=
  (List.finRange delay.seconds).foldl
    (fun total i => if i ≠ p.latestIndex then total + p.totalQueries i else total) 0

def qps : Int32 := p.totalCount / Int32.ofNat (delay.seconds - 1)

/-- The loop of `checkQPS`, for a number of rounds.  Nothing else changes the
monitor meanwhile. -/
def wait (qpsLimit : Int32) : Nat -> Option (QPSMonitor delay)
  | 0 => none
  | rounds + 1 => if qpsLimit < p.qps then wait qpsLimit rounds else some p

def checkQPS (qpsLimit : Int32) (now rounds : Nat) : Option (QPSMonitor delay) :=
  let pulsed := p.pulse now
  if 0 < qpsLimit then pulsed.wait qpsLimit rounds else some pulsed

/-- The monitor after a sequence of calls. -/
def after (delay : Delay) (pulses : List Nat) : QPSMonitor delay :=
  pulses.foldl pulse (fresh delay)

theorem after_clamp (delaySecond : Int32) (pulses : List Nat) :
    after (Delay.clamp delaySecond) pulses = pulses.foldl pulse (newQPSMonitor delaySecond) := rfl

/-! ## One call -/

theorem pulse_latestIndex (now : Nat) : (p.pulse now).latestIndex = delay.index now := by
  change (p.enter (delay.index now)).latestIndex = delay.index now
  rw [enter]
  split
  · rfl
  · next same => exact not_not.mp same

theorem pulse_totalQueries_index (now : Nat) :
    (p.pulse now).totalQueries (delay.index now) =
      (if p.latestIndex = delay.index now then p.totalQueries (delay.index now) else 0) + 1 := by
  rw [pulse]
  dsimp only
  rw [Function.update_self, enter]
  by_cases same : p.latestIndex = delay.index now
  · rw [if_neg (not_not.mpr same), if_pos same]
  · rw [if_pos same, if_neg same]
    dsimp only
    rw [Function.update_self]

theorem pulse_totalQueries_other {now : Nat} {i : Fin delay.seconds}
    (other : i ≠ delay.index now) : (p.pulse now).totalQueries i = p.totalQueries i := by
  rw [pulse]
  dsimp only
  rw [Function.update_of_ne other, enter]
  split
  · exact Function.update_of_ne other _ _
  · rfl

theorem after_snoc (pulses : List Nat) (now : Nat) :
    after delay (pulses ++ [now]) = (after delay pulses).pulse now := by
  rw [after, List.foldl_append]
  rfl

/-! ## The content of the buckets -/

variable (delay)

def others (second : Nat) (later : List Nat) : List Nat :=
  later.dropWhile (fun next => decide (delay.index next = delay.index second))

def Stands (second : Nat) (later : List Nat) : Prop :=
  ∀ next ∈ others delay second later, delay.index next ≠ delay.index second

instance (second : Nat) (later : List Nat) : Decidable (Stands delay second later) :=
  inferInstanceAs (Decidable (∀ next ∈ _, _))

/-- The calls that are counted: their bucket has been left and not been entered
again. -/
def counted : List Nat -> List Nat
  | [] => []
  | second :: later =>
    if others delay second later ≠ [] ∧ Stands delay second later then second :: counted later
    else counted later

def standing (i : Fin delay.seconds) : List Nat -> Nat
  | [] => 0
  | second :: later =>
    (if delay.index second = i ∧ Stands delay second later then 1 else 0) + standing i later

def latest (pulses : List Nat) : Fin delay.seconds :=
  (pulses.getLast?.map delay.index).getD delay.first

theorem latest_snoc (pulses : List Nat) (now : Nat) :
    latest delay (pulses ++ [now]) = delay.index now := by
  rw [latest, List.getLast?_append, List.getLast?_singleton]
  rfl

theorem after_latestIndex (pulses : List Nat) :
    (after delay pulses).latestIndex = latest delay pulses := by
  induction pulses using List.reverseRecOn with
  | nil => rfl
  | append_singleton pulses now ih => rw [after_snoc, pulse_latestIndex, latest_snoc]

variable {delay}

theorem others_snoc (second now : Nat) (later : List Nat) :
    others delay second (later ++ [now]) =
      if others delay second later = [] then others delay second [now]
      else others delay second later ++ [now] := by
  rw [others, List.dropWhile_append, ← others]
  simp only [List.isEmpty_iff]
  rfl

theorem stands_snoc_other {second now : Nat} (other : delay.index now ≠ delay.index second)
    (later : List Nat) : Stands delay second (later ++ [now]) ↔ Stands delay second later := by
  have last : others delay second [now] = [now] := by simp [others, other]
  rw [Stands, Stands, others_snoc]
  by_cases none : others delay second later = []
  · rw [if_pos none, last, none]
    simp [other]
  · rw [if_neg none, List.forall_mem_append]
    simp [other]

theorem stands_snoc_self {second now : Nat} (same : delay.index now = delay.index second)
    (later : List Nat) : Stands delay second (later ++ [now]) ↔ others delay second later = [] := by
  have last : others delay second [now] = [] := by simp [others, same]
  rw [Stands, others_snoc]
  by_cases none : others delay second later = []
  · rw [if_pos none, last]
    simp [none]
  · rw [if_neg none, List.forall_mem_append]
    simp [none, same]

theorem latest_eq_iff {second : Nat} {later : List Nat} (nonempty : later ≠ [])
    (stands : Stands delay second later) :
    latest delay later = delay.index second ↔ others delay second later = [] := by
  constructor
  · intro same
    rcases List.eq_nil_or_concat' (others delay second later) with none | ⟨init, last, some⟩
    · exact none
    · have whole : later = later.takeWhile (fun next =>
          decide (delay.index next = delay.index second)) ++ init ++ [last] := by
        rw [List.append_assoc, ← some]
        exact (List.takeWhile_append_dropWhile).symm
      rw [whole, latest_snoc] at same
      exact absurd same (stands last (by simp [some]))
  · intro none
    rcases List.eq_nil_or_concat' later with empty | ⟨init, last, rfl⟩
    · exact absurd empty nonempty
    · rw [latest_snoc]
      simpa using List.dropWhile_eq_nil_iff.mp none last (by simp)

theorem latest_cons {later : List Nat} (nonempty : later ≠ []) (second : Nat) :
    latest delay (second :: later) = latest delay later := by
  rw [latest, latest, List.getLast?_cons_of_ne_nil nonempty]

theorem standing_snoc_other {i : Fin delay.seconds} {now : Nat} (other : i ≠ delay.index now)
    (pulses : List Nat) : standing delay i (pulses ++ [now]) = standing delay i pulses := by
  induction pulses with
  | nil => simp [standing, other.symm]
  | cons second later ih =>
    rw [List.cons_append, standing, standing, ih]
    congr 1
    apply if_congr _ rfl rfl
    refine and_congr_right (fun here => stands_snoc_other ?_ later)
    rw [here]
    exact other.symm

theorem standing_snoc_self (now : Nat) (pulses : List Nat) :
    standing delay (delay.index now) (pulses ++ [now]) =
      (if latest delay pulses = delay.index now then standing delay (delay.index now) pulses
        else 0) + 1 := by
  induction pulses with
  | nil => simp [standing, Stands, others]
  | cons second later ih =>
    rw [List.cons_append, standing, ih, standing, ← Nat.add_assoc]
    apply congrArg (· + 1)
    by_cases nonempty : later = []
    · subst nonempty
      have empty : standing delay (delay.index now) [] = 0 := rfl
      rw [empty, ite_self]
      by_cases same : delay.index second = delay.index now <;>
        simp [latest, Stands, others, same]
    · rw [latest_cons nonempty]
      by_cases here : delay.index second = delay.index now
      · have directly : others delay second later = [] ->
            Stands delay second later ∧ latest delay later = delay.index now := by
          intro none
          have stands : Stands delay second later := by simp [Stands, none]
          exact ⟨stands, here ▸ (latest_eq_iff nonempty stands).mpr none⟩
        simp only [here, true_and, stands_snoc_self here.symm]
        by_cases same : latest delay later = delay.index now
        · rw [if_pos same, if_pos same, if_congr ⟨fun none => (directly none).1, fun stands =>
            (latest_eq_iff nonempty stands).mp (same.trans here.symm)⟩ rfl rfl]
        · rw [if_neg same, if_neg same, if_neg (fun none => same (directly none).2)]
      · simp [here]

theorem after_totalQueries (pulses : List Nat) (i : Fin delay.seconds) :
    (after delay pulses).totalQueries i = Int32.ofNat (standing delay i pulses) := by
  induction pulses using List.reverseRecOn with
  | nil => rfl
  | append_singleton pulses now ih =>
    rw [after_snoc]
    by_cases same : i = delay.index now
    · subst same
      rw [pulse_totalQueries_index, standing_snoc_self, ih, after_latestIndex, Int32.ofNat_add]
      split <;> rfl
    · rw [pulse_totalQueries_other _ same, standing_snoc_other same, ih]

theorem sum_standing (pulses : List Nat) :
    (∑ i, if i ≠ latest delay pulses then standing delay i pulses else 0) =
      (counted delay pulses).length := by
  induction pulses with
  | nil => simp [standing, counted]
  | cons second later ih =>
    by_cases nonempty : later = []
    · subst nonempty
      apply Finset.sum_eq_zero
      intro i _
      by_cases here : i = delay.index second <;> simp [standing, latest, here, Ne.symm]
    · have apart (i : Fin delay.seconds) :
          (if i ≠ latest delay later then standing delay i (second :: later) else 0) =
            (if i ≠ latest delay later then standing delay i later else 0) +
              if delay.index second = i then
                if others delay second later ≠ [] ∧ Stands delay second later then 1 else 0
              else 0 := by
        rw [standing]
        by_cases here : delay.index second = i
        · subst here
          by_cases stands : Stands delay second later
          · have left := eq_comm.trans (latest_eq_iff nonempty stands)
            by_cases none : others delay second later = [] <;>
              simp [none, stands, left, Nat.add_comm]
          · simp [stands]
        · simp [here]
      rw [latest_cons nonempty, Finset.sum_congr rfl (fun i _ => apart i),
        Finset.sum_add_distrib, Finset.sum_ite_eq, if_pos (Finset.mem_univ _), ih, counted]
      split <;> rfl

theorem totalCount_eq {counts : Fin delay.seconds -> Nat}
    (counted : forall i, p.totalQueries i = Int32.ofNat (counts i)) :
    p.totalCount = Int32.ofNat (∑ i, if i ≠ p.latestIndex then counts i else 0) := by
  have loop (listed : List (Fin delay.seconds)) (total : Nat) :
      listed.foldl (fun total i => if i ≠ p.latestIndex then total + p.totalQueries i else total)
          (Int32.ofNat total) =
        Int32.ofNat
          (total + (listed.map (fun i => if i ≠ p.latestIndex then counts i else 0)).sum) := by
    induction listed generalizing total with
    | nil => rfl
    | cons i rest ih =>
      rw [List.foldl_cons, List.map_cons, List.sum_cons, ← Nat.add_assoc]
      by_cases other : i ≠ p.latestIndex
      · rw [if_pos other, if_pos other, counted, ← Int32.ofNat_add, ih]
      · rw [if_neg other, if_neg other, ih, Nat.add_zero]
  rw [Fin.sum_univ_def, totalCount, ← Nat.zero_add (List.sum _)]
  exact loop _ 0

theorem after_totalCount (delay : Delay) (pulses : List Nat) :
    (after delay pulses).totalCount = Int32.ofNat (counted delay pulses).length := by
  rw [totalCount_eq _ (after_totalQueries pulses), after_latestIndex, sum_standing]

theorem qps_toInt : p.qps.toInt = p.totalCount.toInt.tdiv (delay.seconds - 1 : Nat) := by
  have low := delay.low
  have small : delay.seconds - 1 < 2 ^ 31 := Nat.lt_of_le_of_lt (Nat.sub_le _ _) delay.high
  have divisor : (Int32.ofNat (delay.seconds - 1)).toInt = (delay.seconds - 1 : Nat) :=
    Int32.toInt_ofNat_of_lt small
  have sign : Int32.ofNat (delay.seconds - 1) ≠ -1 := by
    intro equal
    rw [equal] at divisor
    have : (-1 : Int32).toInt = -1 := by decide
    omega
  rw [qps, Int32.toInt_div_of_ne_right _ _ sign, divisor]

/-! ## Waiting -/

theorem wait_isSome_iff (qpsLimit : Int32) :
    (exists rounds, (p.wait qpsLimit rounds).isSome) ↔ ¬ qpsLimit < p.qps := by
  constructor
  · rintro ⟨rounds, ends⟩ high
    induction rounds with
    | zero => cases ends
    | succ rounds ih =>
      rw [wait, if_pos high] at ends
      exact ih ends
  · intro low
    refine ⟨1, ?_⟩
    rw [wait, if_neg low]
    rfl

theorem checkQPS_isSome_iff (pulses : List Nat) (now : Nat) (qpsLimit : Int32) :
    (exists rounds, ((after delay pulses).checkQPS qpsLimit now rounds).isSome) ↔
      ¬ (0 < qpsLimit ∧ qpsLimit < (after delay (pulses ++ [now])).qps) := by
  rw [after_snoc]
  by_cases limited : 0 < qpsLimit
  · have waits (rounds : Nat) : (after delay pulses).checkQPS qpsLimit now rounds =
        ((after delay pulses).pulse now).wait qpsLimit rounds := if_pos limited
    simp only [waits, wait_isSome_iff, limited, true_and]
  · refine iff_of_true ⟨0, ?_⟩ (fun both => limited both.1)
    rw [checkQPS, if_neg limited]
    rfl

/-! ## The rate -/

/-- The calls in the seconds before the current one that the rate is about. -/
def window (delay : Delay) (pulses : List Nat) (now : Nat) : List Nat :=
  pulses.filter (fun second => second < now ∧ now ≤ second + (delay.seconds - 1))

/-- The rate that is returned at a time is that of the calls in the last seconds.
Without calls it has fallen to zero, and a call that waits goes on. -/
structure Accurate (delay : Delay) (pulses : List Nat) (now : Nat) : Prop where
  rate : (after delay pulses).qps.toInt =
    ((window delay pulses now).length / (delay.seconds - 1) : Nat)
  idle : (∀ second ∈ pulses, second + delay.seconds ≤ now) -> (after delay pulses).qps = 0
  ends : (∀ second ∈ pulses, second + delay.seconds ≤ now) ->
    forall qpsLimit, 0 < qpsLimit -> exists rounds,
      ((after delay pulses).wait qpsLimit rounds).isSome

/-- The rate is right exactly if the calls that are counted and the calls of the
last seconds give the same quotient. -/
theorem accurate_iff (delaySecond : Int32) (pulses : List Nat) (now : Nat) :
    Accurate (Delay.clamp delaySecond) pulses now ↔
      (Int32.ofNat (counted (Delay.clamp delaySecond) pulses).length).toInt.tdiv
          ((Delay.clamp delaySecond).seconds - 1 : Nat) =
        ((window (Delay.clamp delaySecond) pulses now).length /
          ((Delay.clamp delaySecond).seconds - 1) : Nat) := by
  generalize Delay.clamp delaySecond = delay
  rw [← after_totalCount, ← qps_toInt]
  refine ⟨Accurate.rate, fun rate => ?_⟩
  have zero (past : ∀ second ∈ pulses, second + delay.seconds ≤ now) :
      (after delay pulses).qps = 0 := by
    have none : window delay pulses now = [] := by
      rw [window, List.filter_eq_nil_iff]
      intro second pulsed
      have long := past second pulsed
      have low := delay.low
      simp only [decide_eq_true_eq]
      omega
    rw [none, List.length_nil, Nat.zero_div] at rate
    exact Int32.toInt_inj.mp rate
  refine ⟨rate, zero, fun past qpsLimit positive => ?_⟩
  rw [wait_isSome_iff, zero past, Int32.lt_iff_toInt_lt]
  rw [Int32.lt_iff_toInt_lt] at positive
  omega

/-- Eight calls in one second and one in the next: the rate stays at two for ever,
and a call that waits for a rate of one never goes on. -/
theorem idle_rate_stays :
    (after (Delay.clamp 5) (List.replicate 8 0 ++ [1])).qps = 2 ∧
      (forall rounds, (after (Delay.clamp 5) (List.replicate 8 0 ++ [1])).wait 1 rounds = none) ∧
      ¬ Accurate (Delay.clamp 5) (List.replicate 8 0 ++ [1]) 100 := by
  have rate : (after (Delay.clamp 5) (List.replicate 8 0 ++ [1])).qps = 2 := by decide
  refine ⟨rate, ?_, ?_⟩
  · intro rounds
    rw [← Option.not_isSome_iff_eq_none]
    intro ends
    refine (wait_isSome_iff _ 1).mp ⟨rounds, ends⟩ ?_
    rw [rate]
    decide
  · intro accurate
    have zero := accurate.idle (by decide)
    rw [rate] at zero
    exact absurd zero (by decide)

/-! ## Steady calls

The ring counts right while no second passes without a call, provided that the
number of buckets divides the minute.  With another number the buckets are taken
up in another order when the minute ends. -/

/-- Each call is made in the second of the one before it or in the next. -/
def Steady (pulses : List Nat) : Prop :=
  pulses.IsChain (fun second next => next = second ∨ next = second + 1)

theorem Steady.snoc {pulses : List Nat} {last now : Nat}
    (steady : Steady (pulses ++ [last] ++ [now])) :
    Steady (pulses ++ [last]) ∧ (now = last ∨ now = last + 1) := by
  rw [Steady, List.isChain_append] at steady
  refine ⟨steady.1, steady.2.2 last ?_ now rfl⟩
  rw [List.getLast?_append]
  rfl

theorem Steady.le {pulses : List Nat} {now : Nat} (steady : Steady (pulses ++ [now])) :
    ∀ second ∈ pulses ++ [now], second ≤ now := by
  induction pulses using List.reverseRecOn generalizing now with
  | nil =>
    intro second pulsed
    exact Nat.le_of_eq (List.mem_singleton.mp pulsed)
  | append_singleton pulses last ih =>
    intro second pulsed
    rcases List.mem_append.mp pulsed with earlier | here
    · have before := ih steady.snoc.1 second earlier
      have next := steady.snoc.2
      omega
    · exact Nat.le_of_eq (List.mem_singleton.mp here)

def held (delay : Delay) (pulses : List Nat) (now : Nat) (i : Fin delay.seconds) : Nat :=
  pulses.countP (fun second => now < second + delay.seconds ∧ delay.index second = i)

theorem held_snoc_self (pulses : List Nat) (now : Nat) :
    held delay (pulses ++ [now]) now (delay.index now) =
      held delay pulses now (delay.index now) + 1 := by
  have low := delay.low
  rw [held, List.countP_append, List.countP_singleton, if_pos (decide_eq_true ⟨by omega, rfl⟩)]
  rfl

theorem held_snoc_other {now : Nat} {i : Fin delay.seconds} (other : i ≠ delay.index now)
    (pulses : List Nat) : held delay (pulses ++ [now]) now i = held delay pulses now i := by
  have missed : ¬ decide (now < now + delay.seconds ∧ delay.index now = i) = true := by
    rw [decide_eq_true_eq]
    exact fun both => other both.2.symm
  rw [held, List.countP_append, List.countP_singleton, if_neg missed]
  rfl

theorem sum_held (pulses : List Nat) (now : Nat) (k : Fin delay.seconds) :
    (∑ i, if i ≠ k then held delay pulses now i else 0) =
      pulses.countP (fun second => now < second + delay.seconds ∧ delay.index second ≠ k) := by
  induction pulses with
  | nil => simp [held]
  | cons second rest ih =>
    rw [List.countP_cons, ← ih]
    have split (i : Fin delay.seconds) :
        (if i ≠ k then held delay (second :: rest) now i else 0) =
          (if i ≠ k then held delay rest now i else 0) +
            if delay.index second = i then
              if now < second + delay.seconds ∧ delay.index second ≠ k then 1 else 0 else 0 := by
      rw [held, List.countP_cons, ← held]
      by_cases here : delay.index second = i
      · subst here
        by_cases other : delay.index second = k
        · simp [other]
        · simp [other]
      · simp [here]
    rw [Finset.sum_congr rfl (fun i _ => split i), Finset.sum_add_distrib, Finset.sum_ite_eq]
    simp

section Divides

variable (divides : delay.seconds ∣ 60)
include divides

theorem index_eq_iff (a b : Nat) : delay.index a = delay.index b ↔ Nat.ModEq delay.seconds a b := by
  rw [Fin.ext_iff]
  change a % 60 % delay.seconds = b % 60 % delay.seconds ↔ _
  rw [Nat.mod_mod_of_dvd a divides, Nat.mod_mod_of_dvd b divides]
  rfl

theorem eq_of_index_eq {a b : Nat} (order : a ≤ b) (near : b < a + delay.seconds)
    (same : delay.index a = delay.index b) : a = b := by
  have turns : delay.seconds ∣ b - a :=
    (Nat.modEq_iff_dvd' order).mp ((index_eq_iff divides a b).mp same)
  have none := Nat.eq_zero_of_dvd_of_lt turns (by omega)
  omega

theorem held_next_self {pulses : List Nat} {last : Nat} (past : ∀ second ∈ pulses, second ≤ last) :
    held delay pulses (last + 1) (delay.index (last + 1)) = 0 := by
  rw [held, List.countP_eq_zero]
  intro second pulsed
  have before := past second pulsed
  rw [decide_eq_true_eq]
  rintro ⟨near, same⟩
  have := eq_of_index_eq divides (by omega) near same
  omega

theorem held_next_other {last : Nat} {i : Fin delay.seconds} (other : i ≠ delay.index (last + 1))
    (pulses : List Nat) : held delay pulses (last + 1) i = held delay pulses last i := by
  apply List.countP_congr
  intro second pulsed
  simp only [decide_eq_true_eq]
  constructor
  · rintro ⟨near, here⟩
    exact ⟨by omega, here⟩
  · rintro ⟨near, here⟩
    have turn : second + delay.seconds ≠ last + 1 := by
      intro equal
      apply other
      rw [← here, ← equal, index_eq_iff divides]
      exact (Nat.add_mod_right second delay.seconds).symm
    exact ⟨by omega, here⟩

theorem after_totalQueries_of_steady {pulses : List Nat} {now : Nat}
    (steady : Steady (pulses ++ [now])) (i : Fin delay.seconds) :
    (after delay (pulses ++ [now])).totalQueries i =
      Int32.ofNat (held delay (pulses ++ [now]) now i) := by
  have low := delay.low
  induction pulses using List.reverseRecOn generalizing now with
  | nil =>
    rw [after_snoc]
    by_cases same : i = delay.index now
    · subst same
      rw [pulse_totalQueries_index, held_snoc_self]
      change (if _ then (0 : Int32) else 0) + 1 = _
      rw [ite_self]
      rfl
    · rw [pulse_totalQueries_other _ same, held_snoc_other same]
      rfl
  | append_singleton pulses last ih =>
    have before := steady.snoc.1
    rw [after_snoc]
    rcases steady.snoc.2 with rfl | rfl
    · -- The second of the last call: its bucket counts on.
      by_cases same : i = delay.index now
      · subst same
        rw [pulse_totalQueries_index, after_latestIndex, latest_snoc, if_pos rfl, ih before,
          held_snoc_self (pulses ++ [now]) now, Int32.ofNat_add]
        rfl
      · rw [pulse_totalQueries_other _ same, ih before, held_snoc_other same (pulses ++ [now])]
    · -- The next second: its bucket starts again, and what it held is a turn old.
      by_cases same : i = delay.index (last + 1)
      · subst same
        have entered : delay.index last ≠ delay.index (last + 1) := by
          intro equal
          have := eq_of_index_eq divides (Nat.le_succ last) (by omega) equal
          omega
        rw [pulse_totalQueries_index, after_latestIndex, latest_snoc, if_neg entered,
          held_snoc_self, held_next_self divides before.le]
        rfl
      · rw [pulse_totalQueries_other _ same, ih before, held_snoc_other same,
          held_next_other divides same]

/-- The rate after steady calls is that of the window, with the overflow of its
type. -/
theorem qps_of_steady {pulses : List Nat} {now : Nat} (steady : Steady (pulses ++ [now])) :
    (after delay (pulses ++ [now])).qps =
      Int32.ofNat (window delay (pulses ++ [now]) now).length /
        Int32.ofNat (delay.seconds - 1) := by
  have low := delay.low
  rw [qps, totalCount_eq _ (after_totalQueries_of_steady divides steady), after_latestIndex,
    latest_snoc, sum_held, window, ← List.countP_eq_length_filter]
  congr 2
  apply List.countP_congr
  intro second pulsed
  have past := steady.le second pulsed
  simp only [decide_eq_true_eq]
  constructor
  · rintro ⟨near, other⟩
    have different : second ≠ now := fun equal => other (congrArg delay.index equal)
    omega
  · rintro ⟨before, near⟩
    refine ⟨by omega, ?_⟩
    intro same
    have := eq_of_index_eq divides past (by omega) same
    omega

omit divides in
/-- Six calls in two seconds and one in the next. -/
theorem seventh_call_rate : (after ⟨5, by decide, by decide⟩ [0, 0, 0, 1, 1, 1, 2]).qps = 6 / 4 :=
  @qps_of_steady ⟨5, by decide, by decide⟩ (by decide) [0, 0, 0, 1, 1, 1] 2 (by simp [Steady])

end Divides

end QPSMonitor
end Mns
end Sentel
