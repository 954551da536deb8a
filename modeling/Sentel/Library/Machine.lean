import Mathlib.Logic.Relation

namespace Sentel
namespace Library

/-!
Machines driven by labels, and the states their runs reach.

A label carries every choice that a step leaves open: which process moves,
which branch of a `select` is taken, what an external call answers.  A step is
then a partial function, and a run is a list of labels.  Two kinds of
statement are proved about machines.  A property of all runs is an invariant,
established by one step lemma.  A property of the runs whose steps all meet a
condition uses the same rule with the condition as a guard on each step.
-/

universe u v

structure Machine (State : Type u) (Label : Type v) where
  initial : State
  step : State -> Label -> Option State

namespace Machine

variable {State : Type u} {Label : Type v}

/-- Execute a list of labels, failing at the first one that is not enabled. -/
def run (machine : Machine State Label) : State -> List Label -> Option State
  | state, [] => some state
  | state, label :: rest => (machine.step state label).bind (fun next => machine.run next rest)

@[simp] theorem run_nil (machine : Machine State Label) (state : State) :
    machine.run state [] = some state := rfl

@[simp] theorem run_cons (machine : Machine State Label) (state : State)
    (label : Label) (rest : List Label) :
    machine.run state (label :: rest) =
      (machine.step state label).bind (fun next => machine.run next rest) := rfl

inductive Reaches (machine : Machine State Label) (guard : State -> Label -> Prop) : State -> Prop
  | initial : Reaches machine guard machine.initial
  | step {state next : State} {label : Label} :
      Reaches machine guard state -> guard state label ->
      machine.step state label = some next -> Reaches machine guard next

/-- The states reached by any steps at all. -/
def Reachable (machine : Machine State Label) : State -> Prop :=
  machine.Reaches (fun _ _ => True)

variable {machine : Machine State Label} {guard : State -> Label -> Prop}
  {holds inv : State -> Prop} {state : State} {labels : List Label}

theorem Reaches.invariant (start : holds machine.initial)
    (keeps : forall {state label next}, holds state -> guard state label ->
      machine.step state label = some next -> holds next)
    (reached : machine.Reaches guard state) : holds state := by
  induction reached with
  | initial => exact start
  | step _ allowed taken ih => exact keeps ih allowed taken

/-- Every label of a list meets the guard where it is taken. -/
def Allowed (machine : Machine State Label) (guard : State -> Label -> Prop) :
    State -> List Label -> Prop
  | _, [] => True
  | state, label :: rest =>
    guard state label ∧
      match machine.step state label with
      | none => True
      | some next => machine.Allowed guard next rest

theorem reaches_of_run {final : State} (reached : machine.Reaches guard state)
    (allowed : machine.Allowed guard state labels)
    (executed : machine.run state labels = some final) : machine.Reaches guard final := by
  induction labels generalizing state with
  | nil =>
    rw [run_nil] at executed
    cases executed
    exact reached
  | cons label rest ih =>
    rw [run_cons] at executed
    rcases Option.bind_eq_some_iff.mp executed with ⟨next, taken, remaining⟩
    rw [Allowed, taken] at allowed
    exact ih (.step reached allowed.1 taken) allowed.2 remaining

instance (machine : Machine State Label) (guard : State -> Label -> Prop)
    [forall state label, Decidable (guard state label)] :
    (state : State) -> (labels : List Label) -> Decidable (machine.Allowed guard state labels)
  | _, [] => isTrue True.intro
  | state, label :: rest =>
    have : Decidable (match machine.step state label with
        | none => True
        | some next => machine.Allowed guard next rest) :=
      match machine.step state label with
      | none => isTrue True.intro
      | some next => instDecidableAllowed machine guard next rest
    inferInstanceAs (Decidable (_ ∧ _))

theorem Allowed.weaken {strong weak : State -> Label -> Prop}
    (weaker : forall state label, strong state label -> weak state label)
    (allowed : machine.Allowed strong state labels) : machine.Allowed weak state labels := by
  induction labels generalizing state with
  | nil => exact True.intro
  | cons label rest ih =>
    refine ⟨weaker state label allowed.1, ?_⟩
    have later := allowed.2
    cases taken : machine.step state label with
    | none => exact True.intro
    | some next =>
      rw [taken] at later
      exact ih later

theorem allowed_of_invariant
    (keeps : forall {state label next}, inv state -> machine.step state label = some next ->
      inv next)
    (meets : forall {state}, inv state -> forall label, guard state label) (start : inv state)
    (labels : List Label) : machine.Allowed guard state labels := by
  induction labels generalizing state with
  | nil => exact True.intro
  | cons label rest ih =>
    refine ⟨meets start label, ?_⟩
    cases taken : machine.step state label with
    | none => exact True.intro
    | some next => exact ih (keeps start taken)

theorem allowed_of_true (machine : Machine State Label) (state : State) (labels : List Label) :
    machine.Allowed (fun _ _ => True) state labels :=
  allowed_of_invariant (fun _ _ => True.intro) (fun _ _ => True.intro) True.intro labels

/-- Every state along a run has a property. -/
def Throughout (machine : Machine State Label) (holds : State -> Prop) :
    State -> List Label -> Prop
  | state, [] => holds state
  | state, label :: rest =>
    holds state ∧
      match machine.step state label with
      | none => True
      | some next => machine.Throughout holds next rest

theorem throughout_of_invariant {machine : Machine State Label} {inv holds : State -> Prop}
    (keeps : forall {state label next}, inv state -> machine.step state label = some next ->
      inv next)
    (implies : forall {state}, inv state -> holds state)
    {state : State} (start : inv state) (labels : List Label) :
    machine.Throughout holds state labels := by
  induction labels generalizing state with
  | nil => exact implies start
  | cons label rest ih =>
    refine ⟨implies start, ?_⟩
    cases taken : machine.step state label with
    | none => exact True.intro
    | some next => exact ih (keeps start taken)

theorem throughout_of_kept
    (keeps : forall {state label next}, holds state -> machine.step state label = some next ->
      holds next)
    (start : holds state) (labels : List Label) : machine.Throughout holds state labels :=
  throughout_of_invariant keeps id start labels

theorem throughout_iff_allowed_given {machine : Machine State Label}
    {inv holds : State -> Prop} {given guard : State -> Label -> Prop}
    (keeps : forall {state label next}, inv state -> given state label -> guard state label ->
      machine.step state label = some next -> inv next)
    (decides : forall {state label next}, inv state -> holds state -> given state label ->
      machine.step state label = some next -> (holds next ↔ guard state label))
    (idle : forall {state label}, inv state -> holds state -> machine.step state label = none ->
      guard state label)
    {state : State} (start : inv state) (good : holds state) {labels : List Label}
    (taken : machine.Allowed given state labels) :
    machine.Throughout holds state labels ↔ machine.Allowed guard state labels := by
  induction labels generalizing state with
  | nil => exact iff_of_true good True.intro
  | cons label rest ih =>
    rcases taken with ⟨first, others⟩
    rw [Throughout, Allowed]
    cases taken : machine.step state label with
    | none => exact iff_of_true ⟨good, True.intro⟩ ⟨idle start good taken, True.intro⟩
    | some next =>
      rw [taken] at others
      have exactly := decides start good first taken
      by_cases met : guard state label
      · have later := ih (keeps start first met taken) (exactly.mpr met) others
        exact and_congr (iff_of_true good met) later
      · -- a step that breaks the guard leads to a state without the property
        have broken : ¬ machine.Throughout holds next rest := by
          intro along
          cases rest with
          | nil => exact met (exactly.mp along)
          | cons => exact met (exactly.mp along.1)
        exact iff_of_false (fun along => broken along.2) (fun allowed => met allowed.1)

theorem throughout_iff_allowed_of_idle {machine : Machine State Label}
    {inv holds : State -> Prop} {guard : State -> Label -> Prop}
    (keeps : forall {state label next}, inv state -> guard state label ->
      machine.step state label = some next -> inv next)
    (decides : forall {state label next}, inv state -> holds state ->
      machine.step state label = some next -> (holds next ↔ guard state label))
    (idle : forall {state label}, inv state -> holds state -> machine.step state label = none ->
      guard state label)
    {state : State} (start : inv state) (good : holds state) (labels : List Label) :
    machine.Throughout holds state labels ↔ machine.Allowed guard state labels :=
  throughout_iff_allowed_given (fun inv _ => keeps inv) (fun inv good _ => decides inv good) idle
    start good (machine.allowed_of_true state labels)

theorem throughout_iff_allowed (keeps : forall {state label next}, inv state -> guard state label ->
      machine.step state label = some next -> inv next)
    (decides : forall {state label next}, inv state -> holds state ->
      machine.step state label = some next -> (holds next ↔ guard state label))
    (start : inv state) (good : holds state) (labels : List Label)
    (total : forall state label, exists next, machine.step state label = some next) :
    machine.Throughout holds state labels ↔ machine.Allowed guard state labels := by
  refine throughout_iff_allowed_of_idle keeps decides ?_ start good labels
  intro state label _ _ stuck
  rcases total state label with ⟨next, taken⟩
  rw [stuck] at taken
  cases taken

theorem allowed_congr {first second : State -> Label -> Prop}
    (keeps : forall {state label next}, inv state -> second state label ->
      machine.step state label = some next -> inv next)
    (agree : forall {state label}, inv state -> (first state label ↔ second state label))
    (start : inv state) (labels : List Label) :
    machine.Allowed first state labels ↔ machine.Allowed second state labels := by
  induction labels generalizing state with
  | nil => exact Iff.rfl
  | cons label rest ih =>
    rw [Allowed, Allowed]
    by_cases met : second state label
    · refine and_congr (agree start) ?_
      cases taken : machine.step state label with
      | none => exact Iff.rfl
      | some next => exact ih (keeps start met taken)
    · exact iff_of_false (fun allowed => met ((agree start).mp allowed.1))
        (fun allowed => met allowed.1)

theorem allowed_and {first second : State -> Label -> Prop} :
    machine.Allowed (fun state label => first state label ∧ second state label) state labels ↔
      machine.Allowed first state labels ∧ machine.Allowed second state labels := by
  induction labels generalizing state with
  | nil => exact (and_self_iff).symm
  | cons label rest ih =>
    rw [Allowed, Allowed, Allowed]
    cases machine.step state label with
    | none => simp only [and_true]
    | some next =>
      simp only [ih]
      exact and_and_and_comm

theorem reachable_of_run {final : State} (reached : machine.Reachable state)
    (executed : machine.run state labels = some final) : machine.Reachable final :=
  reaches_of_run reached (machine.allowed_of_true state labels) executed

end Machine

end Library
end Sentel
