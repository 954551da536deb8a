import Sentel.Library.Handler

namespace Sentel
namespace Library
namespace Handler

/-!
The accesses that a handler makes to one part of its state.

A handler is a function of the state, so what it did on the way is not visible
from its result.  A decomposition of a handler names the calls it consists of:
those that access the part, and those that leave the part alone.  It is data,
indexed by the handler that it decomposes, and lists every access of a run with
the part before and after it.  What one access keeps then holds at every access
of every run.

The calls between the accesses may panic only where they are excused.  What the
excuse is about, the ground, is not changed by any call, so a run that panics
does so in an access or is excused from its start on.
-/

variable {State Effect Failure Part Ground : Type}

/-- One access: the part before and after it, and the panic it ended with. -/
structure Access (Part : Type) where
  before : Part
  after : Part
  panic : Option Panic

def panicOf {Value : Type} (run : Run State Effect Failure Value) : Option Panic :=
  match run.outcome with
  | .panic cause => some cause
  | _ => none

theorem panicOf_ends {Value : Type} {run : Run State Effect Failure Value}
    (ends : run.outcome.Ends) : panicOf run = none := by
  rw [panicOf]
  cases ended : run.outcome with
  | ok value | error reason => rfl
  | panic cause =>
    rw [ended] at ends
    cases ends
  | diverges => rfl

theorem attempt_panic_iff {Value : Type} {call : Handler State Effect Failure Value} {state : State}
    {cause : Panic} :
    (attempt call state).outcome = .panic cause ↔ (call state).outcome = .panic cause := by
  rw [attempt]
  cases (call state).outcome <;> simp

theorem panic_of_bind {Value Next : Type} {call : Handler State Effect Failure Value}
    {next : Value -> Handler State Effect Failure Next} {state : State} {cause : Panic}
    (stopped : forall value, (call state).outcome ≠ .ok value)
    (panicked : ((call >>= next) state).outcome = .panic cause) :
    (call state).outcome = .panic cause := by
  change (andThen call next state).outcome = _ at panicked
  rw [andThen] at panicked
  cases ended : (call state).outcome with
  | ok value => exact absurd ended (stopped value)
  | error reason | panic other | diverges =>
    rw [ended] at panicked
    cases panicked <;> rfl

def accessOf {Value : Type} (part : State -> Part) (call : Handler State Effect Failure Value)
    (state : State) : Access Part :=
  ⟨part state, part (call state).state, panicOf (call state)⟩

inductive Stepwise (part : State -> Part) (ground : State -> Ground)
    (excuse : Ground -> Panic -> Prop)
    (accesses : (Value : Type) -> Handler State Effect Failure Value -> Prop) :
    (Value : Type) -> Handler State Effect Failure Value -> Type 1
  | access {Value : Type} {call : Handler State Effect Failure Value}
      (listed : accesses Value call) : Stepwise part ground excuse accesses Value call
  | attempt {Value : Type} {call : Handler State Effect Failure Value}
      (listed : accesses Value call) :
      Stepwise part ground excuse accesses (Except Failure Value) (Handler.attempt call)
  | spare {Value : Type} {call : Handler State Effect Failure Value}
      (blind : forall state value, (call state).outcome = .ok value ->
        part (call state).state = part state ∧ ground (call state).state = ground state)
      (calm : forall state cause, (call state).outcome = .panic cause ->
        excuse (ground state) cause) : Stepwise part ground excuse accesses Value call
  | branch {Value : Type} {condition : Prop} [Decidable condition]
      {yes no : Handler State Effect Failure Value}
      (first : Stepwise part ground excuse accesses Value yes)
      (second : Stepwise part ground excuse accesses Value no) :
      Stepwise part ground excuse accesses Value (if condition then yes else no)
  | bind {Value Next : Type} {call : Handler State Effect Failure Value}
      {next : Value -> Handler State Effect Failure Next}
      (first : Stepwise part ground excuse accesses Value call)
      (later : forall value, Stepwise part ground excuse accesses Next (next value)) :
      Stepwise part ground excuse accesses Next (call >>= next)

namespace Stepwise

variable {part : State -> Part} {ground : State -> Ground} {excuse : Ground -> Panic -> Prop}
  {accesses : (Value : Type) -> Handler State Effect Failure Value -> Prop}

/-- The accesses of a run, in order. -/
def steps : {Value : Type} -> {handler : Handler State Effect Failure Value} ->
    Stepwise part ground excuse accesses Value handler -> State -> List (Access Part)
  | _, call, .access _, state => [accessOf part call state]
  | _, _, @attempt _ _ _ _ _ _ _ _ _ _ call _, state => [accessOf part call state]
  | _, _, .spare _ _, _ => []
  | _, _, @branch _ _ _ _ _ _ _ _ _ _ condition _ _ _ first second, state =>
    if condition then first.steps state else second.steps state
  | _, _, @bind _ _ _ _ _ _ _ _ _ _ _ call _ first later, state =>
    first.steps state ++
      match (call state).outcome with
      | .ok value => (later value).steps (call state).state
      | _ => []

def answered {Value Next : Type} {next : Except Failure Value -> Handler State Effect Failure Next}
    (returned : forall value, Stepwise part ground excuse accesses Next (next (.ok value)))
    (failed : forall reason, Stepwise part ground excuse accesses Next (next (.error reason))) :
    (answer : Except Failure Value) -> Stepwise part ground excuse accesses Next (next answer)
  | .ok value => returned value
  | .error reason => failed reason

section Bind

variable {Value Next : Type} {call : Handler State Effect Failure Value}
  {next : Value -> Handler State Effect Failure Next} {state : State}
  {first : Stepwise part ground excuse accesses Value call}
  {later : forall value, Stepwise part ground excuse accesses Next (next value)}

theorem steps_bind_of_returned {value : Value} (returned : (call state).outcome = .ok value) :
    (bind first later).steps state =
      first.steps state ++ (later value).steps (call state).state := by
  rw [steps, returned]

theorem steps_bind_of_stopped (stopped : forall value, (call state).outcome ≠ .ok value) :
    (bind first later).steps state = first.steps state := by
  rw [steps]
  cases ended : (call state).outcome with
  | ok value => exact absurd ended (stopped value)
  | error reason | panic cause | diverges => exact List.append_nil _

end Bind

variable {Value : Type} {handler : Handler State Effect Failure Value}

theorem holds_throughout {inv : Part -> Prop} {good : Access Part -> Prop}
    (kept : forall (Value : Type) (call : Handler State Effect Failure Value),
      accesses Value call -> forall state, inv (part state) ->
        good (accessOf part call state) ∧ inv (part (call state).state))
    (tree : Stepwise part ground excuse accesses Value handler) (state : State)
    (holds : inv (part state)) :
    (forall step, step ∈ tree.steps state -> good step) ∧
      forall value, (handler state).outcome = .ok value -> inv (part (handler state).state) := by
  induction tree generalizing state with
  | access listed =>
    have one := kept _ _ listed state holds
    refine ⟨fun step member => ?_, fun _ _ => one.2⟩
    rw [List.mem_singleton.mp member]
    exact one.1
  | attempt listed =>
    have one := kept _ _ listed state holds
    refine ⟨fun step member => ?_, fun value _ => ?_⟩
    · rw [List.mem_singleton.mp member]
      exact one.1
    · rw [attempt_state]
      exact one.2
  | spare blind _ =>
    refine ⟨fun step member => absurd member List.not_mem_nil, fun value returned => ?_⟩
    rw [(blind state value returned).1]
    exact holds
  | @branch _ condition _ _ _ first second yes no =>
    rw [steps]
    by_cases taken : condition
    · rw [if_pos taken, if_pos taken]
      exact yes state holds
    · rw [if_neg taken, if_neg taken]
      exact no state holds
  | @bind _ _ call next first later ihFirst ihLater =>
    have before := ihFirst state holds
    rcases returned_or_stopped call state with ⟨value, returned⟩ | stopped
    · have after := ihLater value (call state).state (before.2 value returned)
      rw [steps_bind_of_returned returned, bind_of_returned returned]
      refine ⟨fun step member => ?_, after.2⟩
      exact (List.mem_append.mp member).elim (before.1 step) (after.1 step)
    · rw [steps_bind_of_stopped stopped]
      exact ⟨before.1, fun value ended =>
        absurd ended ((bind_of_stopped next stopped).2.2.1 value)⟩

theorem panics_or_excused
    (grounded : forall (Value : Type) (call : Handler State Effect Failure Value),
      accesses Value call -> forall state, ground (call state).state = ground state)
    (tree : Stepwise part ground excuse accesses Value handler) (state : State) :
    (forall value, (handler state).outcome = .ok value ->
      ground (handler state).state = ground state) ∧
    forall cause, (handler state).outcome = .panic cause ->
      (∃ step ∈ tree.steps state, step.panic = some cause) ∨ excuse (ground state) cause := by
  have listed {Value : Type} {call : Handler State Effect Failure Value} {state : State}
      {cause : Panic} (panicked : (call state).outcome = .panic cause) :
      ∃ step ∈ [accessOf part call state], step.panic = some cause := by
    refine ⟨_, List.mem_singleton_self _, ?_⟩
    rw [accessOf, panicOf, panicked]
  induction tree generalizing state with
  | access reads =>
    exact ⟨fun _ _ => grounded _ _ reads state, fun _ panicked => .inl (listed panicked)⟩
  | @attempt _ call reads =>
    refine ⟨fun _ _ => ?_, fun cause panicked => .inl ?_⟩
    · rw [attempt_state]
      exact grounded _ _ reads state
    · exact listed (attempt_panic_iff.mp panicked)
  | spare blind calm =>
    exact ⟨fun value returned => (blind state value returned).2,
      fun cause panicked => .inr (calm state cause panicked)⟩
  | @branch _ condition _ _ _ first second yes no =>
    rw [steps]
    by_cases taken : condition
    · rw [if_pos taken, if_pos taken]
      exact yes state
    · rw [if_neg taken, if_neg taken]
      exact no state
  | @bind _ _ call next first later ihFirst ihLater =>
    rcases ihFirst state with ⟨same, before⟩
    rcases returned_or_stopped call state with ⟨value, returned⟩ | stopped
    · rcases ihLater value (call state).state with ⟨sameAfter, after⟩
      rw [same value returned] at after sameAfter
      rw [steps_bind_of_returned returned, bind_of_returned returned]
      refine ⟨sameAfter, fun cause panicked => (after cause panicked).imp_left ?_⟩
      rintro ⟨step, member, panic⟩
      exact ⟨step, List.mem_append_right _ member, panic⟩
    · rw [steps_bind_of_stopped stopped]
      exact ⟨fun value ended => absurd ended ((bind_of_stopped next stopped).2.2.1 value),
        fun cause panicked => before cause (panic_of_bind stopped panicked)⟩

end Stepwise

end Handler
end Library
end Sentel
