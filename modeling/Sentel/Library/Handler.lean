import Mathlib.Data.List.Basic

namespace Sentel
namespace Library

/-!
Computations that emit effects, change a state and may stop early.

A handler of the source runs to an ordinary result, returns an error, panics
or never returns.  Whatever happens, the effects emitted so far have taken
place and the state keeps the changes made so far.  A run therefore reports
all three: the effects in order, the way it ended and the state it left.

The rules below derive what a handler can emit from its parts, in the shape of
the handler itself.
-/

universe u

/-- The causes of a run-time panic that the modelled code can meet. -/
inductive Panic
  | indexOutOfRange
  | sliceOutOfRange
  | nilDereference
  deriving DecidableEq, Repr

/-- The ways a call can end. -/
inductive Outcome (Failure Value : Type)
  | ok (value : Value)
  | error (reason : Failure)
  | panic (cause : Panic)
  | diverges
  deriving DecidableEq

def Outcome.Ends {Failure Value : Type} : Outcome Failure Value -> Prop
  | .ok _ => True
  | .error _ => True
  | .panic _ => False
  | .diverges => False

/-- What one execution of a handler did. -/
structure Run (State Effect Failure Value : Type) where
  effects : List Effect
  outcome : Outcome Failure Value
  state : State

def Handler (State Effect Failure Value : Type) : Type :=
  State -> Run State Effect Failure Value

namespace Handler

variable {State Effect Failure Value Next : Type}

def done (value : Value) : Handler State Effect Failure Value :=
  fun state => ⟨[], .ok value, state⟩

def andThen (first : Handler State Effect Failure Value)
    (next : Value -> Handler State Effect Failure Next) : Handler State Effect Failure Next :=
  fun state =>
    let before := first state
    match before.outcome with
    | .ok value =>
      let after := next value before.state
      ⟨before.effects ++ after.effects, after.outcome, after.state⟩
    | .error reason => ⟨before.effects, .error reason, before.state⟩
    | .panic cause => ⟨before.effects, .panic cause, before.state⟩
    | .diverges => ⟨before.effects, .diverges, before.state⟩

instance : Monad (Handler State Effect Failure) where
  pure := done
  bind := andThen

def fail (reason : Failure) : Handler State Effect Failure Value :=
  fun state => ⟨[], .error reason, state⟩

def crash (cause : Panic) : Handler State Effect Failure Value :=
  fun state => ⟨[], .panic cause, state⟩

def spin : Handler State Effect Failure Value :=
  fun state => ⟨[], .diverges, state⟩

def emit (effect : Effect) : Handler State Effect Failure Unit :=
  fun state => ⟨[effect], .ok (), state⟩

def when (condition : Prop) [Decidable condition] (action : Handler State Effect Failure Unit) :
    Handler State Effect Failure Unit :=
  if condition then action else done ()

def failIf (condition : Prop) [Decidable condition] (reason : Failure) :
    Handler State Effect Failure Unit :=
  when condition (fail reason)

def look : Handler State Effect Failure State :=
  fun state => ⟨[], .ok state, state⟩

def change (update : State -> State) : Handler State Effect Failure Unit :=
  fun state => ⟨[], .ok (), update state⟩

def attempt (call : Handler State Effect Failure Value) :
    Handler State Effect Failure (Except Failure Value) :=
  fun state =>
    let run := call state
    match run.outcome with
    | .ok value => ⟨run.effects, .ok (.ok value), run.state⟩
    | .error reason => ⟨run.effects, .ok (.error reason), run.state⟩
    | .panic cause => ⟨run.effects, .panic cause, run.state⟩
    | .diverges => ⟨run.effects, .diverges, run.state⟩

/-- Run a call whose error is dropped. -/
def ignore (call : Handler State Effect Failure Value) : Handler State Effect Failure Unit :=
  andThen (attempt call) (fun _ => done ())

def failWith (problem : Option Failure) : Handler State Effect Failure Unit :=
  match problem with
  | none => done ()
  | some reason => fail reason

def ofPanic (answer : Except Panic Value) : Handler State Effect Failure Value :=
  match answer with
  | .ok value => done value
  | .error cause => crash cause

def locking (held : Bool) (call : Handler State Effect Failure Value) :
    Handler State Effect Failure Value :=
  if held then spin else call

def within {Part : Type} (part : State -> Part) (replace : Part -> State -> State)
    (inner : Handler Part Effect Failure Value) : Handler State Effect Failure Value :=
  fun state =>
    let run := inner (part state)
    ⟨run.effects, run.outcome, replace run.state state⟩

def building {Part : Type} (start : Part) (inner : Handler Part Effect Failure Unit) :
    Handler State Effect Failure Part :=
  fun state =>
    let run := inner start
    match run.outcome with
    | .ok _ => ⟨run.effects, .ok run.state, state⟩
    | .error reason => ⟨run.effects, .error reason, state⟩
    | .panic cause => ⟨run.effects, .panic cause, state⟩
    | .diverges => ⟨run.effects, .diverges, state⟩

/-! ## Executing handlers -/

section Executing

variable {call : Handler State Effect Failure Value}
  {next : Value -> Handler State Effect Failure Next} {state after : State}
  {effects : List Effect}

@[simp] theorem pure_apply (value : Value) :
    (pure value : Handler State Effect Failure Value) state = ⟨[], .ok value, state⟩ := rfl

@[simp] theorem fail_apply (reason : Failure) :
    (fail reason : Handler State Effect Failure Value) state = ⟨[], .error reason, state⟩ := rfl

@[simp] theorem emit_apply (effect : Effect) :
    (emit effect : Handler State Effect Failure Unit) state = ⟨[effect], .ok (), state⟩ := rfl

@[simp] theorem change_apply (update : State -> State) :
    (change update : Handler State Effect Failure Unit) state = ⟨[], .ok (), update state⟩ := rfl

@[simp] theorem pure_bind_apply (value : Value) : (pure value >>= next) state = next value state :=
  rfl

@[simp] theorem look_bind_apply (next : State -> Handler State Effect Failure Next) :
    (look >>= next) state = next state state := rfl

@[simp] theorem change_bind_apply (update : State -> State)
    (next : Unit -> Handler State Effect Failure Next) :
    (change update >>= next) state = next () (update state) := rfl

@[simp] theorem ofPanic_ok_bind_apply (value : Value) :
    (ofPanic (.ok value) >>= next) state = next value state := rfl

theorem failWith_returned {problem : Option Failure}
    (returned : (failWith problem state : Run State Effect Failure Unit).outcome = .ok ()) :
    (failWith problem state : Run State Effect Failure Unit) = ⟨[], .ok (), state⟩ := by
  cases problem with
  | none => rfl
  | some reason => cases returned

section Conditions

variable {condition : Prop} [Decidable condition] {unitNext : Unit -> Handler State Effect Failure Next}

theorem when_pos (holds : condition) (action : Handler State Effect Failure Unit) :
    when condition action = action := if_pos holds

theorem when_neg (fails : ¬ condition) (action : Handler State Effect Failure Unit) :
    when condition action = done () := if_neg fails

theorem when_emit_apply (effect : Effect) :
    (when condition (emit effect) : Handler State Effect Failure Unit) state =
      ⟨if condition then [effect] else [], .ok (), state⟩ := by
  by_cases holds : condition
  · rw [when_pos holds, if_pos holds]
    rfl
  · rw [when_neg holds, if_neg holds]
    rfl

theorem when_neg_bind_apply (fails : ¬ condition) (action : Handler State Effect Failure Unit) :
    (when condition action >>= unitNext) state = unitNext () state := by
  rw [when_neg fails]
  rfl

theorem failIf_neg_bind_apply (fails : ¬ condition) (reason : Failure) :
    (failIf condition reason >>= unitNext) state = unitNext () state :=
  when_neg_bind_apply fails _

theorem failIf_pos_bind_apply (holds : condition) (reason : Failure) :
    (failIf condition reason >>= unitNext) state = ⟨[], .error reason, state⟩ := by
  rw [failIf, when_pos holds]
  rfl

theorem returned_of_failIf {reason : Failure} {result : Next}
    (returned : ((failIf condition reason >>= unitNext) state).outcome = .ok result) :
    (unitNext () state).outcome = .ok result := by
  by_cases holds : condition
  · rw [failIf_pos_bind_apply holds] at returned
    cases returned
  · rwa [failIf_neg_bind_apply holds] at returned

theorem passed_of_failIf {reason : Failure} {result : Next}
    (returned : ((failIf condition reason >>= unitNext) state).outcome = .ok result) :
    ¬ condition := by
  intro holds
  rw [failIf_pos_bind_apply holds] at returned
  cases returned

end Conditions

def precede (effects : List Effect) (run : Run State Effect Failure Value) :
    Run State Effect Failure Value :=
  ⟨effects ++ run.effects, run.outcome, run.state⟩

@[simp] theorem precede_nil (run : Run State Effect Failure Value) : precede [] run = run := rfl

@[simp] theorem precede_effects (run : Run State Effect Failure Value) :
    (precede effects run).effects = effects ++ run.effects := rfl

@[simp] theorem precede_outcome (run : Run State Effect Failure Value) :
    (precede effects run).outcome = run.outcome := rfl

@[simp] theorem precede_state (run : Run State Effect Failure Value) :
    (precede effects run).state = run.state := rfl

theorem precede_precede (first second : List Effect) (run : Run State Effect Failure Value) :
    precede first (precede second run) = precede (first ++ second) run := by
  rw [precede, precede, precede, List.append_assoc]

variable {value : Value}

theorem bind_of_ok (returned : call state = ⟨effects, .ok value, after⟩) :
    (call >>= next) state = precede effects (next value after) := by
  change andThen call next state = _
  rw [andThen, returned]
  rfl

theorem bind_of_returned (returned : (call state).outcome = .ok value) :
    (call >>= next) state =
      precede (call state).effects (next value (call state).state) := by
  apply bind_of_ok
  rw [← returned]

theorem returned_or_stopped (call : Handler State Effect Failure Value) (state : State) :
    (exists value, (call state).outcome = .ok value) ∨
      forall value, (call state).outcome ≠ .ok value := by
  rw [← not_exists]
  exact Classical.em _

theorem bind_of_stopped (next : Value -> Handler State Effect Failure Next)
    (stopped : forall value, (call state).outcome ≠ .ok value) :
    ((call >>= next) state).effects = (call state).effects ∧
      ((call >>= next) state).state = (call state).state ∧
      (forall value, ((call >>= next) state).outcome ≠ .ok value) ∧
      (forall reason, ((call >>= next) state).outcome = .error reason ↔
        (call state).outcome = .error reason) := by
  change (andThen call next state).effects = _ ∧ (andThen call next state).state = _ ∧
    (forall value, (andThen call next state).outcome ≠ _) ∧
    (forall reason, (andThen call next state).outcome = _ ↔ _)
  rw [andThen]
  cases ended : (call state).outcome with
  | ok value => exact absurd ended (stopped value)
  | error reason | panic cause | diverges => simp

theorem bind_congr_of_stopped (stopped : forall value, (call state).outcome ≠ .ok value)
    (next other : Value -> Handler State Effect Failure Next) :
    (call >>= next) state = (call >>= other) state := by
  change andThen call next state = andThen call other state
  rw [andThen, andThen]
  cases ended : (call state).outcome with
  | ok value => exact absurd ended (stopped value)
  | error reason | panic cause | diverges => rfl

theorem bind_congr_apply {other : Value -> Handler State Effect Failure Next}
    (same : forall value, (call state).outcome = .ok value ->
      next value (call state).state = other value (call state).state) :
    (call >>= next) state = (call >>= other) state := by
  rcases returned_or_stopped call state with ⟨value, returned⟩ | stopped
  · rw [bind_of_returned returned, bind_of_returned returned, same value returned]
  · exact bind_congr_of_stopped stopped next other

theorem bind_assoc_apply {Last : Type} (last : Next -> Handler State Effect Failure Last) :
    ((call >>= next) >>= last) state = (call >>= fun value => next value >>= last) state := by
  change andThen (andThen call next) last state =
    andThen call (fun value => andThen (next value) last) state
  simp only [andThen]
  cases (call state).outcome with
  | error reason | panic cause | diverges => rfl
  | ok value =>
    cases ended : (next value (call state).state).outcome with
    | ok result | error reason | panic cause | diverges => simp [ended]

theorem returned_of_bind {result : Next} (returned : ((call >>= next) state).outcome = .ok result) :
    exists value, (call state).outcome = .ok value ∧
      (next value (call state).state).outcome = .ok result := by
  rcases returned_or_stopped call state with ⟨value, first⟩ | stopped
  · rw [bind_of_returned first] at returned
    exact ⟨value, first, returned⟩
  · exact absurd returned ((bind_of_stopped next stopped).2.2.1 result)

theorem mem_bind_effects {effect : Effect} (member : effect ∈ (call state).effects) :
    effect ∈ ((call >>= next) state).effects := by
  rcases returned_or_stopped call state with ⟨value, returned⟩ | stopped
  · rw [bind_of_returned returned]
    exact List.mem_append_left _ member
  · rw [(bind_of_stopped next stopped).1]
    exact member

theorem bind_of_error {reason : Failure} (failed : (call state).outcome = .error reason) :
    (call >>= next) state = ⟨(call state).effects, .error reason, (call state).state⟩ := by
  change andThen call next state = _
  rw [andThen, failed]

theorem bind_of_panic {cause : Panic} (panicked : (call state).outcome = .panic cause) :
    (call >>= next) state = ⟨(call state).effects, .panic cause, (call state).state⟩ := by
  change andThen call next state = _
  rw [andThen, panicked]

theorem attempt_of_panic {cause : Panic} (panicked : (call state).outcome = .panic cause) :
    attempt call state = ⟨(call state).effects, .panic cause, (call state).state⟩ := by
  rw [attempt, panicked]

theorem attempt_of_ok (returned : (call state).outcome = .ok value) :
    attempt call state = ⟨(call state).effects, .ok (.ok value), (call state).state⟩ := by
  rw [attempt, returned]

theorem attempt_of_error {reason : Failure} (failed : (call state).outcome = .error reason) :
    attempt call state = ⟨(call state).effects, .ok (.error reason), (call state).state⟩ := by
  rw [attempt, failed]

theorem attempt_of_returned (returned : call state = ⟨effects, .ok value, after⟩) :
    attempt call state = ⟨effects, .ok (.ok value), after⟩ := by
  rw [attempt, returned]

@[simp] theorem attempt_effects : (attempt call state).effects = (call state).effects := by
  rw [attempt]
  cases (call state).outcome <;> rfl

@[simp] theorem attempt_state : (attempt call state).state = (call state).state := by
  rw [attempt]
  cases (call state).outcome <;> rfl

theorem returned_of_attempt (returned : (attempt call state).outcome = .ok (.ok value)) :
    (call state).outcome = .ok value := by
  rw [attempt] at returned
  cases ended : (call state).outcome with
  | ok other =>
    rw [ended] at returned
    cases returned
    rfl
  | error reason | panic cause | diverges =>
    rw [ended] at returned
    cases returned

theorem attempt_bind_of_ok (returned : call state = ⟨effects, .ok value, after⟩) :
    attempt (call >>= next) state = precede effects (attempt (next value) after) := by
  rw [attempt, bind_of_ok returned, precede_outcome, attempt]
  cases (next value after).outcome <;> rfl

theorem bind_of_precede {other : Handler State Effect Failure Value}
    (same : call state = precede effects (other after)) :
    (call >>= next) state = precede effects ((other >>= next) after) := by
  change andThen call next state = precede effects (andThen other next after)
  rw [andThen, andThen, same, precede_outcome]
  cases (other after).outcome with
  | ok value => simp [precede]
  | error reason | panic cause | diverges => rfl

theorem ignore_of_ok (returned : call state = ⟨effects, .ok value, after⟩) :
    ignore call state = ⟨effects, .ok (), after⟩ := by
  change (attempt call >>= fun _ => pure ()) state = _
  rw [bind_of_ok (attempt_of_returned returned)]
  simp [precede]

theorem ignore_of_error {reason : Failure} (failed : call state = ⟨effects, .error reason, after⟩) :
    ignore call state = ⟨effects, .ok (), after⟩ := by
  have caught := @attempt_of_error _ _ _ _ call state reason (by rw [failed])
  rw [failed] at caught
  change (attempt call >>= fun _ => pure ()) state = _
  rw [bind_of_ok caught]
  simp [precede]

theorem ignore_of_ends (ends : (call state).outcome.Ends) :
    ignore call state = ⟨(call state).effects, .ok (), (call state).state⟩ := by
  cases ended : (call state).outcome with
  | ok value =>
    apply ignore_of_ok
    rw [← ended]
  | error reason =>
    apply ignore_of_error
    rw [← ended]
  | panic cause | diverges =>
    rw [ended] at ends
    exact ends.elim

theorem ends_of_ignore (returned : (ignore call state).outcome = .ok ()) :
    (call state).outcome.Ends := by
  change (andThen (attempt call) (fun _ => done ()) state).outcome = _ at returned
  rw [andThen, attempt] at returned
  cases ended : (call state).outcome with
  | ok value | error reason => exact True.intro
  | panic cause | diverges =>
    rw [ended] at returned
    cases returned

theorem ends_bind (ends : (call state).outcome.Ends)
    (nextEnds : forall value, (call state).outcome = .ok value ->
      (next value (call state).state).outcome.Ends) :
    ((call >>= next) state).outcome.Ends := by
  cases ended : (call state).outcome with
  | ok value =>
    rw [bind_of_returned ended]
    exact nextEnds value ended
  | error reason =>
    rw [bind_of_error ended]
    exact True.intro
  | panic cause | diverges =>
    rw [ended] at ends
    exact ends.elim

theorem ends_bind_pure (result : Next) :
    ((call >>= fun _ => pure result) state).outcome.Ends ↔ (call state).outcome.Ends := by
  change (andThen call (fun _ => done result) state).outcome.Ends ↔ _
  rw [andThen]
  cases (call state).outcome <;> exact Iff.rfl

theorem attempt_of_stuck (notOk : forall value, (call state).outcome ≠ .ok value)
    (notError : forall reason, (call state).outcome ≠ .error reason) :
    (attempt call state).effects = (call state).effects ∧
      (attempt call state).state = (call state).state ∧
      forall answer, (attempt call state).outcome ≠ .ok answer := by
  rw [attempt]
  cases ended : (call state).outcome with
  | ok value => exact absurd ended (notOk value)
  | error reason => exact absurd ended (notError reason)
  | panic cause | diverges => simp

end Executing

/-! ## What a handler keeps -/

def Keeps (inv : State -> Prop) (allowed : Effect -> Prop)
    (handler : Handler State Effect Failure Value) : Prop :=
  forall state, inv state ->
    (forall effect, effect ∈ (handler state).effects -> allowed effect) ∧
      inv (handler state).state

namespace Keeps

variable {inv : State -> Prop} {allowed : Effect -> Prop}

theorem quiet {handler : Handler State Effect Failure Value}
    (silent : forall state, (handler state).effects = [])
    (same : forall state, (handler state).state = state) : Keeps inv allowed handler := by
  intro state holds
  rw [silent, same]
  exact ⟨fun _ member => absurd member List.not_mem_nil, holds⟩

theorem pure (value : Value) :
    Keeps inv allowed (Pure.pure value : Handler State Effect Failure Value) :=
  quiet (fun _ => rfl) (fun _ => rfl)

theorem fail (reason : Failure) :
    Keeps inv allowed (Handler.fail reason : Handler State Effect Failure Value) :=
  quiet (fun _ => rfl) (fun _ => rfl)

theorem crash (cause : Panic) :
    Keeps inv allowed (Handler.crash cause : Handler State Effect Failure Value) :=
  quiet (fun _ => rfl) (fun _ => rfl)

theorem spin : Keeps inv allowed (Handler.spin : Handler State Effect Failure Value) :=
  quiet (fun _ => rfl) (fun _ => rfl)

theorem look : Keeps inv allowed (Handler.look : Handler State Effect Failure State) :=
  quiet (fun _ => rfl) (fun _ => rfl)

theorem failWith (problem : Option Failure) :
    Keeps inv allowed (Handler.failWith problem : Handler State Effect Failure Unit) := by
  cases problem with
  | none => exact pure ()
  | some reason => exact fail reason

theorem ofPanic (answer : Except Panic Value) :
    Keeps inv allowed (Handler.ofPanic answer : Handler State Effect Failure Value) := by
  cases answer with
  | ok value => exact pure value
  | error cause => exact crash cause

theorem emit {effect : Effect} (fine : allowed effect) :
    Keeps inv allowed (Handler.emit effect : Handler State Effect Failure Unit) := by
  intro state holds
  refine ⟨?_, holds⟩
  intro other member
  rw [List.mem_singleton.mp member]
  exact fine

theorem change {update : State -> State} (kept : forall state, inv state -> inv (update state)) :
    Keeps inv allowed (Handler.change update : Handler State Effect Failure Unit) := by
  intro state holds
  exact ⟨fun _ member => absurd member List.not_mem_nil, kept state holds⟩

theorem bind_returning {good : Value -> Prop} {first : Handler State Effect Failure Value}
    {next : Value -> Handler State Effect Failure Next} (keepsFirst : Keeps inv allowed first)
    (returns : forall state value, inv state -> (first state).outcome = .ok value -> good value)
    (keepsNext : forall value, good value -> Keeps inv allowed (next value)) :
    Keeps inv allowed (first >>= next) := by
  intro state holds
  have before := keepsFirst state holds
  rcases returned_or_stopped first state with ⟨value, returned⟩ | stopped
  · have after := keepsNext value (returns state value holds returned) (first state).state before.2
    rw [bind_of_returned returned]
    refine ⟨?_, after.2⟩
    intro effect member
    exact (List.mem_append.mp member).elim (before.1 effect) (after.1 effect)
  · have ended := bind_of_stopped next stopped
    rw [ended.1, ended.2.1]
    exact before

theorem bind {first : Handler State Effect Failure Value}
    {next : Value -> Handler State Effect Failure Next}
    (keepsFirst : Keeps inv allowed first) (keepsNext : forall value, Keeps inv allowed (next value)) :
    Keeps inv allowed (first >>= next) :=
  bind_returning keepsFirst (fun _ _ _ _ => True.intro) (fun value _ => keepsNext value)

theorem look_bind {next : State -> Handler State Effect Failure Next}
    (keepsNext : forall seen, inv seen -> Keeps inv allowed (next seen)) :
    Keeps inv allowed (Handler.look >>= next) :=
  fun state holds => keepsNext state holds state holds

theorem ite {condition : Prop} [Decidable condition]
    {yes no : Handler State Effect Failure Value}
    (keepsYes : condition -> Keeps inv allowed yes) (keepsNo : ¬ condition -> Keeps inv allowed no) :
    Keeps inv allowed (if condition then yes else no) := by
  by_cases holds : condition
  · rw [if_pos holds]
    exact keepsYes holds
  · rw [if_neg holds]
    exact keepsNo holds

theorem when {condition : Prop} [Decidable condition]
    {action : Handler State Effect Failure Unit} (keeps : condition -> Keeps inv allowed action) :
    Keeps inv allowed (Handler.when condition action) :=
  ite keeps (fun _ => pure ())

theorem locking {held : Bool} {call : Handler State Effect Failure Value}
    (keeps : Keeps inv allowed call) : Keeps inv allowed (Handler.locking held call) :=
  ite (fun _ => spin) (fun _ => keeps)

theorem failIf (condition : Prop) [Decidable condition] (reason : Failure) :
    Keeps inv allowed (Handler.failIf condition reason : Handler State Effect Failure Unit) :=
  when (fun _ => fail reason)

theorem attempt {call : Handler State Effect Failure Value} (keeps : Keeps inv allowed call) :
    Keeps inv allowed (Handler.attempt call) := by
  intro state holds
  have kept := keeps state holds
  rw [Handler.attempt]
  cases (call state).outcome with
  | ok value | error reason | panic cause | diverges => exact kept

theorem ignore {call : Handler State Effect Failure Value} (keeps : Keeps inv allowed call) :
    Keeps inv allowed (Handler.ignore call) :=
  bind (attempt keeps) (fun _ => pure ())

variable {Part : Type}

theorem within {part : State -> Part} {replace : Part -> State -> State}
    {inner : Handler Part Effect Failure Value} (independent : forall value state, inv state ->
      inv (replace value state))
    (emits : Keeps (fun _ => True) allowed inner) :
    Keeps inv allowed (Handler.within part replace inner) :=
  fun state holds => ⟨(emits (part state) True.intro).1, independent _ state holds⟩

theorem building_returns {good : Part -> Prop} {start built : Part}
    {inner : Handler Part Effect Failure Unit} (keeps : Keeps good allowed inner)
    (begins : good start) {state : State}
    (returned : (Handler.building start inner state).outcome = .ok built) : good built := by
  have kept := (keeps start begins).2
  rw [Handler.building] at returned
  cases ended : (inner start).outcome with
  | ok value =>
    rw [ended] at returned
    cases returned
    exact kept
  | error reason | panic cause | diverges =>
    rw [ended] at returned
    cases returned

theorem building {good : Part -> Prop} {start : Part} {inner : Handler Part Effect Failure Unit}
    (keeps : Keeps good allowed inner) (begins : good start) :
    Keeps inv allowed (Handler.building start inner) := by
  intro state holds
  have kept := keeps start begins
  rw [Handler.building]
  cases (inner start).outcome with
  | ok value | error reason | panic cause | diverges => exact ⟨kept.1, holds⟩

end Keeps

/-! ## Handlers that never return -/

def NeverReturns (handler : Handler State Effect Failure Value) : Prop :=
  forall state value, (handler state).outcome ≠ .ok value

namespace NeverReturns

theorem fail (reason : Failure) :
    NeverReturns (Handler.fail reason : Handler State Effect Failure Value) :=
  fun _ _ returned => nomatch returned

theorem bind {first : Handler State Effect Failure Value}
    {next : Value -> Handler State Effect Failure Next}
    (never : forall value, NeverReturns (next value)) : NeverReturns (first >>= next) := by
  intro state result
  rcases returned_or_stopped first state with ⟨value, returned⟩ | stopped
  · rw [bind_of_returned returned]
    exact never value _ result
  · exact (bind_of_stopped next stopped).2.2.1 result

end NeverReturns

/-! ## Handlers that return no error -/

def NeverFails (handler : Handler State Effect Failure Value) : Prop :=
  forall state reason, (handler state).outcome ≠ .error reason

namespace NeverFails

theorem pure (value : Value) :
    NeverFails (Pure.pure value : Handler State Effect Failure Value) :=
  fun _ _ failed => nomatch failed

theorem crash (cause : Panic) :
    NeverFails (Handler.crash cause : Handler State Effect Failure Value) :=
  fun _ _ failed => nomatch failed

theorem spin : NeverFails (Handler.spin : Handler State Effect Failure Value) :=
  fun _ _ failed => nomatch failed

theorem look : NeverFails (Handler.look : Handler State Effect Failure State) :=
  fun _ _ failed => nomatch failed

theorem emit (effect : Effect) :
    NeverFails (Handler.emit effect : Handler State Effect Failure Unit) :=
  fun _ _ failed => nomatch failed

theorem change (update : State -> State) :
    NeverFails (Handler.change update : Handler State Effect Failure Unit) :=
  fun _ _ failed => nomatch failed

theorem ofPanic (answer : Except Panic Value) :
    NeverFails (Handler.ofPanic answer : Handler State Effect Failure Value) := by
  cases answer with
  | ok value => exact pure value
  | error cause => exact crash cause

theorem bind {first : Handler State Effect Failure Value}
    {next : Value -> Handler State Effect Failure Next} (safe : NeverFails first)
    (safeNext : forall value, NeverFails (next value)) : NeverFails (first >>= next) := by
  intro state reason
  rcases returned_or_stopped first state with ⟨value, returned⟩ | stopped
  · rw [bind_of_returned returned]
    exact safeNext value _ reason
  · exact fun failed => safe state reason (((bind_of_stopped next stopped).2.2.2 reason).mp failed)

theorem ite {condition : Prop} [Decidable condition] {yes no : Handler State Effect Failure Value}
    (safeYes : NeverFails yes) (safeNo : NeverFails no) :
    NeverFails (if condition then yes else no) := by
  split
  · exact safeYes
  · exact safeNo

theorem when {condition : Prop} [Decidable condition] {action : Handler State Effect Failure Unit}
    (safe : NeverFails action) : NeverFails (Handler.when condition action) :=
  ite safe (pure ())

theorem attempt (call : Handler State Effect Failure Value) : NeverFails (Handler.attempt call) := by
  intro state reason
  rw [Handler.attempt]
  cases (call state).outcome with
  | ok value | error reason | panic cause | diverges => exact nofun

theorem ignore (call : Handler State Effect Failure Value) : NeverFails (Handler.ignore call) :=
  bind (attempt call) (fun _ => pure ())

end NeverFails

end Handler

end Library
end Sentel
