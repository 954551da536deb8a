import Sentel.Library.Machine
import Sentel.Library.RingBuffer

namespace Sentel
namespace Queue

open Library

/-!
# The synchronous queue

The messages of a transient queue stand in a synchronous queue: a buffer with a
lock, a condition on which `pop` waits for items, and a flag that says whether
the queue was closed.  Everything happens while the lock is held, so a call is
one locked section, apart from a `pop` that waits in between.

The buffer is the ring buffer of the vendored package, and `items` lists what it
holds, the oldest first.  An item is any value of an interface, and nil is one of
them, although the only caller pushes pointers.

Goroutines push, pop, try to pop and close.  Their locked sections follow each
other in any order, and a `pop` that finds an open and empty queue waits between
two sections.  A signal takes one goroutine out of the wait set, which one is
open, and the goroutine runs its next section at any later time: other sections
may come first and take the item it was woken for.

The log records the calls in the order of their sections.  It tells which items
were pushed before the queue was closed and which ones were delivered.
-/

universe u

variable {Goroutine : Type} {Item : Type u}

structure SyncQueue (Item : Type u) where
  buffer : RingQueue Item
  closed : Bool

/-- What a section of `pop` comes to.  A call that takes no item returns nil. -/
inductive Popped (Item : Type u)
  | waits
  | returns (v : Option Item)

namespace SyncQueue

/-- `newSyncQueue` -/
def new : SyncQueue Item := ⟨.new, false⟩

variable (p : SyncQueue Item)

def take : Option Item × SyncQueue Item :=
  if nonempty : 0 < p.buffer.length then
    (p.buffer.peek nonempty, { p with buffer := p.buffer.remove nonempty })
  else (none, p)

def pop : Popped Item × SyncQueue Item :=
  if p.buffer.length = 0 ∧ p.closed = false then (.waits, p)
  else (.returns p.take.1, p.take.2)

def front : Option (Option Item) := p.buffer.toRingBuffer.peek

def tryPop : (Option Item × Bool) × SyncQueue Item :=
  if 0 < p.buffer.length then ((p.take.1, true), p.take.2) else ((none, p.closed), p)

/-- `push`, with whether it signals the condition. -/
def push (v : Item) : Bool × SyncQueue Item :=
  if p.closed then (false, p) else (true, { p with buffer := p.buffer.add v })

def len : Nat := p.buffer.length

def close : Bool × SyncQueue Item :=
  if p.closed then (false, p) else (true, { p with closed := true })

theorem take_closed : p.take.2.closed = p.closed := by
  rw [take]
  split <;> rfl

theorem take_items :
    p.take.1 = p.buffer.items.head? ∧ p.take.2.buffer.items = p.buffer.items.tail := by
  rw [take]
  split
  · next nonempty => exact ⟨p.buffer.peek_eq nonempty, p.buffer.items_remove nonempty⟩
  · next empty =>
      rw [p.buffer.length_eq, List.length_pos_iff, not_not] at empty
      simp [empty]

theorem take_length : p.take.2.buffer.length = p.buffer.length - 1 := by
  rw [RingQueue.length_eq, p.take_items.2, List.length_tail, RingQueue.length_eq]

theorem tryPop_eq :
    p.tryPop = ((p.take.1, decide (0 < p.buffer.length) || p.closed), p.take.2) := by
  by_cases nonempty : 0 < p.buffer.length <;> simp [tryPop, take, nonempty]

end SyncQueue

/-- The end of a call, with the item that a `pop` or a `tryPop` takes, if any. -/
inductive QueueEvent (Item : Type u)
  | pushed (v : Item)
  | popped (v : Option Item)
  | tried (v : Option Item) (ok : Bool)
  | closed
  deriving DecidableEq

/-- The queue with the wait set of its condition, the goroutines that were woken
and have not run since, and the log. -/
structure SharedQueue (Goroutine : Type) (Item : Type u) where
  queue : SyncQueue Item
  waiting : List Goroutine
  woken : List Goroutine
  log : List (QueueEvent Item)

/-- A section.  A number chooses the goroutine that a signal wakes. -/
inductive Section (Goroutine : Type) (Item : Type u)
  | push (v : Item) (choice : Nat)
  | pop (g : Goroutine)
  | resume (g : Goroutine)
  | tryPop
  | close (choice : Nat)

def Section.closes : Section Goroutine Item -> Bool
  | .close _ => true
  | _ => false

namespace SharedQueue

def signal (s : SharedQueue Goroutine Item) (signals : Bool) (choice : Nat) :
    SharedQueue Goroutine Item :=
  let index := choice % s.waiting.length
  { s with
    waiting := if signals then s.waiting.eraseIdx index else s.waiting
    woken := if signals then (s.waiting[index]?).toList ++ s.woken else s.woken }

def returning (s : SharedQueue Goroutine Item) (queue : SyncQueue Item) (event : QueueEvent Item) :
    SharedQueue Goroutine Item :=
  { s with queue := queue, log := s.log ++ [event] }

def runPop (s : SharedQueue Goroutine Item) (g : Goroutine) : SharedQueue Goroutine Item :=
  match s.queue.pop.1 with
  | .waits => { s with queue := s.queue.pop.2, waiting := g :: s.waiting }
  | .returns v => s.returning s.queue.pop.2 (.popped v)

def step [DecidableEq Goroutine] (s : SharedQueue Goroutine Item) :
    Section Goroutine Item -> Option (SharedQueue Goroutine Item)
  | .push v choice =>
    some ((s.returning (s.queue.push v).2 (.pushed v)).signal (s.queue.push v).1 choice)
  | .pop g => if g ∈ s.waiting ∨ g ∈ s.woken then none else some (s.runPop g)
  | .resume g =>
    if g ∈ s.woken then some ({ s with woken := s.woken.erase g }.runPop g) else none
  | .tryPop => some (s.returning s.queue.tryPop.2 (.tried s.queue.tryPop.1.1 s.queue.tryPop.1.2))
  | .close choice => some ((s.returning s.queue.close.2 .closed).signal s.queue.close.1 choice)

end SharedQueue

/-- The runs of a new queue. -/
def sections [DecidableEq Goroutine] :
    Machine (SharedQueue Goroutine Item) (Section Goroutine Item) where
  initial := ⟨.new, [], [], []⟩
  step := SharedQueue.step

/-! ## The log -/

/-- The items that `pop` and `tryPop` delivered. -/
def delivered (log : List (QueueEvent Item)) : List Item :=
  log.filterMap (fun event =>
    match event with
    | .popped v => v
    | .tried v _ => v
    | _ => none)

def pushedOpen : List (QueueEvent Item) -> List Item
  | [] => []
  | .pushed v :: later => v :: pushedOpen later
  | .closed :: _ => []
  | _ :: later => pushedOpen later

theorem delivered_snoc {log : List (QueueEvent Item)} (event : QueueEvent Item) :
    delivered (log ++ [event]) = delivered log ++ delivered [event] :=
  List.filterMap_append

theorem pushedOpen_append {log : List (QueueEvent Item)} {closed : Bool}
    (told : closed = true ↔ .closed ∈ log) (later : List (QueueEvent Item)) :
    pushedOpen (log ++ later) = pushedOpen log ++ if closed then [] else pushedOpen later := by
  induction log with
  | nil =>
    have opened : closed = false := by simpa using told
    simp [pushedOpen, opened]
  | cons event rest ih =>
    cases event with
    | closed =>
      have shut : closed = true := told.mpr List.mem_cons_self
      simp [pushedOpen, shut]
    | _ =>
      have earlier := ih (by simpa using told)
      simp [pushedOpen, earlier]

structure Ledger (queue : SyncQueue Item) (log : List (QueueEvent Item)) : Prop where
  closed : queue.closed = true ↔ .closed ∈ log
  balance : delivered log ++ queue.buffer.items = pushedOpen log

namespace Ledger

variable {queue : SyncQueue Item} {log : List (QueueEvent Item)}

theorem take (ledger : Ledger queue log) {event : QueueEvent Item}
    (delivers : delivered [event] = queue.take.1.toList) (pushes : pushedOpen [event] = [])
    (closes : event ≠ .closed) : Ledger queue.take.2 (log ++ [event]) where
  closed := by
    rw [SyncQueue.take_closed]
    simp [ledger.closed, Ne.symm closes]
  balance := by
    rw [delivered_snoc, delivers, pushedOpen_append ledger.closed, pushes, ite_self,
      List.append_nil, ← ledger.balance, queue.take_items.1, queue.take_items.2]
    cases queue.buffer.items <;> simp

theorem push (ledger : Ledger queue log) (v : Item) :
    Ledger (queue.push v).2 (log ++ [.pushed v]) := by
  have further := pushedOpen_append ledger.closed [.pushed v]
  rw [SyncQueue.push]
  refine ⟨?_, ?_⟩
  · split <;> simp [ledger.closed]
  · split <;> simp_all [delivered, pushedOpen, ← ledger.balance]

theorem close (ledger : Ledger queue log) : Ledger queue.close.2 (log ++ [.closed]) := by
  have further := pushedOpen_append ledger.closed [.closed]
  rw [SyncQueue.close]
  refine ⟨?_, ?_⟩
  · split <;> simp_all
  · split <;> simp_all [delivered, pushedOpen, ← ledger.balance]

end Ledger

/-! ## One section -/

namespace SharedQueue

variable {s next : SharedQueue Goroutine Item}

theorem signal_waiting_eq_nil (choice : Nat) :
    (s.signal true choice).waiting = [] ↔ s.waiting.length ≤ 1 := by
  change s.waiting.eraseIdx (choice % s.waiting.length) = [] ↔ _
  cases s.waiting with
  | nil => simp
  | cons g others =>
    have inside : choice % (g :: others).length < (g :: others).length :=
      Nat.mod_lt _ (Nat.succ_pos _)
    have shorter := List.length_eraseIdx_of_lt inside
    rw [← List.length_eq_zero_iff, shorter, List.length_cons]
    omega

structure Done (s next : SharedQueue Goroutine Item) (closes : Bool) : Prop where
  ledger : Ledger next.queue next.log
  closed : next.queue.closed = (s.queue.closed || closes)
  waits : s.queue.closed = true -> next.waiting = s.waiting
  takes : forall v, next.log = s.log ++ [.popped v] ->
    v = s.queue.buffer.items.head? ∧ (s.queue.buffer.items = [] -> s.queue.closed = true)

theorem runPop_done (ledger : Ledger s.queue s.log) (g : Goroutine) : Done s (s.runPop g) false := by
  by_cases waits : s.queue.buffer.length = 0 ∧ s.queue.closed = false
  · have run : s.runPop g = { s with waiting := g :: s.waiting } := by
      rw [runPop, SyncQueue.pop, if_pos waits]
    rw [run]
    exact ⟨ledger, by simp, by simp [waits.2], by simp⟩
  · have run : s.runPop g = s.returning s.queue.take.2 (.popped s.queue.take.1) := by
      rw [runPop, SyncQueue.pop, if_neg waits]
    rw [run]
    refine ⟨ledger.take (by cases s.queue.take.1 <;> rfl) rfl nofun, ?_, fun _ => rfl, fun v last => ?_⟩
    · exact s.queue.take_closed.trans (Bool.or_false _).symm
    · have same : s.queue.take.1 = v := by simpa [returning] using last
      refine ⟨same.symm.trans s.queue.take_items.1, fun empty => ?_⟩
      simpa [RingQueue.length_eq, empty] using waits

variable [DecidableEq Goroutine] {label : Section Goroutine Item}

theorem step_done (ledger : Ledger s.queue s.log) (taken : s.step label = some next) :
    Done s next label.closes := by
  cases label with
  | push v choice =>
    cases taken
    refine ⟨ledger.push v, ?_, fun closed => ?_, by simp [signal, returning]⟩
    · simp only [signal, returning, SyncQueue.push, Section.closes, Bool.or_false]
      split <;> rfl
    · simp [signal, returning, SyncQueue.push, closed]
  | pop g =>
    rcases Option.ite_none_left_eq_some.mp taken with ⟨_, same⟩
    cases same
    exact runPop_done ledger g
  | resume g =>
    rcases Option.ite_none_right_eq_some.mp taken with ⟨_, same⟩
    cases same
    have done := @runPop_done _ _ { s with woken := s.woken.erase g } ledger g
    exact ⟨done.ledger, done.closed, done.waits, done.takes⟩
  | tryPop =>
    cases taken
    rw [SyncQueue.tryPop_eq]
    exact ⟨ledger.take (by cases s.queue.take.1 <;> rfl) rfl nofun,
      s.queue.take_closed.trans (Bool.or_false _).symm, fun _ => rfl, by simp [returning]⟩
  | close choice =>
    cases taken
    refine ⟨ledger.close, ?_, fun closed => ?_, by simp [signal, returning]⟩
    · simp only [signal, returning, SyncQueue.close, Section.closes, Bool.or_true]
      split <;> simp_all
    · simp [signal, returning, SyncQueue.close, closed]

end SharedQueue

section Runs

variable [DecidableEq Goroutine]

theorem initial_ledger : Ledger (sections : Machine (SharedQueue Goroutine Item) _).initial.queue
    (sections : Machine (SharedQueue Goroutine Item) _).initial.log :=
  ⟨by simp [sections, SyncQueue.new], rfl⟩

/-! ## First in, first out -/

def PopsNil (nil : Item) (s : SharedQueue Goroutine Item) : Prop :=
  exists label next v, s.step label = some next ∧ next.log = s.log ++ [.popped v] ∧ v.getD nil = nil

/-- What was delivered and what is in the buffer are the items that were pushed
before the queue was closed, and a `pop` returns nil only if the queue is closed
and empty or the oldest item is nil. -/
structure Fifo (nil : Item) (s : SharedQueue Goroutine Item) : Prop where
  balance : delivered s.log ++ s.queue.buffer.items = pushedOpen s.log
  popsNil : PopsNil nil s ->
    (s.queue.closed = true ∧ s.queue.buffer.items = []) ∨ s.queue.buffer.items.head? = some nil

theorem fifo_of_ledger {s : SharedQueue Goroutine Item} (ledger : Ledger s.queue s.log)
    (nil : Item) : Fifo nil s := by
  refine ⟨ledger.balance, ?_⟩
  rintro ⟨label, next, v, taken, last, returned⟩
  rcases (SharedQueue.step_done ledger taken).takes v last with ⟨rfl, closes⟩
  cases items : s.queue.buffer.items with
  | nil => exact .inl ⟨closes items, rfl⟩
  | cons item rest =>
    rw [items] at returned
    exact .inr (congrArg some returned)

/-- In whatever order the sections come, the queue is first in, first out. -/
theorem fifo_throughout (nil : Item) (history : List (Section Goroutine Item)) :
    sections.Throughout (Fifo nil) sections.initial history :=
  @Machine.throughout_of_invariant _ _ sections (fun s => Ledger s.queue s.log) (Fifo nil)
    (fun ledger taken => (SharedQueue.step_done ledger taken).ledger)
    (fun ledger => fifo_of_ledger ledger nil) _ initial_ledger history

/-- A nil that was pushed is popped from an open queue that is not empty. -/
theorem pushed_nil_popped : ¬ (sections : Machine (SharedQueue Nat (Option Nat)) _).Throughout
    (fun s => PopsNil none s -> s.queue.closed = true ∧ s.queue.buffer.items = [])
    sections.initial [.push none 0] := by
  intro along
  exact Bool.false_ne_true (along.2 ⟨.pop 0, _, some none, rfl, rfl, rfl⟩).1

/-! ## Waiting for ever -/

/-- Once the queue is closed, every goroutine in the wait set can still be woken,
and none is left when the others have finished. -/
structure NoneBlocked (s : SharedQueue Goroutine Item) : Prop where
  wakes : s.queue.closed = true -> ∀ g ∈ s.waiting,
    exists later final, sections.run s later = some final ∧ g ∉ final.waiting
  finished : ¬ (s.queue.closed = true ∧ s.queue.buffer.items = [] ∧ s.woken = [] ∧ s.waiting ≠ [])

variable {s next final : SharedQueue Goroutine Item} {label : Section Goroutine Item}
  (ledger : Ledger s.queue s.log)
include ledger

theorem run_of_closed (closed : s.queue.closed = true) {later : List (Section Goroutine Item)}
    (executed : sections.run s later = some final) : final.waiting = s.waiting := by
  induction later generalizing s with
  | nil =>
    cases executed
    rfl
  | cons label rest ih =>
    rcases Option.bind_eq_some_iff.mp executed with ⟨next, taken, remaining⟩
    have done := SharedQueue.step_done ledger taken
    have still : next.queue.closed = true := by simp [done.closed, closed]
    exact (ih done.ledger still remaining).trans (done.waits closed)

theorem noneBlocked_iff : NoneBlocked s ↔ (s.queue.closed = true -> s.waiting = []) := by
  constructor
  · intro none closed
    apply List.eq_nil_iff_forall_not_mem.mpr
    intro g waits
    rcases none.wakes closed g waits with ⟨later, final, executed, gone⟩
    rw [run_of_closed ledger closed executed] at gone
    exact gone waits
  · intro left
    refine ⟨fun closed g waits => ?_, fun stuck => stuck.2.2.2 (left stuck.1)⟩
    rw [left closed] at waits
    cases waits

omit ledger in
def ClosesAlone (s : SharedQueue Goroutine Item) : Section Goroutine Item -> Prop
  | .close _ => s.queue.closed = true ∨ s.waiting.length ≤ 1
  | _ => True

theorem step_noneBlocked_iff (none : NoneBlocked s) (taken : s.step label = some next) :
    NoneBlocked next ↔ ClosesAlone s label := by
  have done := SharedQueue.step_done ledger taken
  rw [noneBlocked_iff ledger] at none
  rw [noneBlocked_iff done.ledger, done.closed]
  cases closed : s.queue.closed with
  | true =>
    refine iff_of_true (fun _ => (done.waits closed).trans (none closed)) ?_
    cases label with
    | close choice => exact .inl closed
    | _ => exact True.intro
  | false =>
    cases label with
    | close choice =>
      have waiting : next.waiting = (s.signal true choice).waiting := by
        cases taken
        simp [SyncQueue.close, closed, SharedQueue.signal, SharedQueue.returning]
      rw [waiting, SharedQueue.signal_waiting_eq_nil, ClosesAlone, closed]
      simp [Section.closes]
    | _ => exact iff_of_true nofun True.intro

omit ledger in
/-- No `pop` stays blocked exactly if each `close` that closes the queue finds
one waiting goroutine at most. -/
theorem noneBlocked_throughout_iff (history : List (Section Goroutine Item)) :
    sections.Throughout NoneBlocked sections.initial history ↔
      sections.Allowed ClosesAlone sections.initial history := by
  have initial : NoneBlocked (sections : Machine (SharedQueue Goroutine Item) _).initial :=
    (noneBlocked_iff initial_ledger).mpr (fun _ => rfl)
  refine @Machine.throughout_iff_allowed_of_idle _ _ sections (fun s => Ledger s.queue s.log) _ _
    (fun ledger _ taken => (SharedQueue.step_done ledger taken).ledger) step_noneBlocked_iff ?_
    _ initial_ledger initial history
  intro s label _ _ stuck
  cases label with
  | close choice => cases stuck
  | _ => exact True.intro

end Runs

def forgotten : List (Section Nat Nat) := [.pop 0, .pop 1, .close 0, .resume 1]

/-- The other goroutine waits on the closed and empty queue, and nothing else
is to be done. -/
theorem forgotten_blocks : ¬ sections.Throughout NoneBlocked sections.initial forgotten := by
  intro along
  exact along.2.2.2.2.finished ⟨rfl, rfl, rfl, List.cons_ne_nil 0 []⟩

/-! ## Waking up -/

/-- While somebody waits, as many goroutines are on their way as there are items. -/
def Attended (s : SharedQueue Goroutine Item) : Prop :=
  s.waiting ≠ [] -> s.queue.buffer.length ≤ s.woken.length

namespace SharedQueue

variable {s next : SharedQueue Goroutine Item}
  (few : s.waiting ≠ [] -> s.queue.buffer.length ≤ s.woken.length + 1)
include few

theorem runPop_attended (g : Goroutine) : Attended (s.runPop g) := by
  by_cases waits : s.queue.buffer.length = 0 ∧ s.queue.closed = false
  · have run : s.runPop g = { s with waiting := g :: s.waiting } := by
      rw [runPop, SyncQueue.pop, if_pos waits]
    rw [run]
    intro _
    change s.queue.buffer.length ≤ s.woken.length
    rw [waits.1]
    exact Nat.zero_le _
  · have run : s.runPop g = s.returning s.queue.take.2 (.popped s.queue.take.1) := by
      rw [runPop, SyncQueue.pop, if_neg waits]
    rw [run]
    intro still
    have before := few still
    change s.queue.take.2.buffer.length ≤ s.woken.length
    rw [SyncQueue.take_length]
    omega

theorem signal_attended (choice : Nat) : Attended (s.signal true choice) := by
  intro still
  have somebody : s.waiting ≠ [] := by
    intro nobody
    simp [signal, nobody] at still
  have inside := Nat.mod_lt choice (List.length_pos_iff.mpr somebody)
  have woken : (s.signal true choice).woken.length = s.woken.length + 1 := by simp [signal, inside]
  rw [woken]
  exact few somebody

omit few in
theorem step_attended [DecidableEq Goroutine] {label : Section Goroutine Item}
    (attended : Attended s) (taken : s.step label = some next) : Attended next := by
  cases label with
  | push v choice =>
    cases taken
    cases closed : s.queue.closed with
    | true =>
      rw [SyncQueue.push, if_pos closed]
      exact attended
    | false =>
      rw [SyncQueue.push, if_neg (by simp [closed])]
      refine signal_attended (fun still => ?_) choice
      simpa [returning, RingQueue.length_eq] using attended still
  | pop g =>
    rcases Option.ite_none_left_eq_some.mp taken with ⟨_, same⟩
    cases same
    exact runPop_attended (fun still => Nat.le_succ_of_le (attended still)) g
  | resume g =>
    rcases Option.ite_none_right_eq_some.mp taken with ⟨woken, same⟩
    cases same
    refine runPop_attended (fun still => ?_) g
    have positive := List.length_pos_of_mem woken
    have before := attended still
    dsimp only
    rw [List.length_erase_of_mem woken]
    omega
  | tryPop =>
    cases taken
    rw [SyncQueue.tryPop_eq]
    intro still
    have before := attended still
    change s.queue.take.2.buffer.length ≤ s.woken.length
    rw [SyncQueue.take_length]
    omega
  | close choice =>
    cases taken
    cases closed : s.queue.closed with
    | true =>
      rw [SyncQueue.close, if_pos closed]
      exact attended
    | false =>
      rw [SyncQueue.close, if_neg (by simp [closed])]
      exact signal_attended (fun still => Nat.le_succ_of_le (attended still)) choice

end SharedQueue

/-- No wake-up is lost: no item is left in the queue while goroutines wait and
nobody is on the way to it. -/
theorem attended_throughout [DecidableEq Goroutine] (history : List (Section Goroutine Item)) :
    sections.Throughout Attended sections.initial history :=
  Machine.throughout_of_kept SharedQueue.step_attended (fun _ => Nat.le_refl 0) history

end Queue
end Sentel
