import Mathlib.Data.List.InsertIdx
import Sentel.Base.Message
import Sentel.Library.Handler
import Sentel.Library.Machine

namespace Sentel
namespace Queue

open Library Base

/-!
# The list of messages that wait for an acknowledgement

The list is a buffer of message slots of which the first `count` are in use.
A removal deletes the slot from the buffer itself, so the buffer gets shorter
with every removal and is enlarged only by doubling the number of used slots.
A buffer that has been worn down to no slot at all cannot grow again: doubling
zero leaves it empty and the next insertion is out of range.
-/

def minQueueLen : Nat := 16

/-- `transientList` -/
structure TransientList where
  buf : List (Option Message)
  count : Nat
  deriving DecidableEq

def newTransientList : TransientList where
  buf := List.replicate minQueueLen none
  count := 0

namespace TransientList

/-- Move the used slots into a buffer of twice their number. -/
def resize (list : TransientList) : TransientList :=
  { list with buf := list.buf.take list.count ++ List.replicate list.count none }

def length (list : TransientList) : Nat := list.count

def pushback (list : TransientList) (msg : Message) : Except Panic TransientList :=
  let roomy := if list.count = list.buf.length then list.resize else list
  if roomy.count < roomy.buf.length then
    .ok { buf := roomy.buf.set roomy.count (some msg), count := roomy.count + 1 }
  else .error .indexOutOfRange

def get (list : TransientList) (index : Nat) : Option Message :=
  if list.count ≤ index then none else (list.buf[index]?).join

def findPacket (list : TransientList) (pktID : UInt16) : Option Nat :=
  (list.buf.take list.count).findIdx?
    (fun slot => slot.any (fun msg => msg.packetId == pktID))

def removeFirst (list : TransientList) (pktID : UInt16) : TransientList :=
  match list.findPacket pktID with
  | none => list
  | some index => { buf := list.buf.eraseIdx index, count := list.count - 1 }

def remove (list : TransientList) (pktID : UInt16) : TransientList :=
  let shorter := list.removeFirst pktID
  if minQueueLen < shorter.buf.length ∧ shorter.count <<< 2 = shorter.buf.length then
    shorter.resize
  else shorter

/-- The list holds these messages, in order: they fill its used slots. -/
structure Holds (list : TransientList) (msgs : List Message) : Prop where
  count : list.count = msgs.length
  filled : exists spare, list.buf = msgs.map some ++ spare

theorem newTransientList_holds : newTransientList.Holds [] :=
  ⟨rfl, _, rfl⟩

namespace Holds

variable {list : TransientList} {msgs : List Message}

theorem take (holds : list.Holds msgs) : list.buf.take list.count = msgs.map some := by
  rcases holds.filled with ⟨spare, shape⟩
  rw [shape, holds.count]
  exact List.take_left' (List.length_map _)

theorem get (holds : list.Holds msgs) (index : Nat) : list.get index = msgs[index]? := by
  rcases holds.filled with ⟨spare, shape⟩
  rw [TransientList.get, holds.count]
  split
  case isTrue beyond => exact (List.getElem?_eq_none beyond).symm
  case isFalse inside =>
    have used : index < (msgs.map some).length := by
      rw [List.length_map]
      exact Nat.lt_of_not_le inside
    rw [shape, List.getElem?_append_left used, List.getElem?_map]
    cases msgs[index]? <;> rfl

theorem resize (holds : list.Holds msgs) : list.resize.Holds msgs :=
  ⟨holds.count, List.replicate list.count none, by rw [TransientList.resize, holds.take]⟩

theorem pushback (holds : list.Holds msgs) (roomy : list.buf ≠ []) (msg : Message) :
    exists after, list.pushback msg = .ok after ∧ after.Holds (msgs ++ [msg]) ∧
      after.buf ≠ [] := by
  have grown : exists wide, wide = (if list.count = list.buf.length then list.resize else list) ∧
      wide.Holds msgs ∧ wide.count < wide.buf.length := by
    rcases holds.filled with ⟨spare, shape⟩
    have size : list.buf.length = msgs.length + spare.length := by
      rw [shape, List.length_append, List.length_map]
    have positive := List.length_pos_iff.mpr roomy
    have count := holds.count
    split
    case isTrue full =>
      refine ⟨_, rfl, holds.resize, ?_⟩
      have doubled : list.resize.buf.length = list.count + list.count := by
        rw [TransientList.resize, holds.take]
        simp [count]
      have same : list.resize.count = list.count := rfl
      omega
    case isFalse spareSlot => exact ⟨_, rfl, holds, by omega⟩
  rcases grown with ⟨wide, shape, wideHolds, room⟩
  rcases wideHolds.filled with ⟨spare, filled⟩
  refine ⟨{ buf := wide.buf.set wide.count (some msg), count := wide.count + 1 }, ?_, ?_, ?_⟩
  · rw [TransientList.pushback, ← shape, if_pos room]
  · refine ⟨by rw [wideHolds.count, List.length_append]; rfl, spare.tail, ?_⟩
    cases spare with
    | nil =>
      rw [filled, List.append_nil, List.length_map, wideHolds.count] at room
      exact absurd room (Nat.lt_irrefl _)
    | cons slot rest =>
      rw [filled, wideHolds.count]
      simp
  · intro empty
    have length := congrArg List.length empty
    rw [List.length_set] at length
    rw [length] at room
    exact Nat.not_lt_zero _ room

theorem findPacket (holds : list.Holds msgs) (pktID : UInt16) :
    list.findPacket pktID = msgs.findIdx? (fun msg => msg.packetId == pktID) := by
  rw [TransientList.findPacket, holds.take, List.findIdx?_map]
  rfl

theorem removeFirst (holds : list.Holds msgs) (pktID : UInt16) :
    (list.removeFirst pktID).Holds (msgs.eraseP (fun msg => msg.packetId == pktID)) := by
  rw [TransientList.removeFirst, holds.findPacket, List.eraseP_eq_eraseIdx]
  cases found : msgs.findIdx? (fun msg => msg.packetId == pktID) with
  | none => exact holds
  | some index =>
    rcases holds.filled with ⟨spare, shape⟩
    have inside : index < msgs.length := (List.findIdx?_eq_some_iff_findIdx_eq.mp found).1
    refine ⟨?_, spare, ?_⟩
    · change list.count - 1 = _
      rw [List.length_eraseIdx, if_pos inside, holds.count]
    · change list.buf.eraseIdx index = _
      have used : index < (msgs.map some).length := by
        rw [List.length_map]
        exact inside
      rw [shape, List.eraseIdx_append_of_lt_length used, List.eraseIdx_map]

theorem remove (holds : list.Holds msgs) (pktID : UInt16) :
    (list.remove pktID).Holds (msgs.eraseP (fun msg => msg.packetId == pktID)) := by
  rw [TransientList.remove]
  split
  · exact (holds.removeFirst pktID).resize
  · exact holds.removeFirst pktID

end Holds

/-! ## Sequences of calls -/

/-- The calls on a list.  No caller passes a negative index to `Get`. -/
inductive Call
  | pushback (msg : Message)
  | remove (pktID : UInt16)
  | get (index : Nat)
  | length
  deriving DecidableEq

inductive Answer
  | done
  | message (msg : Option Message)
  | count (count : Nat)
  deriving DecidableEq

def slot (list : TransientList) (index : Nat) : Except Panic (Option Message) :=
  match list.buf[index]? with
  | none => .error .indexOutOfRange
  | some found => .ok found

def checkedGet (list : TransientList) (index : Nat) : Except Panic (Option Message) :=
  if list.count ≤ index then .ok none else list.slot index

/-- The slots that the loop of `Remove` reads from an index on.  It reads the
packet identifier of each message. -/
def search (list : TransientList) (pktID : UInt16) : Nat -> Nat -> Except Panic (Option Nat)
  | 0, _ => .ok none
  | rounds + 1, index => do
    match ← list.slot index with
    | none => .error .nilDereference
    | some msg =>
      if msg.packetId == pktID then return some index
      else list.search pktID rounds (index + 1)

def call (list : TransientList) : Call -> Except Panic (Answer × TransientList)
  | .pushback msg => do return (.done, ← list.pushback msg)
  | .remove pktID => do
    let _ ← list.search pktID list.count 0
    return (.done, list.remove pktID)
  | .get index => do return (.message (← list.checkedGet index), list)
  | .length => .ok (.count list.length, list)

def calls : TransientList -> List Call -> Except Panic (List Answer × TransientList)
  | list, [] => .ok ([], list)
  | list, first :: later => do
    let (answer, next) ← list.call first
    let (answers, final) ← next.calls later
    return (answer :: answers, final)

def sequenceCall (msgs : List Message) : Call -> Answer × List Message
  | .pushback msg => (.done, msgs ++ [msg])
  | .remove pktID => (.done, msgs.eraseP (fun msg => msg.packetId == pktID))
  | .get index => (.message msgs[index]?, msgs)
  | .length => (.count msgs.length, msgs)

def sequenceCalls : List Message -> List Call -> List Answer × List Message
  | msgs, [] => ([], msgs)
  | msgs, first :: later =>
    let (answer, next) := sequenceCall msgs first
    let (answers, final) := sequenceCalls next later
    (answer :: answers, final)

def BehavesFrom (list : TransientList) (msgs : List Message) (labels : List Call) : Prop :=
  exists final, list.calls labels = .ok ((sequenceCalls msgs labels).1, final) ∧
    final.Holds (sequenceCalls msgs labels).2

def Behaves (labels : List Call) : Prop := newTransientList.BehavesFrom [] labels

/-- The calls as steps of a machine.  A call that panics has no successor. -/
def machine : Machine TransientList Call where
  initial := newTransientList
  step := fun list label => ((list.call label).map Prod.snd).toOption

/-- An insertion needs a buffer that has not been worn down to no slot. -/
def Roomy (list : TransientList) : Call -> Prop
  | .pushback _ => list.buf ≠ []
  | _ => True

instance (list : TransientList) : DecidablePred list.Roomy
  | .pushback _ => inferInstanceAs (Decidable (_ ≠ _))
  | .remove _ => isTrue True.intro
  | .get _ => isTrue True.intro
  | .length => isTrue True.intro

section Reading

variable {list : TransientList} {msgs : List Message}

theorem Holds.slot (holds : list.Holds msgs) {index : Nat} {msg : Message}
    (inside : msgs[index]? = some msg) : list.slot index = .ok (some msg) := by
  rcases holds.filled with ⟨spare, shape⟩
  have used : index < (msgs.map some).length := by
    rw [List.length_map]
    exact (List.getElem?_eq_some_iff.mp inside).1
  rw [TransientList.slot, shape, List.getElem?_append_left used, List.getElem?_map, inside]
  rfl

theorem Holds.checkedGet (holds : list.Holds msgs) (index : Nat) :
    list.checkedGet index = .ok msgs[index]? := by
  rw [TransientList.checkedGet, holds.count]
  by_cases beyond : msgs.length ≤ index
  · rw [if_pos beyond, List.getElem?_eq_none beyond]
  · have inside : msgs[index]? = some msgs[index] := List.getElem?_eq_getElem (by omega)
    rw [if_neg beyond, holds.slot inside, inside]

theorem Holds.search (holds : list.Holds msgs) (pktID : UInt16) (rounds index : Nat)
    (inside : index + rounds = msgs.length) :
    exists found, list.search pktID rounds index = .ok found := by
  induction rounds generalizing index with
  | zero => exact ⟨none, rfl⟩
  | succ rounds ih =>
    have used : msgs[index]? = some msgs[index] := List.getElem?_eq_getElem (by omega)
    rw [TransientList.search, holds.slot used]
    by_cases here : msgs[index].packetId == pktID
    · exact ⟨some index, if_pos here⟩
    · rcases ih (index + 1) (by omega) with ⟨found, searched⟩
      exact ⟨found, (if_neg here).trans searched⟩

theorem Holds.call (holds : list.Holds msgs) (label : Call) (roomy : list.Roomy label) :
    exists after, list.call label = .ok ((sequenceCall msgs label).1, after) ∧
      after.Holds (sequenceCall msgs label).2 := by
  cases label with
  | pushback msg =>
    rcases holds.pushback roomy msg with ⟨after, pushed, holds, _⟩
    refine ⟨after, ?_, holds⟩
    rw [TransientList.call, pushed]
    rfl
  | remove pktID =>
    rcases holds.search pktID list.count 0 ((Nat.zero_add _).trans holds.count)
      with ⟨found, searched⟩
    refine ⟨list.remove pktID, ?_, holds.remove pktID⟩
    rw [TransientList.call, searched]
    rfl
  | get index =>
    refine ⟨list, ?_, holds⟩
    rw [TransientList.call, holds.checkedGet]
    rfl
  | length =>
    refine ⟨list, ?_, holds⟩
    rw [TransientList.call, TransientList.length, holds.count]
    rfl

theorem Holds.call_worn (holds : list.Holds msgs) {label : Call} (worn : ¬ list.Roomy label) :
    list.call label = .error .indexOutOfRange := by
  cases label with
  | pushback msg =>
    have empty : list.buf = [] := not_not.mp worn
    have unused : list.count = 0 := by
      rcases holds.filled with ⟨spare, shape⟩
      rw [empty] at shape
      have none := (List.append_eq_nil_iff.mp shape.symm).1
      rw [holds.count, List.map_eq_nil_iff.mp none]
      rfl
    have pushed : list.pushback msg = .error .indexOutOfRange := by
      rw [TransientList.pushback, empty, unused, if_pos List.length_nil.symm, TransientList.resize,
        empty, unused]
      rfl
    rw [TransientList.call, pushed]
    rfl
  | remove pktID | get index | length => exact absurd True.intro worn

theorem calls_cons {after : TransientList} {label : Call} {answer : Answer}
    (called : list.call label = .ok (answer, after)) (later : List Call) :
    list.calls (label :: later) =
      (after.calls later).map (fun rest => (answer :: rest.1, rest.2)) := by
  rw [calls, called]
  cases ended : after.calls later with
  | ok rest => simp [bind, Except.bind, ended, Except.map, pure, Except.pure]
  | error cause => simp [bind, Except.bind, ended, Except.map]

theorem behavesFrom_cons {after : TransientList} {label : Call}
    (called : list.call label = .ok ((sequenceCall msgs label).1, after)) (later : List Call) :
    list.BehavesFrom msgs (label :: later) ↔
      after.BehavesFrom (sequenceCall msgs label).2 later := by
  unfold BehavesFrom
  rw [calls_cons called]
  apply exists_congr
  intro final
  apply and_congr_left
  intro _
  cases after.calls later with
  | ok rest => simp [Except.map, sequenceCalls, Prod.ext_iff]
  | error cause => simp [Except.map]

theorem Holds.behavesFrom_iff (holds : list.Holds msgs) (labels : List Call) :
    list.BehavesFrom msgs labels ↔ machine.Allowed Roomy list labels := by
  induction labels generalizing list msgs with
  | nil => exact iff_of_true ⟨list, rfl, holds⟩ True.intro
  | cons label later ih =>
    by_cases roomy : list.Roomy label
    · rcases holds.call label roomy with ⟨after, called, afterHolds⟩
      have taken : machine.step list label = some after := by
        change ((list.call label).map Prod.snd).toOption = _
        rw [called]
        rfl
      rw [behavesFrom_cons called, ih afterHolds, Machine.Allowed, taken]
      exact (and_iff_right roomy).symm
    · refine iff_of_false ?_ (fun allowed => roomy allowed.1)
      rintro ⟨final, returned, _⟩
      rw [calls, holds.call_worn roomy] at returned
      cases returned

end Reading

/-- The list behaves as a plain sequence exactly as long as no message is
inserted into a buffer without slots. -/
theorem behaves_iff (labels : List Call) :
    Behaves labels ↔ machine.Allowed Roomy newTransientList labels :=
  newTransientList_holds.behavesFrom_iff labels

def wearOut : List Call :=
  (List.replicate minQueueLen [.pushback {}, .remove 0]).flatten ++ [.pushback {}]

theorem worn_list_panics :
    newTransientList.calls wearOut = .error .indexOutOfRange ∧ ¬ Behaves wearOut := by
  have panics : newTransientList.calls wearOut = .error .indexOutOfRange := by
    decide +kernel
  refine ⟨panics, ?_⟩
  rintro ⟨final, returned, _⟩
  rw [panics] at returned
  cases returned

end TransientList

end Queue
end Sentel
