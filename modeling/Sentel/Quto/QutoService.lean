import Mathlib.Data.List.AList
import Sentel.Library.Collection
import Sentel.Library.GoString
import Sentel.Library.Machine

namespace Sentel
namespace Quto

open Library

/-!
# The quota service

Quotas stand in a collection and are kept in memory.  An event about a change
loads the quota from the collection, and a request that finds nothing in memory
asks the collection as well.  It asks for a field `Key`, which the documents call
`key`, so that a quota is known only after an event about it.
-/

structure QutoDocument where
  qutoId : GoString
  brokerId : GoString
  key : GoString
  value : UInt64

def QutoDocument.document (quto : QutoDocument) : Document (GoString ⊕ UInt64) :=
  [("qutoId", .inl quto.qutoId), ("brokerId", .inl quto.brokerId), ("key", .inl quto.key),
    ("value", .inr quto.value)]

/-- The service with the collection, and what events have loaded, the last first. -/
structure QutoService where
  cacheMap : AList (fun _ : GoString => UInt64)
  qutos : List QutoDocument
  loads : List (GoString × UInt64)

namespace QutoService

variable (p : QutoService)

def setCacheItem (id : GoString) (val : UInt64) : QutoService :=
  { p with cacheMap := p.cacheMap.insert id val }

def query (dial : Bool) (name : String) (id : GoString) : Option QutoDocument :=
  if dial then Collection.findOne (fun quto => quto.document.satisfies [(name, .inl id)]) p.qutos
  else none

def handleQutoChanged (dial : Bool) (qutoId : GoString) : QutoService :=
  match p.query dial "qutoId" qutoId with
  | some quto =>
    { p.setCacheItem quto.key quto.value with loads := (quto.key, quto.value) :: p.loads }
  | none => p

/-- `getQuto`, which returns nothing with any of its errors. -/
def getQuto (dial : Bool) (id : GoString) : Option UInt64 × QutoService :=
  match p.cacheMap.lookup id with
  | some val => (some val, p)
  | none =>
    match p.query dial "Key" id with
    | some quto => (some quto.value, p.setCacheItem id quto.value)
    | none => (none, p)

/-- An event, a request, or a change of the collection by others. -/
inductive QutoLabel
  | changed (dial : Bool) (qutoId : GoString)
  | get (dial : Bool) (id : GoString)
  | store (qutos : List QutoDocument)

def perform : QutoLabel -> QutoService
  | .changed dial qutoId => p.handleQutoChanged dial qutoId
  | .get dial id => (p.getQuto dial id).2
  | .store qutos => { p with qutos := qutos }

def steps : Machine QutoService QutoLabel where
  initial := ⟨∅, [], []⟩
  step := fun p label => some (p.perform label)

variable {p}

theorem query_key (dial : Bool) (id : GoString) : p.query dial "Key" id = none := by
  rw [query, Collection.findOne]
  split
  · apply List.find?_eq_none.mpr
    intro quto _
    simp [Document.satisfies, QutoDocument.document, List.lookup_cons]
  · rfl

theorem getQuto_eq (dial : Bool) (id : GoString) :
    p.getQuto dial id = (p.cacheMap.lookup id, p) := by
  rw [getQuto, query_key]
  cases p.cacheMap.lookup id <;> rfl

/-- A request is answered with what the last event about its quota has loaded, and
with an error if there was none, whatever the collection has. -/
def AnswersLoaded (p : QutoService) : Prop :=
  forall dial id, p.getQuto dial id = (p.loads.lookup id, p)

theorem answersLoaded_throughout (labels : List QutoLabel) :
    steps.Throughout AnswersLoaded steps.initial labels := by
  refine @Machine.throughout_of_invariant _ _ steps
    (fun p => forall id, p.cacheMap.lookup id = p.loads.lookup id) AnswersLoaded ?_ ?_ _
    (fun _ => rfl) labels
  · intro p label next same taken
    cases taken
    cases label with
    | store qutos => exact same
    | get dial id =>
      rw [perform, getQuto_eq]
      exact same
    | changed dial qutoId =>
      intro id
      rw [perform, handleQutoChanged]
      split
      · next quto _ =>
        by_cases here : id = quto.key
        · subst here
          simp [setCacheItem]
        · simp [setCacheItem, here, same, List.lookup_cons, beq_false_of_ne here]
      · exact same id
  · intro p same dial id
    rw [getQuto_eq, same]

end QutoService

end Quto
end Sentel
