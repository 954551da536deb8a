import Sentel.Library.GoMap

namespace Sentel
namespace Library

/-!
A cache in front of a source.

A cache gives back the value that was added last under a key, until the key is
deleted or the entry expires.  A read asks the cache first and the source only
when the cache has nothing, and adds what the source answered.  Such reads are
right for every key exactly when the cache is coherent: what it holds is what
the source would answer.  The rules below say which changes of the source and
of the cache keep it so.
-/

universe u v w

/-- The values that were added and have not been deleted or expired. -/
structure Cache (Key : Type u) (Value : Type v) [DecidableEq Key] where
  items : AList (fun _ : Key => Value)

namespace Cache

variable {Key : Type u} {Value : Type v} [DecidableEq Key]

def empty : Cache Key Value := ⟨∅⟩

def add (cache : Cache Key Value) (key : Key) (value : Value) : Cache Key Value :=
  ⟨cache.items.insert key value⟩

def delete (cache : Cache Key Value) (key : Key) : Cache Key Value :=
  ⟨cache.items.erase key⟩

def value (cache : Cache Key Value) (key : Key) : Option Value :=
  cache.items.lookup key

def through (cache : Cache Key Value) (source : Key -> Option Value) (key : Key) :
    Option Value × Cache Key Value :=
  match cache.value key with
  | some value => (some value, cache)
  | none =>
    match source key with
    | some value => (some value, cache.add key value)
    | none => (none, cache)

@[simp] theorem value_empty (key : Key) : (empty : Cache Key Value).value key = none :=
  AList.lookup_empty key

theorem value_add (cache : Cache Key Value) (key : Key) (value : Value) :
    (cache.add key value).value = Function.update cache.value key (some value) :=
  lookup_insert_eq key value cache.items

theorem value_delete (cache : Cache Key Value) (key : Key) :
    (cache.delete key).value = Function.update cache.value key none :=
  lookup_erase_eq key cache.items

theorem value_of_delete {cache : Cache Key Value} {key sought : Key} {value : Value}
    (held : (cache.delete key).value sought = some value) : cache.value sought = some value := by
  rw [value_delete] at held
  by_cases same : sought = key
  · rw [same, Function.update_self] at held
    cases held
  · rwa [Function.update_of_ne same] at held

def view {Shown : Type w} (cache : Cache Key Value) (shows : Value -> Shown) : Cache Key Shown :=
  ⟨⟨cache.items.entries.map (Sigma.map id (fun _ => shows)), by
    rw [List.NodupKeys, List.keys, List.map_map]
    exact cache.items.nodupKeys⟩⟩

section View

variable {Shown : Type w} (cache : Cache Key Value) (shows : Value -> Shown) (key : Key)

theorem value_view : (cache.view shows).value key = (cache.value key).map shows :=
  List.dlookup_map₂ key

variable {cache shows} in
theorem view_congr {other : Value -> Shown}
    (same : forall key value, cache.value key = some value -> other value = shows value) :
    (cache.view other).value = (cache.view shows).value := by
  funext key
  rw [value_view, value_view]
  cases held : cache.value key with
  | none => rfl
  | some value => exact congrArg some (same key value held)

theorem view_add (value : Value) :
    ((cache.add key value).view shows).value = ((cache.view shows).add key (shows value)).value := by
  funext sought
  rw [value_view, value_add, value_add]
  by_cases same : sought = key
  · rw [same, Function.update_self, Function.update_self]
    rfl
  · rw [Function.update_of_ne same, Function.update_of_ne same, value_view]

theorem view_delete :
    ((cache.delete key).view shows).value = ((cache.view shows).delete key).value := by
  funext sought
  rw [value_view, value_delete, value_delete]
  by_cases same : sought = key
  · rw [same, Function.update_self, Function.update_self]
    rfl
  · rw [Function.update_of_ne same, Function.update_of_ne same, value_view]

end View

def Coherent (cache : Cache Key Value) (source : Key -> Option Value) : Prop :=
  forall key value, cache.value key = some value -> source key = some value

section Coherence

variable {cache : Cache Key Value} {source : Key -> Option Value}

theorem coherent_congr {other : Cache Key Value} (same : other.value = cache.value) :
    other.Coherent source ↔ cache.Coherent source := by
  rw [Coherent, Coherent, same]

theorem coherent_empty (source : Key -> Option Value) :
    (empty : Cache Key Value).Coherent source := by
  intro key value held
  rw [value_empty] at held
  cases held

theorem through_eq_source_iff :
    (forall key, (cache.through source key).1 = source key) ↔ cache.Coherent source := by
  constructor
  · intro answers key value held
    have answer := answers key
    rw [through, held] at answer
    exact answer.symm
  · intro coherent key
    rw [through]
    cases held : cache.value key with
    | some value => exact (coherent key value held).symm
    | none => cases source key <;> rfl

namespace Coherent

theorem through (coherent : cache.Coherent source) (key : Key) :
    (cache.through source key).2.Coherent source := by
  rw [Cache.through]
  cases held : cache.value key with
  | some value => exact coherent
  | none =>
    cases answer : source key with
    | none => exact coherent
    | some value =>
      intro sought found holds
      rw [value_add] at holds
      by_cases same : sought = key
      · rw [same, Function.update_self] at holds
        rw [same, answer, holds]
      · rw [Function.update_of_ne same] at holds
        exact coherent sought found holds

theorem delete (coherent : cache.Coherent source) (key : Key) (answer : Option Value) :
    (cache.delete key).Coherent (Function.update source key answer) := by
  intro sought found holds
  rw [value_delete] at holds
  by_cases same : sought = key
  · rw [same, Function.update_self] at holds
    cases holds
  · rw [Function.update_of_ne same] at holds ⊢
    exact coherent sought found holds

theorem expire (coherent : cache.Coherent source) (key : Key) :
    (cache.delete key).Coherent source := by
  have kept := coherent.delete key (source key)
  rwa [Function.update_eq_self] at kept

theorem update_iff (coherent : cache.Coherent source) (key : Key) (answer : Option Value) :
    cache.Coherent (Function.update source key answer) ↔
      forall value, cache.value key = some value -> answer = some value := by
  constructor
  · intro after value held
    have found := after key value held
    rwa [Function.update_self] at found
  · intro agrees sought found holds
    by_cases same : sought = key
    · rw [same] at holds ⊢
      rw [Function.update_self]
      exact agrees found holds
    · rw [Function.update_of_ne same]
      exact coherent sought found holds

theorem add_iff (coherent : cache.Coherent source) (key : Key) (value : Value)
    (answer : Option Value) :
    (cache.add key value).Coherent (Function.update source key answer) ↔ answer = some value := by
  constructor
  · intro after
    have found := after key value (by rw [value_add, Function.update_self])
    rwa [Function.update_self] at found
  · intro same sought found holds
    rw [value_add] at holds
    by_cases here : sought = key
    · rw [here, Function.update_self] at holds ⊢
      rw [same, holds]
    · rw [Function.update_of_ne here] at holds ⊢
      exact coherent sought found holds

end Coherent

end Coherence

end Cache

end Library
end Sentel
