import Mathlib.Data.List.AList
import Mathlib.Logic.Function.Basic

namespace Sentel
namespace Library

/-!
Maps and the orders in which they are ranged over.

A map is an association list without duplicate keys.  What a program sees of it
is the function that looks keys up, so a change of the map is described as a
change of this function at one key.  A `range` loop visits every entry once, in
an order that the program does not choose: a loop is modelled with the order as
an argument, and results about it hold for every order.
-/

universe u v w

theorem update_of_eq {Key : Type u} {Value : Type v} [DecidableEq Key] {function : Key -> Value}
    {key : Key} {value : Value} (same : function key = value) :
    Function.update function key value = function := by
  rw [← same, Function.update_eq_self]

section Lookup

variable {Key : Type u} {Value : Type v} [DecidableEq Key]

theorem lookup_insert_eq (key : Key) (value : Value) (map : AList (fun _ : Key => Value)) :
    (fun sought => (map.insert key value).lookup sought) =
      Function.update (fun sought => map.lookup sought) key (some value) := by
  funext sought
  by_cases same : sought = key
  · rw [same, AList.lookup_insert, Function.update_self]
  · rw [AList.lookup_insert_ne same, Function.update_of_ne same]

theorem lookup_erase_eq (key : Key) (map : AList (fun _ : Key => Value)) :
    (fun sought => (map.erase key).lookup sought) =
      Function.update (fun sought => map.lookup sought) key none := by
  funext sought
  by_cases same : sought = key
  · rw [same, AList.lookup_erase, Function.update_self]
  · rw [AList.lookup_erase_ne same, Function.update_of_ne same]

theorem lookup_insert_of_stored {key : Key} {value : Value} {map : AList (fun _ : Key => Value)}
    (stored : map.lookup key = some value) (sought : Key) :
    (map.insert key value).lookup sought = map.lookup sought := by
  by_cases same : sought = key
  · rw [same, AList.lookup_insert, stored]
  · exact AList.lookup_insert_ne same

end Lookup

section Listing

variable {Key : Type u} {Value : Type v} [DecidableEq Key]

def Lists (map : AList (fun _ : Key => Value)) (entries : List (Key × Value)) : Prop :=
  forall key value, map.lookup key = some value ↔ (key, value) ∈ entries

namespace Lists

variable {map : AList (fun _ : Key => Value)} {entries : List (Key × Value)} {key : Key}
  {value : Value}

theorem empty : Lists (∅ : AList (fun _ : Key => Value)) [] := by
  intro key value
  exact iff_of_false (fun found => nomatch found) List.not_mem_nil

theorem lookup_eq_none_iff (lists : Lists map entries) :
    map.lookup key = none ↔ forall value, (key, value) ∉ entries := by
  constructor
  · intro missing value listed
    rw [(lists key value).mpr listed] at missing
    cases missing
  · intro unlisted
    cases found : map.lookup key with
    | none => rfl
    | some value => exact absurd ((lists key value).mp found) (unlisted value)

theorem insert (lists : Lists map entries) (fresh : map.lookup key = none) (value : Value) :
    Lists (map.insert key value) ((key, value) :: entries) := by
  intro sought stored
  by_cases same : sought = key
  · subst sought
    rw [AList.lookup_insert, List.mem_cons]
    constructor
    · intro equal
      exact Or.inl (by rw [Option.some.inj equal])
    · rintro (first | listed)
      · rw [(Prod.mk.inj first).2]
      · exact absurd listed (lists.lookup_eq_none_iff.mp fresh stored)
  · rw [AList.lookup_insert_ne same, lists sought stored, List.mem_cons]
    refine ⟨Or.inr, ?_⟩
    rintro (first | listed)
    · exact absurd (Prod.mk.inj first).1 same
    · exact listed

end Lists

end Listing

/-- An order in which a loop ranges over the entries of a map. -/
structure MapOrder (Entry : Type u) where
  order : List Entry -> List Entry
  perm : forall entries, (order entries).Perm entries

namespace MapOrder

def listed {Entry : Type u} : MapOrder Entry where
  order := id
  perm := fun _ => List.Perm.refl _

theorem mem_order {Entry : Type u} (range : MapOrder Entry) {entries : List Entry} {entry : Entry} :
    entry ∈ range.order entries ↔ entry ∈ entries :=
  (range.perm entries).mem_iff

theorem dlookup_order {Key : Type u} {Value : Type v} [DecidableEq Key]
    (range : MapOrder (Sigma (fun _ : Key => Value))) (map : AList (fun _ : Key => Value)) :
    (range.order map.entries).NodupKeys ∧
      forall key, (range.order map.entries).dlookup key = map.lookup key := by
  have perm := range.perm map.entries
  have distinct : (range.order map.entries).NodupKeys :=
    (List.perm_nodupKeys perm).mpr map.nodupKeys
  exact ⟨distinct, fun key => List.perm_dlookup key distinct perm⟩

end MapOrder

section Copying

variable {Key : Type u} [DecidableEq Key]

theorem find_foldl_of_updating {State : Type w} {Entry Found : Type v}
    {write : State -> Sigma (fun _ : Key => Entry) -> State} (find : State -> Key -> Option Found)
    (updated : Entry -> Option Found -> Option Found)
    (writes : forall state entry sought, find (write state entry) sought =
      if entry.1 = sought then updated entry.2 (find state sought) else find state sought)
    {entries : List (Sigma (fun _ : Key => Entry))} (distinct : entries.NodupKeys) (state : State)
    (sought : Key) :
    find (entries.foldl write state) sought =
      (entries.dlookup sought).elim (find state sought)
        (fun entry => updated entry (find state sought)) := by
  induction entries generalizing state with
  | nil => rfl
  | cons entry rest ih =>
    rcases List.nodupKeys_cons.mp distinct with ⟨alone, later⟩
    rw [List.foldl_cons, ih later, writes]
    rcases entry with ⟨key, value⟩
    by_cases same : key = sought
    · subst same
      rw [List.dlookup_eq_none.mpr alone, List.dlookup_cons_eq, if_pos rfl]
      rfl
    · rw [if_neg same, List.dlookup_cons_ne _ _ (Ne.symm same)]

theorem find_foldl_of_distinct {State : Type w} {Entry Found : Type v}
    {write : State -> Sigma (fun _ : Key => Entry) -> State} (find : State -> Key -> Option Found)
    (written : Entry -> Option Found)
    (writes : forall state entry sought, find (write state entry) sought =
      if entry.1 = sought then (written entry.2).or (find state sought) else find state sought)
    {entries : List (Sigma (fun _ : Key => Entry))} (distinct : entries.NodupKeys) (state : State)
    (sought : Key) :
    find (entries.foldl write state) sought =
      ((entries.dlookup sought).bind written).or (find state sought) := by
  rw [find_foldl_of_updating find (fun entry old => (written entry).or old) writes distinct]
  cases entries.dlookup sought with
  | none | some entry => rfl

variable {Source Value : Type v}

def copyInto (range : MapOrder (Sigma (fun _ : Key => Source))) (convert : Source -> Value)
    (source : AList (fun _ : Key => Source)) (target : AList (fun _ : Key => Value)) :
    AList (fun _ : Key => Value) :=
  (range.order source.entries).foldl (fun map entry => map.insert entry.1 (convert entry.2)) target

theorem lookup_copyInto (range : MapOrder (Sigma (fun _ : Key => Source)))
    (convert : Source -> Value) (source : AList (fun _ : Key => Source))
    (target : AList (fun _ : Key => Value)) (sought : Key) :
    (copyInto range convert source target).lookup sought =
      ((source.lookup sought).map convert).or (target.lookup sought) := by
  have listed := range.dlookup_order source
  have writes (map : AList (fun _ : Key => Value)) (entry : Sigma (fun _ : Key => Source))
      (sought : Key) : (map.insert entry.1 (convert entry.2)).lookup sought =
        if entry.1 = sought then (some (convert entry.2)).or (map.lookup sought)
        else map.lookup sought := by
    by_cases same : entry.1 = sought
    · rw [if_pos same, ← same, AList.lookup_insert]
      rfl
    · rw [if_neg same, AList.lookup_insert_ne (Ne.symm same)]
  rw [copyInto, find_foldl_of_distinct (fun map key => AList.lookup key map)
    (fun value => some (convert value)) writes listed.1, listed.2, Option.map_eq_bind]
  rfl

end Copying

end Library
end Sentel
