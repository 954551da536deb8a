import Mathlib.Data.List.Sigma

namespace Sentel
namespace Library

/-!
Tries with named children.

A node carries a value and a finite map from keys to child nodes.  Reading
follows a path of keys; writing creates the missing nodes of a path and then
changes the value at its end.  The two laws of a finite map hold between them
as soon as a fresh node reads like an absent one.  The order in which the
children are listed is never observed by these laws, which is why the keys of
every node only have to be distinct.
-/

universe u v w

structure Trie (Key : Type u) (Value : Type v) where
  value : Value
  children : List (Sigma fun _ : Key => Trie Key Value)

namespace Trie

variable {Key : Type u} {Value : Type v} {Reading : Type w} [DecidableEq Key]

def child (node : Trie Key Value) (key : Key) : Option (Trie Key Value) :=
  List.dlookup key node.children

def descend : Trie Key Value -> List Key -> Option (Trie Key Value)
  | node, [] => some node
  | node, key :: rest => (node.child key).bind (fun next => next.descend rest)

/-- Change the value at the end of a path, creating the missing nodes of the
path on the way. -/
def updateAt (fresh : Key -> Value) (change : Value -> Value) :
    List Key -> Trie Key Value -> Trie Key Value
  | [], node => { node with value := change node.value }
  | key :: rest, node =>
    { node with
      children := List.kinsert key
        (updateAt fresh change rest ((node.child key).getD ⟨fresh key, []⟩)) node.children }

def readAt (read : Value -> Reading) (absent : Reading) (node : Trie Key Value)
    (path : List Key) : Reading :=
  ((node.descend path).map (fun found => read found.value)).getD absent

@[simp] theorem descend_nil (node : Trie Key Value) : node.descend [] = some node := rfl

@[simp] theorem descend_cons (node : Trie Key Value) (key : Key) (rest : List Key) :
    node.descend (key :: rest) = (node.child key).bind (fun next => next.descend rest) := rfl

theorem child_updateAt_self (fresh : Key -> Value) (change : Value -> Value)
    (key : Key) (rest : List Key) (node : Trie Key Value) :
    (updateAt fresh change (key :: rest) node).child key =
      some (updateAt fresh change rest ((node.child key).getD ⟨fresh key, []⟩)) :=
  List.dlookup_kinsert node.children

theorem child_updateAt_of_ne (fresh : Key -> Value) (change : Value -> Value)
    {key other : Key} (different : other ≠ key) (rest : List Key) (node : Trie Key Value) :
    (updateAt fresh change (key :: rest) node).child other = node.child other :=
  List.dlookup_kinsert_ne different

@[simp] theorem readAt_nil (read : Value -> Reading) (absent : Reading)
    (node : Trie Key Value) : node.readAt read absent [] = read node.value := rfl

theorem readAt_cons (read : Value -> Reading) (absent : Reading) (node : Trie Key Value)
    (key : Key) (rest : List Key) :
    node.readAt read absent (key :: rest) =
      ((node.child key).map (fun next => next.readAt read absent rest)).getD absent := by
  unfold readAt
  rw [descend_cons]
  cases node.child key with
  | none | some next => rfl

section Laws

variable {fresh : Key -> Value} {change : Value -> Value} {read : Value -> Reading}
  {absent : Reading} (freshReads : forall key, read (fresh key) = absent)

include freshReads

theorem readAt_fresh (key : Key) (path : List Key) :
    (Trie.mk (fresh key) [] : Trie Key Value).readAt read absent path = absent := by
  cases path with
  | nil => exact freshReads key
  | cons next rest => rfl

theorem readAt_child_getD (node : Trie Key Value) (key : Key) (rest : List Key) :
    ((node.child key).getD ⟨fresh key, []⟩).readAt read absent rest =
      node.readAt read absent (key :: rest) := by
  rw [readAt_cons]
  cases node.child key with
  | none => exact readAt_fresh freshReads key rest
  | some next => rfl

theorem readAt_updateAt_self {effect : Reading -> Reading}
    (changes : forall value, read (change value) = effect (read value))
    (path : List Key) (node : Trie Key Value) :
    (updateAt fresh change path node).readAt read absent path =
      effect (node.readAt read absent path) := by
  induction path generalizing node with
  | nil => exact changes node.value
  | cons key rest ih =>
    rw [readAt_cons, child_updateAt_self, Option.map_some, Option.getD_some, ih,
      readAt_child_getD freshReads]

theorem readAt_updateAt_of_ne {path other : List Key} (different : other ≠ path)
    (node : Trie Key Value) :
    (updateAt fresh change path node).readAt read absent other =
      node.readAt read absent other := by
  induction path generalizing node other with
  | nil =>
    cases other with
    | nil => exact absurd rfl different
    | cons next rest => rfl
  | cons key rest ih =>
    cases other with
    | nil => rfl
    | cons next further =>
      by_cases same : next = key
      · subst next
        have tails : further ≠ rest := fun equal => different (by rw [equal])
        rw [readAt_cons, child_updateAt_self, Option.map_some, Option.getD_some, ih tails,
          readAt_child_getD freshReads]
      · rw [readAt_cons, readAt_cons, child_updateAt_of_ne fresh change same]

end Laws

/-! ## Distinct keys -/

def DistinctKeys (node : Trie Key Value) : Prop :=
  forall path found, node.descend path = some found -> found.children.NodupKeys

theorem DistinctKeys.children {node : Trie Key Value} (distinct : node.DistinctKeys) :
    node.children.NodupKeys :=
  distinct [] node rfl

theorem DistinctKeys.child {node next : Trie Key Value} (distinct : node.DistinctKeys)
    {key : Key} (found : node.child key = some next) : next.DistinctKeys := by
  intro path final reached
  apply distinct (key :: path) final
  rw [descend_cons, found]
  exact reached

theorem DistinctKeys.mem_children_iff {node next : Trie Key Value}
    (distinct : node.DistinctKeys) {key : Key} :
    ⟨key, next⟩ ∈ node.children ↔ node.child key = some next :=
  (List.mem_dlookup_iff distinct.children).symm

theorem distinctKeys_leaf (value : Value) :
    (Trie.mk value [] : Trie Key Value).DistinctKeys := by
  intro path found reached
  cases path with
  | nil =>
    cases reached
    exact List.nodupKeys_nil
  | cons key rest => cases reached

theorem DistinctKeys.updateAt {node : Trie Key Value} (distinct : node.DistinctKeys)
    (fresh : Key -> Value) (change : Value -> Value) (path : List Key) :
    (Trie.updateAt fresh change path node).DistinctKeys := by
  induction path generalizing node with
  | nil =>
    intro other found reached
    cases other with
    | nil =>
      cases reached
      exact distinct.children
    | cons key rest => exact distinct (key :: rest) found reached
  | cons key rest ih =>
    intro other found reached
    cases other with
    | nil =>
      cases reached
      exact List.kinsert_nodupKeys _ _ distinct.children
    | cons next further =>
      rw [descend_cons] at reached
      by_cases same : next = key
      · subst next
        rw [child_updateAt_self] at reached
        refine ih ?_ further found reached
        cases present : node.child key with
        | none => exact distinctKeys_leaf (fresh key)
        | some inner => exact distinct.child present
      · rw [child_updateAt_of_ne fresh change same] at reached
        exact distinct (next :: further) found reached

end Trie

end Library
end Sentel
