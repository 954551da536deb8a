import Mathlib.Data.Int.Order.Basic
import Mathlib.Data.List.AList

namespace Sentel
namespace Quto

/-!
# The cache that forgets the least recently used key

A cache is a list of elements, the one that was used last at its front, and a
map from keys to elements.  The keys are interface values.  A key need not equal
itself: not-a-number does not.  Such a key can be put into a map and neither be
found nor be deleted there.  Here it is `none`, and every other key is `some`.

The log tells what was called and what came of it, the last call first.  What
the cache should hold and how recently each key was used are read off the log
alone.
-/

universe u v

variable {Key : Type u} {Value : Type v}

structure CacheNode (Key : Type u) (Value : Type v) where
  key : Option Key
  value : Value

/-- `LRUCache`.  The list is an association list, from the identity of an element
to its node, and its entries stand in the order of the list.  The map has one
element for each key that equals itself, and any number of strays. -/
structure LRUCache (Key : Type u) (Value : Type v) where
  capacity : Int
  dlist : AList (fun _ : Nat => CacheNode Key Value)
  cacheMap : AList (fun _ : Key => Nat)
  strays : List Nat
  nextElement : Nat

inductive LruCall (Key : Type u) (Value : Type v)
  | set (k : Option Key) (v : Value)
  | get (k : Option Key)
  | remove (k : Option Key)

/-- A call with its result, and for a `Set` with the key that it evicted. -/
inductive LruEvent (Key : Type u) (Value : Type v)
  | set (k : Option Key) (v : Value) (evicted : Option (Option Key))
  | get (k : Option Key) (result : Option Value)
  | remove (k : Option Key) (found : Bool)

namespace LRUCache

def new (cap : Int) : LRUCache Key Value := ⟨cap, ∅, ∅, [], 0⟩

variable (lru : LRUCache Key Value)

def size : Nat := lru.dlist.keys.length

def listKeys : List (Option Key) := lru.dlist.entries.map (fun entry => entry.2.key)

def mapKeys : List (Option Key) := lru.cacheMap.keys.map some ++ lru.strays.map (fun _ => none)

def moveToFront (element : Nat) (node : CacheNode Key Value) : LRUCache Key Value :=
  { lru with dlist := lru.dlist.insert element node }

variable [DecidableEq Key]

def element (k : Option Key) : Option (Nat × CacheNode Key Value) :=
  (k.bind (lru.cacheMap.lookup ·)).bind (fun element =>
    (lru.dlist.lookup element).map (fun node => (element, node)))

def drop (key : Option Key) (element : Nat) : LRUCache Key Value :=
  { lru with
    cacheMap := key.elim lru.cacheMap lru.cacheMap.erase
    dlist := lru.dlist.erase element }

def pushFront (k : Option Key) (v : Value) : LRUCache Key Value :=
  { lru with
    dlist := lru.dlist.insert lru.nextElement ⟨k, v⟩
    cacheMap := k.elim lru.cacheMap (lru.cacheMap.insert · lru.nextElement)
    strays := k.elim [lru.nextElement] (fun _ => []) ++ lru.strays
    nextElement := lru.nextElement + 1 }

def set (k : Option Key) (v : Value) : Option (Option Key) × LRUCache Key Value :=
  match lru.element k with
  | some (element, node) => (none, lru.moveToFront element { node with value := v })
  | none =>
    let pushed := lru.pushFront k v
    if pushed.capacity < pushed.size then
      match pushed.dlist.entries.getLast? with
      | none => (none, pushed)
      | some last => (some last.2.key, pushed.drop last.2.key last.1)
    else (none, pushed)

def get (k : Option Key) : Option Value × LRUCache Key Value :=
  match lru.element k with
  | some (element, node) => (some node.value, lru.moveToFront element node)
  | none => (none, lru)

def remove (k : Option Key) : Bool × LRUCache Key Value :=
  match lru.element k with
  | some (element, node) => (true, lru.drop node.key element)
  | none => (false, lru)

def perform (state : List (LruEvent Key Value) × LRUCache Key Value) :
    LruCall Key Value -> List (LruEvent Key Value) × LRUCache Key Value
  | .set k v => (.set k v (state.2.set k v).1 :: state.1, (state.2.set k v).2)
  | .get k => (.get k (state.2.get k).1 :: state.1, (state.2.get k).2)
  | .remove k => (.remove k (state.2.remove k).1 :: state.1, (state.2.remove k).2)

end LRUCache

variable [DecidableEq Key]

/-! ## What the log says -/

def current : List (LruEvent Key Value) -> Option Key -> Option Value
  | [], _ => none
  | .set j v evicted :: log, k =>
    if evicted = some k then none else if j = k then some v else current log k
  | .get _ _ :: log, k => current log k
  | .remove j _ :: log, k => if j = k then none else current log k

def uses (k : Option Key) : LruEvent Key Value -> Bool
  | .set j _ _ => j = k
  | .get j result => result.isSome ∧ j = k
  | .remove _ _ => false

def lastUse (log : List (LruEvent Key Value)) (k : Option Key) : Nat := log.findIdx (uses k)

def Explained : List (LruEvent Key Value) -> Prop
  | [] => True
  | .set k v evicted :: log =>
    (∀ e ∈ evicted, forall j, (current (.set k v none :: log) j).isSome ->
      lastUse (.set k v evicted :: log) j ≤ lastUse (.set k v evicted :: log) e) ∧
    (∀ e ∈ evicted, (current (.set k v none :: log) e).isSome) ∧ Explained log
  | .get k result :: log => result = current log k ∧ Explained log
  | .remove k found :: log => found = (current log k).isSome ∧ Explained log

/-- The map and the list hold the same keys, none twice, and not too many, and
the log is explained. -/
structure Faithful (log : List (LruEvent Key Value)) (lru : LRUCache Key Value) : Prop where
  sameKeys : forall k, k ∈ lru.mapKeys ↔ k ∈ lru.listKeys
  mapOnce : lru.mapKeys.Nodup
  listOnce : lru.listKeys.Nodup
  size : (lru.size : Int) ≤ max lru.capacity 0
  explained : Explained log

/-! ## The cache and the log -/

structure Tracks (log : List (LruEvent Key Value)) (lru : LRUCache Key Value) : Prop where
  fresh : forall {element node}, lru.dlist.lookup element = some node -> element < lru.nextElement
  strays : lru.strays = []
  indexed : forall {k : Option Key} {element : Nat},
    k.bind (lru.cacheMap.lookup ·) = some element ↔
      exists node, lru.dlist.lookup element = some node ∧ node.key = k
  recent : lru.dlist.entries.Pairwise (fun a b => lastUse log a.2.key < lastUse log b.2.key)
  current : forall {k : Option Key} {v : Value}, current log k = some v ↔
    exists element, lru.dlist.lookup element = some ⟨k, v⟩

section Log

variable {log : List (LruEvent Key Value)} {event : LruEvent Key Value} {j k : Option Key}

theorem lastUse_cons_of_uses (used : uses k event = true) : lastUse (event :: log) k = 0 := by
  simp [lastUse, List.findIdx_cons, used]

theorem lastUse_cons_of_not (unused : uses k event = false) :
    lastUse (event :: log) k = lastUse log k + 1 := by
  simp [lastUse, List.findIdx_cons, unused]

theorem lastUse_set_evicted {v : Value} (evicted other : Option (Option Key)) :
    lastUse (.set k v evicted :: log) j = lastUse (.set k v other :: log) j := by
  simp only [lastUse, List.findIdx_cons, uses]

end Log

namespace Tracks

variable {log later : List (LruEvent Key Value)} {lru : LRUCache Key Value}
  {element other : Nat} {node second : CacheNode Key Value} {k : Option Key}

theorem new (cap : Int) : Tracks [] (LRUCache.new cap : LRUCache Key Value) where
  fresh := nofun
  strays := rfl
  indexed := by intro k; cases k <;> simp [LRUCache.new]
  recent := List.Pairwise.nil
  current := by simp [Quto.current, LRUCache.new]

theorem separate (tracks : Tracks log lru) (first : lru.dlist.lookup element = some node)
    (found : lru.dlist.lookup other = some second) (same : second.key = node.key) :
    other = element := by
  have mapped := tracks.indexed.mpr ⟨node, first, rfl⟩
  rw [tracks.indexed.mpr ⟨second, found, same⟩] at mapped
  exact Option.some.inj mapped

theorem element_eq_some_iff (tracks : Tracks log lru) :
    lru.element k = some (element, node) ↔ lru.dlist.lookup element = some node ∧ node.key = k := by
  rw [LRUCache.element, Option.bind_eq_some_iff]
  constructor
  · rintro ⟨other, mapped, found⟩
    rcases Option.map_eq_some_iff.mp found with ⟨_, held, same⟩
    cases same
    rcases tracks.indexed.mp mapped with ⟨second, again, key⟩
    rw [held] at again
    cases again
    exact ⟨held, key⟩
  · rintro ⟨held, key⟩
    refine ⟨element, tracks.indexed.mpr ⟨node, held, key⟩, ?_⟩
    rw [held]
    rfl

theorem ne_of_no_element (tracks : Tracks log lru) (missing : lru.element k = none)
    (found : lru.dlist.lookup element = some node) : node.key ≠ k := by
  intro same
  rw [tracks.element_eq_some_iff.mpr ⟨found, same⟩] at missing
  cases missing

theorem recent_of_unused {entries : List (Sigma fun _ : Nat => CacheNode Key Value)}
    {event : LruEvent Key Value} (unused : ∀ entry ∈ entries, uses entry.2.key event = false)
    (recent : entries.Pairwise (fun a b => lastUse log a.2.key < lastUse log b.2.key)) :
    entries.Pairwise (fun a b =>
      lastUse (event :: log) a.2.key < lastUse (event :: log) b.2.key) := by
  refine recent.imp_of_mem ?_
  intro first second firstIn secondIn before
  rw [lastUse_cons_of_not (unused first firstIn), lastUse_cons_of_not (unused second secondIn)]
  exact Nat.succ_lt_succ before

theorem fronted (tracks : Tracks log lru) {event : LruEvent Key Value} {v : Value}
    {cacheMap : AList (fun _ : Key => Nat)} {nextElement : Nat}
    (alone : forall {other second}, lru.dlist.lookup other = some second ->
      (other = element ↔ second.key = k))
    (used : forall j, uses j event = decide (k = j))
    (changes : forall j, Quto.current (event :: log) j =
      if k = j then some v else Quto.current log j)
    (indexes : forall j : Option Key, j.bind (cacheMap.lookup ·) =
      if k = j then some element else j.bind (lru.cacheMap.lookup ·))
    (below : element < nextElement) (more : lru.nextElement ≤ nextElement) :
    Tracks (event :: log)
      { lru with
        dlist := lru.dlist.insert element ⟨k, v⟩
        cacheMap := cacheMap
        nextElement := nextElement } := by
  have lookups {other : Nat} {second : CacheNode Key Value} :
      (lru.dlist.insert element ⟨k, v⟩).lookup other = some second ↔
        if k = second.key then other = element ∧ second.value = v
        else lru.dlist.lookup other = some second := by
    by_cases here : other = element
    · rw [here, AList.lookup_insert]
      split
      next same => cases second; simp_all [eq_comm]
      next apart =>
        refine iff_of_false (fun same => apart ?_) (fun found => apart ((alone found).mp rfl).symm)
        cases same
        rfl
    · rw [AList.lookup_insert_ne here]
      split
      next same => exact iff_of_false (fun found => here ((alone found).mpr same.symm)) (here ·.1)
      next => exact Iff.rfl
  refine ⟨?_, tracks.strays, ?_, ?_, ?_⟩
  · intro other second found
    rw [lookups] at found
    split at found
    · exact found.1 ▸ below
    · exact Nat.lt_of_lt_of_le (tracks.fresh found) more
  · intro j other
    simp only [indexes, lookups]
    split
    next same => exact ⟨fun here => ⟨⟨k, v⟩, by simp_all⟩, by rintro ⟨second, found, rfl⟩; simp_all⟩
    next apart =>
      rw [tracks.indexed]
      refine exists_congr (fun second => and_congr_left (fun key => ?_))
      rw [if_neg (key ▸ apart)]
  · have others : ∀ entry ∈ List.kerase element lru.dlist.entries,
        uses entry.2.key event = false := by
      intro entry member
      have apart : entry.1 ≠ element := by
        intro same
        have present := List.mem_keys_of_mem member
        rw [same] at present
        exact List.notMem_keys_kerase element lru.dlist.nodupKeys present
      have old := (List.kerase_sublist element lru.dlist.entries).subset member
      rw [used]
      exact decide_eq_false fun same =>
        apart ((alone (AList.mem_lookup_iff.mpr old)).mpr same.symm)
    rw [AList.entries_insert]
    refine List.pairwise_cons.mpr ⟨fun entry member => ?_, recent_of_unused others
      (tracks.recent.sublist (List.kerase_sublist _ _))⟩
    rw [lastUse_cons_of_uses ((used k).trans (decide_eq_true rfl)),
      lastUse_cons_of_not (others entry member)]
    exact Nat.succ_pos _
  · intro j w
    simp only [changes, lookups]
    split
    · simp [eq_comm]
    · exact tracks.current

theorem moved (tracks : Tracks log lru) (found : lru.dlist.lookup element = some node)
    {event : LruEvent Key Value} {v : Value}
    (used : forall j, uses j event = decide (node.key = j))
    (changes : forall j, Quto.current (event :: log) j =
      if node.key = j then some v else Quto.current log j) :
    Tracks (event :: log) (lru.moveToFront element { node with value := v }) := by
  refine tracks.fronted (fun held => ?_) used changes (fun j => ?_) (tracks.fresh found)
    (Nat.le_refl _)
  · refine ⟨?_, tracks.separate found held⟩
    rintro rfl
    rw [found] at held
    cases held
    rfl
  · split
    next same => exact tracks.indexed.mpr ⟨node, found, same⟩
    next => rfl

theorem pushed {k : Key} (tracks : Tracks log lru) (missing : lru.element (some k) = none)
    (v : Value) : Tracks (.set (some k) v none :: log) (lru.pushFront (some k) v) := by
  refine tracks.fronted (fun found => ?_) (fun _ => rfl) (fun _ => rfl) (fun j => ?_)
    (Nat.lt_succ_self _) (Nat.le_succ _)
  · exact iff_of_false (Nat.ne_of_lt (tracks.fresh found)) (tracks.ne_of_no_element missing found)
  · cases j with
    | none => rfl
    | some j =>
      by_cases same : k = j
      · subst same
        rw [if_pos rfl]
        exact AList.lookup_insert _
      · rw [if_neg (fun equal => same (Option.some.inj equal))]
        exact AList.lookup_insert_ne (Ne.symm same)

theorem dropped (tracks : Tracks log lru) (found : lru.dlist.lookup element = some node)
    (recent : lru.dlist.entries.Pairwise
      (fun a b => lastUse later a.2.key < lastUse later b.2.key))
    (changes : forall j, Quto.current later j =
      if node.key = j then none else Quto.current log j) :
    Tracks later (lru.drop node.key element) := by
  have lookups {other : Nat} {second : CacheNode Key Value} :
      (lru.dlist.erase element).lookup other = some second ↔
        node.key ≠ second.key ∧ lru.dlist.lookup other = some second := by
    by_cases here : other = element
    · rw [here, AList.lookup_erase, found]
      refine iff_of_false nofun (fun apart => apart.1 ?_)
      rw [Option.some.inj apart.2]
    · rw [AList.lookup_erase_ne here]
      exact (and_iff_right_of_imp fun held same => here (tracks.separate found held same.symm)).symm
  have indexes (j : Option Key) : j.bind ((lru.drop node.key element).cacheMap.lookup ·) =
      if node.key = j then none else j.bind (lru.cacheMap.lookup ·) := by
    cases j with
    | none => simp
    | some j =>
      rw [LRUCache.drop]
      cases node.key with
      | none => rfl
      | some key =>
        by_cases same : key = j
        · subst same
          rw [if_pos rfl]
          exact AList.lookup_erase _ _
        · rw [if_neg (fun equal => same (Option.some.inj equal))]
          exact AList.lookup_erase_ne (Ne.symm same)
  refine ⟨?_, tracks.strays, ?_, recent.sublist (List.kerase_sublist _ _), ?_⟩
  · intro other second kept
    exact tracks.fresh (lookups.mp kept).2
  · intro j other
    rw [indexes, Option.ite_none_left_eq_some, tracks.indexed]
    simp only [LRUCache.drop, lookups]
    grind
  · intro j v
    rw [changes, Option.ite_none_left_eq_some, tracks.current]
    simp only [LRUCache.drop, lookups]
    grind

theorem idle (tracks : Tracks log lru) {event : LruEvent Key Value}
    (unused : forall j, uses j event = false)
    (changes : forall j, Quto.current (event :: log) j = Quto.current log j) :
    Tracks (event :: log) lru where
  fresh := tracks.fresh
  strays := tracks.strays
  indexed := tracks.indexed
  recent := recent_of_unused (fun _ _ => unused _) tracks.recent
  current := by
    intro k v
    rw [changes]
    exact tracks.current

theorem oldest (tracks : Tracks log lru) {last : Sigma fun _ : Nat => CacheNode Key Value}
    (ends : lru.dlist.entries.getLast? = some last) {j : Option Key}
    (present : (Quto.current log j).isSome) : lastUse log j ≤ lastUse log last.2.key := by
  rcases Option.isSome_iff_exists.mp present with ⟨v, value⟩
  rcases tracks.current.mp value with ⟨element, found⟩
  rcases List.getLast?_eq_some_iff.mp ends with ⟨others, split⟩
  have recent := tracks.recent
  have member := AList.mem_lookup_iff.mp found
  rw [split] at recent member
  rcases List.mem_append.mp member with earlier | here
  · exact Nat.le_of_lt ((List.pairwise_append.mp recent).2.2 _ earlier last List.mem_cons_self)
  · rw [← List.mem_singleton.mp here]

theorem value (tracks : Tracks log lru) (found : lru.dlist.lookup element = some node) :
    Quto.current log node.key = some node.value :=
  tracks.current.mpr ⟨element, found⟩

theorem absent (tracks : Tracks log lru) (missing : lru.element k = none) :
    Quto.current log k = none := by
  by_contra present
  rcases Option.ne_none_iff_exists'.mp present with ⟨v, value⟩
  rcases tracks.current.mp value with ⟨element, found⟩
  exact tracks.ne_of_no_element missing found rfl

end Tracks

/-! ## The calls -/

section Size

variable {lru : LRUCache Key Value} {element : Nat} {node : CacheNode Key Value}

omit [DecidableEq Key] in
theorem size_moveToFront (found : lru.dlist.lookup element = some node)
    (moved : CacheNode Key Value) : (lru.moveToFront element moved).size = lru.size := by
  have member : element ∈ lru.dlist.keys := AList.lookup_isSome.mp (by rw [found]; rfl)
  have positive := List.length_pos_of_mem member
  rw [LRUCache.size, LRUCache.moveToFront, AList.keys_insert, List.length_cons,
    List.length_erase_of_mem member, LRUCache.size]
  omega

theorem size_pushFront (unused : lru.dlist.lookup lru.nextElement = none) (k : Option Key)
    (v : Value) : (lru.pushFront k v).size = lru.size + 1 := by
  have missing : lru.nextElement ∉ lru.dlist.keys := AList.lookup_eq_none.mp unused
  rw [LRUCache.size, LRUCache.pushFront, AList.keys_insert, List.length_cons,
    List.erase_of_not_mem missing, LRUCache.size]

theorem size_drop (found : lru.dlist.lookup element = some node) (key : Option Key) :
    (lru.drop key element).size = lru.size - 1 := by
  have member : element ∈ lru.dlist.keys := AList.lookup_isSome.mp (by rw [found]; rfl)
  rw [LRUCache.size, LRUCache.drop, AList.keys_erase, List.length_erase_of_mem member,
    LRUCache.size]

end Size

structure Kept (cap : Int) (log : List (LruEvent Key Value)) (lru : LRUCache Key Value) :
    Prop where
  tracks : Tracks log lru
  capacity : lru.capacity = cap
  size : (lru.size : Int) ≤ max cap 0
  explained : Explained log

namespace Kept

variable {cap : Int} {log : List (LruEvent Key Value)} {lru : LRUCache Key Value}

theorem get (kept : Kept cap log lru) (k : Option Key) :
    Kept cap (.get k (lru.get k).1 :: log) (lru.get k).2 := by
  rw [LRUCache.get]
  cases sought : lru.element k with
  | none =>
    exact ⟨kept.tracks.idle (fun _ => rfl) (fun _ => rfl), kept.capacity, kept.size,
      (kept.tracks.absent sought).symm, kept.explained⟩
  | some found =>
    rcases found with ⟨element, node⟩
    rcases kept.tracks.element_eq_some_iff.mp sought with ⟨found, rfl⟩
    have value := kept.tracks.value found
    refine ⟨kept.tracks.moved found (fun _ => by simp [uses]) (fun j => ?_), kept.capacity,
      (size_moveToFront found node).symm ▸ kept.size, value.symm, kept.explained⟩
    change current log j = _
    split
    next same => rw [← same, value]
    next => rfl

theorem remove (kept : Kept cap log lru) (k : Option Key) :
    Kept cap (.remove k (lru.remove k).1 :: log) (lru.remove k).2 := by
  rw [LRUCache.remove]
  cases sought : lru.element k with
  | none =>
    have absent := kept.tracks.absent sought
    refine ⟨kept.tracks.idle (fun _ => rfl) (fun j => ?_), kept.capacity, kept.size,
      by rw [absent]; rfl, kept.explained⟩
    rw [current]
    split
    next same => rw [← same, absent]
    next => rfl
  | some found =>
    rcases found with ⟨element, node⟩
    rcases kept.tracks.element_eq_some_iff.mp sought with ⟨found, rfl⟩
    refine ⟨kept.tracks.dropped found ?_ (fun j => rfl), kept.capacity, ?_,
      by rw [kept.tracks.value found]; rfl, kept.explained⟩
    · exact Tracks.recent_of_unused (fun _ _ => rfl) kept.tracks.recent
    · have size := kept.size
      simp only [size_drop found]
      omega

theorem set (kept : Kept cap log lru) {k : Option Key} (reflexive : k ≠ none) (v : Value) :
    Kept cap (.set k v (lru.set k v).1 :: log) (lru.set k v).2 := by
  have tracks := kept.tracks
  have size := kept.size
  rw [LRUCache.set]
  cases sought : lru.element k with
  | some found =>
    rcases found with ⟨element, node⟩
    rcases tracks.element_eq_some_iff.mp sought with ⟨found, rfl⟩
    exact ⟨tracks.moved found (fun _ => rfl) (fun _ => rfl), kept.capacity,
      (size_moveToFront found _).symm ▸ size, nofun, nofun, kept.explained⟩
  | none =>
    rcases Option.ne_none_iff_exists'.mp reflexive with ⟨key, rfl⟩
    have pushed := tracks.pushed sought v
    have unused : lru.dlist.lookup lru.nextElement = none := by
      by_contra held
      rcases Option.ne_none_iff_exists'.mp held with ⟨node, found⟩
      exact Nat.lt_irrefl _ (tracks.fresh found)
    have larger := size_pushFront unused (some key) v
    have capacity : (lru.pushFront (some key) v).capacity = cap := kept.capacity
    dsimp only
    split
    · cases ends : (lru.pushFront (some key) v).dlist.entries.getLast? with
      | none =>
        rw [LRUCache.size, AList.keys, List.getLast?_eq_none_iff.mp ends] at larger
        cases larger
      | some last =>
        have found := AList.mem_lookup_iff.mpr (List.mem_of_getLast? ends)
        refine ⟨pushed.dropped found ?_ (fun j => by simp [current]), capacity, ?_, ?_, ?_,
          kept.explained⟩
        · refine pushed.recent.imp ?_
          intro first second before
          rwa [lastUse_set_evicted _ none, lastUse_set_evicted _ none]
        · simp only [size_drop found, larger]
          omega
        · rintro e ⟨⟩ j present
          rw [lastUse_set_evicted _ none, lastUse_set_evicted _ none]
          exact pushed.oldest ends present
        · rintro e ⟨⟩
          rw [pushed.value found]
          rfl
    · next fits =>
        refine ⟨pushed, capacity, ?_, nofun, nofun, kept.explained⟩
        rw [capacity] at fits
        dsimp only
        omega

theorem perform (kept : Kept cap log lru) {call : LruCall Key Value}
    (reflexive : forall v, call ≠ .set none v) :
    Kept cap (LRUCache.perform (log, lru) call).1 (LRUCache.perform (log, lru) call).2 := by
  cases call with
  | set k v => exact kept.set (fun same => reflexive v (by rw [same])) v
  | get k => exact kept.get k
  | remove k => exact kept.remove k

theorem faithful (kept : Kept cap log lru) : Faithful log lru := by
  have listed (k : Option Key) : k ∈ lru.listKeys ↔
      exists element, k.bind (lru.cacheMap.lookup ·) = some element := by
    simp only [LRUCache.listKeys, List.mem_map, kept.tracks.indexed, Sigma.exists,
      ← AList.mem_lookup_iff, Option.mem_def]
  have mapped : lru.mapKeys = lru.cacheMap.keys.map some := by
    rw [LRUCache.mapKeys, kept.tracks.strays, List.map_nil, List.append_nil]
  refine ⟨fun k => ?_, ?_, ?_, kept.capacity ▸ kept.size, kept.explained⟩
  · rw [mapped, listed, List.mem_map]
    cases k with
    | none => simp
    | some key => simp [← Option.isSome_iff_exists, AList.lookup_isSome, AList.mem_keys]
  · rw [mapped]
    exact lru.cacheMap.keys_nodup.map (fun _ _ => Option.some.inj)
  · refine List.pairwise_map.mpr (kept.tracks.recent.imp ?_)
    intro first second before same
    exact Nat.ne_of_lt before (by rw [same])

end Kept

/-- The log and the cache after a sequence of calls on a new cache. -/
def afterCalls (cap : Int) (calls : List (LruCall Key Value)) :
    List (LruEvent Key Value) × LRUCache Key Value :=
  calls.foldl LRUCache.perform ([], .new cap)

theorem kept_foldl {cap : Int} {state : List (LruEvent Key Value) × LRUCache Key Value}
    (kept : Kept cap state.1 state.2) {calls : List (LruCall Key Value)}
    (reflexive : forall v, .set none v ∉ calls) :
    Kept cap (calls.foldl LRUCache.perform state).1 (calls.foldl LRUCache.perform state).2 := by
  induction calls generalizing state with
  | nil => exact kept
  | cons call rest ih =>
    refine ih (kept.perform (fun v same => ?_)) (fun v member => ?_)
    · exact reflexive v (same ▸ List.mem_cons_self)
    · exact reflexive v (List.mem_cons_of_mem call member)

/-- For every capacity and every sequence of calls that sets only keys equal to
themselves, the cache is faithful to its log. -/
theorem afterCalls_faithful (cap : Int) {calls : List (LruCall Key Value)}
    (reflexive : forall v, .set none v ∉ calls) :
    Faithful (afterCalls cap calls).1 (afterCalls cap calls).2 := by
  have start : Kept cap ([] : List (LruEvent Key Value)) (.new cap) :=
    ⟨.new cap, rfl, Int.le_max_right _ _, True.intro⟩
  exact (kept_foldl start reflexive).faithful

def reused : List (LruCall Nat Nat) :=
  [.set (some 1) 10, .set (some 2) 20, .get (some 1), .set (some 3) 30]

/-- The second key is evicted, which was used before the other two. -/
theorem reused_faithful :
    Faithful (afterCalls 2 reused).1 (afterCalls 2 reused).2 ∧
      (afterCalls 2 reused).1.head? = some (.set (some 3) 30 (some (some 2))) :=
  ⟨afterCalls_faithful 2 (by simp [reused]), rfl⟩

/-- A key that does not equal itself stays in the map when it is evicted. -/
theorem nan_not_faithful :
    ¬ Faithful (afterCalls 1 [LruCall.set none 0, .set (some 1) 0]).1
      (afterCalls 1 [LruCall.set none 0, .set (some 1) 0]).2 := by
  intro faithful
  have stale : none ∈ [some 1] := (faithful.sameKeys none).mp (by decide)
  cases stale with
  | tail _ rest => cases rest

end Quto
end Sentel
