import Mathlib.Data.List.Nodup
import Mathlib.Data.List.Pairwise
import Mathlib.Logic.Function.Basic
import Sentel.Library.GoString

namespace Sentel
namespace Library

/-!
Collections of documents, and the partial maps that they stand for.

A document is a list of named values, and a query asks for the values of some
names.  A collection is the list of its documents.  One document is found,
replaced or removed by a query, namely the first that matches.

A collection is used as a map when every document is the encoding of a record,
the records have distinct keys, and a query for a key matches the record of
that key alone.  The map is then kept by the operations, and removing one match
of a coarser query clears a whole group of keys only if the group has one
member at most.
-/

/-- The error of a search that finds no document. -/
def notFound : GoString := ascii "not found"


/-! ## Documents and queries -/

abbrev Document (Value : Type) := List (String × Value)

namespace Document

variable {Value : Type} [DecidableEq Value]

def satisfies (query : List (String × Value)) (document : Document Value) : Bool :=
  query.all (fun clause => document.lookup clause.1 == some clause.2)

end Document

namespace Collection

variable {Item : Type}

def findOne (test : Item -> Bool) (items : List Item) : Option Item :=
  items.find? test

def findAll (test : Item -> Bool) (items : List Item) : List Item :=
  items.filter test

def insert (item : Item) (items : List Item) : List Item :=
  items ++ [item]

def update (test : Item -> Bool) (item : Item) : List Item -> List Item
  | [] => []
  | first :: rest => if test first then item :: rest else first :: update test item rest

def remove (test : Item -> Bool) (items : List Item) : List Item :=
  items.eraseP test

/-! ## One match at most -/

def Unique (test : Item -> Bool) (items : List Item) : Prop :=
  items.Pairwise (fun first second => ¬ (test first = true ∧ test second = true))

variable {test : Item -> Bool} {items : List Item}

theorem update_of_none (none : ∀ item ∈ items, ¬ test item = true) (item : Item) :
    update test item items = items := by
  induction items with
  | nil => rfl
  | cons first rest ih =>
    rw [update, if_neg (none first List.mem_cons_self),
      ih (fun other member => none other (List.mem_cons_of_mem first member))]

theorem remove_eq_filter (unique : Unique test items) :
    remove test items = items.filter (fun item => !test item) := by
  induction items with
  | nil => rfl
  | cons first rest ih =>
    rcases List.pairwise_cons.mp unique with ⟨others, later⟩
    by_cases found : test first = true
    · rw [remove, List.eraseP_cons_of_pos found, List.filter_cons_of_neg (by simp [found])]
      refine (List.filter_eq_self.mpr (fun item member => ?_)).symm
      have other := others item member
      simpa [found] using other
    · rw [remove, List.eraseP_cons_of_neg found, List.filter_cons_of_pos (by simp [found])]
      exact congrArg (List.cons first) (ih later)

theorem update_eq_map (unique : Unique test items) (item : Item) :
    update test item items = items.map (fun old => if test old then item else old) := by
  induction items with
  | nil => rfl
  | cons first rest ih =>
    rcases List.pairwise_cons.mp unique with ⟨others, later⟩
    rw [update, List.map_cons]
    by_cases found : test first = true
    · rw [if_pos found, if_pos found]
      have same : rest.map (fun old => if test old then item else old) = rest := by
        refine (List.map_congr_left (fun old member => ?_)).trans (List.map_id rest)
        have other : ¬ test old = true := fun met => others old member ⟨found, met⟩
        exact if_neg other
      rw [same]
    · rw [if_neg found, if_neg found, ih later]

/-! ## Editing the first match -/

/-- Edit the first match and keep everything else. -/
def revise (test : Item -> Bool) (edit : Item -> Item) : List Item -> List Item
  | [] => []
  | first :: rest => if test first then edit first :: rest else first :: revise test edit rest

variable {test : Item -> Bool} {items : List Item} {item : Item}

theorem update_eq_revise_iff {edit : Item -> Item} (item : Item) :
    update test item items = revise test edit items ↔
      forall old, findOne test items = some old -> item = edit old := by
  induction items with
  | nil => exact iff_of_true rfl nofun
  | cons first rest ih =>
    rw [update, revise, findOne]
    by_cases found : test first = true
    · rw [if_pos found, if_pos found, List.find?_cons_of_pos found]
      constructor
      · intro same old taken
        rw [← Option.some.inj taken]
        exact (List.cons.inj same).1
      · intro edited
        rw [edited first rfl]
    · rw [if_neg found, if_neg found, List.find?_cons_of_neg found, List.cons_inj_right]
      exact ih

theorem map_update {Key : Type} {key : Item -> Key}
    (same : forall old, test old = true -> key old = key item) (items : List Item) :
    (update test item items).map key = items.map key := by
  induction items with
  | nil => rfl
  | cons first rest ih =>
    rw [update]
    by_cases found : test first = true
    · rw [if_pos found, List.map_cons, List.map_cons, same first found]
    · rw [if_neg found, List.map_cons, List.map_cons, ih]

theorem update_self (first : findOne test items = some item) : update test item items = items := by
  induction items with
  | nil => rfl
  | cons head rest ih =>
    rw [update]
    by_cases found : test head = true
    · rw [findOne, List.find?_cons_of_pos found] at first
      rw [if_pos found, Option.some.inj first]
    · rw [findOne, List.find?_cons_of_neg found] at first
      rw [if_neg found, ih first]

theorem findOne_update (passes : test item = true) (items : List Item) :
    findOne test (update test item items) = (findOne test items).map (fun _ => item) := by
  induction items with
  | nil => rfl
  | cons first rest ih =>
    rw [update, findOne, findOne]
    by_cases found : test first = true
    · rw [if_pos found, List.find?_cons_of_pos passes, List.find?_cons_of_pos found]
      rfl
    · rw [if_neg found, List.find?_cons_of_neg found, List.find?_cons_of_neg found]
      exact ih

theorem findOne_of_mem (unique : Unique test items) (member : item ∈ items)
    (passes : test item = true) : findOne test items = some item := by
  induction items with
  | nil => exact absurd member List.not_mem_nil
  | cons first rest ih =>
    rcases List.pairwise_cons.mp unique with ⟨others, later⟩
    rw [findOne]
    by_cases found : test first = true
    · rw [List.find?_cons_of_pos found]
      rcases List.mem_cons.mp member with rfl | inRest
      · rfl
      · exact absurd ⟨found, passes⟩ (others item inRest)
    · rw [List.find?_cons_of_neg found]
      refine ih later ((List.mem_cons.mp member).resolve_left ?_)
      rintro rfl
      exact found passes

/-! ## Encoded collections -/

section Encoded

variable {Record : Type} (encode : Record -> Item) (test : Item -> Bool) (records : List Record)

theorem findOne_map :
    findOne test (records.map encode) = (records.find? (test ∘ encode)).map encode :=
  List.find?_map

theorem findAll_map :
    findAll test (records.map encode) = (records.filter (test ∘ encode)).map encode :=
  List.filter_map

theorem remove_map :
    remove test (records.map encode) = (remove (test ∘ encode) records).map encode :=
  List.eraseP_map

theorem update_map (record : Record) :
    update test (encode record) (records.map encode) =
      (update (test ∘ encode) record records).map encode := by
  induction records with
  | nil => rfl
  | cons first rest ih =>
    rw [List.map_cons, update, update]
    by_cases found : test (encode first) = true
    · rw [if_pos found, if_pos (show (test ∘ encode) first = true from found)]
      rfl
    · rw [if_neg found, if_neg (show ¬ (test ∘ encode) first = true from found), ih]
      rfl

end Encoded

end Collection

/-! ## The map of a collection -/

section Maps

variable {Record Key : Type}

structure Represents (key : Record -> Key) (records : List Record)
    (entries : Key -> Option Record) : Prop where
  distinct : (records.map key).Nodup
  stored : forall name record, entries name = some record ↔ record ∈ records ∧ key record = name

def amend [DecidableEq Key] (entries : Key -> Option Record) (name : Key) (record : Record) :
    Key -> Option Record :=
  Function.update entries name ((entries name).map (fun _ => record))

def without (gone : Key -> Bool) (entries : Key -> Option Record) : Key -> Option Record :=
  fun name => if gone name then none else entries name

namespace Represents

variable {key : Record -> Key} {records : List Record} {entries : Key -> Option Record}

theorem empty (key : Record -> Key) : Represents key [] (fun _ => none) where
  distinct := List.nodup_nil
  stored := fun _ _ => iff_of_false nofun (fun found => List.not_mem_nil found.1)

variable (represents : Represents key records entries)
include represents

theorem of_mem {record : Record} (member : record ∈ records) :
    entries (key record) = some record :=
  (represents.stored _ _).mpr ⟨member, rfl⟩

theorem unique_of_key {test : Record -> Bool}
    (determines : ∀ first ∈ records, ∀ second ∈ records,
      test first = true -> test second = true -> key first = key second) :
    Collection.Unique test records := by
  have distinct := List.pairwise_map.mp represents.distinct
  refine distinct.imp_of_mem (fun inFirst inSecond different both => different ?_)
  exact determines _ inFirst _ inSecond both.1 both.2

theorem remove {gone : Key -> Bool}
    (alone : forall first second, gone first = true -> gone second = true ->
      entries first ≠ none -> entries second ≠ none -> first = second) :
    Represents key (Collection.remove (gone ∘ key) records) (without gone entries) := by
  have unique : Collection.Unique (gone ∘ key) records := by
    refine represents.unique_of_key (fun first inFirst second inSecond goneFirst goneSecond => ?_)
    refine alone _ _ goneFirst goneSecond ?_ ?_
    · rw [represents.of_mem inFirst]
      exact Option.some_ne_none _
    · rw [represents.of_mem inSecond]
      exact Option.some_ne_none _
  rw [Collection.remove_eq_filter unique]
  refine ⟨(List.filter_sublist.map key).nodup represents.distinct, fun name record => ?_⟩
  rw [without, List.mem_filter]
  by_cases cleared : gone name = true
  · rw [if_pos cleared]
    refine iff_of_false nofun ?_
    rintro ⟨⟨_, kept⟩, rfl⟩
    simp [cleared] at kept
  · rw [if_neg cleared, represents.stored]
    constructor
    · rintro ⟨member, rfl⟩
      exact ⟨⟨member, by simpa using cleared⟩, rfl⟩
    · rintro ⟨⟨member, _⟩, named⟩
      exact ⟨member, named⟩

theorem remains {gone : Key -> Bool} {first second : Key} (goneFirst : gone first = true)
    (goneSecond : gone second = true) (hasFirst : entries first ≠ none)
    (hasSecond : entries second ≠ none) (different : first ≠ second) :
    ∃ record ∈ Collection.remove (gone ∘ key) records, gone (key record) = true := by
  rcases Option.ne_none_iff_exists'.mp hasFirst with ⟨left, storedLeft⟩
  rcases Option.ne_none_iff_exists'.mp hasSecond with ⟨right, storedRight⟩
  rcases (represents.stored _ _).mp storedLeft with ⟨inLeft, rfl⟩
  rcases (represents.stored _ _).mp storedRight with ⟨inRight, rfl⟩
  rcases List.exists_of_eraseP (p := gone ∘ key) inLeft goneFirst with
    ⟨erased, before, after, _, _, parts, erasure⟩
  have survives {record : Record} (member : record ∈ records) (other : record ≠ erased) :
      record ∈ Collection.remove (gone ∘ key) records := by
    rw [parts, List.mem_append, List.mem_cons] at member
    rw [Collection.remove, erasure, List.mem_append]
    exact member.imp_right (fun found => found.resolve_left other)
  by_cases same : left = erased
  · exact ⟨right, survives inRight (fun equal => different (by rw [same, equal])), goneSecond⟩
  · exact ⟨left, survives inLeft same, goneFirst⟩

theorem lists {Label : Type} {within : Key -> Bool} {label : Record -> Label}
    {place : Label -> Key}
    (placed : forall record name, key record = place name ↔
      within (key record) = true ∧ label record = name) :
    ((records.filter (within ∘ key)).map label).Nodup ∧
      forall name, name ∈ (records.filter (within ∘ key)).map label ↔ entries (place name) ≠ none := by
  constructor
  · have distinct := (List.pairwise_map.mp represents.distinct).filter (within ∘ key)
    refine List.pairwise_map.mpr (distinct.imp_of_mem ?_)
    intro first second inFirst inSecond different same
    have atFirst := (placed first _).mpr ⟨(List.mem_filter.mp inFirst).2, rfl⟩
    have atSecond := (placed second _).mpr ⟨(List.mem_filter.mp inSecond).2, same.symm⟩
    exact different (atFirst.trans atSecond.symm)
  · intro name
    rw [List.mem_map, Option.ne_none_iff_exists']
    constructor
    · rintro ⟨record, found, labelled⟩
      rcases List.mem_filter.mp found with ⟨member, inside⟩
      exact ⟨record, (represents.stored _ _).mpr ⟨member, (placed _ _).mpr ⟨inside, labelled⟩⟩⟩
    · rintro ⟨record, stored⟩
      rcases (represents.stored _ _).mp stored with ⟨member, named⟩
      rcases (placed _ _).mp named with ⟨inside, labelled⟩
      exact ⟨record, List.mem_filter.mpr ⟨member, inside⟩, labelled⟩

variable [DecidableEq Key]

theorem find (name : Key) : records.find? (fun record => key record = name) = entries name := by
  cases found : records.find? (fun record => key record = name) with
  | none =>
    cases stored : entries name with
    | none => rfl
    | some record =>
      rcases (represents.stored _ _).mp stored with ⟨member, named⟩
      exact absurd (decide_eq_true named) (List.find?_eq_none.mp found record member)
  | some record =>
    have named := List.find?_some found
    rw [← of_decide_eq_true named, represents.of_mem (List.mem_of_find?_eq_some found)]

theorem insert {record : Record} (absent : entries (key record) = none) :
    Represents key (Collection.insert record records)
      (Function.update entries (key record) (some record)) := by
  have fresh : key record ∉ records.map key := by
    intro member
    rcases List.mem_map.mp member with ⟨old, member, named⟩
    have stored := represents.of_mem member
    rw [named, absent] at stored
    cases stored
  refine ⟨?_, fun name other => ?_⟩
  · rw [Collection.insert, List.map_append]
    exact List.nodup_append.mpr ⟨represents.distinct, List.nodup_singleton _,
      fun name member other single same => fresh (by
        rw [List.map_singleton, List.mem_singleton] at single
        rwa [same, single] at member)⟩
  · rw [Collection.insert, List.mem_append, List.mem_singleton]
    by_cases same : name = key record
    · rw [same, Function.update_self]
      constructor
      · intro equal
        cases equal
        exact ⟨.inr rfl, rfl⟩
      · rintro ⟨member | rfl, named⟩
        · exact absurd (named ▸ List.mem_map_of_mem member) fresh
        · rfl
    · rw [Function.update_of_ne same, represents.stored]
      refine and_congr_left (fun named => (or_iff_left ?_).symm)
      rintro rfl
      exact same named.symm

theorem amend (record : Record) :
    Represents key (Collection.update (fun old => key old = key record) record records)
      (amend entries (key record) record) := by
  have unique : Collection.Unique (fun old => key old = key record) records :=
    represents.unique_of_key (fun first _ second _ isFirst isSecond =>
      (of_decide_eq_true isFirst).trans (of_decide_eq_true isSecond).symm)
  rw [Collection.update_eq_map unique]
  simp only [decide_eq_true_eq]
  refine ⟨?_, fun name other => ?_⟩
  · have keys : (records.map (fun old => if key old = key record then record else old)).map key =
        records.map key := by
      rw [List.map_map]
      refine List.map_congr_left (fun old _ => ?_)
      by_cases same : key old = key record
      · exact (congrArg key (if_pos same)).trans same.symm
      · exact congrArg key (if_neg same)
    rw [keys]
    exact represents.distinct
  rw [Library.amend, List.mem_map]
  by_cases same : name = key record
  · rw [same, Function.update_self]
    constructor
    · intro written
      rcases Option.map_eq_some_iff.mp written with ⟨old, stored, rfl⟩
      rcases (represents.stored _ _).mp stored with ⟨member, named⟩
      exact ⟨⟨old, member, if_pos named⟩, rfl⟩
    · rintro ⟨⟨old, member, rfl⟩, named⟩
      have replaced : key old = key record := by
        by_contra different
        rw [if_neg different] at named
        exact different named
      rw [if_pos replaced, ← replaced, represents.of_mem member]
      rfl
  · rw [Function.update_of_ne same, represents.stored]
    constructor
    · rintro ⟨member, rfl⟩
      exact ⟨⟨other, member, if_neg same⟩, rfl⟩
    · rintro ⟨⟨old, member, rfl⟩, named⟩
      have kept : key old ≠ key record := by
        intro replaced
        rw [if_pos replaced] at named
        exact same named.symm
      rw [if_neg kept] at named ⊢
      exact ⟨member, named⟩

end Represents

end Maps

/-! ## Tables -/

structure Table (Item Record Key : Type) where
  encode : Record -> Item
  decode : Item -> Record
  key : Record -> Key
  decode_encode : forall record, decode (encode record) = record

namespace Table

variable {Item Record Key : Type} (table : Table Item Record Key)

def Holds (items : List Item) (entries : Key -> Option Record) : Prop :=
  exists records, items = records.map table.encode ∧ Represents table.key records entries

def Asks (test : Item -> Bool) (wanted : Key -> Bool) : Prop :=
  forall record, test (table.encode record) = wanted (table.key record)

variable {table} {items : List Item} {entries : Key -> Option Record} {test : Item -> Bool}
  {wanted : Key -> Bool}

theorem Asks.comp (asks : table.Asks test wanted) :
    test ∘ table.encode = wanted ∘ table.key :=
  funext asks

namespace Holds

theorem empty (table : Table Item Record Key) : table.Holds [] (fun _ => none) :=
  ⟨[], rfl, .empty table.key⟩

variable (holds : table.Holds items entries)
include holds

theorem remove (asks : table.Asks test wanted)
    (alone : forall first second, wanted first = true -> wanted second = true ->
      entries first ≠ none -> entries second ≠ none -> first = second) :
    table.Holds (Collection.remove test items) (without wanted entries) := by
  rcases holds with ⟨records, rfl, represents⟩
  rw [Collection.remove_map, asks.comp]
  exact ⟨_, rfl, represents.remove alone⟩

theorem remains (asks : table.Asks test wanted) {first second : Key}
    (wantsFirst : wanted first = true) (wantsSecond : wanted second = true)
    (hasFirst : entries first ≠ none) (hasSecond : entries second ≠ none)
    (different : first ≠ second) :
    exists name, wanted name = true ∧ forall single : Item -> Bool,
      (forall record, table.key record = name -> single (table.encode record) = true) ->
        Collection.findOne single (Collection.remove test items) ≠ none := by
  rcases holds with ⟨records, rfl, represents⟩
  rcases represents.remains wantsFirst wantsSecond hasFirst hasSecond different with
    ⟨record, left, inside⟩
  refine ⟨table.key record, inside, fun single finds missed => ?_⟩
  rw [Collection.remove_map, asks.comp] at missed
  exact List.find?_eq_none.mp missed _ (List.mem_map_of_mem left) (finds record rfl)

theorem lists {Label : Type} {label : Record -> Label} {place : Label -> Key}
    (asks : table.Asks test wanted)
    (placed : forall record name, table.key record = place name ↔
      wanted (table.key record) = true ∧ label record = name) :
    (((Collection.findAll test items).map table.decode).map label).Nodup ∧
      forall name, name ∈ ((Collection.findAll test items).map table.decode).map label ↔
        entries (place name) ≠ none := by
  rcases holds with ⟨records, rfl, represents⟩
  have decoded : (Collection.findAll test (records.map table.encode)).map table.decode =
      records.filter (wanted ∘ table.key) := by
    rw [Collection.findAll_map, asks.comp, List.map_map]
    exact (List.map_congr_left (fun record _ => table.decode_encode record)).trans (List.map_id _)
  rw [decoded]
  exact represents.lists placed

variable [DecidableEq Key]

theorem find {name : Key} (asks : table.Asks test (fun other => other = name)) :
    (Collection.findOne test items).map table.decode = entries name := by
  rcases holds with ⟨records, rfl, represents⟩
  have same : table.decode ∘ table.encode = id := funext table.decode_encode
  rw [Collection.findOne_map, asks.comp, Option.map_map, ← represents.find name, same,
    Option.map_id]
  rfl

theorem insert {record : Record} (absent : entries (table.key record) = none) :
    table.Holds (Collection.insert (table.encode record) items)
      (Function.update entries (table.key record) (some record)) := by
  rcases holds with ⟨records, rfl, represents⟩
  refine ⟨_, ?_, represents.insert absent⟩
  rw [Collection.insert, Collection.insert, List.map_append]
  rfl

theorem update {record : Record}
    (asks : table.Asks test (fun other => other = table.key record)) :
    table.Holds (Collection.update test (table.encode record) items)
      (amend entries (table.key record) record) := by
  rcases holds with ⟨records, rfl, represents⟩
  rw [Collection.update_map, asks.comp]
  exact ⟨_, rfl, represents.amend record⟩

end Holds

end Table

end Library
end Sentel
