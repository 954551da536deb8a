import Sentel.Library.GoMap
import Sentel.Library.GoString
import Sentel.Library.Machine

namespace Sentel
namespace Configuration

open Library

/-!
# The configuration

The configuration of a service is a map of sections, each a map of items.  Five
calls add items: single items, sections of items, sections of texts and files.
Getters read an item as a value of one type.

The configuration is meant to hold the value that was supplied last.  This module
keeps the last supply of each item beside the maps and compares what the getters
answer with it.  An item may be supplied as a value or as a text in a file, and
the text of an integer or a boolean stands for its value.
-/

/-! ## The maps -/

/-- The content of an `interface{}`.  The types that no getter asks for are not
told apart. -/
inductive ConfigValue
  | nil
  | bool (value : Bool)
  | int (value : Int)
  | string (value : GoString)
  | other
  deriving DecidableEq

namespace ConfigValue

/-- The type assertions of the getters. -/
def asBool : ConfigValue -> Option Bool
  | .bool value => some value
  | _ => none

@[inherit_doc asBool]
def asInt : ConfigValue -> Option Int
  | .int value => some value
  | _ => none

@[inherit_doc asBool]
def asString : ConfigValue -> Option GoString
  | .string value => some value
  | _ => none

theorem asString_eq_some_iff {value : ConfigValue} {text : GoString} :
    value.asString = some text ↔ value = .string text := by
  cases value with
  | string other | nil | bool other | int other | other => simp [asString]

end ConfigValue

abbrev Items := AList (fun _ : GoString => ConfigValue)

abbrev Texts := AList (fun _ : GoString => GoString)

structure Config where
  primary : GoString
  sections : AList (fun _ : GoString => Items)

/-- The orders of the loops over the sections and the items of an argument. -/
structure RangeOrders where
  sections : MapOrder (Sigma (fun _ : GoString => Items))
  items : MapOrder (Sigma (fun _ : GoString => ConfigValue))
  texts : MapOrder (Sigma (fun _ : GoString => GoString))

namespace Config

def new (primary : GoString) : Config where
  primary := primary
  sections := AList.insert primary ∅ ∅

variable (c : Config)

def item (sectionName key : GoString) : Option ConfigValue :=
  (c.sections.lookup sectionName).bind (fun items => items.lookup key)

/-! ## Getters -/

def checkItemExist (sectionName key : GoString) : Option GoString :=
  match c.sections.lookup sectionName with
  | none => some (ascii "section '" ++ sectionName ++ ascii "' no exist'")
  | some items =>
    match items.lookup key with
    | none => some (ascii "no item '" ++ key ++ ascii "' in section '" ++ sectionName ++ ascii "'")
    | some _ => none

def invalidValue (key : GoString) : GoString :=
  ascii "invalid value for key '" ++ key ++ ascii "'"

def getWithSection {Value : Type} (assert : ConfigValue -> Option Value) (zero : Value)
    (report : GoString -> GoString) (otherType sectionName key : GoString) :
    Value × Option GoString :=
  match c.checkItemExist sectionName key with
  | some err => (zero, some (report err))
  | none =>
    match (c.item sectionName key).bind assert with
    | some val => (val, none)
    | none => (zero, some otherType)

def boolWithSection (sectionName key : GoString) : Bool × Option GoString :=
  c.getWithSection ConfigValue.asBool false id
    (ascii "invalid seciont '" ++ sectionName ++ ascii "' with key '" ++ key ++ ascii "'")
    sectionName key

def intWithSection (sectionName key : GoString) : Int × Option GoString :=
  c.getWithSection ConfigValue.asInt (-1) id (invalidValue key) sectionName key

def stringWithSection (sectionName key : GoString) : GoString × Option GoString :=
  c.getWithSection ConfigValue.asString [] (fun _ => invalidValue key) (invalidValue key)
    sectionName key

theorem checkItemExist_isSome_iff (sectionName key : GoString) :
    (c.checkItemExist sectionName key).isSome ↔ c.item sectionName key = none := by
  rw [checkItemExist, item]
  cases c.sections.lookup sectionName with
  | none => exact iff_of_true rfl rfl
  | some items =>
    dsimp only [Option.bind_some]
    cases items.lookup key with
    | none => exact iff_of_true rfl rfl
    | some value => exact iff_of_false Bool.false_ne_true (Option.some_ne_none value)

/-! ## Calls that add items -/

def itemsOf (sectionName : GoString) : Items := (c.sections.lookup sectionName).getD ∅

def addConfigItemWithSection (sectionName key : GoString) (value : ConfigValue) : Config :=
  let items := c.itemsOf sectionName
  { c with
    sections := c.sections.insert sectionName
      (if key ≠ [] ∧ value ≠ .nil then items.insert key value else items) }

def addConfigItem (key : GoString) (value : ConfigValue) : Config :=
  c.addConfigItemWithSection c.primary key value

def merge {Source : Type} (range : MapOrder (Sigma (fun _ : GoString => Source)))
    (convert : Source -> ConfigValue) (sectionName : GoString)
    (values : AList (fun _ : GoString => Source)) : Config :=
  { c with
    sections := c.sections.insert sectionName
      (copyInto range convert values (c.itemsOf sectionName)) }

variable (orders : RangeOrders)

def addConfig (options : AList (fun _ : GoString => Items)) : Config :=
  (orders.sections.order options.entries).foldl
    (fun c entry => c.merge orders.items id entry.1 entry.2) c

def addConfigSection (sectionName : GoString) (items : Texts) : Config :=
  match c.sections.lookup sectionName with
  | some stored => c.merge orders.items id sectionName stored
  | none => c.merge orders.texts .string sectionName items

def addConfigFile (loaded : Except GoString (AList (fun _ : GoString => Texts))) :
    Config × Option GoString :=
  match loaded with
  | .error err => (c, some err)
  | .ok file =>
    (file.entries.foldl (fun c entry => c.merge orders.texts .string entry.1 entry.2) c, none)

end Config

inductive ConfigCall
  | addConfig (options : AList (fun _ : GoString => Items))
  | addConfigSection (sectionName : GoString) (items : Texts)
  | addConfigItem (key : GoString) (value : ConfigValue)
  | addConfigItemWithSection (sectionName key : GoString) (value : ConfigValue)
  | addConfigFile (loaded : Except GoString (AList (fun _ : GoString => Texts)))

def Config.perform (orders : RangeOrders) (c : Config) : ConfigCall -> Config
  | .addConfig options => c.addConfig orders options
  | .addConfigSection sectionName items => c.addConfigSection orders sectionName items
  | .addConfigItem key value => c.addConfigItem key value
  | .addConfigItemWithSection sectionName key value =>
    c.addConfigItemWithSection sectionName key value
  | .addConfigFile loaded => (c.addConfigFile orders loaded).1

/-! ## Supplies -/

inductive Supply
  | value (value : ConfigValue)
  | text (text : GoString)
  deriving DecidableEq

def supplyOf (value : ConfigValue) : Option Supply :=
  if value = .nil then none else some (.value value)

def ConfigCall.supply (primary sectionName key : GoString) : ConfigCall -> Option Supply
  | .addConfig options =>
    ((options.lookup sectionName).bind (fun items => items.lookup key)).bind supplyOf
  | .addConfigSection name items =>
    if name = sectionName then (items.lookup key).map (fun text => .value (.string text)) else none
  | .addConfigItem name value => if primary = sectionName ∧ name = key then supplyOf value else none
  | .addConfigItemWithSection other name value =>
    if other = sectionName ∧ name = key then supplyOf value else none
  | .addConfigFile (.error _) => none
  | .addConfigFile (.ok file) =>
    ((file.lookup sectionName).bind (fun items => items.lookup key)).map .text

def parseBool (text : GoString) : Option Bool :=
  if text ∈ ["1", "t", "T", "TRUE", "true", "True"].map ascii then some true
  else if text ∈ ["0", "f", "F", "FALSE", "false", "False"].map ascii then some false
  else none

/-- What the getters for booleans, integers and strings are to answer, where none
stands for an error. -/
abbrev Reading := Option Bool × Option Int × Option GoString

def readItem (stored : Option ConfigValue) : Reading :=
  (stored.bind ConfigValue.asBool, stored.bind ConfigValue.asInt, stored.bind ConfigValue.asString)

def readSupply : Option Supply -> Reading
  | none => (none, none, none)
  | some (.value value) => readItem (some value)
  | some (.text text) => (parseBool text, atoi text, some text)

def Answers {Value : Type} (expected : Option Value) (answer : Value × Option GoString) : Prop :=
  match expected with
  | some value => answer = (value, none)
  | none => answer.2 ≠ none

structure Answered (c : Config) (sectionName key : GoString) (expected : Reading) : Prop where
  bool : Answers expected.1 (c.boolWithSection sectionName key)
  int : Answers expected.2.1 (c.intWithSection sectionName key)
  string : Answers expected.2.2 (c.stringWithSection sectionName key)

theorem answers_unique {Value : Type} {expected actual : Option Value}
    {answer : Value × Option GoString} (answers : Answers actual answer) :
    Answers expected answer ↔ expected = actual := by
  cases actual with
  | some value =>
    cases expected with
    | some other =>
      rw [show answer = (value, none) from answers]
      simp [Answers, eq_comm]
    | none =>
      rw [show answer = (value, none) from answers]
      simp [Answers]
  | none =>
    cases expected with
    | some other =>
      refine iff_of_false (fun same => ?_) (Option.some_ne_none other)
      exact (show answer.2 ≠ none from answers) (congrArg Prod.snd same)
    | none => exact iff_of_true answers rfl

theorem answers_getWithSection {Value : Type} (c : Config) (assert : ConfigValue -> Option Value)
    (zero : Value) (report : GoString -> GoString) (otherType sectionName key : GoString) :
    Answers ((c.item sectionName key).bind assert)
      (c.getWithSection assert zero report otherType sectionName key) := by
  rw [Config.getWithSection]
  cases checked : c.checkItemExist sectionName key with
  | some err =>
    have missing := (c.checkItemExist_isSome_iff sectionName key).mp (by rw [checked]; rfl)
    rw [missing]
    exact Option.some_ne_none _
  | none =>
    dsimp only
    cases (c.item sectionName key).bind assert with
    | some val => rfl
    | none => exact Option.some_ne_none _

theorem answered_item (c : Config) (sectionName key : GoString) :
    Answered c sectionName key (readItem (c.item sectionName key)) :=
  ⟨answers_getWithSection c _ _ _ _ sectionName key,
    answers_getWithSection c _ _ _ _ sectionName key,
    answers_getWithSection c _ _ _ _ sectionName key⟩

theorem answered_iff {c : Config} {sectionName key : GoString} {expected : Reading} :
    Answered c sectionName key expected ↔ expected = readItem (c.item sectionName key) := by
  have actual := answered_item c sectionName key
  rw [Prod.ext_iff, Prod.ext_iff, ← answers_unique actual.bool, ← answers_unique actual.int,
    ← answers_unique actual.string]
  exact ⟨fun all => ⟨all.bool, all.int, all.string⟩, fun all => ⟨all.1, all.2.1, all.2.2⟩⟩

/-! ## What the calls write -/

namespace Config

variable (c : Config)

theorem item_insert (sectionName : GoString) (items : Items) (sought key : GoString) :
    ({ c with sections := c.sections.insert sectionName items } : Config).item sought key =
      if sectionName = sought then items.lookup key else c.item sought key := by
  by_cases same : sectionName = sought
  · rw [if_pos same, item, ← same]
    dsimp only
    rw [AList.lookup_insert]
    rfl
  · rw [if_neg same, item]
    dsimp only
    rw [AList.lookup_insert_ne (Ne.symm same)]
    rfl

theorem lookup_itemsOf (sectionName key : GoString) :
    (c.itemsOf sectionName).lookup key = c.item sectionName key := by
  rw [itemsOf, item]
  cases c.sections.lookup sectionName with
  | none | some items => rfl

theorem item_addConfigItemWithSection (sectionName name : GoString) (value : ConfigValue)
    (sought key : GoString) :
    (c.addConfigItemWithSection sectionName name value).item sought key =
      if sectionName = sought ∧ name = key ∧ key ≠ [] ∧ value ≠ .nil then some value
      else c.item sought key := by
  rw [addConfigItemWithSection, item_insert]
  by_cases same : sectionName = sought
  · subst same
    rw [if_pos rfl]
    by_cases stored : name ≠ [] ∧ value ≠ .nil
    · rw [if_pos stored]
      by_cases here : name = key
      · subst here
        rw [AList.lookup_insert, if_pos ⟨rfl, rfl, stored⟩]
      · rw [AList.lookup_insert_ne (Ne.symm here), lookup_itemsOf,
          if_neg (fun all => here all.2.1)]
    · rw [if_neg stored, lookup_itemsOf, if_neg]
      rintro ⟨_, rfl, all⟩
      exact stored all
  · rw [if_neg same, if_neg (fun all => same all.1)]

theorem item_merge {Source : Type} (range : MapOrder (Sigma (fun _ : GoString => Source)))
    (convert : Source -> ConfigValue) (sectionName : GoString)
    (values : AList (fun _ : GoString => Source)) (sought key : GoString) :
    (c.merge range convert sectionName values).item sought key =
      if sectionName = sought then ((values.lookup key).map convert).or (c.item sought key)
      else c.item sought key := by
  rw [merge, item_insert]
  by_cases same : sectionName = sought
  · rw [if_pos same, if_pos same, lookup_copyInto, lookup_itemsOf, same]
  · rw [if_neg same, if_neg same]

theorem item_foldl_merge {Source : Type} (range : MapOrder (Sigma (fun _ : GoString => Source)))
    (convert : Source -> ConfigValue)
    {entries : List (Sigma (fun _ : GoString => AList (fun _ : GoString => Source)))}
    (distinct : entries.NodupKeys) (sought key : GoString) :
    (entries.foldl (fun c entry => c.merge range convert entry.1 entry.2) c).item sought key =
      ((entries.dlookup sought).bind (fun values => (values.lookup key).map convert)).or
        (c.item sought key) :=
  find_foldl_of_distinct (fun c sectionName => c.item sectionName key)
    (fun values => (values.lookup key).map convert)
    (fun c entry sought => c.item_merge range convert entry.1 entry.2 sought key) distinct c sought

variable (orders : RangeOrders)

theorem item_addConfig (options : AList (fun _ : GoString => Items)) (sought key : GoString) :
    (c.addConfig orders options).item sought key =
      ((options.lookup sought).bind (fun items => items.lookup key)).or (c.item sought key) := by
  have listed := orders.sections.dlookup_order options
  rw [addConfig, item_foldl_merge _ _ _ listed.1, listed.2]
  simp only [Option.map_id_fun, id_eq]

theorem item_addConfigFile (file : AList (fun _ : GoString => Texts)) (sought key : GoString) :
    (c.addConfigFile orders (.ok file)).1.item sought key =
      (((file.lookup sought).bind (fun items => items.lookup key)).map .string).or
        (c.item sought key) := by
  rw [addConfigFile]
  dsimp only
  rw [item_foldl_merge _ _ _ file.nodupKeys, Option.map_bind]
  rfl

theorem item_addConfigSection_of_found {sectionName : GoString}
    (found : (c.sections.lookup sectionName).isSome) (items : Texts) (sought key : GoString) :
    (c.addConfigSection orders sectionName items).item sought key = c.item sought key := by
  rcases Option.isSome_iff_exists.mp found with ⟨stored, found⟩
  rw [addConfigSection, found]
  dsimp only
  rw [item_merge, Option.map_id_fun, id_eq]
  by_cases same : sectionName = sought
  · subst same
    rw [if_pos rfl, item, found, Option.bind_some, Option.or_self]
  · rw [if_neg same]

theorem item_addConfigSection_of_missing {sectionName : GoString}
    (missing : c.sections.lookup sectionName = none) (items : Texts) (sought key : GoString) :
    (c.addConfigSection orders sectionName items).item sought key =
      if sectionName = sought then ((items.lookup key).map .string).or (c.item sought key)
      else c.item sought key := by
  rw [addConfigSection, missing]
  exact c.item_merge orders.texts .string sectionName items sought key

end Config

/-! ## The last supply -/

/-- A configuration, and what was supplied last for each item. -/
structure ToldConfig where
  config : Config
  supplied : GoString -> GoString -> Option Supply

namespace ToldConfig

def perform (orders : RangeOrders) (told : ToldConfig) (call : ConfigCall) : ToldConfig where
  config := told.config.perform orders call
  supplied := fun sectionName key =>
    (call.supply told.config.primary sectionName key).or (told.supplied sectionName key)

def calls (orders : RangeOrders) (primary : GoString) : Machine ToldConfig ConfigCall where
  initial := { config := .new primary, supplied := fun _ _ => none }
  step := fun told call => some (told.perform orders call)

/-- The getters answer what was supplied last, and an error if it has another type
or nothing was supplied. -/
def LastWins (told : ToldConfig) : Prop :=
  forall sectionName key, key ≠ [] ->
    Answered told.config sectionName key (readSupply (told.supplied sectionName key))

/-- The calls after which the getters still answer what was supplied last.  Options
have no nil for an item that can be read, a section that exists already has the
items that are added to it, and no text of a file is that of an integer or a
boolean. -/
def Plain (told : ToldConfig) : ConfigCall -> Prop
  | .addConfig options => forall sectionName key, key ≠ [] ->
      (options.lookup sectionName).bind (fun items => items.lookup key) = some .nil ->
        readItem (told.config.item sectionName key) = readItem none
  | .addConfigSection sectionName items => (told.config.sections.lookup sectionName).isSome ->
      forall key text, key ≠ [] -> items.lookup key = some text ->
        told.config.item sectionName key = some (.string text)
  | .addConfigItem _ _ => True
  | .addConfigItemWithSection _ _ _ => True
  | .addConfigFile (.error _) => True
  | .addConfigFile (.ok file) => forall sectionName key text, key ≠ [] ->
      (file.lookup sectionName).bind (fun items => items.lookup key) = some text ->
        parseBool text = none ∧ atoi text = none

theorem lastWins_iff {told : ToldConfig} :
    told.LastWins ↔ forall sectionName key, key ≠ [] ->
      readSupply (told.supplied sectionName key) = readItem (told.config.item sectionName key) := by
  simp only [LastWins, answered_iff]

theorem readItem_string (text : GoString) :
    readItem (some (.string text)) = (none, none, some text) := rfl

theorem readItem_eq_string_iff {stored : Option ConfigValue} {text : GoString} :
    readItem (some (.string text)) = readItem stored ↔ stored = some (.string text) := by
  constructor
  · intro same
    have read : stored.bind ConfigValue.asString = some text :=
      (congrArg (fun reading => reading.2.2) same).symm
    rcases Option.bind_eq_some_iff.mp read with ⟨value, found, isText⟩
    rw [found, ConfigValue.asString_eq_some_iff.mp isText]
  · rintro rfl
    rfl

theorem readSupply_text_iff {text : GoString} :
    readSupply (some (.text text)) = readItem (some (.string text)) ↔
      parseBool text = none ∧ atoi text = none := by
  simp [readSupply, readItem_string]

section Step

variable {told : ToldConfig} {sectionName key : GoString}
  (before : readSupply (told.supplied sectionName key) =
    readItem (told.config.item sectionName key))
include before

theorem read_addConfigItemWithSection (named : key ≠ []) (other name : GoString)
    (value : ConfigValue) :
    readSupply ((if other = sectionName ∧ name = key then supplyOf value else none).or
        (told.supplied sectionName key)) =
      readItem ((told.config.addConfigItemWithSection other name value).item sectionName key) := by
  rw [Config.item_addConfigItemWithSection]
  by_cases here : other = sectionName ∧ name = key
  · rw [if_pos here, supplyOf]
    by_cases empty : value = .nil
    · rw [if_pos empty, if_neg (fun all => all.2.2.2 empty)]
      exact before
    · rw [if_neg empty, if_pos ⟨here.1, here.2, named, empty⟩]
      rfl
  · rw [if_neg here, if_neg (fun all => here ⟨all.1, all.2.1⟩)]
    exact before

theorem read_addConfig (orders : RangeOrders) (options : AList (fun _ : GoString => Items)) :
    readSupply ((((options.lookup sectionName).bind (fun items => items.lookup key)).bind
          supplyOf).or (told.supplied sectionName key)) =
        readItem ((told.config.addConfig orders options).item sectionName key) ↔
      ((options.lookup sectionName).bind (fun items => items.lookup key) = some .nil ->
        readItem (told.config.item sectionName key) = readItem none) := by
  rw [Config.item_addConfig]
  cases (options.lookup sectionName).bind (fun items => items.lookup key) with
  | none => exact iff_of_true before (fun absent => nomatch absent)
  | some value =>
    rw [Option.bind_some, supplyOf, Option.some_or]
    by_cases empty : value = .nil
    · rw [if_pos empty, empty, Option.none_or, before]
      exact ⟨fun same _ => same, fun same => same rfl⟩
    · rw [if_neg empty]
      exact iff_of_true rfl (fun same => absurd (Option.some.inj same) empty)

theorem read_addConfigFile (orders : RangeOrders) (file : AList (fun _ : GoString => Texts)) :
    readSupply ((((file.lookup sectionName).bind (fun items => items.lookup key)).map .text).or
          (told.supplied sectionName key)) =
        readItem ((told.config.addConfigFile orders (.ok file)).1.item sectionName key) ↔
      forall text, (file.lookup sectionName).bind (fun items => items.lookup key) = some text ->
        parseBool text = none ∧ atoi text = none := by
  rw [Config.item_addConfigFile]
  cases (file.lookup sectionName).bind (fun items => items.lookup key) with
  | none => exact iff_of_true before (fun text absent => nomatch absent)
  | some text =>
    rw [Option.map_some, Option.map_some, Option.some_or, Option.some_or, readSupply_text_iff]
    exact ⟨fun plain other same => Option.some.inj same ▸ plain, fun all => all text rfl⟩

theorem read_addConfigSection (orders : RangeOrders) (name : GoString) (items : Texts) :
    readSupply ((if name = sectionName then
          (items.lookup key).map (fun text => .value (.string text)) else none).or
            (told.supplied sectionName key)) =
        readItem ((told.config.addConfigSection orders name items).item sectionName key) ↔
      ((told.config.sections.lookup name).isSome -> name = sectionName ->
        forall text, items.lookup key = some text ->
          told.config.item sectionName key = some (.string text)) := by
  by_cases same : name = sectionName
  · subst same
    rw [if_pos rfl]
    by_cases found : (told.config.sections.lookup name).isSome
    · rw [Config.item_addConfigSection_of_found _ _ found]
      cases items.lookup key with
      | none => exact iff_of_true before (fun _ _ text absent => nomatch absent)
      | some text =>
        rw [Option.map_some, Option.some_or]
        refine readItem_eq_string_iff.trans ?_
        exact ⟨fun stored _ _ other equal => Option.some.inj equal ▸ stored,
          fun all => all found rfl text rfl⟩
    · have missing := Option.not_isSome_iff_eq_none.mp found
      rw [Config.item_addConfigSection_of_missing _ _ missing, if_pos rfl]
      refine iff_of_true ?_ (fun exist => absurd exist found)
      cases items.lookup key with
      | none => exact before
      | some text => rfl
  · rw [if_neg same, Option.none_or]
    refine iff_of_true (before.trans ?_) (fun _ equal => absurd equal same)
    by_cases found : (told.config.sections.lookup name).isSome
    · rw [Config.item_addConfigSection_of_found _ _ found]
    · rw [Config.item_addConfigSection_of_missing _ _ (Option.not_isSome_iff_eq_none.mp found),
        if_neg same]

end Step

theorem lastWins_perform_iff {told : ToldConfig} (wins : told.LastWins) (orders : RangeOrders)
    (call : ConfigCall) : (told.perform orders call).LastWins ↔ told.Plain call := by
  rw [lastWins_iff] at wins ⊢
  cases call with
  | addConfig options =>
    exact forall_congr' (fun sectionName => forall_congr' (fun key =>
      forall_congr' (fun named => read_addConfig (wins sectionName key named) orders options)))
  | addConfigSection name items =>
    constructor
    · intro kept found key text named added
      exact (read_addConfigSection (wins name key named) orders name items).mp
        (kept name key named) found rfl text added
    · intro plain sectionName key named
      refine (read_addConfigSection (wins sectionName key named) orders name items).mpr ?_
      rintro found rfl text added
      exact plain found key text named added
  | addConfigItem name value =>
    refine iff_of_true (fun sectionName key named => ?_) True.intro
    exact read_addConfigItemWithSection (wins sectionName key named) named _ name value
  | addConfigItemWithSection other name value =>
    refine iff_of_true (fun sectionName key named => ?_) True.intro
    exact read_addConfigItemWithSection (wins sectionName key named) named other name value
  | addConfigFile loaded =>
    cases loaded with
    | error err => exact iff_of_true wins True.intro
    | ok file =>
      constructor
      · intro kept sectionName key text named added
        exact (read_addConfigFile (wins sectionName key named) orders file).mp
          (kept sectionName key named) text added
      · intro plain sectionName key named
        refine (read_addConfigFile (wins sectionName key named) orders file).mpr ?_
        exact fun text added => plain sectionName key text named added

/-- The getters answer what was supplied last, after every call of a sequence,
exactly if all the calls are plain. -/
theorem lastWins_throughout_iff (orders : RangeOrders) (primary : GoString)
    (sequence : List ConfigCall) :
    (calls orders primary).Throughout LastWins (calls orders primary).initial sequence ↔
      (calls orders primary).Allowed Plain (calls orders primary).initial sequence := by
  refine Machine.throughout_iff_allowed (@fun _ _ _ _ _ _ => True.intro) ?_ True.intro ?_ sequence
    (fun told call => ⟨told.perform orders call, rfl⟩)
  · intro told call next _ wins taken
    cases taken
    exact lastWins_perform_iff wins orders call
  · rw [lastWins_iff]
    intro sectionName key _
    rw [calls, Config.item, Config.new]
    dsimp only
    by_cases same : sectionName = primary
    · rw [same, AList.lookup_insert]
      rfl
    · rw [AList.lookup_insert_ne same]
      rfl

def listed : RangeOrders := ⟨.listed, .listed, .listed⟩

/-- The text of an integer in a file cannot be read as an integer, and an item that
is added to a section that exists is lost. -/
theorem supplies_not_answered :
    exists told, (calls listed (ascii "broker")).run (calls listed (ascii "broker")).initial
        [.addConfigFile (.ok (AList.insert (ascii "broker")
          (AList.insert (ascii "port") (ascii "1883") ∅) ∅)),
          .addConfigSection (ascii "broker") (AList.insert (ascii "name") (ascii "b") ∅)] =
            some told ∧
      told.config.intWithSection (ascii "broker") (ascii "port") =
        (-1, some (ascii "invalid value for key 'port'")) ∧
      told.config.stringWithSection (ascii "broker") (ascii "name") =
        ([], some (ascii "invalid value for key 'name'")) ∧
      ¬ told.LastWins := by
  refine ⟨_, rfl, by decide, by decide, ?_⟩
  intro wins
  have answered := (wins (ascii "broker") (ascii "name") (by decide)).string
  change _ = (ascii "b", (none : Option GoString)) at answered
  exact absurd answered (by decide)

end ToldConfig

end Configuration
end Sentel
