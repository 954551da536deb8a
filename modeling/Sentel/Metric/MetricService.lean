import Mathlib.Algebra.BigOperators.Group.Finset.Basic
import Mathlib.Algebra.Ring.Int.Defs
import Sentel.Library.GoMap
import Sentel.Library.GoString
import Sentel.Library.Machine

namespace Sentel
namespace Metric

open Library

/-!
# The metric service

A service asks for metrics, counts in them and gives them back.  The metrics of
a service stand in a linked list, and each holds the element that it is in, so
that it can be taken out without a search.  A metric may be given back twice, or
under the name of another service: an element knows the list it is in, and a
list takes out its own elements only.

What is reported for a service is the sum over the metrics in its list.  This
module reads the expected report off the calls alone: which metrics were created
for the service and not given back under its name, and what was added to and
subtracted from each of them.
-/

abbrev MetricRef := Nat

abbrev Counters := AList (fun _ : GoString => UInt64)

/-- `metricWithLock`, with the list that its element is in.  A service has one
list, so the name of the service stands for the list. -/
structure MetricWithLock where
  list : Option GoString
  metrics : Counters

structure MetricService where
  metrics : AList (fun _ : GoString => List MetricRef)
  heap : MetricRef -> MetricWithLock
  created : Nat

namespace MetricWithLock

def add (p : MetricWithLock) (name : GoString) (value : UInt64) : MetricWithLock :=
  { p with metrics := p.metrics.insert name ((p.metrics.lookup name).getD 0 + value) }

def sub (p : MetricWithLock) (name : GoString) (value : UInt64) : MetricWithLock :=
  { p with metrics := p.metrics.insert name ((p.metrics.lookup name).getD 0 - value) }

def freed (p : MetricWithLock) (serviceName : GoString) : MetricWithLock :=
  if p.list = some serviceName then { p with list := none } else p

end MetricWithLock

def addMetric (range : MapOrder (Sigma (fun _ : GoString => UInt64))) (p other : Counters) :
    Counters :=
  (range.order other.entries).foldl (fun p entry =>
    match p.lookup entry.1 with
    | none => p.insert entry.1 entry.2
    | some value => p.insert entry.1 (value + entry.2)) p

namespace MetricService

def new : MetricService := ⟨∅, fun _ => ⟨none, ∅⟩, 0⟩

variable (p : MetricService)

def listOf (serviceName : GoString) : List MetricRef := (p.metrics.lookup serviceName).getD []

theorem listOf_insert (serviceName name : GoString) (metrics : List MetricRef) :
    ((p.metrics.insert serviceName metrics).lookup name).getD [] =
      if name = serviceName then metrics else p.listOf name := by
  split
  next here => rw [here, AList.lookup_insert, Option.getD_some]
  next here => rw [AList.lookup_insert_ne here, listOf]

def newMetric (serviceName : GoString) : MetricService where
  metrics := p.metrics.insert serviceName (p.listOf serviceName ++ [p.created])
  heap := Function.update p.heap p.created ⟨some serviceName, ∅⟩
  created := p.created + 1

/-- `getMetric`, with an order for the loop over each metric. -/
def getMetric (ranges : MetricRef -> MapOrder (Sigma (fun _ : GoString => UInt64)))
    (serviceName : GoString) : Counters :=
  match p.metrics.lookup serviceName with
  | none => ∅
  | some metrics =>
    metrics.foldl (fun metric m => addMetric (ranges m) metric (p.heap m).metrics) ∅

def freeMetric (serviceName : GoString) (m : MetricRef) : MetricService :=
  match p.metrics.lookup serviceName with
  | none => p
  | some metrics =>
    { p with
      metrics := if (p.heap m).list = some serviceName then
          p.metrics.insert serviceName (metrics.erase m) else p.metrics
      heap := Function.update p.heap m ((p.heap m).freed serviceName) }

end MetricService

inductive MetricCall
  | newMetric (serviceName : GoString)
  | add (m : MetricRef) (name : GoString) (value : UInt64)
  | sub (m : MetricRef) (name : GoString) (value : UInt64)
  | freeMetric (serviceName : GoString) (m : MetricRef)
  | getMetric (serviceName : GoString)
  deriving DecidableEq

def MetricCall.handle : MetricCall -> Option MetricRef
  | .add m _ _ => some m
  | .sub m _ _ => some m
  | .freeMetric _ m => some m
  | _ => none

def MetricService.perform (p : MetricService) : MetricCall -> MetricService
  | .newMetric serviceName => p.newMetric serviceName
  | .add m name value => { p with heap := Function.update p.heap m ((p.heap m).add name value) }
  | .sub m name value => { p with heap := Function.update p.heap m ((p.heap m).sub name value) }
  | .freeMetric serviceName m => p.freeMetric serviceName m
  | .getMetric _ => p

/-- A call is possible once the metric it is given was created. -/
def calls : Machine MetricService MetricCall where
  initial := MetricService.new
  step := fun p call =>
    if ∀ m ∈ call.handle, m < p.created then some (p.perform call) else none

/-! ## What should be reported -/

def owners (history : List MetricCall) : List GoString :=
  history.filterMap (fun call =>
    match call with
    | .newMetric serviceName => some serviceName
    | _ => none)

def live (history : List MetricCall) (serviceName : GoString) : Finset MetricRef :=
  (Finset.range (owners history).length).filter (fun m =>
    (owners history)[m]? = some serviceName ∧ .freeMetric serviceName m ∉ history)

def amount (m : MetricRef) (name : GoString) : MetricCall -> Int
  | .add other counter value => if other = m ∧ counter = name then value.toNat else 0
  | .sub other counter value => if other = m ∧ counter = name then -value.toNat else 0
  | _ => 0

/-- The amounts added to a counter minus the amounts subtracted from it. -/
def net (history : List MetricCall) (m : MetricRef) (name : GoString) : Int :=
  (history.map (amount m name)).sum

def Touched (history : List MetricCall) (m : MetricRef) (name : GoString) : Prop :=
  exists value, .add m name value ∈ history ∨ .sub m name value ∈ history

/-- The report has exactly the counters that were touched on a live metric, and
each is the sum over the live metrics modulo `2 ^ 64`. -/
structure Reports (history : List MetricCall) (serviceName : GoString) (report : Counters) :
    Prop where
  names : forall name, (report.lookup name).isSome ↔
    ∃ m ∈ live history serviceName, Touched history m name
  counts : forall name value, report.lookup name = some value ->
    (value.toNat : Int) = (∑ m ∈ live history serviceName, net history m name) % UInt64.size

/-! ## Counters -/

structure Holds (entry : Option UInt64) (touched : Prop) (total : Int) : Prop where
  named : entry.isSome ↔ touched
  count : ((entry.getD 0).toNat : Int) = total % UInt64.size

namespace Holds

variable {entry other : Option UInt64} {touched touches : Prop} {total sum : Int}

theorem untouched : Holds none False 0 :=
  ⟨by simp, by simp⟩

theorem congr (holds : Holds entry touched total) (same : touched ↔ touches)
    (equal : total = sum) : Holds entry touches sum :=
  ⟨holds.named.trans same, by rw [← equal]; exact holds.count⟩

theorem add (holds : Holds entry touched total) (value : UInt64) :
    Holds (some (entry.getD 0 + value)) True (total + value.toNat) := by
  have count := holds.count
  refine ⟨by simp, ?_⟩
  simp only [Option.getD_some, UInt64.toNat_add, UInt64.size] at count ⊢
  omega

theorem sub (holds : Holds entry touched total) (value : UInt64) :
    Holds (some (entry.getD 0 - value)) True (total + -value.toNat) := by
  have count := holds.count
  have bound := value.toNat_lt
  refine ⟨by simp, ?_⟩
  simp only [Option.getD_some, UInt64.toNat_sub, UInt64.size] at count ⊢
  omega

theorem merge (first : Holds entry touched total) (second : Holds other touches sum) :
    Holds (Option.merge (· + ·) entry other) (touched ∨ touches) (total + sum) := by
  have left := first.count
  have right := second.count
  rw [← first.named, ← second.named]
  refine ⟨by cases entry <;> cases other <;> simp, ?_⟩
  have value : ((Option.merge (· + ·) entry other).getD 0).toNat =
      ((entry.getD 0).toNat + (other.getD 0).toNat) % UInt64.size := by
    cases entry <;> cases other <;> simp [UInt64.size]
  rw [value]
  simp only [UInt64.size] at left right ⊢
  omega

end Holds

theorem lookup_addMetric (range : MapOrder (Sigma (fun _ : GoString => UInt64)))
    (p other : Counters) (name : GoString) :
    (addMetric range p other).lookup name =
      Option.merge (· + ·) (p.lookup name) (other.lookup name) := by
  have listed := range.dlookup_order other
  rw [addMetric, find_foldl_of_updating (fun counters name => AList.lookup name counters)
    (fun value old => some (old.elim value (· + value))) ?_ listed.1, listed.2]
  · cases p.lookup name with
    | none | some old => cases other.lookup name <;> rfl
  · intro counters entry sought
    by_cases same : entry.1 = sought
    · subst same
      rw [if_pos rfl]
      cases counters.lookup entry.1 with
      | none | some value => exact AList.lookup_insert _
    · rw [if_neg same]
      cases counters.lookup entry.1 with
      | none | some value => exact AList.lookup_insert_ne (Ne.symm same)

theorem holds_foldl {counters : MetricRef -> MetricWithLock}
    (ranges : MetricRef -> MapOrder (Sigma (fun _ : GoString => UInt64)))
    {touched : MetricRef -> Prop} {total : MetricRef -> Int} {name : GoString}
    (holds : forall m, Holds ((counters m).metrics.lookup name) (touched m) (total m))
    (metrics : List MetricRef) {start : Counters} {before : Prop} {sum : Int}
    (first : Holds (start.lookup name) before sum) :
    Holds ((metrics.foldl (fun metric m => addMetric (ranges m) metric (counters m).metrics)
        start).lookup name)
      (before ∨ ∃ m ∈ metrics, touched m) (sum + (metrics.map total).sum) := by
  induction metrics generalizing start before sum with
  | nil => exact first.congr (by simp) (by simp)
  | cons m rest ih =>
    have added : Holds ((addMetric (ranges m) start (counters m).metrics).lookup name)
        (before ∨ touched m) (sum + total m) := by
      rw [lookup_addMetric]
      exact first.merge (holds m)
    refine (ih added).congr ?_ ?_
    · simp [or_assoc]
    · rw [List.map_cons, List.sum_cons, Int.add_assoc]

theorem owners_append (history later : List MetricCall) :
    owners (history ++ later) = owners history ++ owners later :=
  List.filterMap_append

theorem mem_live {history : List MetricCall} {serviceName : GoString} {m : MetricRef} :
    m ∈ live history serviceName ↔
      (owners history)[m]? = some serviceName ∧ .freeMetric serviceName m ∉ history := by
  rw [live, Finset.mem_filter, Finset.mem_range]
  refine and_iff_right_of_imp (fun kept => ?_)
  exact (List.getElem?_eq_some_iff.mp kept.1).1

theorem touched_append {history later : List MetricCall} {m : MetricRef} {name : GoString} :
    Touched (history ++ later) m name ↔ Touched history m name ∨ Touched later m name := by
  simp only [Touched, List.mem_append, ← exists_or]
  exact exists_congr (fun _ => or_or_or_comm)

/-! ## One metric -/

structure Tells (history : List MetricCall) (m : MetricRef) (metric : MetricWithLock) : Prop where
  list : metric.list =
    ((owners history)[m]?).filter (fun owner => .freeMetric owner m ∉ history)
  counted : forall name, Holds (metric.metrics.lookup name) (Touched history m name)
    (net history m name)

namespace Tells

variable {history : List MetricCall} {m : MetricRef} {metric : MetricWithLock}

theorem list_iff (tells : Tells history m metric) {serviceName : GoString} :
    metric.list = some serviceName ↔ m ∈ live history serviceName := by
  rw [tells.list, Option.filter_eq_some_iff, mem_live, decide_eq_true_eq]

theorem unused (unused : ∀ call ∈ history, call.handle ≠ some m) :
    Tells history m ⟨(owners history)[m]?, ∅⟩ where
  list := by
    have kept : forall owner, .freeMetric owner m ∉ history := fun _ freed => unused _ freed rfl
    cases (owners history)[m]? <;> simp [kept, Option.filter]
  counted := by
    intro name
    refine Holds.untouched.congr (iff_of_false not_false ?_) (List.sum_eq_zero ?_).symm
    · rintro ⟨value, added | subtracted⟩
      · exact unused _ added rfl
      · exact unused _ subtracted rfl
    · intro total member
      rcases List.mem_map.mp member with ⟨call, listed, rfl⟩
      have other := unused call listed
      cases call <;> simp_all [amount, MetricCall.handle]

theorem counted_snoc (tells : Tells history m metric) {call : MetricCall} {name : GoString}
    (untouched : ¬ Touched [call] m name) (unchanged : amount m name call = 0) :
    Holds (metric.metrics.lookup name) (Touched (history ++ [call]) m name)
      (net (history ++ [call]) m name) := by
  refine (tells.counted name).congr ?_ (by simp [net, unchanged])
  rw [touched_append]
  exact (or_iff_left untouched).symm

theorem frame (tells : Tells history m metric) {call : MetricCall} (other : call.handle ≠ some m)
    (same : (owners (history ++ [call]))[m]? = (owners history)[m]?) :
    Tells (history ++ [call]) m metric where
  list := by
    have different (owner : GoString) : .freeMetric owner m ≠ call := fun same => other (same ▸ rfl)
    simpa [same, different] using tells.list
  counted := by
    intro name
    apply tells.counted_snoc
    · rintro ⟨value, added | subtracted⟩
      · exact other (List.mem_singleton.mp added ▸ rfl)
      · exact other (List.mem_singleton.mp subtracted ▸ rfl)
    · cases call <;> simp_all [amount, MetricCall.handle]

theorem count (tells : Tells history m metric) {call : MetricCall} {name : GoString}
    {value : UInt64} {delta : Int} (unowned : owners [call] = [])
    (kept : forall owner, .freeMetric owner m ≠ call)
    (amounts : forall counter, amount m counter call = if name = counter then delta else 0)
    (touches : forall counter, Touched [call] m counter ↔ name = counter)
    (changes : Holds (some value) True (net history m name + delta)) :
    Tells (history ++ [call]) m { metric with metrics := metric.metrics.insert name value } where
  list := by simpa [owners_append, unowned, kept] using tells.list
  counted := by
    intro counter
    by_cases here : name = counter
    · subst here
      rw [AList.lookup_insert]
      refine changes.congr (iff_of_true True.intro ?_) (by simp [net, amounts])
      exact touched_append.mpr (.inr ((touches name).mpr rfl))
    · rw [AList.lookup_insert_ne (Ne.symm here)]
      exact tells.counted_snoc (fun touched => here ((touches counter).mp touched))
        ((amounts counter).trans (if_neg here))

theorem add (tells : Tells history m metric) (name : GoString) (value : UInt64) :
    Tells (history ++ [.add m name value]) m (metric.add name value) :=
  tells.count rfl nofun (by simp [amount]) (by simp [Touched, eq_comm])
    ((tells.counted name).add value)

theorem sub (tells : Tells history m metric) (name : GoString) (value : UInt64) :
    Tells (history ++ [.sub m name value]) m (metric.sub name value) :=
  tells.count rfl nofun (by simp [amount]) (by simp [Touched, eq_comm])
    ((tells.counted name).sub value)

theorem free (tells : Tells history m metric) (serviceName : GoString) :
    Tells (history ++ [.freeMetric serviceName m]) m (metric.freed serviceName) where
  list := by
    have list := tells.list
    have same : owners (history ++ [.freeMetric serviceName m]) = owners history := by
      rw [owners_append]
      exact List.append_nil _
    rw [same, MetricWithLock.freed]
    cases owned : (owners history)[m]? with
    | none => simp_all
    | some owner =>
      rw [owned] at list
      by_cases freed : .freeMetric owner m ∈ history
      · simp_all [Option.filter]
      · by_cases mine : owner = serviceName <;> simp_all [Option.filter]
  counted := by
    intro name
    have same : (metric.freed serviceName).metrics = metric.metrics := by
      rw [MetricWithLock.freed]
      split <;> rfl
    rw [same]
    exact tells.counted_snoc (by simp [Touched]) rfl

end Tells

/-! ## Whole runs -/

structure Tracks (history : List MetricCall) (p : MetricService) : Prop where
  size : p.created = (owners history).length
  known : ∀ call ∈ history, ∀ m ∈ call.handle, m < p.created
  tells : forall m, Tells history m (p.heap m)
  distinct : forall serviceName, (p.listOf serviceName).Nodup
  listed : forall serviceName m, m ∈ p.listOf serviceName ↔ (p.heap m).list = some serviceName

namespace Tracks

variable {history : List MetricCall} {p : MetricService}

theorem new : Tracks [] MetricService.new where
  size := rfl
  known := nofun
  tells := fun _ => Tells.unused nofun
  distinct := fun _ => List.nodup_nil
  listed := by simp [MetricService.new, MetricService.listOf]

theorem reports (tracks : Tracks history p)
    (ranges : MetricRef -> MapOrder (Sigma (fun _ : GoString => UInt64)))
    (serviceName : GoString) : Reports history serviceName (p.getMetric ranges serviceName) := by
  have folded : p.getMetric ranges serviceName = (p.listOf serviceName).foldl
      (fun metric m => addMetric (ranges m) metric (p.heap m).metrics) ∅ := by
    rw [MetricService.getMetric, MetricService.listOf]
    cases p.metrics.lookup serviceName <;> rfl
  have listed (m : MetricRef) : m ∈ p.listOf serviceName ↔ m ∈ live history serviceName :=
    (tracks.listed serviceName m).trans (tracks.tells m).list_iff
  have same : (p.listOf serviceName).toFinset = live history serviceName := by
    ext m
    rw [List.mem_toFinset, listed]
  have holds (name : GoString) : Holds ((p.getMetric ranges serviceName).lookup name)
      (∃ m ∈ live history serviceName, Touched history m name)
      (∑ m ∈ live history serviceName, net history m name) := by
    have nothing : Holds ((∅ : Counters).lookup name) False 0 := Holds.untouched
    rw [folded]
    refine (holds_foldl ranges (fun m => (tracks.tells m).counted name) (p.listOf serviceName)
      nothing).congr ?_ ?_
    · simp [listed]
    · rw [Int.zero_add, ← same, List.sum_toFinset _ (tracks.distinct serviceName)]
  refine ⟨fun name => (holds name).named, fun name value found => ?_⟩
  have count := (holds name).count
  rw [found] at count
  exact count

theorem known_snoc (tracks : Tracks history p) {call : MetricCall}
    (known : ∀ m ∈ call.handle, m < p.created) :
    ∀ other ∈ history ++ [call], ∀ m ∈ other.handle, m < p.created :=
  List.forall_mem_append.mpr ⟨tracks.known, List.forall_mem_singleton.mpr known⟩

theorem update (tracks : Tracks history p) {call : MetricCall} {m : MetricRef}
    {metric : MetricWithLock} {metrics : AList (fun _ : GoString => List MetricRef)}
    (given : call.handle = some m) (created : m < p.created)
    (tells : Tells (history ++ [call]) m metric)
    (distinct : forall serviceName, ((metrics.lookup serviceName).getD []).Nodup)
    (listed : forall serviceName other, other ∈ (metrics.lookup serviceName).getD [] ↔
      (Function.update p.heap m metric other).list = some serviceName) :
    Tracks (history ++ [call]) ⟨metrics, Function.update p.heap m metric, p.created⟩ := by
  have unowned : owners (history ++ [call]) = owners history := by
    rw [owners_append]
    cases call <;> simp_all [owners, MetricCall.handle]
  refine ⟨tracks.size.trans (by rw [unowned]), tracks.known_snoc ?_, ?_, distinct, listed⟩
  · rw [given]
    rintro _ ⟨⟩
    exact created
  · intro other
    by_cases here : other = m
    · subst here
      change Tells _ _ (Function.update p.heap other metric other)
      rw [Function.update_self]
      exact tells
    · change Tells _ _ (Function.update p.heap m metric other)
      rw [Function.update_of_ne here]
      refine (tracks.tells other).frame (fun same => here ?_) (by rw [unowned])
      exact Option.some.inj (same.symm.trans given)

theorem count (tracks : Tracks history p) {call : MetricCall} {m : MetricRef}
    {metric : MetricWithLock} (given : call.handle = some m) (created : m < p.created)
    (tells : Tells (history ++ [call]) m metric) (same : metric.list = (p.heap m).list) :
    Tracks (history ++ [call]) { p with heap := Function.update p.heap m metric } := by
  refine tracks.update given created tells tracks.distinct (fun serviceName other => ?_)
  refine (tracks.listed serviceName other).trans ?_
  by_cases here : other = m
  · rw [here, Function.update_self, same]
  · rw [Function.update_of_ne here]

theorem freeMetric (tracks : Tracks history p) {m : MetricRef} (created : m < p.created)
    (serviceName : GoString) :
    Tracks (history ++ [.freeMetric serviceName m]) (p.freeMetric serviceName m) := by
  have tells := (tracks.tells m).free serviceName
  rw [MetricService.freeMetric]
  by_cases home : (p.heap m).list = some serviceName
  · have listed := (tracks.listed serviceName m).mpr home
    cases found : p.metrics.lookup serviceName with
    | none =>
      rw [MetricService.listOf, found] at listed
      cases listed
    | some metrics =>
      have own : p.listOf serviceName = metrics := by
        rw [MetricService.listOf, found]
        rfl
      have left : ((p.heap m).freed serviceName).list = none := by
        rw [MetricWithLock.freed, if_pos home]
      have distinct := own ▸ tracks.distinct serviceName
      simp only [if_pos home]
      refine tracks.update rfl created tells (fun name => ?_) (fun name other => ?_)
      · rw [MetricService.listOf_insert]
        split
        · exact distinct.erase m
        · exact tracks.distinct name
      · have before := tracks.listed name other
        rw [MetricService.listOf_insert]
        split
        next here =>
          subst here
          rw [distinct.mem_erase_iff, ← own, before]
          by_cases same : other = m <;> simp [same, left]
        next here =>
          by_cases same : other = m
          · subst same
            simp [before, left, home, Ne.symm here]
          · simp [before, same]
  · have stays : (p.heap m).freed serviceName = p.heap m := if_neg home
    have kept := tracks.count rfl created tells (by rw [stays])
    rw [stays, Function.update_eq_self] at kept
    cases p.metrics.lookup serviceName with
    | none => exact kept
    | some metrics => simpa [home, stays] using kept

theorem newMetric (tracks : Tracks history p) (serviceName : GoString) :
    Tracks (history ++ [.newMetric serviceName]) (p.newMetric serviceName) := by
  have owned : owners (history ++ [.newMetric serviceName]) = owners history ++ [serviceName] :=
    owners_append _ _
  have known : ∀ call ∈ history ++ [.newMetric serviceName], ∀ m ∈ call.handle,
      m < p.created := tracks.known_snoc nofun
  have homeless : (p.heap p.created).list = none := by
    rw [(tracks.tells p.created).list, tracks.size, List.getElem?_length]
    rfl
  have fresh (name : GoString) : p.created ∉ p.listOf name := by
    rw [tracks.listed, homeless]
    nofun
  refine ⟨by rw [owned, List.length_append, ← tracks.size]; rfl, ?_, ?_, ?_, ?_⟩
  · exact fun call member m handled => Nat.lt_succ_of_lt (known call member m handled)
  · intro m
    change Tells _ m (Function.update p.heap p.created _ m)
    by_cases here : m = p.created
    · have unused : ∀ call ∈ history ++ [.newMetric serviceName], call.handle ≠ some m :=
        fun call member handled => (known call member m handled).ne here
      have tells := Tells.unused unused
      rw [owned, here, tracks.size, List.getElem?_concat_length] at tells
      rwa [here, Function.update_self, tracks.size]
    · rw [Function.update_of_ne here]
      refine (tracks.tells m).frame nofun ?_
      rw [owned]
      rcases Nat.lt_or_gt_of_ne (tracks.size ▸ here) with earlier | later
      · exact List.getElem?_append_left earlier
      · rw [List.getElem?_eq_none (Nat.le_of_lt later), List.getElem?_eq_none]
        rw [List.length_append]
        exact later
  · intro name
    refine (congrArg List.Nodup (MetricService.listOf_insert ..)).mpr ?_
    split
    · exact List.nodup_append_comm.mp ((tracks.distinct serviceName).cons (fresh serviceName))
    · exact tracks.distinct name
  · intro name m
    refine (congrArg (m ∈ ·) (MetricService.listOf_insert ..)).to_iff.trans ?_
    change _ ↔ (Function.update p.heap p.created _ m).list = some name
    have before := tracks.listed name m
    split
    next here =>
      subst here
      by_cases same : m = p.created
      · simp [same]
      · simp [before, same]
    next here =>
      by_cases same : m = p.created
      · simp [same, fresh, Ne.symm here]
      · simp [before, same]

theorem step (tracks : Tracks history p) {call : MetricCall} {next : MetricService}
    (taken : calls.step p call = some next) : Tracks (history ++ [call]) next := by
  rcases Option.ite_none_right_eq_some.mp taken with ⟨allowed, performed⟩
  cases performed
  cases call with
  | newMetric serviceName => exact tracks.newMetric serviceName
  | add m name value =>
    exact tracks.count rfl (allowed m rfl) ((tracks.tells m).add name value) rfl
  | sub m name value =>
    exact tracks.count rfl (allowed m rfl) ((tracks.tells m).sub name value) rfl
  | freeMetric serviceName m => exact tracks.freeMetric (allowed m rfl) serviceName
  | getMetric serviceName =>
    have same : owners (history ++ [.getMetric serviceName]) = owners history :=
      (owners_append _ _).trans (List.append_nil _)
    refine ⟨same ▸ tracks.size, tracks.known_snoc nofun, fun m => ?_, tracks.distinct,
      tracks.listed⟩
    exact (tracks.tells m).frame nofun (by rw [same])

theorem run (tracks : Tracks history p) {later : List MetricCall} {final : MetricService}
    (executed : calls.run p later = some final) : Tracks (history ++ later) final := by
  induction later generalizing history p with
  | nil =>
    cases executed
    simpa using tracks
  | cons call rest ih =>
    rcases Option.bind_eq_some_iff.mp executed with ⟨next, taken, remaining⟩
    have further := ih (tracks.step taken) remaining
    rwa [List.append_assoc] at further

end Tracks

/-- After every sequence of calls the report of every service is the sum over its
live metrics. -/
theorem getMetric_reports {history : List MetricCall} {p : MetricService}
    (executed : calls.run calls.initial history = some p)
    (ranges : MetricRef -> MapOrder (Sigma (fun _ : GoString => UInt64)))
    (serviceName : GoString) : Reports history serviceName (p.getMetric ranges serviceName) :=
  (Tracks.new.run executed).reports ranges serviceName

def sharedCounter : List MetricCall :=
  [.newMetric (ascii "a"), .newMetric (ascii "b"), .newMetric (ascii "a"),
    .add 0 (ascii "x") 5, .sub 2 (ascii "x") 7, .add 1 (ascii "x") 100,
    .freeMetric (ascii "a") 1, .freeMetric (ascii "b") 1, .freeMetric (ascii "b") 1]

/-- The two live metrics of the service count minus two together. -/
theorem sharedCounter_reports :
    exists p, calls.run calls.initial sharedCounter = some p ∧
      Reports sharedCounter (ascii "a") (p.getMetric (fun _ => .listed) (ascii "a")) ∧
      (p.getMetric (fun _ => .listed) (ascii "a")).lookup (ascii "x") = some (0 - 2) := by
  have executed : (calls.run calls.initial sharedCounter).any (fun p =>
      (p.getMetric (fun _ => .listed) (ascii "a")).lookup (ascii "x") = some (0 - 2)) = true := by
    decide +kernel
  rcases (Option.any_eq_true _ _).mp executed with ⟨p, ran, counted⟩
  exact ⟨p, ran, getMetric_reports ran _ _, of_decide_eq_true counted⟩

end Metric
end Sentel
