import Sentel.Discovery.ServiceDiscovery
import Sentel.Library.Machine

namespace Sentel
namespace Discovery

open Library

/-!
# The watcher of the registered services

The hub keeps a list of the registered services.  Its main thread starts a
watcher, reads the list and passes it to a handler.  The watcher sets a one-shot
watch on the children, waits for it to fire, reads the list, passes it to the
same handler unless it is empty, and begins again.  Services come and go between
any two steps of the two threads.

A watch that is set again after the list was read does not see what happened in
between, and an empty list is never passed on by the watcher.  An update is
therefore lost in both cases.  The conditions below exclude them, together with
a main thread that passes an old list after the watcher has passed a new one.
Under these conditions the handler has the current list whenever the watcher
waits and nothing is pending.
-/

/-- `GetServices` in progress: the children are listed, then the record of each
child is read, unless the child is gone by then. -/
inductive Reader
  | listing
  | reading (children : List GoString) (services : List Service)
  | handing (services : List Service)
  deriving DecidableEq

/-- The goroutine of `StartWatcher`. -/
inductive Loop
  | idle
  | arming
  | waiting
  | reader (phase : Reader)
  deriving DecidableEq

/-- The main thread in `Start`. -/
inductive Main
  | starting
  | reader (phase : Reader)
  | running
  deriving DecidableEq

structure Watcher where
  nodes : Nodes
  watch : Bool
  pending : Bool
  loop : Loop
  main : Main
  handled : Option (List Service)

/-- One step of `GetServices`, up to the list that it returns. -/
def Reader.next (nodes : Nodes) (order : MapOrder GoString) : Reader -> Reader
  | .listing => .reading (order.order nodes.keys) []
  | .reading [] services => .handing services
  | .reading (child :: rest) services =>
    match nodes.lookup child with
    | some service => .reading rest (services ++ [service])
    | none => .reading rest services
  | .handing services => .handing services

namespace Watcher

def changeNodes (watcher : Watcher) (nodes : Nodes) : Watcher :=
  { watcher with
    nodes := nodes
    watch := false
    pending := watcher.pending || watcher.watch }

def loopStep (watcher : Watcher) (order : MapOrder GoString) : Option Watcher :=
  match watcher.loop with
  | .idle => none
  | .arming => some { watcher with loop := .waiting, watch := true }
  | .waiting =>
    if watcher.pending then some { watcher with loop := .reader .listing, pending := false }
    else none
  | .reader (.handing services) =>
    some { watcher with
      loop := .arming
      handled := if services ≠ [] then some services else watcher.handled }
  | .reader phase => some { watcher with loop := .reader (phase.next watcher.nodes order) }

/-- One step of the main thread, which passes on an empty list as well. -/
def mainStep (watcher : Watcher) (order : MapOrder GoString) : Option Watcher :=
  match watcher.main with
  | .starting => some { watcher with main := .reader .listing, loop := .arming }
  | .reader (.handing services) =>
    some { watcher with main := .running, handled := some services }
  | .reader phase => some { watcher with main := .reader (phase.next watcher.nodes order) }
  | .running => none

end Watcher

/-- Services come and go, and the two threads make steps. -/
inductive WatchLabel
  | register (service : Service)
  | remove (service : Service)
  | loop (order : MapOrder GoString)
  | main (order : MapOrder GoString)

/-- The interleavings, from any children.  A request that does not change the
children fires nothing. -/
def watchers (names : NodeNames) (nodes : Nodes) : Machine Watcher WatchLabel where
  initial := ⟨nodes, false, false, .idle, .starting, none⟩
  step := fun watcher label =>
    match label with
    | .register service =>
      match registerService names service watcher.nodes with
      | some nodes => some (watcher.changeNodes nodes)
      | none => some watcher
    | .remove service =>
      if names.accepts service.name ∧ watcher.nodes.lookup service.name ≠ none then
        some (watcher.changeNodes (removeService names service watcher.nodes))
      else some watcher
    | .loop order => watcher.loopStep order
    | .main order => watcher.mainStep order

def registered (nodes : Nodes) : List Service := nodes.entries.map (fun entry => entry.2)

namespace Watcher

/-- The watcher waits, and nothing has happened since its watch was set. -/
def Quiet (watcher : Watcher) : Prop :=
  watcher.loop = .waiting ∧ watcher.watch = true ∧ watcher.pending = false

/-- The list that was passed to the handler last is the current one. -/
def Current (watcher : Watcher) : Prop :=
  exists services, watcher.handled = some services ∧ services.Perm (registered watcher.nodes)

def offered (watcher : Watcher) : Option (List Service) :=
  match watcher.main with
  | .reader (.handing services) => some services
  | _ => none

def Settled (watcher : Watcher) : Prop :=
  watcher.loop = .arming ∨ (watcher.loop = .waiting ∧ watcher.pending = false)

end Watcher

/-- The children change only while a watch is set or has fired, or before the
first list is read.  The watcher finds an empty list only if the handler has
one.  The main thread does not pass on an old list behind the watcher. -/
def Gentle (names : NodeNames) (watcher : Watcher) : WatchLabel -> Prop
  | .register service =>
    names.accepts service.name ∧ watcher.nodes.lookup service.name = none -> Open watcher
  | .remove service =>
    names.accepts service.name ∧ watcher.nodes.lookup service.name ≠ none -> Open watcher
  | .loop _ =>
    watcher.main = .running -> watcher.loop = .reader (.handing []) -> watcher.handled = some []
  | .main _ =>
    forall services, services ∈ watcher.offered -> watcher.Settled ->
      services.Perm (registered watcher.nodes)
where
  /-- The children may change here. -/
  Open (watcher : Watcher) : Prop :=
    watcher.loop = .waiting ∨ watcher.loop = .reader .listing ∨ watcher.main = .starting ∨
      (watcher.main = .reader .listing ∧ watcher.loop = .arming)

instance (watcher : Watcher) : Decidable watcher.Settled :=
  inferInstanceAs (Decidable (_ ∨ _))

instance (watcher : Watcher) : Decidable (Gentle.Open watcher) :=
  inferInstanceAs (Decidable (_ ∨ _))

instance (names : NodeNames) (watcher : Watcher) :
    (label : WatchLabel) -> Decidable (Gentle names watcher label)
  | .register _ => inferInstanceAs (Decidable (_ -> Gentle.Open watcher))
  | .remove _ => inferInstanceAs (Decidable (_ -> Gentle.Open watcher))
  | .loop _ => inferInstanceAs (Decidable (_ -> _ -> _))
  | .main _ => inferInstanceAs (Decidable (forall services, services ∈ watcher.offered -> _))

/-! ## Reading the list -/

def Reader.Faithful (nodes : Nodes) : Reader -> Prop
  | .listing => True
  | .reading children services =>
    (services ++ children.filterMap (fun child => nodes.lookup child)).Perm (registered nodes)
  | .handing services => services.Perm (registered nodes)

theorem filterMap_keys (nodes : Nodes) :
    nodes.keys.filterMap (fun child => nodes.lookup child) = registered nodes := by
  have found : forall entry, entry ∈ nodes.entries ->
      nodes.lookup entry.1 = some entry.2 := fun entry member => AList.mem_lookup_iff.mpr member
  rw [AList.keys, List.keys, List.filterMap_map, registered, ← List.filterMap_eq_map]
  exact List.filterMap_congr found

theorem Reader.Faithful.next {nodes : Nodes} {phase : Reader} (faithful : phase.Faithful nodes)
    (order : MapOrder GoString) : (phase.next nodes order).Faithful nodes := by
  cases phase with
  | listing =>
    change ([] ++ (order.order nodes.keys).filterMap _).Perm _
    rw [List.nil_append, ← filterMap_keys]
    exact (order.perm nodes.keys).filterMap _
  | handing services => exact faithful
  | reading children services =>
    cases children with
    | nil =>
      have all : (services ++ []).Perm (registered nodes) := faithful
      rw [List.append_nil] at all
      exact all
    | cons child rest =>
      have all : (services ++ (child :: rest).filterMap (fun child => nodes.lookup child)).Perm
        (registered nodes) := faithful
      cases found : nodes.lookup child with
      | none =>
        rw [List.filterMap_cons, found] at all
        rw [Reader.next, found]
        exact all
      | some service =>
        rw [List.filterMap_cons, found] at all
        rw [Reader.next, found]
        change ((services ++ [service]) ++ _).Perm _
        rw [List.append_assoc]
        exact all

/-! ## The invariant of gentle interleavings -/

structure Watched (watcher : Watcher) : Prop where
  armed : watcher.loop = .waiting -> watcher.watch = !watcher.pending
  disarmed : watcher.loop ≠ .waiting -> watcher.watch = false ∧ watcher.pending = false
  unstarted : watcher.main = .starting -> watcher.loop = .idle
  faithful : forall phase, watcher.loop = .reader phase -> phase.Faithful watcher.nodes
  current : watcher.main = .running -> watcher.Settled -> watcher.Current

namespace Watched

variable {names : NodeNames} {watcher next : Watcher} {order : MapOrder GoString}

theorem initial (names : NodeNames) (nodes : Nodes) : Watched (watchers names nodes).initial where
  armed := fun same => nomatch same
  disarmed := fun _ => ⟨rfl, rfl⟩
  unstarted := fun _ => rfl
  faithful := fun _ same => nomatch same
  current := fun same => nomatch same

theorem notified (watched : Watched watcher) (waits : watcher.loop = .waiting) :
    (watcher.pending || watcher.watch) = true := by
  rw [watched.armed waits]
  cases watcher.pending <;> rfl

theorem listing_of_open (watched : Watched watcher) (fine : Gentle.Open watcher)
    {phase : Reader} (reads : watcher.loop = .reader phase) : phase = .listing := by
  rcases fine with waits | lists | unstarted | ⟨_, arms⟩
  · rw [waits] at reads
    cases reads
  · rw [lists] at reads
    cases reads
    rfl
  · rw [watched.unstarted unstarted] at reads
    cases reads
  · rw [arms] at reads
    cases reads

theorem not_settled_of_open (watched : Watched watcher) (fine : Gentle.Open watcher)
    (runs : watcher.main = .running) (nodes : Nodes) : ¬ (watcher.changeNodes nodes).Settled := by
  rintro (arms | ⟨waits, silent⟩)
  · change watcher.loop = .arming at arms
    rcases fine with waits | lists | unstarted | ⟨lists, _⟩
    · exact absurd (waits.symm.trans arms) nofun
    · exact absurd (lists.symm.trans arms) nofun
    · exact absurd (unstarted.symm.trans runs) nofun
    · exact absurd (lists.symm.trans runs) nofun
  · change watcher.loop = .waiting at waits
    change (watcher.pending || watcher.watch) = false at silent
    rw [watched.notified waits] at silent
    cases silent

theorem changeNodes (watched : Watched watcher) (fine : Gentle.Open watcher) (nodes : Nodes) :
    Watched (watcher.changeNodes nodes) := by
  constructor
  · intro waits
    change false = !(watcher.pending || watcher.watch)
    rw [watched.notified waits]
    rfl
  · intro busy
    have quiet := watched.disarmed busy
    change false = false ∧ (watcher.pending || watcher.watch) = false
    rw [quiet.1, quiet.2]
    exact ⟨rfl, rfl⟩
  · exact watched.unstarted
  · intro phase reads
    rw [watched.listing_of_open fine reads]
    exact True.intro
  · intro runs settled
    exact absurd settled (watched.not_settled_of_open fine runs nodes)

theorem of_reading {phase : Reader} (begun : watcher.main ≠ .starting)
    (faithful : phase.Faithful watcher.nodes) (silent : watcher.watch = false) :
    Watched { watcher with loop := .reader phase, pending := false } where
  armed := fun same => nomatch same
  disarmed := fun _ => ⟨silent, rfl⟩
  unstarted := fun starts => absurd starts begun
  faithful := by
    intro other same
    cases same
    exact faithful
  current := by
    rintro _ (arms | ⟨waits, _⟩)
    · cases arms
    · cases waits

theorem begun (watched : Watched watcher) (moves : watcher.loop ≠ .idle) :
    watcher.main ≠ .starting :=
  fun starts => moves (watched.unstarted starts)

theorem arm (watched : Watched watcher) (arms : watcher.loop = .arming) :
    Watched { watcher with loop := .waiting, watch := true } := by
  have busy := watched.disarmed (arms.trans_ne nofun)
  constructor
  · intro _
    change true = !watcher.pending
    rw [busy.2]
    rfl
  · intro busy
    exact absurd rfl busy
  · intro starts
    exact absurd starts (watched.begun (arms.trans_ne nofun))
  · intro phase same
    cases same
  · intro runs _
    exact watched.current runs (Or.inl arms)

theorem hand (watched : Watched watcher) {services : List Service}
    (gentle : Gentle names watcher (.loop order))
    (hands : watcher.loop = .reader (.handing services)) :
    Watched { watcher with
      loop := .arming
      handled := if services ≠ [] then some services else watcher.handled } := by
  have busy := watched.disarmed (hands.trans_ne nofun)
  have perm : services.Perm (registered watcher.nodes) := watched.faithful _ hands
  constructor
  · intro same
    cases same
  · intro _
    exact busy
  · intro starts
    exact absurd starts (watched.begun (hands.trans_ne nofun))
  · intro phase same
    cases same
  · intro runs _
    refine ⟨services, ?_, perm⟩
    change (if services ≠ [] then some services else watcher.handled) = some services
    by_cases empty : services = []
    · subst services
      rw [if_neg (fun some => some rfl)]
      exact gentle runs hands
    · rw [if_pos empty]

theorem loopStep (watched : Watched watcher) (gentle : Gentle names watcher (.loop order))
    (taken : watcher.loopStep order = some next) : Watched next := by
  rw [Watcher.loopStep] at taken
  split at taken
  · cases taken
  · rename_i arms
    cases taken
    exact watched.arm arms
  · -- the notification is received
    rename_i waits
    split at taken
    · rename_i notified
      cases taken
      refine of_reading (watched.begun (waits.trans_ne nofun)) True.intro ?_
      rw [watched.armed waits, notified]
      rfl
    · cases taken
  · rename_i services hands
    cases taken
    exact watched.hand gentle hands
  · -- one more step of `GetServices`
    rename_i phase other reads
    cases taken
    have busy := watched.disarmed (reads.trans_ne nofun)
    have moved := of_reading (watched.begun (reads.trans_ne nofun))
      ((watched.faithful phase reads).next order) busy.1
    rw [← busy.2] at moved
    exact moved

theorem mainStep (watched : Watched watcher) (gentle : Gentle names watcher (.main order))
    (taken : watcher.mainStep order = some next) : Watched next := by
  rw [Watcher.mainStep] at taken
  split at taken
  · rename_i starts
    cases taken
    have busy := watched.disarmed ((watched.unstarted starts).trans_ne nofun)
    exact ⟨nofun, (fun _ => busy), nofun, nofun, nofun⟩
  · rename_i services hands
    cases taken
    refine ⟨watched.armed, watched.disarmed, nofun, watched.faithful, ?_⟩
    intro _ settled
    have offers : services ∈ watcher.offered := by
      rw [Watcher.offered, hands]
      exact rfl
    exact ⟨services, rfl, gentle services offers settled⟩
  · cases taken
    exact ⟨watched.armed, watched.disarmed, nofun, watched.faithful, nofun⟩
  · cases taken

theorem step (watched : Watched watcher) {nodes : Nodes} {label : WatchLabel}
    (gentle : Gentle names watcher label)
    (taken : (watchers names nodes).step watcher label = some next) : Watched next := by
  cases label with
  | register service =>
    change (match registerService names service watcher.nodes with
      | some nodes => some (watcher.changeNodes nodes)
      | none => some watcher) = some next at taken
    rw [registerService] at taken
    split_ifs at taken with changes
    · cases taken
      exact watched.changeNodes (gentle changes) _
    · cases taken
      exact watched
  | remove service =>
    change (if names.accepts service.name ∧ watcher.nodes.lookup service.name ≠ none then
        some (watcher.changeNodes (removeService names service watcher.nodes))
      else some watcher) = some next at taken
    split_ifs at taken with changes
    · cases taken
      exact watched.changeNodes (gentle changes) _
    · cases taken
      exact watched
  | loop order => exact watched.loopStep gentle taken
  | main order => exact watched.mainStep gentle taken

end Watched

/-- No update is lost by a gentle interleaving: when `Start` has returned and
the watcher waits with nothing pending, the handler has the current list. -/
theorem current_when_quiet (names : NodeNames) (nodes : Nodes) (labels : List WatchLabel)
    (watcher : Watcher)
    (gentle : (watchers names nodes).Allowed (Gentle names) (watchers names nodes).initial labels)
    (executed : (watchers names nodes).run (watchers names nodes).initial labels = some watcher)
    (started : watcher.main = .running) (quiet : watcher.Quiet) : watcher.Current := by
  have watched : Watched watcher :=
    (Machine.reaches_of_run .initial gentle executed).invariant (Watched.initial names nodes)
      (fun watched allowed taken => watched.step allowed taken)
  exact watched.current started (Or.inr ⟨quiet.1, quiet.2.2⟩)

def firstService : Service := { name := [97], id := [49], port := 10000 }

def secondService : Service := { name := [98], id := [50], port := 10001 }

def firstNode : Nodes := AList.insert [97] firstService ∅

def steps (label : MapOrder GoString -> WatchLabel) (count : Nat) : List WatchLabel :=
  List.replicate count (label .listed)

def observedRun : List WatchLabel :=
  steps .main 5 ++ steps .loop 1 ++ [.register secondService] ++ steps .loop 7

theorem second_service_is_seen :
    exists watcher,
      (watchers anyName firstNode).Allowed (Gentle anyName)
          (watchers anyName firstNode).initial observedRun ∧
        (watchers anyName firstNode).run (watchers anyName firstNode).initial observedRun =
          some watcher ∧
        watcher.Quiet ∧ watcher.Current ∧ registered watcher.nodes = [secondService, firstService] := by
  have gentle : (watchers anyName firstNode).Allowed (Gentle anyName)
      (watchers anyName firstNode).initial observedRun := by decide +kernel
  have quiet : exists watcher,
      (watchers anyName firstNode).run (watchers anyName firstNode).initial observedRun =
        some watcher ∧ watcher.main = .running ∧ watcher.Quiet ∧
        registered watcher.nodes = [secondService, firstService] :=
    ⟨_, rfl, rfl, ⟨rfl, rfl, rfl⟩, rfl⟩
  rcases quiet with ⟨watcher, executed, started, quiet, listed⟩
  exact ⟨watcher, gentle, executed, quiet,
    current_when_quiet anyName firstNode observedRun watcher gentle executed started quiet,
    listed⟩

def removedLast : List WatchLabel :=
  steps .main 5 ++ steps .loop 1 ++ [.remove firstService] ++ steps .loop 5

def removedInGap : List WatchLabel :=
  steps .main 5 ++ steps .loop 1 ++ [.register secondService] ++ steps .loop 5 ++
    [.remove secondService] ++ steps .loop 2

theorem not_current_of_length {watcher : Watcher} {services : List Service}
    (handled : watcher.handled = some services)
    (differ : services.length ≠ (registered watcher.nodes).length) : ¬ watcher.Current := by
  rintro ⟨other, same, perm⟩
  rw [handled] at same
  cases same
  exact differ perm.length_eq

/-- Both removals are missed: the watcher waits for the next change with a list
that still holds the service. -/
theorem removals_are_missed :
    (exists watcher,
      (watchers anyName firstNode).run (watchers anyName firstNode).initial removedLast =
        some watcher ∧ watcher.main = .running ∧ watcher.Quiet ∧
        watcher.handled = some [firstService] ∧ registered watcher.nodes = [] ∧
        ¬ watcher.Current) ∧
      exists watcher,
        (watchers anyName firstNode).run (watchers anyName firstNode).initial removedInGap =
          some watcher ∧ watcher.main = .running ∧ watcher.Quiet ∧
          watcher.handled = some [secondService, firstService] ∧
          registered watcher.nodes = [firstService] ∧ ¬ watcher.Current := by
  constructor
  · refine ⟨_, rfl, rfl, ⟨rfl, rfl, rfl⟩, rfl, rfl, ?_⟩
    exact not_current_of_length rfl (by decide)
  · refine ⟨_, rfl, rfl, ⟨rfl, rfl, rfl⟩, rfl, rfl, ?_⟩
    exact not_current_of_length rfl (by decide)

end Discovery
end Sentel
