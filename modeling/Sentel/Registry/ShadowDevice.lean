import Sentel.Library.Machine
import Sentel.Registry.Devices

namespace Sentel
namespace Registry

open Library

/-!
# The shown status of a device

The run log of a device records its states.  `GetShadowDevice` is meant to show
the latest state that lasted three seconds, and marks the log that is shown.

The results of two of its queries go to variables that are passed by value.  The
driver panics if it is to fill a slice that is not given by its address, and
returns an error if it is to fill a structure that is not.  The model says for
each query whether its destination is an address, so that the rest of the
function can be compared with its purpose as well.
-/

/-- `registry.Runlog` -/
structure Runlog where
  productId : GoString := []
  deviceId : GoString := []
  deviceName : GoString := []
  deviceStatus : GoString := []
  isShow : GoString := []
  timeCreated : Time := 0
  timeUpdated : Time := 0
  deriving DecidableEq

inductive LogValue
  | string (value : GoString)
  | time (value : Time)
  | operator (name : String) (value : Time)
  deriving DecidableEq

def Runlog.document (log : Runlog) : Document LogValue :=
  [("ProductId", .string log.productId), ("DeviceId", .string log.deviceId),
    ("DeviceName", .string log.deviceName), ("DeviceStatus", .string log.deviceStatus),
    ("IsShow", .string log.isShow), ("TimeCreated", .time log.timeCreated),
    ("TimeUpdated", .time log.timeUpdated)]

abbrev LogQuery := List (String × LogValue)

def clauseHolds (document : Document LogValue) (clause : String × LogValue) : Bool :=
  match clause.2, document.lookup clause.1 with
  | .operator "$gte" bound, some (.time value) => bound ≤ value
  | .operator "$gte" _, _ => false
  | value, found => found == some value

def LogQuery.selects (query : LogQuery) (log : Runlog) : Bool :=
  query.all (clauseHolds log.document)

/-! ## The driver -/

def structValue : GoString := ascii "Unmarshal can't deal with struct values. Use a pointer."

def sliceAddress : GoString := ascii "result argument must be a slice address"

def findOneInto (addressed : Bool) (query : LogQuery) (logs : List Runlog) :
    Except GoString Runlog :=
  match Collection.findOne query.selects logs with
  | none => .error notFound
  | some log => if addressed then .ok log else .error structValue

def findAllInto (addressed : Bool) (query : LogQuery) (select : Runlog -> Runlog)
    (logs : List Runlog) : Except GoString (List Runlog) :=
  if addressed then .ok ((Collection.findAll query.selects logs).map select)
  else .error sliceAddress

/-! ## The calls -/

def saveDeviceRunlog (logs : List Runlog) (productId deviceId deviceStatus : GoString)
    (now : Time) : List Runlog :=
  Collection.insert
    { productId := productId
      deviceId := deviceId
      deviceStatus := deviceStatus
      timeCreated := now
      timeUpdated := now
      isShow := ascii "0" } logs

def threeSeconds : Time := 3000000000

def selectShown (log : Runlog) : Runlog :=
  { productId := log.productId, deviceId := log.deviceId, isShow := log.isShow }

/-- How a call ends: with a log and perhaps an error, or with a panic of the
driver. -/
inductive ShadowAnswer
  | returned (log : Runlog) (err : Option GoString)
  | panicked (text : GoString)
  deriving DecidableEq

section Calls

variable (productId deviceId : GoString)

def shownQuery : LogQuery :=
  [("ProductId", .string productId), ("DeviceId", .string deviceId),
    ("IsShow", .string (ascii "1"))]

def deviceQuery : LogQuery :=
  [("ProductId", .string productId), ("DeviceId", .string deviceId)]

def promote (logs : List Runlog) (updated : Time) :
    Time -> List Runlog -> Option (Runlog × List Runlog)
  | _, [] => none
  | basetime, log :: rest =>
    if threeSeconds ≤ basetime - log.timeCreated then
      let shown := { log with isShow := ascii "1", timeUpdated := updated }
      let query : LogQuery :=
        [("ProductId", .string productId), ("DeviceId", .string deviceId),
          ("IsShow", .string (ascii "0")), ("TimeCreated", .time log.timeCreated)]
      some (shown, Collection.update query.selects shown logs)
    else promote logs updated log.timeCreated rest

def shadowDevice (addressed : Bool) (logs : List Runlog) (now updated : Time) :
    ShadowAnswer × List Runlog :=
  match findOneInto true (shownQuery productId deviceId) logs with
  | .ok showlog =>
    match findAllInto addressed [("TimeCreated", .operator "&gte" showlog.timeCreated)]
        selectShown logs with
    | .error text => (.panicked text, logs)
    | .ok unshowlogs =>
      match promote productId deviceId logs updated now unshowlogs with
      | some (log, stored) => (.returned log none, stored)
      | none => (.returned showlog none, logs)
  | .error _ =>
    match findOneInto addressed (deviceQuery productId deviceId) logs with
    | .error reason => (.returned {} (some reason), logs)
    | .ok log =>
      let shown := { log with isShow := ascii "1" }
      (.returned shown none,
        Collection.update (deviceQuery productId deviceId).selects shown logs)

/-- `GetShadowDevice` passes both destinations by value. -/
def getShadowDevice (logs : List Runlog) (now updated : Time) : ShadowAnswer × List Runlog :=
  shadowDevice productId deviceId false logs now updated

end Calls

/-! ## What is to be shown -/

def Runlog.IsOf (log : Runlog) (productId deviceId : GoString) : Prop :=
  log.productId = productId ∧ log.deviceId = deviceId

instance (log : Runlog) (productId deviceId : GoString) : Decidable (log.IsOf productId deviceId) :=
  inferInstanceAs (Decidable (_ ∧ _))

section Purpose

variable (logs : List Runlog) (now : Time) (productId deviceId : GoString)

def Lasted (log : Runlog) : Prop :=
  log.timeCreated + threeSeconds ≤ now ∧
    ∀ other ∈ logs, other.IsOf productId deviceId -> log.timeCreated < other.timeCreated ->
      log.timeCreated + threeSeconds ≤ other.timeCreated

def Chosen (log : Runlog) : Prop :=
  log ∈ logs ∧ log.IsOf productId deviceId ∧
    (Lasted logs now productId deviceId log ∧
        (∀ other ∈ logs, other.IsOf productId deviceId ->
          Lasted logs now productId deviceId other -> other.timeCreated ≤ log.timeCreated) ∨
      log.isShow = ascii "1" ∧
        ∀ other ∈ logs, other.IsOf productId deviceId -> log.timeCreated < other.timeCreated ->
          ¬ Lasted logs now productId deviceId other)

structure Shows (result : ShadowAnswer × List Runlog) : Prop where
  returned : exists log err chosen, result.1 = .returned log err ∧
    Chosen logs now productId deviceId chosen ∧
      { log with isShow := chosen.isShow, timeUpdated := chosen.timeUpdated } = chosen
  shown : result.2.countP (fun log => log.IsOf productId deviceId ∧ log.isShow = ascii "1") = 1
  others : result.2.filter (fun log => ¬ log.IsOf productId deviceId) =
    logs.filter (fun log => ¬ log.IsOf productId deviceId)

end Purpose

/-! ## What is shown -/

theorem shownQuery_selects_iff {productId deviceId : GoString} {log : Runlog} :
    (shownQuery productId deviceId).selects log = true ↔
      log.IsOf productId deviceId ∧ log.isShow = ascii "1" := by
  simp [shownQuery, LogQuery.selects, clauseHolds, Runlog.document, Runlog.IsOf, List.lookup_cons,
    and_assoc]

section Behaviour

variable (productId deviceId : GoString) (logs : List Runlog) (now updated : Time)

def SomeShown : Prop := ∃ log ∈ logs, log.IsOf productId deviceId ∧ log.isShow = ascii "1"

variable {productId deviceId logs}

theorem findOne_shown_iff :
    Collection.findOne (shownQuery productId deviceId).selects logs = none ↔
      ¬ SomeShown productId deviceId logs := by
  rw [Collection.findOne, List.find?_eq_none, SomeShown]
  simp only [shownQuery_selects_iff, not_exists, not_and]

theorem getShadowDevice_of_shown (shown : SomeShown productId deviceId logs) :
    getShadowDevice productId deviceId logs now updated = (.panicked sliceAddress, logs) := by
  cases found : Collection.findOne (shownQuery productId deviceId).selects logs with
  | none => exact absurd shown (findOne_shown_iff.mp found)
  | some showlog =>
    rw [getShadowDevice, shadowDevice, findOneInto, found]
    rfl

theorem getShadowDevice_of_none (none : ¬ SomeShown productId deviceId logs) :
    exists reason, getShadowDevice productId deviceId logs now updated =
      (.returned {} (some reason), logs) := by
  rw [getShadowDevice, shadowDevice, findOneInto, findOne_shown_iff.mpr none]
  dsimp only
  rw [findOneInto]
  cases Collection.findOne (deviceQuery productId deviceId).selects logs with
  | none => exact ⟨notFound, rfl⟩
  | some log => exact ⟨structValue, rfl⟩

variable (productId deviceId logs)

theorem getShadowDevice_unchanged :
    (getShadowDevice productId deviceId logs now updated).2 = logs := by
  by_cases shown : SomeShown productId deviceId logs
  · rw [getShadowDevice_of_shown now updated shown]
  · rcases getShadowDevice_of_none now updated shown with ⟨reason, ended⟩
    rw [ended]

/-- The call changes nothing, and it never shows what it is meant to show. -/
theorem getShadowDevice_never_shows :
    (getShadowDevice productId deviceId logs now updated).2 = logs ∧
      ¬ Shows logs now productId deviceId
        (getShadowDevice productId deviceId logs now updated) := by
  have unchanged := getShadowDevice_unchanged productId deviceId logs now updated
  refine ⟨unchanged, ?_⟩
  intro shows
  by_cases shown : SomeShown productId deviceId logs
  · rcases shows.returned with ⟨log, err, chosen, ended, _⟩
    rw [getShadowDevice_of_shown now updated shown] at ended
    cases ended
  · -- No log was marked before, so none is marked afterwards.
    have marked := shows.shown
    have unmarked : logs.countP
        (fun log => log.IsOf productId deviceId ∧ log.isShow = ascii "1") = 0 := by
      rw [List.countP_eq_zero]
      intro log stored isShown
      exact shown ⟨log, stored, of_decide_eq_true isShown⟩
    rw [unchanged, unmarked] at marked
    cases marked

end Behaviour

def twoStates : List Runlog :=
  [{ productId := ascii "p", deviceId := ascii "d", deviceStatus := ascii "off",
      isShow := ascii "0", timeCreated := 0 },
    { productId := ascii "p", deviceId := ascii "d", deviceStatus := ascii "on",
      isShow := ascii "0", timeCreated := 1000000000 }]

/-- The second state is to be shown, and an error is returned.  Had the destinations
been addresses, the first state would be shown. -/
theorem lasting_state_not_shown :
    (exists chosen, Chosen twoStates 11000000000 (ascii "p") (ascii "d") chosen ∧
        chosen.deviceStatus = ascii "on") ∧
      getShadowDevice (ascii "p") (ascii "d") twoStates 11000000000 11000000000 =
        (.returned {} (some structValue), twoStates) ∧
      (exists log stored, shadowDevice (ascii "p") (ascii "d") true twoStates 11000000000
          11000000000 = (.returned log none, stored) ∧ log.deviceStatus = ascii "off") := by
  refine ⟨⟨_, ⟨List.mem_cons_of_mem _ List.mem_cons_self, ⟨rfl, rfl⟩, .inl ⟨?_, ?_⟩⟩, rfl⟩, ?_, ?_⟩
  · unfold Lasted
    decide
  · unfold Lasted
    decide
  · decide
  · exact ⟨_, _, rfl, rfl⟩

/-! ## Logs that are saved -/

inductive LogCall
  | save (productId deviceId deviceStatus : GoString) (now : Time)
  | shadow (productId deviceId : GoString) (now updated : Time)

def LogCall.perform (logs : List Runlog) : LogCall -> List Runlog
  | .save productId deviceId deviceStatus now =>
    saveDeviceRunlog logs productId deviceId deviceStatus now
  | .shadow productId deviceId now updated =>
    (getShadowDevice productId deviceId logs now updated).2

/-- The calls on an empty collection. -/
def logCalls : Machine (List Runlog) LogCall where
  initial := []
  step := fun logs call => some (call.perform logs)

/-- A request for the shown state is answered with an error. -/
def Unanswered (logs : List Runlog) : LogCall -> Prop
  | .save _ _ _ _ => True
  | .shadow productId deviceId now updated => exists reason,
      (getShadowDevice productId deviceId logs now updated).1 = .returned {} (some reason)

def Unmarked (logs : List Runlog) : Prop := ∀ log ∈ logs, log.isShow = ascii "0"

theorem Unmarked.step {logs next : List Runlog} (unmarked : Unmarked logs) {call : LogCall}
    (taken : logCalls.step logs call = some next) : Unmarked next := by
  cases taken
  cases call with
  | save productId deviceId deviceStatus now =>
    intro log stored
    rcases List.mem_append.mp stored with before | saved
    · exact unmarked log before
    · rw [List.mem_singleton.mp saved]
  | shadow productId deviceId now updated =>
    change Unmarked (getShadowDevice productId deviceId logs now updated).2
    rw [getShadowDevice_unchanged]
    exact unmarked

theorem Unmarked.unanswered {logs : List Runlog} (unmarked : Unmarked logs) (call : LogCall) :
    Unanswered logs call := by
  cases call with
  | save productId deviceId deviceStatus now => exact True.intro
  | shadow productId deviceId now updated =>
    have none : ¬ SomeShown productId deviceId logs := by
      rintro ⟨log, stored, _, shown⟩
      rw [unmarked log stored] at shown
      exact absurd shown (by decide)
    rcases getShadowDevice_of_none now updated none with ⟨reason, ended⟩
    exact ⟨reason, congrArg Prod.fst ended⟩

/-- Every request on logs that were saved is answered with an error. -/
theorem logCalls_unanswered (calls : List LogCall) :
    logCalls.Allowed Unanswered logCalls.initial calls :=
  Machine.allowed_of_invariant (fun unmarked taken => Unmarked.step unmarked taken)
    (fun unmarked call => Unmarked.unanswered unmarked call)
    (fun _ stored => absurd stored List.not_mem_nil) calls

end Registry
end Sentel
