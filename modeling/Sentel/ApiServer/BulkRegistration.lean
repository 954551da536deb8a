import Sentel.ApiServer.DeviceUpdates

namespace Sentel
namespace ApiServer

open Library Registry

/-!
# Registration of devices in bulk

`BulkRegisterDevices` registers devices one after the other and stops at the
first that is refused.  The devices before it stay registered.  The collection
is a list of devices, and nothing is assumed about their identifiers.
-/

/-! ## The registry -/

def registerOne (devices : List Device) (dev : Device) : List Device × Option GoString :=
  if devices.any (fun device => device.deviceId == dev.deviceId) then
    (devices, some (ascii "device " ++ dev.deviceId ++ ascii " already exist"))
  else (Collection.insert dev devices, none)

def bulkRegister (devices : List Device) : List Device -> List Device × Option GoString
  | [] => (devices, none)
  | dev :: rest =>
    match registerOne devices dev with
    | (stored, some reason) => (stored, some reason)
    | (stored, none) => bulkRegister stored rest

/-- The identifier of a device is in use. -/
def Taken (devices : List Device) (dev : Device) : Prop :=
  ∃ device ∈ devices, device.deviceId = dev.deviceId

instance (devices : List Device) (dev : Device) : Decidable (Taken devices dev) :=
  inferInstanceAs (Decidable (∃ device ∈ devices, device.deviceId = dev.deviceId))

section Registry

variable {devices listed rest : List Device} {dev : Device}

theorem any_eq_true_iff_taken :
    devices.any (fun device => device.deviceId == dev.deviceId) = true ↔ Taken devices dev := by
  simp only [List.any_eq_true, beq_iff_eq]
  rfl

theorem registerOne_of_taken (taken : Taken devices dev) :
    registerOne devices dev =
      (devices, some (ascii "device " ++ dev.deviceId ++ ascii " already exist")) :=
  if_pos (any_eq_true_iff_taken.mpr taken)

theorem registerOne_of_free (free : ¬ Taken devices dev) :
    registerOne devices dev = (devices ++ [dev], none) :=
  if_neg (fun found => free (any_eq_true_iff_taken.mp found))

theorem bulkRegister_of_taken (taken : Taken devices dev) :
    bulkRegister devices (dev :: rest) =
      (devices, some (ascii "device " ++ dev.deviceId ++ ascii " already exist")) := by
  rw [bulkRegister, registerOne_of_taken taken]

theorem bulkRegister_of_free (free : ¬ Taken devices dev) :
    bulkRegister devices (dev :: rest) = bulkRegister (devices ++ [dev]) rest := by
  rw [bulkRegister, registerOne_of_free free]

/-! ## What is registered -/

/-- The identifiers of the listed devices are new and differ from each other. -/
def Fresh (devices listed : List Device) : Prop :=
  (listed.map Device.deviceId).Nodup ∧ ∀ dev ∈ listed, ¬ Taken devices dev

theorem taken_snoc {first : Device} :
    Taken (devices ++ [first]) dev ↔ Taken devices dev ∨ first.deviceId = dev.deviceId := by
  simp only [Taken, List.mem_append, List.mem_singleton, or_and_right, exists_or, exists_eq_left]

theorem fresh_cons :
    Fresh devices (dev :: rest) ↔ ¬ Taken devices dev ∧ Fresh (devices ++ [dev]) rest := by
  simp only [Fresh, List.map_cons, List.nodup_cons, List.mem_map, List.forall_mem_cons, taken_snoc,
    not_or]
  constructor
  · rintro ⟨⟨alone, distinct⟩, free, later⟩
    exact ⟨free, distinct, fun other listed =>
      ⟨later other listed, fun same => alone ⟨other, listed, same.symm⟩⟩⟩
  · rintro ⟨free, distinct, later⟩
    refine ⟨⟨?_, distinct⟩, free, fun other listed => (later other listed).1⟩
    rintro ⟨other, listed, same⟩
    exact (later other listed).2 same.symm

theorem bulkRegister_of_fresh (fresh : Fresh devices listed) :
    bulkRegister devices listed = (devices ++ listed, none) := by
  induction listed generalizing devices with
  | nil => rw [bulkRegister, List.append_nil]
  | cons dev rest ih =>
    have parts := fresh_cons.mp fresh
    rw [bulkRegister_of_free parts.1, ih parts.2, List.append_assoc]
    rfl

theorem bulkRegister_refused (stale : ¬ Fresh devices listed) :
    (bulkRegister devices listed).2 ≠ none := by
  induction listed generalizing devices with
  | nil => exact absurd ⟨List.nodup_nil, fun _ listed => absurd listed List.not_mem_nil⟩ stale
  | cons dev rest ih =>
    by_cases taken : Taken devices dev
    · rw [bulkRegister_of_taken taken]
      exact Option.some_ne_none _
    · rw [bulkRegister_of_free taken]
      exact ih (fun fresh => stale (fresh_cons.mpr ⟨taken, fresh⟩))

theorem bulkRegister_keeps (devices listed : List Device) :
    devices <+: (bulkRegister devices listed).1 := by
  induction listed generalizing devices with
  | nil => exact List.prefix_rfl
  | cons dev rest ih =>
    by_cases taken : Taken devices dev
    · exact ⟨[], by rw [bulkRegister_of_taken taken, List.append_nil]⟩
    · rw [bulkRegister_of_free taken]
      exact (List.prefix_append devices [dev]).trans (ih (devices ++ [dev]))

theorem bulkRegister_unchanged_iff (devices listed : List Device) :
    (bulkRegister devices listed).1 = devices ↔ forall dev, listed.head? = some dev ->
      Taken devices dev := by
  cases listed with
  | nil => exact iff_of_true rfl (fun dev none => nomatch none)
  | cons dev rest =>
    rw [List.head?_cons]
    by_cases taken : Taken devices dev
    · rw [bulkRegister_of_taken taken]
      exact iff_of_true rfl (fun other same => Option.some.inj same ▸ taken)
    · rw [bulkRegister_of_free taken]
      refine iff_of_false ?_ (fun all => taken (all dev rfl))
      intro unchanged
      have grown := (bulkRegister_keeps (devices ++ [dev]) rest).length_le
      rw [unchanged, List.length_append, List.length_singleton] at grown
      omega

/-! ## All or nothing -/

/-- An error leaves the collection as it was.  Without an error each listed device
is stored once, and the collection has grown by the listed devices only. -/
structure AllOrNothing (devices listed : List Device) : Prop where
  failed : (bulkRegister devices listed).2 ≠ none -> (bulkRegister devices listed).1 = devices
  returned : (bulkRegister devices listed).2 = none ->
    (bulkRegister devices listed).1 = devices ++ listed ∧
      ∀ dev ∈ listed, (bulkRegister devices listed).1.countP
        (fun device => device.deviceId = dev.deviceId) = 1

theorem countP_of_fresh (fresh : Fresh devices listed) (member : dev ∈ listed) :
    (devices ++ listed).countP (fun device => device.deviceId = dev.deviceId) = 1 := by
  have before : devices.countP (fun device => device.deviceId = dev.deviceId) = 0 := by
    rw [List.countP_eq_zero]
    intro device stored same
    exact fresh.2 dev member ⟨device, stored, of_decide_eq_true same⟩
  have counted : (listed.map Device.deviceId).count dev.deviceId = 1 :=
    List.count_eq_one_of_mem fresh.1 (List.mem_map_of_mem member)
  rw [List.count, List.countP_map] at counted
  rw [List.countP_append, before, Nat.zero_add, ← counted]
  refine List.countP_congr (fun device _ => ?_)
  rw [decide_eq_true_eq, Function.comp_apply, beq_iff_eq]

/-- The call is all or nothing exactly if the first device is already refused or
all of them are new. -/
theorem bulk_allOrNothing_iff (devices listed : List Device) :
    AllOrNothing devices listed ↔
      (exists dev, listed.head? = some dev ∧ Taken devices dev) ∨ Fresh devices listed := by
  by_cases fresh : Fresh devices listed
  · refine iff_of_true ⟨?_, ?_⟩ (.inr fresh)
    · intro failed
      rw [bulkRegister_of_fresh fresh] at failed
      exact absurd rfl failed
    · intro _
      rw [bulkRegister_of_fresh fresh]
      exact ⟨rfl, fun dev member => countP_of_fresh fresh member⟩
  · have failed := bulkRegister_refused fresh
    rw [or_iff_left fresh]
    constructor
    · intro whole
      have same := (bulkRegister_unchanged_iff devices listed).mp (whole.failed failed)
      cases listed with
      | nil => exact absurd rfl failed
      | cons dev rest => exact ⟨dev, rfl, same dev rfl⟩
    · rintro ⟨dev, first, taken⟩
      refine ⟨fun _ => ?_, fun returned => absurd returned failed⟩
      rw [bulkRegister_unchanged_iff, first]
      exact fun other same => Option.some.inj same ▸ taken

/-- The second of two devices is refused, and the first stays. -/
theorem first_device_stays :
    bulkRegister [{ deviceId := ascii "b" }] [{ deviceId := ascii "a" }, { deviceId := ascii "b" }] =
        ([{ deviceId := ascii "b" }, { deviceId := ascii "a" }],
          some (ascii "device b already exist")) ∧
      ¬ AllOrNothing [{ deviceId := ascii "b" }]
        [{ deviceId := ascii "a" }, { deviceId := ascii "b" }] := by
  refine ⟨by decide, ?_⟩
  intro whole
  exact absurd (whole.failed (by decide)) (by decide)

end Registry

/-! ## The handler -/

structure BulkDeviceRegisterRequest where
  deviceName : GoString
  productId : GoString
  number : GoString

def BulkDeviceRegisterRequest.devices (req : BulkDeviceRegisterRequest) (n : Nat)
    (objectId : Nat -> GoString) (now : Nat -> Time) : List Device :=
  (List.range n).map (fun i =>
    { productId := req.productId
      deviceId := objectId (2 * i)
      deviceName := req.deviceName
      timeCreated := now i
      deviceSecret := objectId (2 * i + 1) })

def bulkRegisterDevices (devices : List Device) (ctx : RequestContext)
    (bound : Except GoString BulkDeviceRegisterRequest) (objectId : Nat -> GoString)
    (now : Nat -> Time) : Handled (List Device) :=
  match bound with
  | .error reason => turnDown devices (.badRequest reason)
  | .ok req =>
    if ctx.agrees "productId" req.productId then
      match atoi req.number with
      | none => turnDown devices invalidParameter
      | some n =>
        if n < 1 then turnDown devices invalidParameter
        else
          match bulkRegister devices (req.devices n.toNat objectId now) with
          | (stored, some reason) => ⟨.serverError reason, none, stored⟩
          | (stored, none) => ⟨.ok, none, stored⟩
    else turnDown devices invalidParameter

theorem bulkRegisterDevices_of_new {devices : List Device} {ctx : RequestContext}
    {req : BulkDeviceRegisterRequest} {n : Int} {objectId : Nat -> GoString} (now : Nat -> Time)
    (agrees : ctx.agrees "productId" req.productId) (number : atoi req.number = some n)
    (positive : 1 ≤ n) (differ : Function.Injective objectId)
    (unused : forall i, ∀ device ∈ devices, device.deviceId ≠ objectId i) :
    bulkRegisterDevices devices ctx (.ok req) objectId now =
      ⟨.ok, none, devices ++ req.devices n.toNat objectId now⟩ := by
  have fresh : Fresh devices (req.devices n.toNat objectId now) := by
    constructor
    · rw [BulkDeviceRegisterRequest.devices, List.map_map]
      refine List.nodup_range.map ?_
      intro i j same
      have := differ same
      omega
    · intro dev made
      rcases List.mem_map.mp made with ⟨i, _, rfl⟩
      rintro ⟨device, stored, same⟩
      exact unused (2 * i) device stored same
  rw [bulkRegisterDevices, if_pos agrees, number]
  dsimp only
  rw [if_neg (by omega), bulkRegister_of_fresh fresh]

end ApiServer
end Sentel
