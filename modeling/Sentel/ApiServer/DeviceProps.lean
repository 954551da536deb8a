import Mathlib.Data.Countable.Basic
import Mathlib.Data.Finmap
import Mathlib.Logic.Equiv.List
import Sentel.ApiServer.DeviceUpdates

namespace Sentel
namespace ApiServer

open Library Registry

/-!
# Properties of devices that share a name

The properties of a device are a map from strings to strings, stored as a JSON
text.  `SaveDevicePropsByName` collects the properties of all devices with the
name in one map, which is never cleared between two devices.  The text of that
map is assigned to the variable of the loop, which is a copy of the device, and
the slice that was read is written back.  The requests are therefore accepted
and have no effect.
-/

/-- A `map[string]string`. -/
abbrev Props := Finmap (fun _ : GoString => GoString)

/-- The JSON texts of such maps.  No map is encoded as the empty text, and
decoding undoes encoding. -/
structure PropsCodec where
  encode : Props -> GoString
  decode : GoString -> Except GoString Props
  encode_ne_nil : forall props, encode props ≠ []
  decode_encode : forall props, decode (encode props) = .ok props

theorem propsCodec_nonempty : Nonempty PropsCodec := by
  classical
  have bytes : Countable UInt8 := ⟨UInt8.toNat, fun _ _ same => UInt8.toNat_inj.mp same⟩
  have countable : Countable Props := by
    have injective : Function.Injective (fun props : Props => props.entries) :=
      fun _ _ same => Finmap.ext same
    exact injective.countable
  rcases countable with ⟨number, injective⟩
  refine ⟨{
    encode := fun props => List.replicate (number props + 1) 0
    decode := fun text =>
      if coded : exists props, List.replicate (number props + 1) 0 = text then .ok coded.choose
      else .error []
    encode_ne_nil := ?_
    decode_encode := ?_ }⟩
  · intro props
    exact List.cons_ne_nil _ _
  · intro props
    have coded : exists other, List.replicate (number other + 1) (0 : UInt8) =
        List.replicate (number props + 1) 0 := ⟨props, rfl⟩
    rw [dif_pos coded]
    have same := congrArg List.length coded.choose_spec
    rw [List.length_replicate, List.length_replicate] at same
    exact congrArg Except.ok (injective (Nat.succ.inj same))

/-- The properties that a device has. -/
def storedProps (codec : PropsCodec) (device : Device) : Except GoString Props :=
  if device.props = [] then .ok ∅ else codec.decode device.props

/-- The properties of a list of maps written over some properties, in order. -/
def overrideAll (maps : List Props) (props : Props) : Props :=
  maps.foldl (fun props map => map ∪ props) props

structure DevicePropsRequest where
  deviceName : GoString
  productId : GoString
  deviceId : GoString
  props : List Props

/-- The loop of `SaveDevicePropsByName` over the devices, with the map that it
fills.  The text of the map is assigned to a copy of the device and dropped. -/
def collectProps (codec : PropsCodec) (maps : List Props) :
    List Device -> Props -> Except GoString Props
  | [], dstprops => .ok dstprops
  | device :: rest, dstprops =>
    match storedProps codec device with
    | .error reason => .error reason
    | .ok mapprops => collectProps codec maps rest (overrideAll maps (mapprops ∪ dstprops))

def saveDevicePropsByName (codec : PropsCodec) (store : DeviceStore) (ctx : RequestContext)
    (bound : Except GoString DevicePropsRequest) : Handled DeviceStore :=
  match bound with
  | .error reason => turnDown store (.badRequest reason)
  | .ok req =>
    if ctx.agrees "productId" req.productId ∧ ctx.agrees "deviceName" req.deviceName then
      let devices := store.getDevicesByName req.productId req.deviceName
      match collectProps codec req.props devices ∅ with
      | .error reason => turnDown store (.serverError reason)
      | .ok _ => ⟨.ok, none, store.bulkUpdateDevice devices⟩
    else turnDown store invalidParameter

/-- `RemoveDevicePropsByName`.  The properties of a copy are cleared. -/
def removeDevicePropsByName (store : DeviceStore) (ctx : RequestContext) : Handled DeviceStore :=
  let deviceName := ctx.param (ascii "deviceName")
  let productId := ctx.param (ascii "productId")
  if productId = [] ∨ deviceName = [] then turnDown store invalidParameter
  else ⟨.ok, none, store.bulkUpdateDevice (store.getDevicesByName productId deviceName)⟩

/-! ## What the requests are meant to do -/

def SameButProps (before after : Device) : Prop :=
  { after with props := before.props } = before

def GetsProps (codec : PropsCodec) (productId deviceName : GoString)
    (become : Except GoString Props -> Except GoString Props) (before after : Device) : Prop :=
  if deviceByName productId deviceName before then
    SameButProps before after ∧ storedProps codec after = become (storedProps codec before)
  else after = before

/-- An accepted request to save properties gives every device of the name its
own previous properties with those of the request written over them. -/
def SavesProps (codec : PropsCodec) (store : DeviceStore) (ctx : RequestContext)
    (req : DevicePropsRequest) : Prop :=
  (saveDevicePropsByName codec store ctx (.ok req)).response = .ok ->
    List.Forall₂ (GetsProps codec req.productId req.deviceName (Except.map (overrideAll req.props)))
      store.devices (saveDevicePropsByName codec store ctx (.ok req)).documents.devices

/-- An accepted request to remove properties leaves every device of the name
without properties. -/
def RemovesProps (codec : PropsCodec) (store : DeviceStore) (ctx : RequestContext) : Prop :=
  (removeDevicePropsByName store ctx).response = .ok ->
    List.Forall₂ (GetsProps codec (ctx.param (ascii "productId")) (ctx.param (ascii "deviceName"))
        (fun _ => .ok ∅))
      store.devices (removeDevicePropsByName store ctx).documents.devices

/-! ## What they do -/

theorem bulkUpdate_getDevicesByName (store : DeviceStore) (productId deviceName : GoString) :
    store.bulkUpdateDevice (store.getDevicesByName productId deviceName) = store :=
  DeviceStore.bulkUpdateDevice_self
    (fun _ member => (DeviceStore.mem_getDevicesByName.mp member).1)

theorem saveDevicePropsByName_documents (codec : PropsCodec) (store : DeviceStore)
    (ctx : RequestContext) (bound : Except GoString DevicePropsRequest) :
    (saveDevicePropsByName codec store ctx bound).documents = store := by
  unfold saveDevicePropsByName
  cases bound with
  | error reason => rfl
  | ok req =>
    by_cases agrees : ctx.agrees "productId" req.productId ∧
        ctx.agrees "deviceName" req.deviceName
    · simp only [if_pos agrees]
      cases collectProps codec req.props
          (store.getDevicesByName req.productId req.deviceName) ∅ with
      | error reason => rfl
      | ok dstprops => exact bulkUpdate_getDevicesByName store req.productId req.deviceName
    · simp only [if_neg agrees]
      rfl

theorem removeDevicePropsByName_documents (store : DeviceStore) (ctx : RequestContext) :
    (removeDevicePropsByName store ctx).documents = store := by
  unfold removeDevicePropsByName
  by_cases missing : ctx.param (ascii "productId") = [] ∨ ctx.param (ascii "deviceName") = []
  · simp only [if_pos missing]
    rfl
  · simp only [if_neg missing]
    exact bulkUpdate_getDevicesByName store _ _

theorem getsProps_unchanged_iff {codec : PropsCodec} {productId deviceName : GoString}
    {become : Except GoString Props -> Except GoString Props} (devices : List Device) :
    List.Forall₂ (GetsProps codec productId deviceName become) devices devices ↔
      forall device, device ∈ devices -> device.productId = productId ->
        device.deviceName = deviceName ->
          storedProps codec device = become (storedProps codec device) := by
  rw [List.forall₂_same]
  refine forall_congr' (fun device => imp_congr_right (fun _ => ?_))
  unfold GetsProps
  by_cases named : deviceByName productId deviceName device = true
  · rw [if_pos named]
    rcases deviceByName_iff.mp named with ⟨product, name⟩
    constructor
    · rintro ⟨_, same⟩ _ _
      exact same
    · intro same
      exact ⟨rfl, same product name⟩
  · rw [if_neg named]
    refine iff_of_true rfl (fun product name => ?_)
    exact absurd (deviceByName_iff.mpr ⟨product, name⟩) named

/-- Properties are saved as they should be exactly when every device of the name
has those of the request already, and removed exactly when none of them has any. -/
theorem props_by_name_iff (codec : PropsCodec) (store : DeviceStore) (ctx : RequestContext)
    (req : DevicePropsRequest) :
    (SavesProps codec store ctx req ↔
      ((saveDevicePropsByName codec store ctx (.ok req)).response = .ok ->
        forall device, device ∈ store.devices -> device.productId = req.productId ->
          device.deviceName = req.deviceName ->
            storedProps codec device =
              (storedProps codec device).map (overrideAll req.props))) ∧
    (RemovesProps codec store ctx ↔
      ((removeDevicePropsByName store ctx).response = .ok ->
        forall device, device ∈ store.devices ->
          device.productId = ctx.param (ascii "productId") ->
          device.deviceName = ctx.param (ascii "deviceName") ->
            storedProps codec device = .ok ∅)) := by
  constructor
  · refine imp_congr_right (fun _ => ?_)
    rw [saveDevicePropsByName_documents]
    exact getsProps_unchanged_iff store.devices
  · refine imp_congr_right (fun _ => ?_)
    rw [removeDevicePropsByName_documents]
    exact getsProps_unchanged_iff store.devices

def nameRoute : RequestContext where
  method := ascii "POST"
  path := []
  param := fun name => if name = ascii "productId" then ascii "p" else ascii "n"
  values := fun _ => none

def propertylessStore : DeviceStore where
  devices := [{ productId := ascii "p", deviceId := ascii "d", deviceName := ascii "n" }]
  distinct := List.nodup_singleton _

/-- A property that is saved for a device without properties is lost, with any
encoding. -/
theorem saved_property_lost :
    Nonempty PropsCodec ∧ forall codec : PropsCodec,
      ¬ SavesProps codec propertylessStore nameRoute
        { deviceName := ascii "n", productId := ascii "p", deviceId := [],
          props := [Finmap.singleton (ascii "k") (ascii "v")] } := by
  refine ⟨propsCodec_nonempty, fun codec saves => ?_⟩
  have kept := saves rfl
  rw [saveDevicePropsByName_documents] at kept
  cases kept with
  | cons first _ =>
    have same := first.2
    have none := congrArg (fun answer => answer.toOption.map (Finmap.lookup (ascii "k"))) same
    revert none
    simp [storedProps, overrideAll, Except.map, Except.toOption]

end ApiServer
end Sentel
