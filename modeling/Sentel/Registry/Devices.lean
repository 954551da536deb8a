import Sentel.Library.Collection
import Sentel.Registry.Registry

namespace Sentel
namespace Registry

open Library

/-!
# Devices and product documents

The registry keeps one document for each device and one for each product.  A
new device is refused if its identifier is taken, and a document is replaced
under the identifiers it already has, so the identifiers of the devices are
distinct.  The store of devices carries that fact.

`Update` replaces the whole document that it finds first.  A name is not
unique: several devices of a product may share it, and a query by name takes
the first of them or all of them.
-/

/-- `time.Time`, counted from its zero value. -/
abbrev Time := Int

/-- `registry.Device` -/
structure Device where
  productId : GoString := []
  deviceId : GoString := []
  deviceName : GoString := []
  deviceStatus : GoString := []
  deviceSecret : GoString := []
  props : GoString := []
  timeCreated : Time := 0
  timeUpdated : Time := 0
  deriving DecidableEq

/-- `registry.Product` with the fields that the broker does not read. -/
structure ProductDocument extends Product where
  productName : GoString := []
  description : GoString := []
  category : GoString := []
  timeCreated : Time := 0
  timeUpdated : Time := 0
  deriving DecidableEq

def deviceById (productId deviceId : GoString) (device : Device) : Bool :=
  device.productId == productId && device.deviceId == deviceId

def deviceByName (productId deviceName : GoString) (device : Device) : Bool :=
  device.productId == productId && device.deviceName == deviceName

theorem deviceById_iff {productId deviceId : GoString} {device : Device} :
    deviceById productId deviceId device = true ↔
      device.productId = productId ∧ device.deviceId = deviceId := by
  simp [deviceById]

theorem deviceByName_iff {productId deviceName : GoString} {device : Device} :
    deviceByName productId deviceName device = true ↔
      device.productId = productId ∧ device.deviceName = deviceName := by
  simp [deviceByName]

/-! ## The store of devices -/

/-- The documents of the devices, with distinct identifiers. -/
structure DeviceStore where
  devices : List Device
  distinct : (devices.map Device.deviceId).Nodup

namespace DeviceStore

def empty : DeviceStore := ⟨[], List.nodup_nil⟩

theorem ext_devices {first second : DeviceStore} (same : first.devices = second.devices) :
    first = second := by
  cases first
  cases second
  cases same
  rfl

theorem unique_byId (store : DeviceStore) (productId deviceId : GoString) :
    Collection.Unique (deviceById productId deviceId) store.devices := by
  refine (List.pairwise_map.mp store.distinct).imp ?_
  intro first second different both
  apply different
  rw [(deviceById_iff.mp both.1).2, (deviceById_iff.mp both.2).2]

def registerDevice (store : DeviceStore) (dev : Device) : Except GoString DeviceStore :=
  if taken : ∃ device ∈ store.devices, device.deviceId = dev.deviceId then
    .error (ascii "device " ++ dev.deviceId ++ ascii " already exist")
  else .ok ⟨Collection.insert dev store.devices, by
    rw [Collection.insert, List.map_append]
    refine List.nodup_append.mpr ⟨store.distinct, List.nodup_singleton _, ?_⟩
    intro id member other single same
    rcases List.mem_map.mp member with ⟨device, stored, rfl⟩
    rw [List.map_singleton, List.mem_singleton] at single
    exact taken ⟨device, stored, same.trans single⟩⟩

def getDevice (store : DeviceStore) (productId deviceId : GoString) : Except GoString Device :=
  match Collection.findOne (deviceById productId deviceId) store.devices with
  | none => .error notFound
  | some device => .ok device

def getDeviceByName (store : DeviceStore) (productId deviceName : GoString) :
    Except GoString Device :=
  match Collection.findOne (deviceByName productId deviceName) store.devices with
  | none => .error notFound
  | some device => .ok device

def getDevicesByName (store : DeviceStore) (productId deviceName : GoString) : List Device :=
  Collection.findAll (deviceByName productId deviceName) store.devices

variable {store : DeviceStore} {device : Device}

theorem getDevice_of_found {productId deviceId : GoString}
    (found : Collection.findOne (deviceById productId deviceId) store.devices = some device) :
    store.getDevice productId deviceId = .ok device := by
  rw [getDevice, found]

def deleteDevice (store : DeviceStore) (productId deviceId : GoString) :
    Except GoString DeviceStore :=
  match Collection.findOne (deviceById productId deviceId) store.devices with
  | none => .error notFound
  | some _ => .ok ⟨Collection.remove (deviceById productId deviceId) store.devices,
      (List.eraseP_sublist.map Device.deviceId).nodup store.distinct⟩

def replace (store : DeviceStore) (dev : Device) : DeviceStore where
  devices := Collection.update (deviceById dev.productId dev.deviceId) dev store.devices
  distinct := by
    rw [Collection.map_update (fun old found => (deviceById_iff.mp found).2)]
    exact store.distinct

def updateDevice (store : DeviceStore) (dev : Device) : Except GoString DeviceStore :=
  match Collection.findOne (deviceById dev.productId dev.deviceId) store.devices with
  | none => .error notFound
  | some _ => .ok (store.replace dev)

/-- `BulkUpdateDevice`.  The errors of the single updates are dropped. -/
def bulkUpdateDevice (store : DeviceStore) (devices : List Device) : DeviceStore :=
  devices.foldl replace store

theorem replace_self (stored : device ∈ store.devices) : store.replace device = store := by
  apply ext_devices
  exact Collection.update_self (Collection.findOne_of_mem (store.unique_byId _ _) stored
    (deviceById_iff.mpr ⟨rfl, rfl⟩))

theorem bulkUpdateDevice_self {devices : List Device}
    (stored : forall device, device ∈ devices -> device ∈ store.devices) :
    store.bulkUpdateDevice devices = store := by
  induction devices with
  | nil => rfl
  | cons device rest ih =>
    change (store.replace device).bulkUpdateDevice rest = store
    rw [replace_self (stored device List.mem_cons_self)]
    exact ih (fun other member => stored other (List.mem_cons_of_mem _ member))

theorem mem_getDevicesByName {productId deviceName : GoString} :
    device ∈ store.getDevicesByName productId deviceName ↔
      device ∈ store.devices ∧ device.productId = productId ∧ device.deviceName = deviceName := by
  rw [getDevicesByName, Collection.findAll, List.mem_filter, deviceByName_iff]

end DeviceStore

/-! ## The collection of products -/

/-- The query for a product by its identifier. -/
def productById (productId : GoString) (product : ProductDocument) : Bool :=
  product.productId == productId

def updateProduct (products : List ProductDocument) (p : ProductDocument) :
    Except GoString (List ProductDocument) :=
  match Collection.findOne (productById p.productId) products with
  | none => .error notFound
  | some _ => .ok (Collection.update (productById p.productId) p products)

def ofDocuments (products : List ProductDocument) (topicFlavors : List TopicFlavor) : Registry where
  products := products.map ProductDocument.toProduct
  topicFlavors := topicFlavors

end Registry
end Sentel
