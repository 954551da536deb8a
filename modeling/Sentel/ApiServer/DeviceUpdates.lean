import Sentel.ApiServer.Console
import Sentel.Registry.Devices

namespace Sentel
namespace ApiServer

open Library Registry Collection

/-!
# Updates of devices and products

`UpdateDevice` and `UpdateProduct` fill a new record with the fields of the
request and replace the stored document by it.  A field that the request does
not carry is thereby reset to its zero value.  The secret with which a device
authenticates and the tenant that lists a product are such fields.
-/

structure Handled (Documents : Type) where
  response : Response
  posted : Option Kafka.Message
  documents : Documents

/-- A request that is answered without any effect. -/
def turnDown {Documents : Type} (documents : Documents) (response : Response) :
    Handled Documents :=
  ⟨response, none, documents⟩

def invalidParameter : Response := .badRequest (ascii "invalid parameter")

/-- An identifier of the body is given and agrees with that of the route. -/
def RequestContext.agrees (ctx : RequestContext) (name : String) (value : GoString) : Prop :=
  value ≠ [] ∧ value = ctx.param (ascii name)

instance (ctx : RequestContext) (name : String) (value : GoString) :
    Decidable (ctx.agrees name value) :=
  inferInstanceAs (Decidable (_ ∧ _))

/-! ## Updating a device -/

structure DeviceRequest where
  deviceName : GoString
  productId : GoString
  deviceId : GoString

/-- The record that `UpdateDevice` fills. -/
def DeviceRequest.device (req : DeviceRequest) (now : Time) : Device where
  productId := req.productId
  deviceId := req.deviceId
  deviceName := req.deviceName
  timeUpdated := now

def updateDevice (store : DeviceStore) (ctx : RequestContext)
    (bound : Except GoString DeviceRequest) (now : Time) : Handled DeviceStore :=
  match bound with
  | .error reason => turnDown store (.badRequest reason)
  | .ok req =>
    if ctx.agrees "productId" req.productId ∧ ctx.agrees "deviceId" req.deviceId then
      match store.updateDevice (req.device now) with
      | .error reason => turnDown store (.serverError reason)
      | .ok stored => ⟨.ok, none, stored⟩
    else turnDown store invalidParameter

def DeviceRequest.edit (req : DeviceRequest) (now : Time) (device : Device) : Device :=
  { device with deviceName := req.deviceName, timeUpdated := now }

/-- An accepted update of a device changes the name and the time of the update
only, so that the device keeps its secret. -/
def DeviceUpdateKeeps (store : DeviceStore) (ctx : RequestContext) (req : DeviceRequest)
    (now : Time) : Prop :=
  (updateDevice store ctx (.ok req) now).response = .ok ->
    (updateDevice store ctx (.ok req) now).documents.devices =
        revise (deviceById req.productId req.deviceId) (req.edit now) store.devices ∧
      forall device, store.getDevice req.productId req.deviceId = .ok device ->
        ((updateDevice store ctx (.ok req) now).documents.getDevice req.productId
          req.deviceId).map Device.deviceSecret = .ok device.deviceSecret

/-- The fields that the update of a device resets have their zero values. -/
def BareDevice (device : Device) : Prop :=
  device.deviceStatus = [] ∧ device.deviceSecret = [] ∧ device.props = [] ∧ device.timeCreated = 0

theorem edit_eq_device_iff {req : DeviceRequest} {now : Time} {device : Device}
    (found : deviceById req.productId req.deviceId device = true) :
    req.device now = req.edit now device ↔ BareDevice device := by
  rcases deviceById_iff.mp found with ⟨product, identifier⟩
  cases device
  subst product identifier
  simp [DeviceRequest.device, DeviceRequest.edit, BareDevice, eq_comm]

theorem updateDevice_accepted {store : DeviceStore} {ctx : RequestContext} {req : DeviceRequest}
    {now : Time} (accepted : (updateDevice store ctx (.ok req) now).response = .ok) :
    (exists device, findOne (deviceById req.productId req.deviceId) store.devices =
      some device) ∧
    (updateDevice store ctx (.ok req) now).documents = store.replace (req.device now) := by
  unfold updateDevice at accepted ⊢
  by_cases agrees : ctx.agrees "productId" req.productId ∧ ctx.agrees "deviceId" req.deviceId
  · simp only [if_pos agrees] at accepted ⊢
    unfold DeviceStore.updateDevice at accepted ⊢
    change _ = Response.ok at accepted
    cases found : findOne (deviceById req.productId req.deviceId) store.devices with
    | none =>
      simp only [DeviceRequest.device, found] at accepted
      cases accepted
    | some device =>
      simp only [DeviceRequest.device, found]
      exact ⟨⟨device, rfl⟩, trivial⟩
  · simp only [if_neg agrees] at accepted
    cases accepted

theorem deviceUpdateKeeps_iff (store : DeviceStore) (ctx : RequestContext) (req : DeviceRequest)
    (now : Time) :
    DeviceUpdateKeeps store ctx req now ↔
      ((updateDevice store ctx (.ok req) now).response = .ok ->
        forall device, store.getDevice req.productId req.deviceId = .ok device ->
          BareDevice device) := by
  refine imp_congr_right (fun accepted => ?_)
  rcases updateDevice_accepted accepted with ⟨⟨stored, found⟩, documents⟩
  have passes := List.find?_some found
  have taken := DeviceStore.getDevice_of_found found
  have after : (store.replace (req.device now)).getDevice req.productId req.deviceId =
      .ok (req.device now) := by
    have named : deviceById req.productId req.deviceId (req.device now) = true :=
      deviceById_iff.mpr ⟨rfl, rfl⟩
    have next := findOne_update named store.devices
    rw [found] at next
    exact DeviceStore.getDevice_of_found next
  have replaced : (store.replace (req.device now)).devices =
        revise (deviceById req.productId req.deviceId) (req.edit now) store.devices ↔
      BareDevice stored := by
    refine (update_eq_revise_iff (req.device now)).trans ?_
    change (forall old, findOne (deviceById req.productId req.deviceId)
      store.devices = some old -> _) ↔ _
    rw [found, ← edit_eq_device_iff passes]
    exact ⟨fun edited => edited stored rfl, fun edited old same => Option.some.inj same ▸ edited⟩
  rw [documents, replaced, after, taken]
  constructor
  · rintro ⟨bare, _⟩ device same
    rw [← Except.ok.inj same]
    exact bare
  · intro bare
    refine ⟨bare stored rfl, fun device same => ?_⟩
    rw [← Except.ok.inj same, (bare stored rfl).2.1]
    rfl

/-! ## Updating a product -/

structure ProductUpdateRequest where
  productId : GoString
  productName : GoString
  category : GoString
  description : GoString

def ProductUpdateRequest.product (req : ProductUpdateRequest) (now : Time) : ProductDocument where
  tenantId := []
  productId := req.productId
  topicFlavor := []
  productName := req.productName
  description := req.description
  category := req.category
  timeUpdated := now

def updateProduct (products : List ProductDocument) (ctx : RequestContext)
    (bound : Except GoString ProductUpdateRequest) (now : Time) :
    Handled (List ProductDocument) :=
  match bound with
  | .error reason => turnDown products (.badRequest reason)
  | .ok req =>
    if ctx.agrees "productId" req.productId then
      match Registry.updateProduct products (req.product now) with
      | .error reason => turnDown products (.serverError reason)
      | .ok stored => ⟨.ok, some (productNotice req.productId Kafka.actionUpdate), stored⟩
    else turnDown products invalidParameter

def ProductUpdateRequest.edit (req : ProductUpdateRequest) (now : Time)
    (product : ProductDocument) : ProductDocument :=
  { product with
    productName := req.productName
    description := req.description
    category := req.category
    timeUpdated := now }

/-- An accepted update of a product changes the name, the description, the
category and the time of the update only, so that the product stays in the list
of its tenant. -/
def ProductUpdateKeeps (products : List ProductDocument) (topicFlavors : List TopicFlavor)
    (ctx : RequestContext) (req : ProductUpdateRequest) (now : Time) : Prop :=
  (updateProduct products ctx (.ok req) now).response = .ok ->
    (updateProduct products ctx (.ok req) now).documents =
        revise (productById req.productId) (req.edit now) products ∧
      forall product, findOne (productById req.productId) products = some product ->
        ∃ listed ∈ (ofDocuments (updateProduct products ctx (.ok req) now).documents
          topicFlavors).getProducts product.tenantId, listed.productId = req.productId

/-- The fields that the update of a product resets have their zero values. -/
def BareProduct (product : ProductDocument) : Prop :=
  product.tenantId = [] ∧ product.topicFlavor = [] ∧ product.timeCreated = 0

theorem edit_eq_product_iff {req : ProductUpdateRequest} {now : Time} {product : ProductDocument}
    (found : productById req.productId product = true) :
    req.product now = req.edit now product ↔ BareProduct product := by
  have identifier : product.productId = req.productId := beq_iff_eq.mp found
  rcases product with ⟨⟨tenant, id, flavor⟩, name, description, category, created, updated⟩
  subst identifier
  simp [ProductUpdateRequest.product, ProductUpdateRequest.edit, BareProduct, eq_comm, and_assoc]

theorem updateProduct_accepted {products : List ProductDocument} {ctx : RequestContext}
    {req : ProductUpdateRequest} {now : Time}
    (accepted : (updateProduct products ctx (.ok req) now).response = .ok) :
    (exists product, findOne (productById req.productId) products = some product) ∧
    (updateProduct products ctx (.ok req) now).documents =
      update (productById req.productId) (req.product now) products := by
  unfold updateProduct at accepted ⊢
  by_cases agrees : ctx.agrees "productId" req.productId
  · simp only [if_pos agrees] at accepted ⊢
    unfold Registry.updateProduct at accepted ⊢
    cases found : findOne (productById req.productId) products with
    | none =>
      simp only [ProductUpdateRequest.product, found] at accepted
      cases accepted
    | some product =>
      simp only [ProductUpdateRequest.product, found]
      exact ⟨⟨product, rfl⟩, trivial⟩
  · simp only [if_neg agrees] at accepted
    cases accepted

theorem productUpdateKeeps_iff (products : List ProductDocument) (topicFlavors : List TopicFlavor)
    (ctx : RequestContext) (req : ProductUpdateRequest) (now : Time) :
    ProductUpdateKeeps products topicFlavors ctx req now ↔
      ((updateProduct products ctx (.ok req) now).response = .ok ->
        forall product, findOne (productById req.productId) products = some product ->
          BareProduct product) := by
  refine imp_congr_right (fun accepted => ?_)
  rcases updateProduct_accepted accepted with ⟨⟨stored, found⟩, documents⟩
  have passes := List.find?_some found
  rw [documents, update_eq_revise_iff, found]
  constructor
  · rintro ⟨edited, _⟩ product same
    rw [← Option.some.inj same]
    exact (edit_eq_product_iff passes).mp (edited stored rfl)
  · intro bare
    have kept := bare stored rfl
    refine ⟨fun old same => ?_, fun product same => ?_⟩
    · rw [← Option.some.inj same]
      exact (edit_eq_product_iff passes).mpr kept
    · rw [← Option.some.inj same, kept.1]
      refine ⟨(req.product now).toProduct, mem_getProducts.mpr ⟨?_, rfl⟩, rfl⟩
      refine List.mem_map_of_mem (List.mem_of_find?_eq_some (p := productById req.productId) ?_)
      have named : productById req.productId (req.product now) = true := beq_self_eq_true _
      have next := findOne_update named products
      rw [found] at next
      exact next

/-- Updates keep the rest of the documents exactly when there is nothing to
lose: the device that is updated has no status, no secret, no properties and no
time of creation, and the product that is updated has no tenant, no topic
flavor and no time of creation. -/
theorem updates_keep_rest_iff (store : DeviceStore) (products : List ProductDocument)
    (topicFlavors : List TopicFlavor) (ctx : RequestContext) (deviceReq : DeviceRequest)
    (productReq : ProductUpdateRequest) (now : Time) :
    (DeviceUpdateKeeps store ctx deviceReq now ↔
      ((updateDevice store ctx (.ok deviceReq) now).response = .ok ->
        forall device, store.getDevice deviceReq.productId deviceReq.deviceId = .ok device ->
          BareDevice device)) ∧
    (ProductUpdateKeeps products topicFlavors ctx productReq now ↔
      ((updateProduct products ctx (.ok productReq) now).response = .ok ->
        forall product,
          findOne (productById productReq.productId) products = some product ->
          BareProduct product)) :=
  ⟨deviceUpdateKeeps_iff store ctx deviceReq now,
    productUpdateKeeps_iff products topicFlavors ctx productReq now⟩

def deviceRoute : RequestContext where
  method := ascii "PUT"
  path := []
  param := fun name => if name = ascii "productId" then ascii "p" else ascii "d"
  values := fun _ => none

def secretStore : DeviceStore where
  devices := [{ productId := ascii "p", deviceId := ascii "d", deviceName := ascii "n",
                deviceSecret := ascii "s" }]
  distinct := List.nodup_singleton _

/-- Giving a device a new name clears its secret. -/
theorem renamed_device_loses_secret :
    ¬ DeviceUpdateKeeps secretStore deviceRoute
      { deviceName := ascii "m", productId := ascii "p", deviceId := ascii "d" } 1 := by
  intro keeps
  have secret := (keeps (by decide)).2 _ rfl
  revert secret
  decide

end ApiServer
end Sentel
