import Sentel.Kafka.Message
import Sentel.Registry.Registry
import Sentel.Shiro.SecurityManager

namespace Sentel
namespace ApiServer

open Library Registry Shiro

/-!
# The console service

The console answers the requests of tenants.  `RegisterTenant` and
`CreateProduct` store what they create in the registry and give the tenant a
permission in the security manager.  Before a handler of the console runs, the
request is translated into a resource and an action, which the security manager
has to authorize: the resource is rebuilt from the template that the policies
give for the route.
-/

structure ResourceAC where
  path : GoString
  resource : GoString
  deriving DecidableEq

def consoleApi (path resource : String) : ResourceAC where
  path := ascii ("/iot/api/v1/console" ++ path)
  resource := ascii resource

def consoleApiPolicies : List ResourceAC :=
  [consoleApi "/products" "/products",
   consoleApi "/products/:productId" "/products/:productId",
   consoleApi "/products" "/products",
   consoleApi "/products" "/products",
   consoleApi "/products/:productId" "/products/:productId",
   consoleApi "/products/:productId/devices" "/products/:productId",
   consoleApi "/products/:productId/rules" "/products/:productId/rules",
   consoleApi "/products/:productId/devices/statics" "/products/:productId",
   consoleApi "/products/:productId/devices" "/products/:productId",
   consoleApi "/products/:productId/devices/:deviceId" "/products/:productId",
   consoleApi "/products/:productId/devicds/:deviceId" "/products/:productId",
   consoleApi "/products/:productId/devices" "/products/:productId",
   consoleApi "/products/:productId/devices/bulk" "/products/:productId",
   consoleApi "/products/:productId/devices/:deviceId/shadow" "/products/:productId",
   consoleApi "/products/:productId/devices/:deviceId/shadow" "/products/:productId",
   consoleApi "/products/:productId/rules" "/products/:productId",
   consoleApi "/products/:productId/rules/:ruleName" "/products/:productId",
   consoleApi "/products/:productId/rules" "/products/:productId",
   consoleApi "/products/:productId/rules/:ruleName?action=stop" "/products/:productId",
   consoleApi "/products/:productId/rules/:ruleName" "/products/:productId",
   consoleApi "/topicflavors" "/topicflavors",
   consoleApi "/topicflavors/products/:productId" "/products/:productId",
   consoleApi "/topicflavors/products/:productId" "/products/:productId",
   consoleApi "/topicflavors/tenants/:tenantId" "/topicflavors",
   consoleApi "/topicflavors/builtin" "/topicflavors",
   consoleApi "/topicflavors/:productId?flavor=:topicflavor" "/products/:productId",
   consoleApi "/products/:productId/devices/:device/message" "/products/:productId",
   consoleApi "/products/:productId/message?scope=broadcast" "/products/:productId",
   consoleApi "/service" "/services"]

/-- The map that `New` fills.  A later policy for a path replaces an earlier
one. -/
def resourceMaps : AList (fun _ : GoString => GoString) :=
  consoleApiPolicies.foldl (fun maps res => maps.insert res.path res.resource) ∅

/-! ## The requested resource -/

/-- What the handlers read of an `echo.Context`: `Path` and `Param` of the
matched route, and the strings stored with `Set`. -/
structure RequestContext where
  method : GoString
  path : GoString
  param : GoString -> GoString
  values : GoString -> Option GoString

def methodGet : GoString := ascii "GET"

def appendItem (ctx : RequestContext) (resource item : GoString) : Option GoString :=
  match item with
  | 0x24 :: name => (ctx.values name).map (fun val => resource ++ val ++ ascii "/")
  | 0x3A :: name => some (resource ++ ctx.param name ++ ascii "/")
  | _ => some resource

def getRequestInfo (ctx : RequestContext) (resourceMaps : AList (fun _ : GoString => GoString)) :
    Option (GoString × GoString) :=
  let action := if ctx.method = methodGet then actionRead else actionWrite
  match resourceMaps.lookup ctx.path with
  | some resourceName =>
    ((split 0x2F resourceName).foldlM (appendItem ctx) (ascii "/")).map
      (fun resource => (resource, action))
  | none => some ([], action)

/-! ## The handlers -/

/-- A tenant of the registry. -/
structure Tenant where
  tenantId : GoString
  deriving DecidableEq

structure Console where
  tenants : List Tenant
  registry : Registry
  securityMgr : SecurityManager

def newConsole : Console where
  tenants := []
  registry := { products := [], topicFlavors := [] }
  securityMgr := newSecurityManager (.ofList [])

inductive Response
  | ok
  | badRequest (message : GoString)
  | serverError (message : GoString)
  deriving DecidableEq

structure Served where
  response : Response
  posted : Option Kafka.Message
  console : Console

def tenantNotice (tenantId action : GoString) : Kafka.Message :=
  .tenant { topicName := Kafka.topicNameTenant, tenantId := tenantId, action := action }

def productNotice (productId action : GoString) : Kafka.Message :=
  .product { topicName := Kafka.topicNameProduct, productId := productId, action := action }

namespace Console

def refuse (console : Console) (response : Response) : Served :=
  ⟨response, none, console⟩

def storeTenant (console : Console) (tenantId : GoString) (insert : Except GoString Unit) :
    Except GoString Console :=
  if console.tenants.any (fun tenant => tenant.tenantId == tenantId) then
    .error (ascii "Tenant " ++ tenantId ++ ascii " already exist")
  else insert.map (fun _ => { console with tenants := console.tenants ++ [⟨tenantId⟩] })

def storeProduct (console : Console) (product : Registry.Product) (insert : Except GoString Unit) :
    Except GoString Console :=
  if console.registry.products.any (fun other =>
      other.tenantId == product.tenantId && other.productId == product.productId) then
    .error (ascii "product " ++ product.productId ++ ascii " already exist")
  else insert.map (fun _ =>
    { console with
      registry := { console.registry with products := console.registry.products ++ [product] } })

def registerTenant (console : Console) (insert : Except GoString Unit)
    (bound : Except GoString GoString) : Served :=
  match bound with
  | .error reason => console.refuse (.badRequest reason)
  | .ok tenantId =>
    match console.storeTenant tenantId insert with
    | .error reason => console.refuse (.serverError reason)
    | .ok stored =>
      { response := .ok
        posted := some (tenantNotice tenantId Kafka.actionCreate)
        console := { stored with
          securityMgr := stored.securityMgr.addPrincipalPermissions (newPrincipal tenantId)
            [newPermission allPermission [ascii "/products/", ascii "/topicflavors"]] } }

def productResource (productId : GoString) : GoString := ascii "/products/" ++ productId

def createProduct (console : Console) (insert : Except GoString Unit) (accessId : GoString)
    (bound : Except GoString GoString) (productId : GoString) : Served :=
  match bound with
  | .error reason => console.refuse (.badRequest reason)
  | .ok productName =>
    if productName = [] then console.refuse (.badRequest (ascii "invalid parameter"))
    else
      match console.storeProduct
          { tenantId := accessId, productId := productId, topicFlavor := [] } insert with
      | .error reason => console.refuse (.serverError reason)
      | .ok stored =>
        { response := .ok
          posted := some (productNotice productId Kafka.actionCreate)
          console := { stored with
            securityMgr := stored.securityMgr.addPrincipalPermissions (newPrincipal accessId)
              [newPermission writePermission [productResource productId]] } }

def removeProduct (console : Console) (range : MapOrder GoString) (accessId productId : GoString) :
    Served :=
  if console.registry.products.any (fun product => product.productId == productId) then
    { response := .ok
      posted := some (productNotice productId Kafka.actionRemove)
      console := { console with
        registry := { console.registry with
          products := console.registry.products.eraseP
            (fun product => product.productId == productId) }
        securityMgr := console.securityMgr.removePrincipalPermissions range
          (newPrincipal accessId) [newPermission writePermission [productResource productId]] } }
  else console.refuse (.serverError (ascii "not found"))

def deleteTenant (console : Console) (tenantId : GoString) : Served :=
  if tenantId = [] then console.refuse (.badRequest (ascii "invalid parameter"))
  else if console.tenants.any (fun tenant => tenant.tenantId == tenantId) then
    { response := .ok
      posted := some (tenantNotice tenantId Kafka.actionRemove)
      console := { console with
        tenants := console.tenants.eraseP (fun tenant => tenant.tenantId == tenantId) } }
  else console.refuse (.serverError (ascii "not found"))

end Console

/-- The requests that change the tenants, the products or the permissions. -/
inductive ApiCall
  | registerTenant (insert : Except GoString Unit) (bound : Except GoString GoString)
  | createProduct (insert : Except GoString Unit) (accessId : GoString)
      (bound : Except GoString GoString) (productId : GoString)
  | removeProduct (range : MapOrder GoString) (accessId productId : GoString)
  | deleteTenant (tenantId : GoString)

namespace Console

def serve (console : Console) : ApiCall -> Served
  | .registerTenant insert bound => console.registerTenant insert bound
  | .createProduct insert accessId bound productId =>
    console.createProduct insert accessId bound productId
  | .removeProduct range accessId productId => console.removeProduct range accessId productId
  | .deleteTenant tenantId => console.deleteTenant tenantId

/-- The console after a sequence of requests. -/
def after (console : Console) : List ApiCall -> Console
  | [] => console
  | call :: rest => (console.serve call).console.after rest

/-- The products that a sequence of requests creates, each with its tenant. -/
def created (console : Console) : List ApiCall -> List (GoString × GoString)
  | [] => []
  | call :: rest =>
    let later := (console.serve call).console.created rest
    match call with
    | .createProduct _ accessId _ productId =>
      if (console.serve call).response = .ok then (accessId, productId) :: later else later
    | _ => later

def authorizes (console : Console) (tenantId : GoString) (ctx : RequestContext) : Bool :=
  match getRequestInfo ctx resourceMaps with
  | some (resource, action) =>
    (console.securityMgr.authorize (newPrincipal tenantId) resource action).isOk
  | none => false

end Console

end ApiServer
end Sentel
