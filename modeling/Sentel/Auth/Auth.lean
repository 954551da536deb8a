import Sentel.Registry.Registry

namespace Sentel
namespace Auth

open Library Registry

/-!
# Authentication and authorization

A client is authenticated by the signature of its connection parameters under
the secret of its device.  The secrets of the devices and the keyed hash are
taken as given: the service knows what they answer.  A client is authorized by
the topic flavors of its product, and a product without flavors is not
restricted.  The flavors are loaded from the registry when the broker starts.
-/

def AclRead : UInt8 := 0x01
def AclWrite : UInt8 := 0x02 ||| AclRead

/-- `auth.Context` -/
structure Context where
  clientID : GoString := []
  deviceName : GoString := []
  productID : GoString := []
  securityMode : Int := 0
  signMethod : GoString := []
  timestamp : GoString := []
  password : GoString := []
  deviceSecret : GoString := []
  deriving DecidableEq, Repr

/-- The errors that callers tell apart. -/
inductive AuthError
  | unauthorized
  | other (reason : GoString)
  deriving DecidableEq, Repr

def AuthError.text : AuthError -> GoString
  | .unauthorized => ascii "unauthorized"
  | .other reason => reason

/-- An HMAC-SHA1 value has twenty bytes. -/
abbrev Mac := { bytes : GoString // bytes.length = 20 }

/-- `authService`, with the answers of the registry and of the keyed hash. -/
structure AuthService where
  flavors : AList (fun _ : GoString => List TopicFlavor)
  deviceSecretKey : GoString -> GoString -> Except GoString GoString
  hmac : GoString -> GoString -> Mac

/-- The part of `base.BrokerStartupInfo` that a service reads. -/
structure BrokerStartupInfo where
  id : GoString := []
  tenant : GoString := []
  deriving DecidableEq

/-- `SetBrokerStartupInfo`, applied to the global record.  The tenant is not
copied. -/
def BrokerStartupInfo.setBrokerStartupInfo (brokerStartupInfo info : BrokerStartupInfo) :
    BrokerStartupInfo :=
  { brokerStartupInfo with id := info.id }

/-- The record of a daemon that has been started for a tenant. -/
def runBrokerDaemon (id tenant : GoString) : BrokerStartupInfo :=
  ({} : BrokerStartupInfo).setBrokerStartupInfo { id := id, tenant := tenant }

namespace AuthService

/-- One round of the loop of `Initialize`. -/
def loadProduct (registry : Registry) (service : AuthService) (product : Product) : AuthService :=
  let flavors := registry.getProductTopicFlavors product.productId
  if 0 < flavors.length then
    { service with flavors := service.flavors.insert product.productId flavors }
  else service

/-- `Initialize`, with the registry that it could open. -/
def initializeAuth (service : AuthService) (registry : Registry) (startup : BrokerStartupInfo) :
    AuthService :=
  (registry.getProducts startup.tenant).foldl (loadProduct registry) service

def authorize (service : AuthService) (ctx : Context) (_clientid topic : GoString)
    (access : UInt8) : Except AuthError Unit :=
  match service.flavors.lookup ctx.productID with
  | none => .ok ()
  | some flavors =>
    if flavors.any (fun flavor => flavor.topics.entries.any
        (fun entry => entry.1 == topic && entry.2 &&& access != 0)) then .ok ()
    else .error .unauthorized

def getDeviceSecretKey (service : AuthService) (ctx : Context) : Except GoString GoString :=
  service.deviceSecretKey ctx.productID ctx.deviceName

/-- The text that is signed. -/
def signedContent (ctx : Context) : GoString :=
  ascii "clientId" ++ ctx.clientID ++ ascii "deviceName" ++ ctx.deviceName ++
    ascii "productId" ++ ctx.productID ++ ascii "timestamp" ++ ctx.timestamp

def sha1mac (service : AuthService) (ctx : Context) : Except AuthError Unit :=
  let result := service.hmac ctx.deviceSecret (signedContent ctx)
  if ctx.password = result.val then .ok () else .error .unauthorized

/-- The one entry of `signMethods`. -/
def sha1macMethod : GoString := ascii "sha1mac"

def sign (service : AuthService) (ctx : Context) : Except AuthError Unit :=
  if ctx.signMethod = sha1macMethod then service.sha1mac ctx
  else .error (.other (ascii "auth: Invalid sign method '" ++ ctx.signMethod ++ ascii "'"))

def authenticate (service : AuthService) (ctx : Context) : Except AuthError Unit :=
  match service.getDeviceSecretKey ctx with
  | .ok key => service.sign { ctx with deviceSecret := key }
  | .error _ => .error (.other
      (ascii "auth: Failed to get device secret key for '" ++ ctx.deviceName ++ ascii "'"))

end AuthService

end Auth
end Sentel
