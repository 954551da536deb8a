import Sentel.ApiServer.Console

namespace Sentel
namespace ApiServer

open Library Registry Shiro

/-!
# Owners and their products

A tenant should be let in to the products it has created, and nobody else
should.  The handlers grant the actions `w` and `rw`, and a request asks for the
action `read` or `write`.  No granted action is ever asked for, so the console
lets nobody in.
-/

def productTemplate : GoString := ascii "/products/:productId"

structure ForProduct (res : ResourceAC) (productId : GoString) (ctx : RequestContext) : Prop where
  route : res ∈ consoleApiPolicies
  resource : res.resource = productTemplate
  path : ctx.path = res.path
  param : ctx.param (ascii "productId") = productId

/-- The owner of a product may read and write it on all of its routes, and no
other tenant may. -/
structure OwnerAccess (console : Console) (owner productId : GoString) : Prop where
  admitted : forall res ctx, ForProduct res productId ctx -> console.authorizes owner ctx = true
  refused : forall tenant, tenant ∈ console.tenants -> tenant.tenantId ≠ owner ->
    forall res ctx, ForProduct res productId ctx -> console.authorizes tenant.tenantId ctx = false

/-! ## The vocabularies -/

def Granted (permission : Permission) : Prop :=
  permission.actions = writePermission ∨ permission.actions = allPermission

theorem action_mem_of_implies {permission : Permission} {resource action : GoString}
    (implied : permission.implies resource action = true) :
    action ∈ split comma permission.actions := by
  rcases List.any_eq_true.mp implied with ⟨_, _, both⟩
  rcases List.any_eq_true.mp (Bool.and_eq_true_iff.mp both).2 with ⟨val, member, same⟩
  rw [beq_iff_eq] at same
  rwa [← same]

theorem not_implies_of_granted {permission : Permission} (granted : Granted permission)
    {action : GoString} (asked : action = actionRead ∨ action = actionWrite)
    (resource : GoString) : permission.implies resource action = false := by
  apply Bool.eq_false_iff.mpr
  intro implied
  have member := action_mem_of_implies implied
  rcases granted with same | same <;> rw [same] at member <;>
    rcases asked with rfl | rfl <;> exact absurd member (by decide +kernel)

theorem action_of_getRequestInfo {ctx : RequestContext}
    {maps : AList (fun _ : GoString => GoString)} {resource action : GoString}
    (info : getRequestInfo ctx maps = some (resource, action)) :
    action = actionRead ∨ action = actionWrite := by
  have chosen : action = if ctx.method = methodGet then actionRead else actionWrite := by
    rw [getRequestInfo] at info
    cases found : maps.lookup ctx.path with
    | none =>
      rw [found] at info
      cases info
      rfl
    | some resourceName =>
      rw [found] at info
      rcases Option.map_eq_some_iff.mp info with ⟨_, _, same⟩
      cases same
      rfl
  rw [chosen]
  split
  · exact .inl rfl
  · exact .inr rfl

/-! ## Every request is refused -/

structure Issued (securityMgr : SecurityManager) : Prop where
  keyed : securityMgr.adaptor.Keyed
  stores : securityMgr.adaptor.Stores Granted

namespace Issued

variable {securityMgr : SecurityManager}

theorem initial (memory : Memory GoString) : Issued (newSecurityManager memory) :=
  ⟨.initial memory, .initial memory Granted⟩

theorem addPrincipalPermissions (issued : Issued securityMgr) (principal : Principal)
    {action : GoString} (granted : action = writePermission ∨ action = allPermission)
    (resources : List GoString) :
    Issued (securityMgr.addPrincipalPermissions principal [newPermission action resources]) := by
  refine ⟨issued.keyed.addPrincipalPermissions principal _,
    issued.stores.addPrincipalPermissions principal ?_⟩
  intro permission member permId
  rw [List.mem_singleton.mp member]
  exact granted

theorem removePrincipalPermissions (issued : Issued securityMgr) (range : MapOrder GoString)
    (principal : Principal) (permissions : List Permission) :
    Issued (securityMgr.removePrincipalPermissions range principal permissions) :=
  ⟨issued.keyed.removePrincipalPermissions range principal permissions,
    issued.stores.removePrincipalPermissions issued.keyed range principal permissions⟩

theorem authorize_ne_ok (issued : Issued securityMgr) (principal : Principal)
    (resource : GoString) {action : GoString} (asked : action = actionRead ∨ action = actionWrite) :
    securityMgr.authorize principal resource action ≠ .ok () := by
  intro authorized
  rcases SecurityManager.authorize_eq_ok_iff.mp authorized with ⟨permission, member, implied⟩
  rw [not_implies_of_granted (issued.stores.of_mem member) asked resource] at implied
  cases implied

end Issued

namespace Console

variable {console : Console}

theorem storeTenant_securityMgr {tenantId : GoString} {insert : Except GoString Unit}
    {stored : Console} (ok : console.storeTenant tenantId insert = .ok stored) :
    stored.securityMgr = console.securityMgr := by
  rw [storeTenant] at ok
  split at ok
  · cases ok
  · cases insert with
    | error reason => cases ok
    | ok _ =>
      cases ok
      rfl

theorem storeProduct_securityMgr {product : Registry.Product} {insert : Except GoString Unit}
    {stored : Console} (ok : console.storeProduct product insert = .ok stored) :
    stored.securityMgr = console.securityMgr := by
  rw [storeProduct] at ok
  split at ok
  · cases ok
  · cases insert with
    | error reason => cases ok
    | ok _ =>
      cases ok
      rfl

theorem serve_issued (issued : Issued console.securityMgr) (call : ApiCall) :
    Issued (console.serve call).console.securityMgr := by
  cases call with
  | registerTenant insert bound =>
    cases bound with
    | error reason => exact issued
    | ok tenantId =>
      rw [serve, registerTenant]
      cases ok : console.storeTenant tenantId insert with
      | error reason => exact issued
      | ok stored =>
        rw [← storeTenant_securityMgr ok] at issued
        exact issued.addPrincipalPermissions _ (.inr rfl) _
  | createProduct insert accessId bound productId =>
    cases bound with
    | error reason => exact issued
    | ok productName =>
      rw [serve, createProduct]
      split
      · exact issued
      · cases ok : console.storeProduct
            { tenantId := accessId, productId := productId, topicFlavor := [] } insert with
        | error reason => exact issued
        | ok stored =>
          rw [← storeProduct_securityMgr ok] at issued
          exact issued.addPrincipalPermissions _ (.inl rfl) _
  | removeProduct range accessId productId =>
    rw [serve, removeProduct]
    split
    · exact issued.removePrincipalPermissions range _ _
    · exact issued
  | deleteTenant tenantId =>
    rw [serve, deleteTenant]
    split
    · exact issued
    · split
      · exact issued
      · exact issued

theorem after_issued (issued : Issued console.securityMgr) (calls : List ApiCall) :
    Issued (console.after calls).securityMgr := by
  induction calls generalizing console with
  | nil => exact issued
  | cons call rest ih => exact ih (serve_issued issued call)

theorem authorizes_eq_false (issued : Issued console.securityMgr) (tenantId : GoString)
    (ctx : RequestContext) : console.authorizes tenantId ctx = false := by
  rw [authorizes]
  cases info : getRequestInfo ctx resourceMaps with
  | none => rfl
  | some asked =>
    rcases asked with ⟨resource, action⟩
    have refused := issued.authorize_ne_ok (newPrincipal tenantId) resource
      (action_of_getRequestInfo info)
    dsimp only
    cases answer : console.securityMgr.authorize (newPrincipal tenantId) resource action with
    | error reason => rfl
    | ok _ => exact absurd answer refused

end Console

def getProduct : ResourceAC := consoleApi "/products/:productId" "/products/:productId"

def readRequest (productId : GoString) : RequestContext where
  method := methodGet
  path := getProduct.path
  param := fun _ => productId
  values := fun _ => none

theorem readRequest_forProduct (productId : GoString) :
    ForProduct getProduct productId (readRequest productId) :=
  ⟨by decide +kernel, rfl, rfl, rfl⟩

/-- After any requests, the owners of products and nobody else are let in
exactly when there is no owner: no tenant that is registered has created a
product. -/
theorem ownerAccess_iff (calls : List ApiCall) :
    (forall owner productId, (owner, productId) ∈ newConsole.created calls ->
      ⟨owner⟩ ∈ (newConsole.after calls).tenants ->
        OwnerAccess (newConsole.after calls) owner productId) ↔
      forall owner productId, (owner, productId) ∈ newConsole.created calls ->
        ⟨owner⟩ ∉ (newConsole.after calls).tenants := by
  have issued : Issued newConsole.securityMgr := .initial _
  have refused := Console.authorizes_eq_false (Console.after_issued issued calls)
  constructor
  · intro access owner productId made registered
    have granted := (access owner productId made registered).admitted getProduct
      (readRequest productId) (readRequest_forProduct productId)
    rw [refused] at granted
    cases granted
  · intro none owner productId made registered
    exact absurd registered (none owner productId made)

def firstProduct : List ApiCall :=
  [.registerTenant (.ok ()) (.ok (ascii "t")),
    .createProduct (.ok ()) (ascii "t") (.ok (ascii "lamp")) (ascii "p")]

/-- It may not read its product. -/
theorem owner_refused :
    (ascii "t", ascii "p") ∈ newConsole.created firstProduct ∧
      ⟨ascii "t"⟩ ∈ (newConsole.after firstProduct).tenants ∧
      ¬ OwnerAccess (newConsole.after firstProduct) (ascii "t") (ascii "p") := by
  refine ⟨by decide +kernel, by decide +kernel, ?_⟩
  intro access
  have granted := access.admitted getProduct (readRequest (ascii "p")) (readRequest_forProduct _)
  rw [Console.authorizes_eq_false (Console.after_issued (.initial _) firstProduct)] at granted
  cases granted

end ApiServer
end Sentel
