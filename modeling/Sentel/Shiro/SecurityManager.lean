import Sentel.Library.Cache
import Sentel.Shiro.LocalAdaptor

namespace Sentel
namespace Shiro

open Library

/-!
# The security manager

The default security manager works through a role manager and a permission
manager.  Both write to one adaptor, and each keeps a cache of what it has read
from it.  The entries of the caches expire, so an expiry is an event like a
call.
-/

structure SecurityManager where
  adaptor : LocalAdaptor
  roleCache : Cache GoString Role
  permissionCache : Cache GoString Permission

def newSecurityManager (memory : Memory GoString) : SecurityManager where
  adaptor := newLocalAdaptor memory
  roleCache := .empty
  permissionCache := .empty

/-! ## The role manager -/

namespace RoleManager

def addRole (manager : SecurityManager) (role : Role) : SecurityManager :=
  { manager with
    roleCache := manager.roleCache.add role.name role
    adaptor := manager.adaptor.addRole role }

def removeRole (manager : SecurityManager) (roleName : GoString) : SecurityManager :=
  { manager with
    roleCache := manager.roleCache.delete roleName
    adaptor := manager.adaptor.removeRole roleName }

def getRole (manager : SecurityManager) (roleName : GoString) :
    Except GoString Role × SecurityManager :=
  match manager.roleCache.value roleName with
  | some role => (.ok role, manager)
  | none =>
    match manager.adaptor.getRole roleName with
    | .ok role => (.ok role, { manager with roleCache := manager.roleCache.add roleName role })
    | .error _ => (.error (ascii "invalid role name '" ++ roleName ++ ascii "'"), manager)

def addRolePermissions (manager : SecurityManager) (roleName : GoString)
    (permissions : List GoString) : SecurityManager :=
  { manager with adaptor := manager.adaptor.addRolePermissions roleName permissions }

def removeRolePermissions (manager : SecurityManager) (roleName : GoString)
    (permissions : List GoString) : SecurityManager :=
  { manager with adaptor := manager.adaptor.removeRolePermissions roleName permissions }

def getRolePermissions (manager : SecurityManager) (roleName : GoString) : List GoString :=
  manager.adaptor.getRolePermissions roleName

end RoleManager

/-! ## The permission manager -/

namespace PermissionManager

def addPermission (manager : SecurityManager) (permission : Permission) :
    GoString × SecurityManager :=
  let added := manager.adaptor.addPermissions [permission]
  (added.1.head?.getD [], { manager with adaptor := added.2 })

def removePermission (manager : SecurityManager) (permId : GoString) : SecurityManager :=
  { manager with
    permissionCache := manager.permissionCache.delete permId
    adaptor := manager.adaptor.removePermissions [permId] }

def getPermission (manager : SecurityManager) (permId : GoString) :
    Except GoString Permission × SecurityManager :=
  match manager.permissionCache.value permId with
  | some permission => (.ok permission, manager)
  | none =>
    match manager.adaptor.getPermissions [permId] with
    | permission :: _ =>
      (.ok permission,
        { manager with permissionCache := manager.permissionCache.add permId permission })
    | [] => (.error (ascii "invalid permission id '" ++ permId ++ ascii "'"), manager)

end PermissionManager

/-! ## The default security manager -/

/-- The calls that are made for one principal. -/
inductive PrincipalCall
  | addPrincipalPermissions (principal : Principal) (permissions : List Permission)
  | removePrincipalPermissions (range : MapOrder GoString) (principal : Principal)
      (permissions : List Permission)
  | removePrincipal (principal : Principal)

/-- The calls of the security manager that change something, and the expiry of
cached entries. -/
inductive SecurityCall
  | forPrincipal (call : PrincipalCall)
  | addRole (role : Role)
  | removeRole (roleName : GoString)
  | getRole (roleName : GoString)
  | addRolePermissions (roleName : GoString) (permissions : List Permission)
  | removeRolePermissions (roleName : GoString) (permissions : List Permission)
  | removeRoleAllPermissions (roleName : GoString)
  | getRolePermissions (roleName : GoString)
  | expireRole (roleName : GoString)
  | expirePermission (permId : GoString)

namespace SecurityManager

def removePrincipal (manager : SecurityManager) (principal : Principal) : SecurityManager :=
  { manager with adaptor := manager.adaptor.removePrincipal principal }

def addPrincipalPermissions (manager : SecurityManager) (principal : Principal)
    (permissions : List Permission) : SecurityManager :=
  { manager with adaptor := manager.adaptor.addPrincipalPermissions principal permissions }

def removePrincipalPermissions (manager : SecurityManager) (range : MapOrder GoString)
    (principal : Principal) (permissions : List Permission) : SecurityManager :=
  { manager with
    adaptor := manager.adaptor.removePrincipalPermissions range principal permissions }

/-- `Authorize`.  The collection that it builds has the principal as its only
member, and therefore as its primary one. -/
def authorize (manager : SecurityManager) (principal : Principal) (resource action : GoString) :
    Except GoString Unit :=
  if (manager.adaptor.getPrincipalPermissions principal).any
      (fun permission => permission.implies resource action) then .ok ()
  else .error (ascii "not authorized")

/-- The loop of `AddRolePermissions`, with the identifiers it collects. -/
def addEach (manager : SecurityManager) : List Permission -> List GoString × SecurityManager
  | [] => ([], manager)
  | permission :: rest =>
    let added := PermissionManager.addPermission manager permission
    let later := added.2.addEach rest
    (added.1 :: later.1, later.2)

def addRolePermissions (manager : SecurityManager) (roleName : GoString)
    (permissions : List Permission) : SecurityManager :=
  let added := manager.addEach permissions
  RoleManager.addRolePermissions added.2 roleName added.1

def removeRolePermissions (manager : SecurityManager) (_roleName : GoString)
    (_permissions : List Permission) : SecurityManager := manager

def removeRoleAllPermissions (manager : SecurityManager) (roleName : GoString) :
    SecurityManager :=
  RoleManager.removeRolePermissions manager roleName
    (RoleManager.getRolePermissions manager roleName)

def getEach (manager : SecurityManager) : List GoString -> List Permission × SecurityManager
  | [] => ([], manager)
  | permid :: rest =>
    let got := PermissionManager.getPermission manager permid
    let later := got.2.getEach rest
    match got.1 with
    | .ok permission => (permission :: later.1, later.2)
    | .error _ => later

def getRolePermissions (manager : SecurityManager) (roleName : GoString) :
    List Permission × SecurityManager :=
  manager.getEach (RoleManager.getRolePermissions manager roleName)

def applyFor (manager : SecurityManager) : PrincipalCall -> SecurityManager
  | .addPrincipalPermissions principal permissions =>
    manager.addPrincipalPermissions principal permissions
  | .removePrincipalPermissions range principal permissions =>
    manager.removePrincipalPermissions range principal permissions
  | .removePrincipal principal => manager.removePrincipal principal

def apply (manager : SecurityManager) : SecurityCall -> SecurityManager
  | .forPrincipal call => manager.applyFor call
  | .addRole role => RoleManager.addRole manager role
  | .removeRole roleName => RoleManager.removeRole manager roleName
  | .getRole roleName => (RoleManager.getRole manager roleName).2
  | .addRolePermissions roleName permissions => manager.addRolePermissions roleName permissions
  | .removeRolePermissions roleName permissions =>
    manager.removeRolePermissions roleName permissions
  | .removeRoleAllPermissions roleName => manager.removeRoleAllPermissions roleName
  | .getRolePermissions roleName => (manager.getRolePermissions roleName).2
  | .expireRole roleName => { manager with roleCache := manager.roleCache.delete roleName }
  | .expirePermission permId =>
    { manager with permissionCache := manager.permissionCache.delete permId }

/-- The manager after a sequence of calls. -/
def after (memory : Memory GoString) (calls : List SecurityCall) : SecurityManager :=
  calls.foldl apply (newSecurityManager memory)

/-! ## Authorization -/

theorem authorize_eq_ok_iff {manager : SecurityManager} {principal : Principal}
    {resource action : GoString} :
    manager.authorize principal resource action = .ok () ↔
      exists permission, permission ∈ manager.adaptor.getPrincipalPermissions principal ∧
        permission.implies resource action = true := by
  rw [authorize]
  by_cases granted : (manager.adaptor.getPrincipalPermissions principal).any
      (fun permission => permission.implies resource action) = true
  · rw [if_pos granted]
    exact iff_of_true rfl (List.any_eq_true.mp granted)
  · rw [if_neg granted]
    exact iff_of_false nofun (fun found => granted (List.any_eq_true.mpr found))

theorem authorize_ext {first second : SecurityManager} {principal : Principal}
    {resource action : GoString}
    (same : first.authorize principal resource action = .ok () ↔
      second.authorize principal resource action = .ok ()) :
    first.authorize principal resource action = second.authorize principal resource action := by
  rw [authorize, authorize] at same ⊢
  split
  · rename_i granted
    rw [if_pos granted] at same
    exact (same.mp rfl).symm
  · rename_i denied
    rw [if_neg denied] at same
    split
    · rename_i granted
      rw [if_pos granted] at same
      exact same.mpr rfl
    · rfl

theorem authorize_congr {first second : SecurityManager} {principal : Principal}
    (same : first.adaptor.getPrincipalPermissions principal =
      second.adaptor.getPrincipalPermissions principal) (resource action : GoString) :
    first.authorize principal resource action = second.authorize principal resource action := by
  rw [authorize, authorize, same]

/-! ## Permissions stand under their identifiers -/

section Keyed

variable {manager : SecurityManager}

theorem getRole_adaptor (roleName : GoString) :
    (RoleManager.getRole manager roleName).2.adaptor = manager.adaptor := by
  rw [RoleManager.getRole]
  split
  · rfl
  · split <;> rfl

theorem getPermission_adaptor (permId : GoString) :
    (PermissionManager.getPermission manager permId).2.adaptor = manager.adaptor := by
  rw [PermissionManager.getPermission]
  split
  · rfl
  · split <;> rfl

theorem getEach_adaptor (permids : List GoString) :
    (manager.getEach permids).2.adaptor = manager.adaptor := by
  induction permids generalizing manager with
  | nil => rfl
  | cons permid rest ih =>
    rw [getEach]
    split <;> exact ih.trans (getPermission_adaptor permid)

theorem addEach_keyed (keyed : manager.adaptor.Keyed) (permissions : List Permission) :
    (manager.addEach permissions).2.adaptor.Keyed := by
  induction permissions generalizing manager with
  | nil => exact keyed
  | cons permission rest ih => exact ih (keyed.addPermissions [permission])

theorem applyFor_keyed (keyed : manager.adaptor.Keyed) (call : PrincipalCall) :
    (manager.applyFor call).adaptor.Keyed := by
  cases call with
  | addPrincipalPermissions principal permissions =>
    exact keyed.addPrincipalPermissions principal permissions
  | removePrincipalPermissions range principal permissions =>
    exact keyed.removePrincipalPermissions range principal permissions
  | removePrincipal principal => exact keyed.of_permissions rfl

theorem apply_keyed (keyed : manager.adaptor.Keyed) (call : SecurityCall) :
    (manager.apply call).adaptor.Keyed := by
  cases call with
  | forPrincipal call => exact applyFor_keyed keyed call
  | addRole role => exact keyed.of_permissions (manager.adaptor.addRole_permissions role)
  | removeRole roleName =>
    exact keyed.of_permissions (manager.adaptor.removeRole_permissions roleName)
  | getRole roleName =>
    change (RoleManager.getRole manager roleName).2.adaptor.Keyed
    rw [getRole_adaptor]
    exact keyed
  | addRolePermissions roleName permissions =>
    change (RoleManager.addRolePermissions (manager.addEach permissions).2 roleName
      (manager.addEach permissions).1).adaptor.Keyed
    exact (addEach_keyed keyed permissions).of_permissions
      (LocalAdaptor.addRolePermissions_permissions _ roleName (manager.addEach permissions).1)
  | removeRolePermissions roleName permissions => exact keyed
  | removeRoleAllPermissions roleName =>
    exact keyed.of_permissions (congrArg LocalAdaptor.permissions
      (manager.adaptor.removeRolePermissions_eq roleName _))
  | getRolePermissions roleName =>
    exact keyed.of_permissions (congrArg LocalAdaptor.permissions (getEach_adaptor _))
  | expireRole roleName | expirePermission permId => exact keyed

theorem foldl_apply_keyed (keyed : manager.adaptor.Keyed) (calls : List SecurityCall) :
    (calls.foldl apply manager).adaptor.Keyed := by
  induction calls generalizing manager with
  | nil => exact keyed
  | cons call rest ih => exact ih (apply_keyed keyed call)

theorem after_keyed (memory : Memory GoString) (calls : List SecurityCall) :
    (after memory calls).adaptor.Keyed :=
  foldl_apply_keyed (.initial memory) calls

end Keyed

/-! ## Revocation -/

structure Revokes (manager : SecurityManager) (range : MapOrder GoString) (principal : Principal)
    (permissions : List Permission) : Prop where
  revoked : forall permission, permission ∈ permissions ->
    forall resource, resource ∈ permission.resources -> forall action,
      (manager.removePrincipalPermissions range principal permissions).authorize
        principal resource action ≠ .ok ()
  kept : forall resource,
    (forall permission, permission ∈ permissions -> resource ∉ permission.resources) ->
      forall action,
        (manager.removePrincipalPermissions range principal permissions).authorize
          principal resource action = manager.authorize principal resource action

theorem removePrincipalPermissions_authorize {manager : SecurityManager}
    (keyed : manager.adaptor.Keyed) (range : MapOrder GoString) (principal : Principal)
    (permissions : List Permission) (other : Principal) (resource action : GoString) :
    (manager.removePrincipalPermissions range principal permissions).authorize
      other resource action = manager.authorize other resource action :=
  authorize_congr
    (LocalAdaptor.removePrincipalPermissions_keeps keyed range principal permissions other)
    resource action

/-- A revocation takes effect exactly when there was nothing to revoke: none of
the resources was authorized before. -/
theorem revokes_iff (memory : Memory GoString) (calls : List SecurityCall)
    (range : MapOrder GoString) (principal : Principal) (permissions : List Permission) :
    (after memory calls).Revokes range principal permissions ↔
      forall permission, permission ∈ permissions ->
        forall resource, resource ∈ permission.resources -> forall action,
          (after memory calls).authorize principal resource action ≠ .ok () := by
  have same := removePrincipalPermissions_authorize (after_keyed memory calls) range principal
    permissions principal
  constructor
  · intro revokes permission member resource listed action
    rw [← same]
    exact revokes.revoked permission member resource listed action
  · intro denied
    refine ⟨?_, fun resource _ action => same resource action⟩
    intro permission member resource listed action
    rw [same]
    exact denied permission member resource listed action

def productPermission : Permission := newPermission writePermission [ascii "/products/p"]

/-- A tenant keeps its permission for a product that it has removed. -/
theorem removed_product_still_authorized :
    ¬ (after (.ofList []) [.forPrincipal (.addPrincipalPermissions ⟨ascii "t"⟩
      [productPermission])]).Revokes .listed ⟨ascii "t"⟩ [productPermission] := by
  intro revokes
  have denied := revokes.revoked productPermission List.mem_cons_self (ascii "/products/p")
    List.mem_cons_self writePermission
  exact denied (by decide +kernel)

end SecurityManager

end Shiro
end Sentel
