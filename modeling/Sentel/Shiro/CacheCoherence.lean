import Sentel.Library.Machine
import Sentel.Shiro.SecurityManager
import Sentel.Shiro.SharedRoles

namespace Sentel
namespace Shiro

open Library PermissionManager

/-!
# The caches of roles and permissions

The role manager and the permission manager answer from their caches.  They are
transparent while the caches are coherent with the adaptor.  Three writes can
break this: `AddRole` caches its argument where the adaptor merges two roles,
and `AddRolePermissions` and `AddPermission` write to the adaptor alone.

A cached role is a slice as well, and may show cells that the adaptor appends
to.  Roles are therefore compared by what they show, and the rules for the
caches are used in runs where no slice is written to behind its back.
-/

/-- The calls of the two managers, and the expiry of cached entries. -/
inductive ManagerCall
  | addRole (role : Role)
  | removeRole (roleName : GoString)
  | addRolePermissions (roleName : GoString) (permissions : List GoString)
  | removeRolePermissions (roleName : GoString) (permissions : List GoString)
  | addPermission (permission : Permission)
  | removePermission (permId : GoString)
  | getRole (roleName : GoString)
  | getPermission (permId : GoString)
  | expireRole (roleName : GoString)
  | expirePermission (permId : GoString)

namespace SecurityManager

def perform (manager : SecurityManager) : ManagerCall -> SecurityManager
  | .addRole role => RoleManager.addRole manager role
  | .removeRole roleName => RoleManager.removeRole manager roleName
  | .addRolePermissions roleName permissions =>
    RoleManager.addRolePermissions manager roleName permissions
  | .removeRolePermissions roleName permissions =>
    RoleManager.removeRolePermissions manager roleName permissions
  | .addPermission permission => (addPermission manager permission).2
  | .removePermission permId => removePermission manager permId
  | .getRole roleName => (RoleManager.getRole manager roleName).2
  | .getPermission permId => (getPermission manager permId).2
  | .expireRole roleName => { manager with roleCache := manager.roleCache.delete roleName }
  | .expirePermission permId =>
    { manager with permissionCache := manager.permissionCache.delete permId }

/-- The managers, driven by calls and expiries. -/
def managers (memory : Memory GoString) : Machine SecurityManager ManagerCall where
  initial := newSecurityManager memory
  step := fun manager call => some (manager.perform call)

/-- Both managers answer what the adaptor would answer at this moment. -/
structure Transparent (manager : SecurityManager) : Prop where
  roles : forall roleName,
    (RoleManager.getRole manager roleName).1.toOption.map (Role.shown manager.adaptor.memory) =
      (manager.adaptor.getRole roleName).toOption.map (Role.shown manager.adaptor.memory)
  permissions : forall permId, (getPermission manager permId).1.toOption =
    (manager.adaptor.getPermissions [permId]).head?

/-! ## Coherence -/

def roleSource (manager : SecurityManager) : GoString -> Option (GoString × List GoString) :=
  manager.adaptor.shownRole

def roleView (manager : SecurityManager) : Cache GoString (GoString × List GoString) :=
  manager.roleCache.view (Role.shown manager.adaptor.memory)

def permissionSource (manager : SecurityManager) : GoString -> Option Permission :=
  fun permId => manager.adaptor.permissions.lookup permId

structure Coherent (manager : SecurityManager) : Prop where
  roles : manager.roleView.Coherent manager.roleSource
  permissions : manager.permissionCache.Coherent manager.permissionSource

namespace Coherent

variable {manager after : SecurityManager} {condition : Prop}

theorem iff_of_roles (coherent : manager.Coherent)
    (source : after.permissionSource = manager.permissionSource)
    (cache : after.permissionCache = manager.permissionCache)
    (kept : after.roleView.Coherent after.roleSource ↔ condition) :
    after.Coherent ↔ condition := by
  rw [← kept]
  refine ⟨fun holds => holds.roles, fun roles => ⟨roles, ?_⟩⟩
  rw [source, cache]
  exact coherent.permissions

theorem iff_of_permissions (coherent : manager.Coherent)
    (source : after.roleSource = manager.roleSource) (cache : after.roleView = manager.roleView)
    (kept : after.permissionCache.Coherent after.permissionSource ↔ condition) :
    after.Coherent ↔ condition := by
  rw [← kept]
  refine ⟨fun holds => holds.permissions, fun permissions => ⟨?_, permissions⟩⟩
  rw [source, cache]
  exact coherent.roles

end Coherent

section Reads

variable (manager : SecurityManager)

theorem adaptor_getRole_shown (roleName : GoString) :
    (manager.adaptor.getRole roleName).toOption.map (Role.shown manager.adaptor.memory) =
      manager.roleSource roleName := by
  rw [LocalAdaptor.getRole, roleSource, LocalAdaptor.shownRole]
  cases manager.adaptor.roles.lookup roleName <;> rfl

theorem adaptor_getPermissions_singleton (permId : GoString) :
    manager.adaptor.getPermissions [permId] = (manager.permissionSource permId).toList := by
  rw [LocalAdaptor.getPermissions, permissionSource, List.filterMap_cons]
  cases manager.adaptor.permissions.lookup permId <;> rfl

theorem getRole_through (roleName : GoString) :
    (RoleManager.getRole manager roleName).1.toOption.map (Role.shown manager.adaptor.memory) =
        (manager.roleView.through manager.roleSource roleName).1 ∧
      (RoleManager.getRole manager roleName).2.roleView.value =
        (manager.roleView.through manager.roleSource roleName).2.value := by
  rw [RoleManager.getRole, Cache.through, roleView, Cache.value_view]
  cases manager.roleCache.value roleName with
  | some role => exact ⟨rfl, rfl⟩
  | none =>
    rw [LocalAdaptor.getRole, roleSource, LocalAdaptor.shownRole]
    cases manager.adaptor.roles.lookup roleName with
    | some role => exact ⟨rfl, manager.roleCache.view_add _ roleName role⟩
    | none => exact ⟨rfl, rfl⟩

theorem getPermission_through (permId : GoString) :
    (getPermission manager permId).1.toOption =
        (manager.permissionCache.through manager.permissionSource permId).1 ∧
      (getPermission manager permId).2 =
        { manager with
          permissionCache :=
            (manager.permissionCache.through manager.permissionSource permId).2 } := by
  rw [getPermission, Cache.through, adaptor_getPermissions_singleton]
  cases manager.permissionCache.value permId with
  | some permission => exact ⟨rfl, rfl⟩
  | none => cases manager.permissionSource permId <;> exact ⟨rfl, rfl⟩

theorem transparent_iff_coherent : manager.Transparent ↔ manager.Coherent := by
  have roles : (forall roleName,
      (RoleManager.getRole manager roleName).1.toOption.map (Role.shown manager.adaptor.memory) =
        (manager.adaptor.getRole roleName).toOption.map (Role.shown manager.adaptor.memory)) ↔
      manager.roleView.Coherent manager.roleSource := by
    rw [← Cache.through_eq_source_iff]
    apply forall_congr'
    intro roleName
    rw [(getRole_through manager roleName).1, adaptor_getRole_shown]
  have permissions : (forall permId,
      (getPermission manager permId).1.toOption =
        (manager.adaptor.getPermissions [permId]).head?) ↔
      manager.permissionCache.Coherent manager.permissionSource := by
    rw [← Cache.through_eq_source_iff]
    apply forall_congr'
    intro permId
    rw [(getPermission_through manager permId).1, adaptor_getPermissions_singleton,
      Option.head?_toList]
  exact ⟨fun transparent => ⟨roles.mp transparent.roles, permissions.mp transparent.permissions⟩,
    fun coherent => ⟨roles.mpr coherent.roles, permissions.mpr coherent.permissions⟩⟩

end Reads

/-! ## Writes -/

structure Placed (manager : SecurityManager) : Prop where
  stored : manager.adaptor.RolesPlaced
  cached : forall roleName role, manager.roleCache.value roleName = some role ->
    manager.adaptor.memory.Holds role.permissionIds

/-- Appending identifiers to a role changes no cell that another stored role or
a cached one shows. -/
structure Undisturbed (manager : SecurityManager) (roleName : GoString) (permIds : List GoString) :
    Prop where
  stored : manager.adaptor.SparesOthers roleName permIds
  cached : forall name role, manager.roleCache.value name = some role ->
    manager.adaptor.Spares roleName permIds role.permissionIds

def caching (manager : SecurityManager) (role : Role) : SecurityManager :=
  { manager with roleCache := manager.roleCache.add role.name role }

/-- The slice that is handed over is part of the memory, and the call overwrites
no cell that another role in view shows. -/
def Sparing (manager : SecurityManager) : ManagerCall -> Prop
  | .addRole role => manager.adaptor.memory.Holds role.permissionIds ∧
      (manager.caching role).Undisturbed role.name (manager.adaptor.memory.read role.permissionIds)
  | .addRolePermissions roleName _ =>
    manager.Undisturbed roleName (manager.adaptor.getRolePermissions roleName)
  | _ => True

/-- The writes that leave the caches coherent: a role is added under a name
whose role has no permissions yet, a role is given permissions only while it is
not cached or has none, and a permission is added under an identifier that is
not cached with another permission. -/
def Careful (manager : SecurityManager) : ManagerCall -> Prop
  | .addRole role => forall stored, manager.adaptor.roles.lookup role.name = some stored ->
      stored.permissionIds.length = 0
  | .addRolePermissions roleName _ => forall cached,
      manager.roleCache.value roleName = some cached -> cached.permissionIds.length = 0
  | .addPermission permission => forall cached,
      manager.permissionCache.value (manager.adaptor.numbered permission).permissionId =
        some cached -> cached = manager.adaptor.numbered permission
  | _ => True

section Writes

variable {manager : SecurityManager}

theorem caching_placed (placed : manager.Placed) {role : Role}
    (holds : manager.adaptor.memory.Holds role.permissionIds) : (manager.caching role).Placed := by
  refine ⟨placed.stored, fun name other held => ?_⟩
  rw [caching, Cache.value_add] at held
  by_cases same : name = role.name
  · rw [same, Function.update_self] at held
    cases held
    exact holds
  · rw [Function.update_of_ne same] at held
    exact placed.cached name other held

section Appending

variable {adaptor : LocalAdaptor} {roleName : GoString} {permIds : List GoString}
  (placed : manager.Placed) (appends : manager.adaptor.Appends roleName permIds adaptor)
include placed appends

theorem appended_placed (stored : adaptor.RolesPlaced) :
    Placed { manager with adaptor := adaptor } :=
  ⟨stored, fun name role held => appends.holds (placed.cached name role held)⟩

theorem appended_roleView (undisturbed : manager.Undisturbed roleName permIds) :
    (roleView { manager with adaptor := adaptor }).value = manager.roleView.value := by
  refine Cache.view_congr (fun name role held => ?_)
  rw [Role.shown, Role.shown, (appends.read_iff (placed.cached name role held)).mpr
    (undisturbed.cached name role held)]

theorem appended_roleSource (undisturbed : manager.Undisturbed roleName permIds) :
    adaptor.shownRole =
      Function.update manager.roleSource roleName (adaptor.shownRole roleName) :=
  Function.eq_update_iff.mpr ⟨rfl, (appends.others_iff placed.stored).mpr undisturbed.stored⟩

end Appending

theorem read_eq_nil_iff {memory : Memory GoString} {slice : Slice} :
    memory.read slice = [] ↔ slice.length = 0 := by
  rw [Memory.read, Memory.readAt, List.map_eq_nil_iff, List.range_eq_nil]

theorem merged_eq_shown_iff (role : Role) :
    some (role.name, manager.adaptor.getRolePermissions role.name ++
        manager.adaptor.memory.read role.permissionIds) =
      some (role.shown manager.adaptor.memory) ↔
      forall stored, manager.adaptor.roles.lookup role.name = some stored ->
        stored.permissionIds.length = 0 := by
  rw [Option.some_inj, Role.shown, Prod.mk.injEq, and_iff_right rfl, List.append_left_eq_self,
    LocalAdaptor.getRolePermissions]
  cases found : manager.adaptor.roles.lookup role.name with
  | none =>
    refine iff_of_true rfl (fun stored same => ?_)
    cases same
  | some stored =>
    refine read_eq_nil_iff.trans ⟨fun empty other same => ?_, fun all => all stored rfl⟩
    cases same
    exact empty

theorem permissionSource_of_permissions {after : SecurityManager}
    (same : after.adaptor.permissions = manager.adaptor.permissions) :
    after.permissionSource = manager.permissionSource := by
  unfold permissionSource
  rw [same]

theorem addPermission_permissionSource (permission : Permission) :
    (addPermission manager permission).2.permissionSource =
      Function.update manager.permissionSource
        (manager.adaptor.numbered permission).permissionId
        (some (manager.adaptor.numbered permission)) :=
  lookup_insert_eq _ _ _

theorem removePermission_permissionSource (permId : GoString) :
    (removePermission manager permId).permissionSource =
      Function.update manager.permissionSource permId none :=
  lookup_erase_eq _ _

end Writes

/-! ## Runs -/

section Runs

variable {manager : SecurityManager}

theorem addRole_placed (placed : manager.Placed) {role : Role}
    (holds : manager.adaptor.memory.Holds role.permissionIds) :
    (RoleManager.addRole manager role).Placed :=
  appended_placed (caching_placed placed holds) (manager.adaptor.addRole_appends role)
    (LocalAdaptor.addRole_placed placed.stored holds)

theorem addRolePermissions_placed (placed : manager.Placed) (roleName : GoString)
    (permissions : List GoString) :
    (RoleManager.addRolePermissions manager roleName permissions).Placed :=
  appended_placed placed (manager.adaptor.addRolePermissions_appends roleName permissions)
    (LocalAdaptor.addRolePermissions_placed placed.stored roleName permissions)

theorem removeRole_placed (placed : manager.Placed) (roleName : GoString) :
    (RoleManager.removeRole manager roleName).Placed := by
  refine ⟨manager.adaptor.removeRole_placed placed.stored roleName, fun name role held => ?_⟩
  rw [RoleManager.removeRole, LocalAdaptor.removeRole_memory]
  exact placed.cached name role (Cache.value_of_delete held)

theorem getRole_placed (placed : manager.Placed) (roleName : GoString) :
    (RoleManager.getRole manager roleName).2.Placed := by
  rw [RoleManager.getRole, LocalAdaptor.getRole]
  cases manager.roleCache.value roleName with
  | some role => exact placed
  | none =>
    cases found : manager.adaptor.roles.lookup roleName with
    | none => exact placed
    | some role =>
      have own := placed.stored roleName role found
      have cached := @caching_placed manager placed role own.2
      rw [caching, own.1] at cached
      exact cached

theorem expireRole_placed (placed : manager.Placed) (roleName : GoString) :
    Placed { manager with roleCache := manager.roleCache.delete roleName } :=
  ⟨placed.stored, fun name role held => placed.cached name role (Cache.value_of_delete held)⟩

theorem perform_placed (placed : manager.Placed) {call : ManagerCall}
    (sparing : manager.Sparing call) : (manager.perform call).Placed := by
  cases call with
  | addRole role => exact addRole_placed placed sparing.1
  | removeRole roleName => exact removeRole_placed placed roleName
  | addRolePermissions roleName permissions =>
    exact addRolePermissions_placed placed roleName permissions
  | removeRolePermissions roleName permissions =>
    change Placed { manager with adaptor := _ }
    rw [LocalAdaptor.removeRolePermissions_eq]
    exact placed
  | addPermission permission | removePermission permId => exact ⟨placed.stored, placed.cached⟩
  | getRole roleName => exact getRole_placed placed roleName
  | getPermission permId =>
    change (getPermission manager permId).2.Placed
    rw [(getPermission_through manager permId).2]
    exact ⟨placed.stored, placed.cached⟩
  | expireRole roleName => exact expireRole_placed placed roleName
  | expirePermission permId => exact ⟨placed.stored, placed.cached⟩

theorem doubled_iff (placed : manager.Placed) (coherent : manager.Coherent) (roleName : GoString) :
    (forall shown, manager.roleView.value roleName = some shown ->
      (manager.adaptor.shownRole roleName).map (fun shown => (roleName, shown.2 ++ shown.2)) =
        some shown) ↔
      forall cached, manager.roleCache.value roleName = some cached ->
        cached.permissionIds.length = 0 := by
  rw [roleView, Cache.value_view]
  cases held : manager.roleCache.value roleName with
  | none => exact iff_of_true (fun _ none => nomatch none) (fun _ none => nomatch none)
  | some cached =>
    have found := coherent.roles roleName (cached.shown manager.adaptor.memory)
      (by rw [roleView, Cache.value_view, held]; rfl)
    rcases Option.map_eq_some_iff.mp found with ⟨stored, here, same⟩
    have own : roleName = cached.name :=
      (placed.stored roleName stored here).1.symm.trans (congrArg Prod.fst same)
    have source : manager.adaptor.shownRole roleName = _ := found
    rw [source]
    simp only [Option.map_some, Option.some_inj, forall_eq', Role.shown, own, Prod.mk.injEq,
      true_and, List.append_left_eq_self, read_eq_nil_iff]

theorem getRole_permissionCache (manager : SecurityManager) (roleName : GoString) :
    (RoleManager.getRole manager roleName).2.permissionCache = manager.permissionCache := by
  rw [RoleManager.getRole]
  split
  · rfl
  · split <;> rfl

theorem perform_coherent_iff (placed : manager.Placed) (coherent : manager.Coherent)
    {call : ManagerCall} (sparing : manager.Sparing call) :
    (manager.perform call).Coherent ↔ manager.Careful call := by
  cases call with
  | addRole role =>
    have cached := caching_placed placed sparing.1
    have appends := manager.adaptor.addRole_appends role
    have view := appended_roleView cached appends sparing.2
    have source := appended_roleSource cached appends sparing.2
    have kept := coherent.roles.add_iff role.name (role.shown manager.adaptor.memory)
      ((manager.adaptor.addRole role).shownRole role.name)
    rw [LocalAdaptor.addRole_shownRole_self, merged_eq_shown_iff,
      ← LocalAdaptor.addRole_shownRole_self] at kept
    refine coherent.iff_of_roles (permissionSource_of_permissions
      (manager.adaptor.addRole_permissions role)) rfl ?_
    refine (Cache.coherent_congr (view.trans (manager.roleCache.view_add _ role.name role))).trans ?_
    exact (iff_of_eq (congrArg _ source)).trans kept
  | removeRole roleName =>
    have view : (RoleManager.removeRole manager roleName).roleView.value =
        (manager.roleView.delete roleName).value := by
      rw [roleView, RoleManager.removeRole, LocalAdaptor.removeRole_memory]
      exact manager.roleCache.view_delete _ roleName
    have kept := coherent.roles.delete roleName none
    refine coherent.iff_of_roles (permissionSource_of_permissions
      (manager.adaptor.removeRole_permissions roleName)) rfl (iff_true_intro ?_)
    rw [roleSource, ← manager.adaptor.removeRole_shownRole roleName] at kept
    exact (Cache.coherent_congr view).mpr kept
  | addRolePermissions roleName permissions =>
    have appends := manager.adaptor.addRolePermissions_appends roleName permissions
    have source := appended_roleSource placed appends sparing
    have kept := coherent.roles.update_iff roleName
      ((manager.adaptor.addRolePermissions roleName permissions).shownRole roleName)
    refine coherent.iff_of_roles (permissionSource_of_permissions
      (manager.adaptor.addRolePermissions_permissions roleName permissions)) rfl ?_
    refine (Cache.coherent_congr (appended_roleView placed appends sparing)).trans ?_
    refine (iff_of_eq (congrArg _ source)).trans (kept.trans ?_)
    rw [appends.shownRole_self (fun missing =>
      LocalAdaptor.addRolePermissions_missing missing permissions)]
    exact doubled_iff placed coherent roleName
  | removeRolePermissions roleName permissions =>
    change Coherent { manager with adaptor := _ } ↔ True
    rw [LocalAdaptor.removeRolePermissions_eq]
    exact iff_true_intro coherent
  | addPermission permission =>
    have kept := coherent.permissions.update_iff
      (manager.adaptor.numbered permission).permissionId
      (some (manager.adaptor.numbered permission))
    rw [← addPermission_permissionSource] at kept
    refine coherent.iff_of_permissions rfl rfl
      (kept.trans (forall_congr' (fun cached => imp_congr_right (fun _ => ?_))))
    rw [Option.some_inj, eq_comm]
  | removePermission permId =>
    have kept := coherent.permissions.delete permId none
    rw [← removePermission_permissionSource] at kept
    exact coherent.iff_of_permissions rfl rfl (iff_true_intro kept)
  | getRole roleName =>
    have cache := getRole_permissionCache manager roleName
    have adaptor := @getRole_adaptor manager roleName
    have source := congrArg LocalAdaptor.permissions adaptor
    refine coherent.iff_of_roles (permissionSource_of_permissions source) cache (iff_true_intro ?_)
    refine (Cache.coherent_congr (getRole_through manager roleName).2).mpr ?_
    change Cache.Coherent _ (RoleManager.getRole manager roleName).2.adaptor.shownRole
    rw [adaptor]
    exact coherent.roles.through roleName
  | getPermission permId =>
    change (getPermission manager permId).2.Coherent ↔ True
    rw [(getPermission_through manager permId).2]
    exact iff_true_intro ⟨coherent.roles, coherent.permissions.through permId⟩
  | expireRole roleName =>
    exact iff_true_intro ⟨(Cache.coherent_congr (manager.roleCache.view_delete _ roleName)).mpr
      (coherent.roles.expire roleName), coherent.permissions⟩
  | expirePermission permId =>
    exact iff_true_intro ⟨coherent.roles, coherent.permissions.expire permId⟩

theorem coherent_initial (memory : Memory GoString) : (newSecurityManager memory).Coherent :=
  ⟨Cache.coherent_empty _, Cache.coherent_empty _⟩

theorem placed_initial (memory : Memory GoString) : (newSecurityManager memory).Placed :=
  ⟨fun _ _ stored => (nomatch stored), fun _ _ held => (nomatch held)⟩

/-- In a run that disturbs no slice, the caches are transparent at every moment
exactly when all calls are careful. -/
theorem transparent_throughout_iff (memory : Memory GoString) (calls : List ManagerCall)
    (sparing : (managers memory).Allowed Sparing (newSecurityManager memory) calls) :
    (managers memory).Throughout Transparent (newSecurityManager memory) calls ↔
      (managers memory).Allowed Careful (newSecurityManager memory) calls := by
  refine @Machine.throughout_iff_allowed_given _ _ (managers memory) Placed Transparent Sparing
    Careful ?_ ?_ (fun _ _ stuck => nomatch stuck) _ (placed_initial memory)
    ((transparent_iff_coherent _).mpr (coherent_initial memory)) _ sparing
  · intro manager call next placed sparing _ taken
    cases taken
    exact perform_placed placed sparing
  · intro manager call next placed transparent sparing taken
    cases taken
    rw [transparent_iff_coherent] at transparent ⊢
    exact perform_coherent_iff placed transparent sparing

def threeArrays : Memory GoString := .ofList [[], [], ascii "1", ascii "2"]

def roomForTwo : Slice := ⟨0, 0, 2, Nat.zero_le 2⟩

def oneId (start : Nat) : Slice := .full start 1

def filledRole : List ManagerCall :=
  [.addRole ⟨ascii "operator", roomForTwo⟩, .addRole ⟨ascii "operator", oneId 2⟩]

theorem filled_role_transparent : (managers threeArrays).Throughout Transparent
    (newSecurityManager threeArrays) filledRole := by
  refine (transparent_throughout_iff threeArrays filledRole ?_).mpr ?_
  · refine ⟨⟨by decide, ?_, ?_⟩, ⟨by decide, ?_, ?_⟩, True.intro⟩
    · exact fun name other _ stored => nomatch stored
    · exact fun name other _ role stored => nomatch stored
    · intro name other different stored
      change (AList.insert (ascii "operator") (⟨ascii "operator", roomForTwo⟩ : Role)
        (∅ : AList (fun _ : GoString => Role))).lookup name = some other at stored
      rw [AList.lookup_insert_ne different] at stored
      cases stored
    · intro name cached held role found
      change (Cache.add (Cache.add .empty (ascii "operator") ⟨ascii "operator", roomForTwo⟩)
        (ascii "operator") ⟨ascii "operator", oneId 2⟩).value name = some cached at held
      rw [Cache.value_add, Cache.value_add, Function.update_idem] at held
      by_cases same : name = ascii "operator"
      · rw [same, Function.update_self] at held
        cases held
        cases found
        rintro _ (_ | i) value given shown
        · exact absurd shown.1 (by decide)
        · cases given
      · rw [Function.update_of_ne same] at held
        cases held
  · refine ⟨fun stored found => (nomatch found), fun stored found => ?_, True.intro⟩
    cases found
    rfl

def extendedRole : List ManagerCall :=
  [.addRole ⟨ascii "operator", oneId 2⟩, .addRole ⟨ascii "operator", oneId 3⟩]

/-- After it, the role manager answers the second role and the adaptor has
merged the two. -/
theorem extended_role_is_stale :
    ¬ (managers threeArrays).Throughout Transparent (newSecurityManager threeArrays)
      extendedRole := by
  intro along
  have stale := along.2.2.roles (ascii "operator")
  exact absurd stale (by decide +kernel)

end Runs

end SecurityManager

end Shiro
end Sentel
