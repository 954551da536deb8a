import Mathlib.Algebra.GroupWithZero.Nat
import Sentel.Shiro.SecurityManager

namespace Sentel
namespace Shiro

open Library SecurityManager

/-!
# Principals do not interfere

What the adaptor is for is a ledger: every principal has a list of grants, and a
call for a principal changes the grants of that principal only.  The adaptor
does not keep such a ledger.  It keeps one table of permissions for everybody,
and removals write to it.  The two agree as long as a number is never used for
two permissions, which the counter guarantees until it has run through all of
its values.
-/

structure Grant where
  resources : List GoString
  actions : GoString
  deriving DecidableEq

def Permission.grant (permission : Permission) : Grant :=
  ⟨permission.resources, permission.actions⟩

def Grant.implies (grant : Grant) (resource action : GoString) : Bool :=
  (newPermission grant.actions grant.resources).implies resource action

/-! ## The ledger -/

abbrev Ledger : Type := GoString -> List Grant

def PrincipalCall.name : PrincipalCall -> GoString
  | .addPrincipalPermissions principal _ => principal.principalName
  | .removePrincipalPermissions _ principal _ => principal.principalName
  | .removePrincipal principal => principal.principalName

namespace Ledger

def empty : Ledger := fun _ => []

def answer (grants : List Grant) : PrincipalCall -> List Grant
  | .addPrincipalPermissions _ permissions => grants ++ permissions.map Permission.grant
  | .removePrincipalPermissions _ _ _ => grants
  | .removePrincipal _ => []

def apply (ledger : Ledger) (call : PrincipalCall) : Ledger :=
  Function.update ledger call.name (answer (ledger call.name) call)

def callsFor (name : GoString) (calls : List PrincipalCall) : List PrincipalCall :=
  calls.filter (fun call => call.name == name)

theorem foldl_apply_callsFor (name : GoString) (calls : List PrincipalCall)
    {first second : Ledger} (same : first name = second name) :
    calls.foldl apply first name = (callsFor name calls).foldl apply second name := by
  induction calls generalizing first second with
  | nil => exact same
  | cons call rest ih =>
    by_cases own : call.name = name
    · have kept : callsFor name (call :: rest) = call :: callsFor name rest :=
        List.filter_cons_of_pos (by rw [own, beq_self_eq_true])
      rw [kept]
      apply ih
      rw [apply, apply, ← own, Function.update_self, Function.update_self, own, same]
    · have dropped : callsFor name (call :: rest) = callsFor name rest :=
        List.filter_cons_of_neg (by rwa [beq_iff_eq])
      rw [dropped]
      apply ih
      rw [apply, Function.update_of_ne (Ne.symm own)]
      exact same

end Ledger

/-! ## Numbers are used once -/

def PrincipalCall.created : PrincipalCall -> List Permission
  | .addPrincipalPermissions _ permissions => permissions
  | .removePrincipalPermissions _ _ _ => []
  | .removePrincipal _ => []

/-- The caller leaves the identifiers to the adaptor. -/
def PrincipalCall.Anonymous (call : PrincipalCall) : Prop :=
  forall permission, permission ∈ call.created -> permission.permissionId = []

/-- The number of permissions that a sequence of calls creates. -/
def createdBy (calls : List PrincipalCall) : Nat :=
  (calls.map (fun call => call.created.length)).sum

namespace LocalAdaptor

structure Numbered (adaptor : LocalAdaptor) (created : Nat) : Prop where
  keyed : adaptor.Keyed
  index : adaptor.permIndex = UInt64.ofNat (created + 1)
  stored : forall permId permission, adaptor.permissions.lookup permId = some permission ->
    exists number, number ≤ created ∧ permId = decimal number

def Extends (before after : LocalAdaptor) : Prop :=
  forall permId permission, before.permissions.lookup permId = some permission ->
    after.permissions.lookup permId = some permission

def Held (adaptor : LocalAdaptor) (permIds : List GoString) : Prop :=
  forall permId, permId ∈ permIds ->
    exists permission, adaptor.permissions.lookup permId = some permission

theorem Held.extend {before after : LocalAdaptor} {permIds : List GoString}
    (held : before.Held permIds) (extended : before.Extends after) : after.Held permIds := by
  intro permId member
  rcases held permId member with ⟨permission, stored⟩
  exact ⟨permission, extended permId permission stored⟩

theorem getPermissions_extend {before after : LocalAdaptor} {permIds : List GoString}
    (held : before.Held permIds) (extended : before.Extends after) :
    after.getPermissions permIds = before.getPermissions permIds := by
  rw [getPermissions, getPermissions]
  apply List.filterMap_congr
  intro permId member
  rcases held permId member with ⟨permission, stored⟩
  rw [stored]
  exact extended permId permission stored

namespace Numbered

variable {adaptor : LocalAdaptor} {created : Nat}

theorem initial (memory : Memory GoString) : (newLocalAdaptor memory).Numbered 0 :=
  ⟨.initial memory, rfl, fun _ _ stored => nomatch stored⟩

theorem fresh (numbered : adaptor.Numbered created) (few : created + 1 < 2 ^ 64) :
    adaptor.permissions.lookup (decimal adaptor.permIndex.toNat) = none := by
  cases found : adaptor.permissions.lookup (decimal adaptor.permIndex.toNat) with
  | none => rfl
  | some permission =>
    rcases numbered.stored _ permission found with ⟨number, small, same⟩
    have equal := decimal_injective same
    rw [numbered.index, UInt64.toNat_ofNat_of_lt' few] at equal
    omega

theorem storePermission (numbered : adaptor.Numbered created) (few : created + 1 < 2 ^ 64)
    {permission : Permission} (anonymous : permission.permissionId = []) :
    (adaptor.storePermission permission).Numbered (created + 1) ∧
      adaptor.Extends (adaptor.storePermission permission) := by
  have number : (adaptor.numbered permission).permissionId = decimal (created + 1) := by
    rw [numbered_of_fresh anonymous, numbered.index, UInt64.toNat_ofNat_of_lt' few]
  have unused := numbered.fresh few
  rw [numbered.index, UInt64.toNat_ofNat_of_lt' few] at unused
  refine ⟨⟨numbered.keyed.storePermission permission, ?_, ?_⟩, ?_⟩
  · rw [LocalAdaptor.storePermission, if_pos anonymous, numbered.index]
    exact (UInt64.ofNat_add (created + 1) 1).symm
  · intro permId found stored
    by_cases same : permId = (adaptor.numbered permission).permissionId
    · exact ⟨created + 1, Nat.le_refl _, same.trans number⟩
    · rw [LocalAdaptor.storePermission, AList.lookup_insert_ne same] at stored
      rcases numbered.stored permId found stored with ⟨older, small, equal⟩
      exact ⟨older, by omega, equal⟩
  · intro permId found stored
    have different : permId ≠ (adaptor.numbered permission).permissionId := by
      intro same
      rw [same, number, unused] at stored
      cases stored
    rw [LocalAdaptor.storePermission, AList.lookup_insert_ne different]
    exact stored

theorem addPermissions (numbered : adaptor.Numbered created) {permissions : List Permission}
    (few : created + permissions.length < 2 ^ 64)
    (anonymous : forall permission, permission ∈ permissions -> permission.permissionId = []) :
    let added := adaptor.addPermissions permissions
    added.2.Numbered (created + permissions.length) ∧ adaptor.Extends added.2 ∧
      added.2.Held added.1 ∧
      (added.2.getPermissions added.1).map Permission.grant =
        permissions.map Permission.grant := by
  induction permissions generalizing adaptor created with
  | nil => exact ⟨numbered, fun _ _ => id, fun _ member => absurd member List.not_mem_nil, rfl⟩
  | cons permission rest ih =>
    rw [List.length_cons] at few
    rcases numbered.storePermission (by omega) (anonymous permission List.mem_cons_self)
      with ⟨next, extendsFirst⟩
    have later := @ih (adaptor.storePermission permission) (created + 1) next (by omega)
      (fun other member => anonymous other (List.mem_cons_of_mem _ member))
    rcases later with ⟨last, extendsRest, held, grants⟩
    have here : ((adaptor.storePermission permission).addPermissions rest).2.permissions.lookup
        (adaptor.numbered permission).permissionId = some (adaptor.numbered permission) :=
      extendsRest _ _ (AList.lookup_insert _)
    have grant : (adaptor.numbered permission).grant = permission.grant := by
      rw [numbered_of_fresh (anonymous permission List.mem_cons_self)]
      rfl
    refine ⟨?_, fun permId found stored => extendsRest _ _ (extendsFirst permId found stored),
      ?_, ?_⟩
    · rw [List.length_cons, Nat.add_comm rest.length, ← Nat.add_assoc]
      exact last
    · intro permId member
      rcases List.mem_cons.mp member with rfl | member
      · exact ⟨_, here⟩
      · exact held permId member
    · rw [LocalAdaptor.addPermissions, getPermissions, List.filterMap_cons, here]
      rw [List.map_cons, List.map_cons, grant]
      exact congrArg _ grants

end Numbered

end LocalAdaptor

/-! ## The adaptor keeps the ledger -/

structure Represents (adaptor : LocalAdaptor) (created : Nat) (ledger : Ledger) : Prop where
  numbered : adaptor.Numbered created
  held : forall principal, adaptor.Held (adaptor.permIdsOf principal)
  grants : forall principal,
    (adaptor.getPrincipalPermissions principal).map Permission.grant =
      ledger principal.principalName

namespace Represents

variable {adaptor : LocalAdaptor} {created : Nat} {ledger : Ledger}

theorem initial (memory : Memory GoString) : Represents (newLocalAdaptor memory) 0 .empty :=
  ⟨.initial memory, fun _ _ member => absurd member List.not_mem_nil, fun _ => rfl⟩

theorem extend (represents : Represents adaptor created ledger) {after : LocalAdaptor} {later : Nat}
    (numbered : after.Numbered later) (extended : adaptor.Extends after)
    (lists : after.principalPermissions = adaptor.principalPermissions) :
    Represents after later ledger := by
  have same : forall principal, after.permIdsOf principal = adaptor.permIdsOf principal := by
    intro principal
    rw [LocalAdaptor.permIdsOf, LocalAdaptor.permIdsOf, lists]
  refine ⟨numbered, ?_, ?_⟩
  · intro principal
    rw [same]
    exact (represents.held principal).extend extended
  · intro principal
    rw [LocalAdaptor.getPrincipalPermissions_eq, same,
      LocalAdaptor.getPermissions_extend (represents.held principal) extended,
      ← LocalAdaptor.getPrincipalPermissions_eq]
    exact represents.grants principal

theorem assign (represents : Represents adaptor created ledger) (principal : Principal)
    {permIds : List GoString} (held : adaptor.Held permIds) :
    Represents (adaptor.assign principal permIds) created
      (Function.update ledger principal.principalName
        ((adaptor.getPermissions permIds).map Permission.grant)) := by
  refine ⟨⟨represents.numbered.keyed.assign principal permIds, represents.numbered.index,
    represents.numbered.stored⟩, ?_, ?_⟩
  · intro other
    rw [LocalAdaptor.permIdsOf_assign]
    split
    · exact held
    · exact represents.held other
  · intro other
    rw [LocalAdaptor.getPrincipalPermissions_eq, LocalAdaptor.permIdsOf_assign,
      LocalAdaptor.getPermissions_assign]
    by_cases same : other.principalName = principal.principalName
    · rw [if_pos same, same, Function.update_self]
    · rw [if_neg same, Function.update_of_ne same, ← LocalAdaptor.getPrincipalPermissions_eq]
      exact represents.grants other

theorem enter (represents : Represents adaptor created ledger) (principal : Principal) :
    Represents (adaptor.enter principal) created ledger := by
  rw [LocalAdaptor.enter]
  cases found : adaptor.principalPermissions.lookup principal.principalName with
  | some permIds => exact represents
  | none =>
    have none : ledger principal.principalName = [] := by
      rw [← represents.grants principal, LocalAdaptor.getPrincipalPermissions, found]
      rfl
    have entered := represents.assign principal
      (fun _ member => absurd member List.not_mem_nil : adaptor.Held [])
    have same : Function.update ledger principal.principalName [] = ledger := by
      rw [← none]
      exact Function.update_eq_self _ ledger
    rw [← same]
    exact entered

theorem addPrincipalPermissions (represents : Represents adaptor created ledger)
    (principal : Principal) {permissions : List Permission}
    (few : created + permissions.length < 2 ^ 64)
    (anonymous : forall permission, permission ∈ permissions -> permission.permissionId = []) :
    Represents (adaptor.addPrincipalPermissions principal permissions)
      (created + permissions.length)
      (ledger.apply (.addPrincipalPermissions principal permissions)) := by
  have entered := represents.enter principal
  rcases entered.numbered.addPermissions few anonymous with ⟨numbered, extended, held, grants⟩
  have grown := entered.extend numbered extended
    (LocalAdaptor.addPermissions_principalPermissions _ permissions)
  have own := grown.grants principal
  rw [LocalAdaptor.getPrincipalPermissions_eq] at own
  rw [LocalAdaptor.addPrincipalPermissions, LocalAdaptor.addPermissions_length]
  split
  · -- the new identifiers follow the ones that the principal holds
    have both := grown.assign principal (List.forall_mem_append.mpr ⟨grown.held principal, held⟩)
    rw [LocalAdaptor.getPermissions, List.filterMap_append, List.map_append] at both
    rw [LocalAdaptor.getPermissions] at own grants
    rw [own, grants] at both
    exact both
  · rename_i none
    have empty : permissions = [] := List.length_eq_zero_iff.mp (Nat.eq_zero_of_not_pos none)
    subst empty
    have same : ledger.apply (.addPrincipalPermissions principal []) = ledger := by
      rw [Ledger.apply, Ledger.answer, List.map_nil, List.append_nil]
      exact Function.update_eq_self _ ledger
    rw [same]
    exact grown

theorem removePrincipalPermissions (represents : Represents adaptor created ledger)
    (range : MapOrder GoString) (principal : Principal) (permissions : List Permission) :
    Represents (adaptor.removePrincipalPermissions range principal permissions) created
      (ledger.apply (.removePrincipalPermissions range principal permissions)) := by
  have keyed := represents.numbered.keyed
  have relisted := LocalAdaptor.removePrincipalPermissions_relisted keyed range principal permissions
  have same : ledger.apply (.removePrincipalPermissions range principal permissions) = ledger :=
    Function.update_eq_self _ ledger
  rw [same]
  refine ⟨⟨keyed.removePrincipalPermissions range principal permissions, ?_, ?_⟩, ?_, ?_⟩
  · rw [relisted.index]
    exact represents.numbered.index
  · intro permId permission stored
    rw [relisted.table] at stored
    exact represents.numbered.stored permId permission stored
  · intro other permId member
    rw [relisted.table]
    rcases relisted.lists other with lists | lists
    · rw [lists] at member
      exact represents.held other permId member
    · rw [lists] at member
      rcases List.mem_map.mp member with ⟨permission, found, rfl⟩
      exact ⟨permission, (keyed.stored_of_mem found).2⟩
  · intro other
    rw [LocalAdaptor.removePrincipalPermissions_keeps keyed]
    exact represents.grants other

theorem removePrincipal (represents : Represents adaptor created ledger) (principal : Principal) :
    Represents (adaptor.removePrincipal principal) created
      (ledger.apply (.removePrincipal principal)) := by
  have lists : forall other, (adaptor.removePrincipal principal).permIdsOf other =
      if other.principalName = principal.principalName then [] else adaptor.permIdsOf other := by
    intro other
    rw [LocalAdaptor.permIdsOf, LocalAdaptor.permIdsOf, LocalAdaptor.removePrincipal]
    by_cases same : other.principalName = principal.principalName
    · rw [if_pos same, same, AList.lookup_erase]
      rfl
    · rw [if_neg same, AList.lookup_erase_ne same]
  refine ⟨⟨represents.numbered.keyed.of_permissions rfl, represents.numbered.index,
    represents.numbered.stored⟩, ?_, ?_⟩
  · intro other permId member
    rw [lists] at member
    split at member
    · cases member
    · exact represents.held other permId member
  · intro other
    rw [LocalAdaptor.getPrincipalPermissions_eq, lists]
    change _ = Function.update ledger principal.principalName [] other.principalName
    by_cases same : other.principalName = principal.principalName
    · rw [if_pos same, same, Function.update_self]
      rfl
    · rw [if_neg same, Function.update_of_ne same, ← represents.grants other,
        LocalAdaptor.getPrincipalPermissions_eq]
      rfl

theorem applyFor {manager : SecurityManager}
    (represents : Represents manager.adaptor created ledger) {call : PrincipalCall}
    (few : created + call.created.length < 2 ^ 64) (anonymous : call.Anonymous) :
    Represents (manager.applyFor call).adaptor (created + call.created.length)
      (ledger.apply call) := by
  cases call with
  | addPrincipalPermissions principal permissions =>
    exact represents.addPrincipalPermissions principal few anonymous
  | removePrincipalPermissions range principal permissions =>
    exact represents.removePrincipalPermissions range principal permissions
  | removePrincipal principal => exact represents.removePrincipal principal

theorem foldl_applyFor {manager : SecurityManager}
    (represents : Represents manager.adaptor created ledger) {calls : List PrincipalCall}
    (few : created + createdBy calls < 2 ^ 64)
    (anonymous : forall call, call ∈ calls -> call.Anonymous) :
    Represents (calls.foldl SecurityManager.applyFor manager).adaptor (created + createdBy calls)
      (calls.foldl Ledger.apply ledger) := by
  induction calls generalizing manager created ledger with
  | nil => exact represents
  | cons call rest ih =>
    rw [createdBy, List.map_cons, List.sum_cons, ← Nat.add_assoc] at few ⊢
    have next := represents.applyFor (Nat.lt_of_le_of_lt (Nat.le_add_right _ _) few)
      (anonymous call List.mem_cons_self)
    exact ih next few (fun other member => anonymous other (List.mem_cons_of_mem _ member))

theorem authorize_eq_ok_iff {manager : SecurityManager}
    (represents : Represents manager.adaptor created ledger) (principal : Principal)
    (resource action : GoString) :
    manager.authorize principal resource action = .ok () ↔
      exists grant, grant ∈ ledger principal.principalName ∧
        grant.implies resource action = true := by
  rw [SecurityManager.authorize_eq_ok_iff, ← represents.grants principal]
  constructor
  · rintro ⟨permission, member, implied⟩
    exact ⟨permission.grant, List.mem_map_of_mem member, implied⟩
  · rintro ⟨grant, member, implied⟩
    rcases List.mem_map.mp member with ⟨permission, found, rfl⟩
    exact ⟨permission, found, implied⟩

end Represents

def afterCalls (calls : List PrincipalCall) : SecurityManager :=
  calls.foldl applyFor (newSecurityManager (.ofList []))

theorem createdBy_callsFor_le (name : GoString) (calls : List PrincipalCall) :
    createdBy (Ledger.callsFor name calls) ≤ createdBy calls := by
  induction calls with
  | nil => exact Nat.le_refl _
  | cons call rest ih =>
    have total : createdBy (call :: rest) = call.created.length + createdBy rest := rfl
    rw [Ledger.callsFor, List.filter_cons, total]
    split
    · exact Nat.add_le_add_left ih _
    · exact Nat.le_trans ih (Nat.le_add_left _ _)

theorem represents_afterCalls {calls : List PrincipalCall}
    (anonymous : forall call, call ∈ calls -> call.Anonymous) (few : createdBy calls < 2 ^ 64) :
    Represents (afterCalls calls).adaptor (0 + createdBy calls)
      (calls.foldl Ledger.apply .empty) :=
  Represents.foldl_applyFor (.initial _) (by rwa [Nat.zero_add]) anonymous

/-- The answers for a principal depend on the calls for it alone. -/
theorem authorize_callsFor (calls : List PrincipalCall)
    (anonymous : forall call, call ∈ calls -> call.Anonymous) (few : createdBy calls < 2 ^ 64)
    (principal : Principal) (resource action : GoString) :
    (afterCalls calls).authorize principal resource action =
      (afterCalls (Ledger.callsFor principal.principalName calls)).authorize
        principal resource action := by
  have whole := represents_afterCalls anonymous few
  have own := @represents_afterCalls (Ledger.callsFor principal.principalName calls)
    (fun call member => anonymous call (List.mem_of_mem_filter member))
    (Nat.lt_of_le_of_lt (createdBy_callsFor_le _ calls) few)
  have same := Ledger.foldl_apply_callsFor principal.principalName calls
    (rfl : Ledger.empty principal.principalName = Ledger.empty principal.principalName)
  apply SecurityManager.authorize_ext
  rw [whole.authorize_eq_ok_iff, own.authorize_eq_ok_iff, same]

def neighbours : List PrincipalCall :=
  [.addPrincipalPermissions ⟨ascii "t"⟩ [newPermission writePermission [ascii "/products/p"]],
    .addPrincipalPermissions ⟨ascii "u"⟩ [newPermission writePermission [ascii "/products/q"]],
    .removePrincipalPermissions .listed ⟨ascii "u"⟩
      [newPermission writePermission [ascii "/products/q"]],
    .removePrincipal ⟨ascii "u"⟩]

theorem neighbour_does_not_interfere :
    (forall call, call ∈ neighbours -> call.Anonymous) ∧ createdBy neighbours < 2 ^ 64 ∧
      (afterCalls neighbours).authorize ⟨ascii "t"⟩ (ascii "/products/p") writePermission =
        (afterCalls (Ledger.callsFor (ascii "t") neighbours)).authorize ⟨ascii "t"⟩
          (ascii "/products/p") writePermission := by
  have anonymous : forall call, call ∈ neighbours -> call.Anonymous := by
    simp [neighbours, PrincipalCall.Anonymous, PrincipalCall.created, newPermission]
  have few : createdBy neighbours < 2 ^ 64 := by decide
  exact ⟨anonymous, few, authorize_callsFor neighbours anonymous few _ _ _⟩

end Shiro
end Sentel
