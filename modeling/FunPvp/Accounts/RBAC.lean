/-
# Permissions of an account

An account has permissions that are granted and permissions that are denied, and a permission may
be linked to others, which come with it. `RBACData` keeps both sets and the permissions that
follow, `_globalPerms`, which is what `HasPermission` looks at: those that come with the granted
ones, less those that come with the denied ones.

Linked permissions need not exist, and links may go round in a circle. `ExpandPermissions` is the
worklist of `Lib/Worklist.lean`. Granting, denying and revoking compute `_globalPerms` again if
they are for a realm; without one they are steps of loading, at whose end it is computed.
-/
import FunPvp.Lib.Run
import FunPvp.Lib.Worklist

namespace FunPvp.Accounts

open FunPvp.Lib

/-! ## 1. The source -/

inductive RBACCommandResult
  | RBAC_OK
  | RBAC_CANT_ADD_ALREADY_ADDED
  | RBAC_CANT_REVOKE_NOT_IN_LIST
  | RBAC_IN_GRANTED_LIST
  | RBAC_IN_DENIED_LIST
  | RBAC_ID_DOES_NOT_EXISTS
deriving DecidableEq

open RBACCommandResult

/-- A `std::set<uint32>`. -/
abbrev RBACPermissionContainer := OrderedSet ℕ

structure RBACPermission where
  id : ℕ
  linkedPermissions : RBACPermissionContainer

/-- What `LoadRBAC` has read. -/
structure AccountMgr where
  permissions : List RBACPermission
  defaultPermissions : UInt8 → RBACPermissionContainer

def AccountMgr.getRBACPermission (m : AccountMgr) (permissionId : ℕ) : Option RBACPermission :=
  m.permissions.find? (·.id = permissionId)

def AccountMgr.links (m : AccountMgr) : Links ℕ where
  links permissionId := (m.getRBACPermission permissionId).map (·.linkedPermissions.elems)
  nodes := (m.permissions.map RBACPermission.id).toFinset
  mem_nodes x l h := by
    obtain ⟨permission, hfind, -⟩ := Option.map_eq_some_iff.mp h
    have hid := List.find?_some (p := fun permission : RBACPermission => permission.id = x) hfind
    have hmem := List.mem_of_find?_eq_some hfind
    exact List.mem_toFinset.mpr (List.mem_map.mpr ⟨permission, hmem, of_decide_eq_true hid⟩)

structure RBACData where
  secLevel : UInt8
  grantedPerms : RBACPermissionContainer
  deniedPerms : RBACPermissionContainer
  globalPerms : RBACPermissionContainer

namespace RBACData

def start (secLevel : UInt8) : RBACData := ⟨secLevel, .empty, .empty, .empty⟩

/-- `toCheck` is a copy of the permissions, which are cleared and filled again. -/
def expandPermissions (m : AccountMgr) (permissions : RBACPermissionContainer) :
    RBACPermissionContainer :=
  Worklist.close m.links (.start permissions)

def removePermissions (permsFrom permsToRemove : RBACPermissionContainer) :
    RBACPermissionContainer :=
  permsToRemove.elems.foldl OrderedSet.erase permsFrom

def calculateNewPermissions (m : AccountMgr) (d : RBACData) : RBACData :=
  { d with
    globalPerms :=
      removePermissions (expandPermissions m d.grantedPerms) (expandPermissions m d.deniedPerms) }

/-- The end of a command that has changed something: it is for a realm, or part of loading. -/
def commit (m : AccountMgr) (realmId : ℤ) (d : RBACData) : RBACData :=
  if realmId ≠ 0 then d.calculateNewPermissions m else d

def grantPermission (m : AccountMgr) (d : RBACData) (permissionId : ℕ) (realmId : ℤ) :
    RBACCommandResult × RBACData :=
  match m.getRBACPermission permissionId with
  | none => (RBAC_ID_DOES_NOT_EXISTS, d)
  | some _ =>
    if permissionId ∈ d.deniedPerms then (RBAC_IN_DENIED_LIST, d)
    else if permissionId ∈ d.grantedPerms then (RBAC_CANT_ADD_ALREADY_ADDED, d)
    else
      (RBAC_OK,
        commit m realmId { d with grantedPerms := d.grantedPerms.insert permissionId })

def denyPermission (m : AccountMgr) (d : RBACData) (permissionId : ℕ) (realmId : ℤ) :
    RBACCommandResult × RBACData :=
  match m.getRBACPermission permissionId with
  | none => (RBAC_ID_DOES_NOT_EXISTS, d)
  | some _ =>
    if permissionId ∈ d.grantedPerms then (RBAC_IN_GRANTED_LIST, d)
    else if permissionId ∈ d.deniedPerms then (RBAC_CANT_ADD_ALREADY_ADDED, d)
    else
      (RBAC_OK,
        commit m realmId { d with deniedPerms := d.deniedPerms.insert permissionId })

def revokePermission (m : AccountMgr) (d : RBACData) (permissionId : ℕ) (realmId : ℤ) :
    RBACCommandResult × RBACData :=
  if permissionId ∉ d.grantedPerms ∧ permissionId ∉ d.deniedPerms then
    (RBAC_CANT_REVOKE_NOT_IN_LIST, d)
  else
    (RBAC_OK,
      commit m realmId
        { d with
          grantedPerms := d.grantedPerms.erase permissionId
          deniedPerms := d.deniedPerms.erase permissionId })

def clearData (d : RBACData) : RBACData :=
  { d with grantedPerms := .empty, deniedPerms := .empty, globalPerms := .empty }

def loadRow (m : AccountMgr) (d : RBACData) (row : ℕ × Bool) : RBACData :=
  if row.2 then (d.grantPermission m row.1 0).2 else (d.denyPermission m row.1 0).2

/-- `LoadFromDBCallback`: the rows, and then the default permissions of the security level. -/
def loadFromDBCallback (m : AccountMgr) (d : RBACData) (rows : List (ℕ × Bool)) : RBACData :=
  let d := rows.foldl (loadRow m) d
  let permissions := m.defaultPermissions d.secLevel
  let d := permissions.elems.foldl (fun d permissionId => (d.grantPermission m permissionId 0).2) d
  d.calculateNewPermissions m

def loadFromDB (m : AccountMgr) (d : RBACData) (rows : List (ℕ × Bool)) : RBACData :=
  d.clearData.loadFromDBCallback m rows

def setSecurityLevel (m : AccountMgr) (d : RBACData) (id : UInt8) (rows : List (ℕ × Bool)) :
    RBACData :=
  { d with secLevel := id }.loadFromDB m rows

def hasPermission (d : RBACData) (permission : ℕ) : Bool := decide (permission ∈ d.globalPerms)

end RBACData

/-! ## 2. Runs -/

/-- What the commands take for a realm: -1 is every realm, and 0 is refused. -/
abbrev RealmId := { realmId : ℤ // realmId ≠ 0 }

/-- What happens to the permissions of an account. The rows are whatever the database has. -/
inductive RBACEvent
  | loadFromDB (rows : List (ℕ × Bool))
  | loadFromDBAsync
  | loadFromDBCallback (rows : List (ℕ × Bool))
  | setSecurityLevel (id : UInt8) (rows : List (ℕ × Bool))
  | grantPermission (permissionId : ℕ) (realmId : RealmId)
  | denyPermission (permissionId : ℕ) (realmId : RealmId)
  | revokePermission (permissionId : ℕ) (realmId : RealmId)

namespace RBACData

def step (m : AccountMgr) (d : RBACData) : RBACEvent → RBACData
  | .loadFromDB rows => d.loadFromDB m rows
  | .loadFromDBAsync => d.clearData
  | .loadFromDBCallback rows => d.loadFromDBCallback m rows
  | .setSecurityLevel id rows => d.setSecurityLevel m id rows
  | .grantPermission permissionId realmId => (d.grantPermission m permissionId realmId).2
  | .denyPermission permissionId realmId => (d.denyPermission m permissionId realmId).2
  | .revokePermission permissionId realmId => (d.revokePermission m permissionId realmId).2

/-! ## 3. What the account may do -/

def Separate (d : RBACData) : Prop := ∀ p ∈ d.grantedPerms, p ∉ d.deniedPerms

/-- The account has what is reached from the granted permissions and not from the denied ones. -/
def Current (m : AccountMgr) (d : RBACData) : Prop :=
  ∀ p, d.hasPermission p ↔
    m.links.Reached (· ∈ d.grantedPerms) p ∧ ¬m.links.Reached (· ∈ d.deniedPerms) p

def Effective (m : AccountMgr) (d : RBACData) : Prop := d.Separate ∧ d.Current m

section Effective

variable {m : AccountMgr} {d : RBACData} {permissionId : ℕ} {realmId : ℤ}

theorem mem_removePermissions {permsFrom permsToRemove : RBACPermissionContainer} {p : ℕ} :
    p ∈ removePermissions permsFrom permsToRemove ↔ p ∈ permsFrom ∧ p ∉ permsToRemove := by
  have hfold (l : List ℕ) (s : RBACPermissionContainer) :
      p ∈ l.foldl OrderedSet.erase s ↔ p ∈ s ∧ p ∉ l := by
    induction l generalizing s with
    | nil => simp
    | cons q l ih =>
      rw [List.foldl_cons, ih, OrderedSet.mem_erase, List.mem_cons, not_or]
      tauto
  exact hfold permsToRemove.elems permsFrom

theorem calculateNewPermissions_current (m : AccountMgr) (d : RBACData) :
    (d.calculateNewPermissions m).Current m := by
  intro p
  refine decide_eq_true_iff.trans (mem_removePermissions.trans ?_)
  exact and_congr (Worklist.mem_close _ _ p) (not_congr (Worklist.mem_close _ _ p))

theorem Separate.commit (hd : d.Separate) : (d.commit m realmId).Separate := by
  rw [RBACData.commit]
  split <;> exact hd

theorem commit_current (hrealm : realmId ≠ 0) : (d.commit m realmId).Current m := by
  rw [commit, if_pos hrealm]
  exact calculateNewPermissions_current m d

theorem Separate.grantPermission (hd : d.Separate) :
    (d.grantPermission m permissionId realmId).2.Separate := by
  rw [RBACData.grantPermission]
  cases m.getRBACPermission permissionId with
  | none => exact hd
  | some permission =>
    dsimp only
    split
    · exact hd
    · next hdenied =>
      split
      · exact hd
      · refine Separate.commit fun p hp => ?_
        rcases OrderedSet.mem_insert.mp hp with rfl | hp
        · exact hdenied
        · exact hd p hp

theorem Separate.denyPermission (hd : d.Separate) :
    (d.denyPermission m permissionId realmId).2.Separate := by
  rw [RBACData.denyPermission]
  cases m.getRBACPermission permissionId with
  | none => exact hd
  | some permission =>
    dsimp only
    split
    · exact hd
    · next hgranted =>
      split
      · exact hd
      · refine Separate.commit fun p hp hmem => ?_
        rcases OrderedSet.mem_insert.mp hmem with rfl | hmem
        · exact hgranted hp
        · exact hd p hp hmem

theorem Separate.revokePermission (hd : d.Separate) :
    (d.revokePermission m permissionId realmId).2.Separate := by
  rw [RBACData.revokePermission]
  split
  · exact hd
  · refine Separate.commit fun p hp hmem => ?_
    exact hd p (OrderedSet.mem_of_mem_erase hp) (OrderedSet.mem_of_mem_erase hmem)

theorem Current.grantPermission (hd : d.Current m) (hrealm : realmId ≠ 0) :
    (d.grantPermission m permissionId realmId).2.Current m := by
  rw [RBACData.grantPermission]
  cases m.getRBACPermission permissionId with
  | none => exact hd
  | some permission =>
    dsimp only
    split
    · exact hd
    · split
      · exact hd
      · exact commit_current hrealm

theorem Current.denyPermission (hd : d.Current m) (hrealm : realmId ≠ 0) :
    (d.denyPermission m permissionId realmId).2.Current m := by
  rw [RBACData.denyPermission]
  cases m.getRBACPermission permissionId with
  | none => exact hd
  | some permission =>
    dsimp only
    split
    · exact hd
    · split
      · exact hd
      · exact commit_current hrealm

theorem Current.revokePermission (hd : d.Current m) (hrealm : realmId ≠ 0) :
    (d.revokePermission m permissionId realmId).2.Current m := by
  rw [RBACData.revokePermission]
  split
  · exact hd
  · exact commit_current hrealm

theorem Separate.loadRow (hd : d.Separate) (row : ℕ × Bool) : (d.loadRow m row).Separate := by
  rw [RBACData.loadRow]
  split
  · exact hd.grantPermission
  · exact hd.denyPermission

theorem Separate.loadFromDBCallback (hd : d.Separate) (rows : List (ℕ × Bool)) :
    (d.loadFromDBCallback m rows).Effective m := by
  refine ⟨?_, calculateNewPermissions_current m _⟩
  have hrows : (rows.foldl (RBACData.loadRow m) d).Separate :=
    List.foldlRecOn rows _ hd fun d hd row _ => hd.loadRow row
  exact List.foldlRecOn _ (fun d permissionId => (d.grantPermission m permissionId 0).2) hrows
    fun d hd _ _ => hd.grantPermission

theorem clearData_effective (m : AccountMgr) (d : RBACData) : d.clearData.Effective m := by
  refine ⟨fun p hp => absurd hp (OrderedSet.not_mem_empty p), fun p => ?_⟩
  refine decide_eq_true_iff.trans (iff_of_false (OrderedSet.not_mem_empty p) ?_)
  rintro ⟨⟨-, a, ha, -⟩, -⟩
  exact OrderedSet.not_mem_empty a ha

theorem Effective.step (hd : d.Effective m) (e : RBACEvent) : (d.step m e).Effective m := by
  cases e with
  | loadFromDB rows => exact (clearData_effective m d).1.loadFromDBCallback rows
  | loadFromDBAsync => exact clearData_effective m d
  | loadFromDBCallback rows => exact hd.1.loadFromDBCallback rows
  | setSecurityLevel id rows =>
    exact (clearData_effective m { d with secLevel := id }).1.loadFromDBCallback rows
  | grantPermission permissionId realmId =>
    exact ⟨hd.1.grantPermission, hd.2.grantPermission realmId.2⟩
  | denyPermission permissionId realmId =>
    exact ⟨hd.1.denyPermission, hd.2.denyPermission realmId.2⟩
  | revokePermission permissionId realmId =>
    exact ⟨hd.1.revokePermission, hd.2.revokePermission realmId.2⟩

end Effective

/-- **Whatever is loaded, granted, denied and revoked, in whatever order**: nothing is granted and
denied, and the account has the existing permissions that come with the granted ones, less those
that come with the denied ones. -/
theorem exec_effective (m : AccountMgr) (secLevel : UInt8) (evs : List RBACEvent) :
    States (step m) (Effective m) (start secLevel) evs :=
  States.of_steps (C := fun _ _ => True) (fun _ e hd _ => hd.step e)
    (clearData_effective m (start secLevel)) (Steps.of_forall (fun _ _ => trivial) evs)

end RBACData

end FunPvp.Accounts
