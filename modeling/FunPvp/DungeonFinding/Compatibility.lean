/-
# What `CheckCompatibility` decides

`Compatible` says when a list of guids goes together: their queue data is there, at most one of
them is a group that is in a dungeon already, and, if they are several, they are not too many
players, nobody is in two of them or ignores another, the roles can be assigned, and there is a
dungeon that all of them selected.

The function finds this out in many steps, and stops at the first that fails. `Checked` says what
can come out of it; everything later is derived from that.
-/
import FunPvp.DungeonFinding.LFGQueue

namespace FunPvp.DungeonFinding

open FunPvp.Groups (ObjectGuid MAXGROUPSIZE)
open LfgCompatibility LfgState

/-! ## 1. Maps of roles -/

def SortedKeys (groles : LfgRolesMap) : Prop := (keys groles).Pairwise (· < ·)

theorem lt_or_eq_or_gt (a b : ObjectGuid) : a < b ∨ a = b ∨ b < a := by
  rw [UInt64.lt_iff_toNat_lt, UInt64.lt_iff_toNat_lt, ← UInt64.toNat_inj]
  omega

theorem guid_lt_trans {a b c : ObjectGuid} (h : a < b) (h' : b < c) : a < c := by
  rw [UInt64.lt_iff_toNat_lt] at *
  omega

theorem ne_of_guid_lt {a b : ObjectGuid} (h : a < b) : a ≠ b := by
  rintro rfl
  rw [UInt64.lt_iff_toNat_lt] at h
  omega

theorem mem_keys_setRole {guid g : ObjectGuid} {role : UInt8} {m : LfgRolesMap} :
    g ∈ keys (setRole guid role m) ↔ g = guid ∨ g ∈ keys m := by
  induction m with
  | nil => simp [setRole, keys]
  | cons e m ih =>
    obtain ⟨k, r⟩ := e
    rw [setRole]
    split
    · next h => subst h; simp [keys]
    · split
      · simp [keys]
      · simp only [keys, List.map_cons, List.mem_cons] at ih ⊢
        rw [ih]
        tauto

theorem SortedKeys.setRole {guid : ObjectGuid} {role : UInt8} {m : LfgRolesMap}
    (h : SortedKeys m) : SortedKeys (setRole guid role m) := by
  induction m with
  | nil => exact List.pairwise_singleton _ _
  | cons e m ih =>
    obtain ⟨k, r⟩ := e
    obtain ⟨hk, hm⟩ := List.pairwise_cons.mp h
    rw [DungeonFinding.setRole]
    split
    · next heq => subst heq; exact h
    · next hne =>
      split
      · next hlt =>
        refine List.pairwise_cons.mpr ⟨fun g hg => ?_, h⟩
        rcases List.mem_cons.mp hg with rfl | hg
        · exact hlt
        · exact guid_lt_trans hlt (hk g hg)
      · next hge =>
        refine List.pairwise_cons.mpr ⟨fun g hg => ?_, ih hm⟩
        rcases mem_keys_setRole.mp hg with rfl | hg
        · exact ((lt_or_eq_or_gt k g).resolve_right (by rintro (rfl | h) <;> contradiction))
        · exact hk g hg

theorem setRole_perm {guid : ObjectGuid} {role : UInt8} {m : LfgRolesMap} (h : guid ∉ keys m) :
    (setRole guid role m).Perm ((guid, role) :: m) := by
  induction m with
  | nil => exact List.Perm.refl _
  | cons e m ih =>
    obtain ⟨k, r⟩ := e
    rw [setRole, if_neg (List.ne_of_not_mem_cons h)]
    split
    · exact List.Perm.refl _
    · exact ((ih (List.not_mem_of_not_mem_cons h)).cons _).trans (List.Perm.swap _ _ _)

theorem length_setRole {guid : ObjectGuid} {role : UInt8} {m : LfgRolesMap} (hm : SortedKeys m)
    (h : guid ∈ keys m) : (setRole guid role m).length = m.length := by
  induction m with
  | nil => cases h
  | cons e m ih =>
    obtain ⟨k, r⟩ := e
    obtain ⟨hk, hm⟩ := List.pairwise_cons.mp hm
    rw [setRole]
    split
    · rfl
    · next hne =>
      have hmem : guid ∈ keys m := (List.mem_cons.mp h).resolve_left hne
      split
      · next hlt => exact absurd rfl (ne_of_guid_lt (guid_lt_trans hlt (hk guid hmem)))
      · rw [List.length_cons, ih hm hmem, List.length_cons]

namespace LFGMgr

variable {s : LFGMgr}

/-! ## 2. Compatible lists -/

/-- All players of a list, with what they selected. -/
def roles (s : LFGMgr) (check : GuidList) : LfgRolesMap :=
  check.flatMap fun guid => (s.queueData guid).roles

def numPlayers (s : LFGMgr) (check : GuidList) : ℕ := (s.roles check).length

def numLfgGroups (s : LFGMgr) (check : GuidList) : ℕ := check.countP s.isLfgGroup

/-- Two different players, neither of whom ignores the other. -/
def Apart (s : LFGMgr) (e e' : ObjectGuid × UInt8) : Prop :=
  e.1 ≠ e'.1 ∧ s.hasIgnore e.1 e'.1 = false

instance (e e' : ObjectGuid × UInt8) : Decidable (s.Apart e e') :=
  inferInstanceAs (Decidable (_ ∧ _))

theorem Apart.symm {e e' : ObjectGuid × UInt8} (h : s.Apart e e') : s.Apart e' e :=
  ⟨h.1.symm, by rw [hasIgnore_comm]; exact h.2⟩

/-- What several guids need to play together. -/
structure Party (s : LFGMgr) (check : GuidList) : Prop where
  size : s.numPlayers check ≤ MAXGROUPSIZE
  somebody : s.roles check ≠ []
  apart : (s.roles check).Pairwise s.Apart
  assignable : Assignable (selections (s.roles check))
  dungeon : ∃ dungeon, ∀ guid ∈ check, dungeon ∈ (s.queueData guid).dungeons

/-- What a list needs to wait for more players, or to be a group. -/
structure Compatible (s : LFGMgr) (check : GuidList) : Prop where
  queued : ∀ guid ∈ check, (s.queueDataStore guid).isSome
  oneGroup : s.numLfgGroups check ≤ 1
  party : 1 < check.length → s.Party check

theorem roles_perm {check check' : GuidList} (h : check.Perm check') :
    (s.roles check).Perm (s.roles check') := h.flatMap_right _

theorem Party.perm {check check' : GuidList} (hp : check.Perm check') (h : s.Party check) :
    s.Party check' where
  size := by rw [numPlayers, ← (roles_perm hp).length_eq]; exact h.size
  somebody := by
    rw [← List.length_pos_iff, ← (roles_perm hp).length_eq]
    exact List.length_pos_iff.mpr h.somebody
  apart := (roles_perm hp).pairwise h.apart fun h => h.symm
  assignable := h.assignable.perm ((roles_perm hp).map Prod.snd)
  dungeon := h.dungeon.imp fun _ hd guid hguid => hd guid (hp.mem_iff.mpr hguid)

theorem Compatible.perm {check check' : GuidList} (hp : check.Perm check')
    (h : s.Compatible check) : s.Compatible check' where
  queued := fun guid hguid => h.queued guid (hp.mem_iff.mpr hguid)
  oneGroup := by rw [numLfgGroups, ← hp.countP_eq]; exact h.oneGroup
  party := fun hlength => (h.party (by rwa [hp.length_eq])).perm hp

@[simp] theorem roles_cons (guid : ObjectGuid) (check : GuidList) :
    s.roles (guid :: check) = (s.queueData guid).roles ++ s.roles check := rfl

@[simp] theorem roles_nil : s.roles [] = [] := rfl

@[simp] theorem roles_append (check check' : GuidList) :
    s.roles (check ++ check') = s.roles check ++ s.roles check' := List.flatMap_append

theorem Party.tail {guid : ObjectGuid} {check : GuidList} (h : s.Party (guid :: check))
    (hsomebody : s.roles check ≠ []) : s.Party check where
  size := by
    have := h.size
    simp only [numPlayers, roles_cons, List.length_append] at this ⊢
    omega
  somebody := hsomebody
  apart := (List.pairwise_append.mp h.apart).2.1
  assignable := by
    have has := h.assignable
    rw [roles_cons, selections, List.map_append] at has
    exact has.of_append
  dungeon := h.dungeon.imp fun _ hd g hg => hd g (List.mem_cons_of_mem guid hg)

theorem Compatible.tail {guid : ObjectGuid} {check : GuidList} (h : s.Compatible (guid :: check))
    (hsomebody : s.roles check ≠ []) : s.Compatible check where
  queued := fun g hg => h.queued g (List.mem_cons_of_mem guid hg)
  oneGroup := (List.sublist_cons_self guid check).countP_le.trans h.oneGroup
  party := fun hlength => (h.party (Nat.lt_succ_of_lt hlength)).tail hsomebody

/-! ## 3. Counting the players -/

section Counting

variable {check : GuidList} {p n p' n' : ℕ} {group group' : ObjectGuid}

theorem queueData_eq {guid : ObjectGuid} {queue : LfgQueueData}
    (h : s.queueDataStore guid = some queue) : s.queueData guid = queue := by
  rw [queueData, h, Option.getD_some]

@[simp] theorem numPlayers_cons (guid : ObjectGuid) (check : GuidList) :
    s.numPlayers (guid :: check) = (s.queueData guid).roles.length + s.numPlayers check :=
  List.length_append

@[simp] theorem numPlayers_nil : s.numPlayers [] = 0 := rfl

theorem numLfgGroups_cons (guid : ObjectGuid) (check : GuidList) :
    s.numLfgGroups (guid :: check) =
      (if s.isLfgGroup guid then 1 else 0) + s.numLfgGroups check := by
  rw [numLfgGroups, List.countP_cons, Nat.add_comm]
  rfl

theorem countPlayers_cons {guid : ObjectGuid} {queue : LfgQueueData}
    (hguard : n < 2 ∧ p ≤ MAXGROUPSIZE) (hqueue : s.queueDataStore guid = some queue) :
    ∃ group', s.countPlayers (guid :: check) p n group =
      s.countPlayers check (p + (s.queueData guid).roles.length)
        (n + if s.isLfgGroup guid then 1 else 0) group' := by
  rw [countPlayers, if_pos hguard, hqueue, queueData_eq hqueue]
  by_cases hgroup : s.isLfgGroup guid
  · exact ⟨_, by simp only [if_pos hgroup]; rfl⟩
  · exact ⟨_, by simp only [if_neg hgroup]; rfl⟩

theorem countPlayers_missing {guid : ObjectGuid}
    (h : s.countPlayers check p n group = .missing guid) :
    guid ∈ check ∧ s.queueDataStore guid = none := by
  induction check generalizing p n group with
  | nil => cases h
  | cons g check ih =>
    by_cases hguard : n < 2 ∧ p ≤ MAXGROUPSIZE
    · cases hqueue : s.queueDataStore g with
      | none =>
        rw [countPlayers, if_pos hguard, hqueue] at h
        cases h
        exact ⟨List.mem_cons_self, hqueue⟩
      | some queue =>
        obtain ⟨group', heq⟩ :=
          @countPlayers_cons s check p n group g queue hguard hqueue
        rw [heq] at h
        exact (ih h).imp_left (List.mem_cons_of_mem g)
    · rw [countPlayers, if_neg hguard] at h
      cases h

theorem countPlayers_counted (h : s.countPlayers check p n group = .counted p' n' group')
    (hp : p' ≤ MAXGROUPSIZE) (hn : n' ≤ 1) :
    (∀ guid ∈ check, (s.queueDataStore guid).isSome) ∧ p' = p + s.numPlayers check ∧
      n' = n + s.numLfgGroups check := by
  induction check generalizing p n group with
  | nil => cases h; simp [numLfgGroups]
  | cons g check ih =>
    by_cases hguard : n < 2 ∧ p ≤ MAXGROUPSIZE
    · cases hqueue : s.queueDataStore g with
      | none =>
        rw [countPlayers, if_pos hguard, hqueue] at h
        cases h
      | some queue =>
        obtain ⟨group₁, heq⟩ :=
          @countPlayers_cons s check p n group g queue hguard hqueue
        rw [heq] at h
        obtain ⟨hsome, hplayers, hgroups⟩ := ih h
        refine ⟨fun guid hguid => ?_, ?_, ?_⟩
        · rcases List.mem_cons.mp hguid with rfl | hguid
          · rw [hqueue]
            rfl
          · exact hsome guid hguid
        · rw [hplayers, numPlayers_cons, Nat.add_assoc]
        · rw [hgroups, numLfgGroups_cons, Nat.add_assoc]
    · rw [countPlayers, if_neg hguard] at h
      cases h
      omega

theorem countPlayers_le (h : s.countPlayers check p n group = .counted p' n' group') :
    p' ≤ p + s.numPlayers check ∧ n' ≤ n + s.numLfgGroups check := by
  induction check generalizing p n group with
  | nil => cases h; exact ⟨Nat.le_refl _, Nat.le_refl _⟩
  | cons g check ih =>
    by_cases hguard : n < 2 ∧ p ≤ MAXGROUPSIZE
    · cases hqueue : s.queueDataStore g with
      | none =>
        rw [countPlayers, if_pos hguard, hqueue] at h
        cases h
      | some queue =>
        obtain ⟨group₁, heq⟩ :=
          @countPlayers_cons s check p n group g queue hguard hqueue
        rw [heq] at h
        have hle := ih h
        rw [numPlayers_cons, numLfgGroups_cons]
        omega
    · rw [countPlayers, if_neg hguard] at h
      cases h
      exact ⟨Nat.le_add_right _ _, Nat.le_add_right _ _⟩

theorem countPlayers_single {guid : ObjectGuid}
    (h : s.countPlayers [guid] 0 0 0 = .counted p n group) :
    (s.queueDataStore guid).isSome ∧ p = s.numPlayers [guid] := by
  cases hqueue : s.queueDataStore guid with
  | none =>
    rw [countPlayers, if_pos (by decide), hqueue] at h
    cases h
  | some queue =>
    obtain ⟨group', heq⟩ := @countPlayers_cons s [] 0 0 0 guid queue (by decide) hqueue
    rw [heq] at h
    cases h
    exact ⟨rfl, (Nat.zero_add _).trans (by rw [numPlayers_cons]; rfl)⟩

end Counting

/-! ## 4. Collecting the roles -/

section Collecting

variable {acc todo : LfgRolesMap} {e : ObjectGuid × UInt8}

theorem addRole_perm (h : ∀ other ∈ acc, s.Apart e other) : (s.addRole acc e).Perm (e :: acc) := by
  have hany : ¬ (acc.any fun other => e.1 ≠ other.1 && s.hasIgnore e.1 other.1) = true := by
    rw [List.any_eq_true]
    rintro ⟨other, hother, hignore⟩
    simp [(h other hother).2] at hignore
  rw [addRole, if_neg hany]
  refine setRole_perm fun hmem => ?_
  obtain ⟨other, hother, heq⟩ := List.mem_map.mp hmem
  exact (h other hother).1 heq.symm

theorem length_addRole (hacc : SortedKeys acc) (h : ¬ ∀ other ∈ acc, s.Apart e other) :
    (s.addRole acc e).length = acc.length := by
  rw [addRole]
  split
  · rfl
  · next hany =>
    refine length_setRole hacc ?_
    by_contra hmem
    refine h fun other hother => ?_
    have hne : e.1 ≠ other.1 := fun heq =>
      hmem (List.mem_map.mpr ⟨other, hother, heq.symm⟩)
    refine ⟨hne, ?_⟩
    by_contra hignore
    refine hany (List.any_eq_true.mpr ⟨other, hother, ?_⟩)
    simp [hne, Bool.eq_true_of_not_eq_false hignore]

theorem sortedKeys_addRole (hacc : SortedKeys acc) : SortedKeys (s.addRole acc e) := by
  rw [addRole]
  split
  · exact hacc
  · exact hacc.setRole

theorem foldl_addRole (hacc : SortedKeys acc) :
    (todo.foldl s.addRole acc).length ≤ acc.length + todo.length ∧
    ((todo.foldl s.addRole acc).length = acc.length + todo.length ↔
      todo.Pairwise s.Apart ∧ ∀ e ∈ todo, ∀ other ∈ acc, s.Apart e other) ∧
    ((todo.foldl s.addRole acc).length = acc.length + todo.length →
      (todo.foldl s.addRole acc).Perm (todo ++ acc)) := by
  induction todo generalizing acc with
  | nil => simp
  | cons e todo ih =>
    obtain ⟨hle, hiff, hperm⟩ := ih (sortedKeys_addRole (s := s) (e := e) hacc)
    rw [List.foldl_cons, List.length_cons, List.pairwise_cons]
    by_cases hapart : ∀ other ∈ acc, s.Apart e other
    · have hadd := addRole_perm hapart
      have hlength := hadd.length_eq
      rw [List.length_cons] at hlength
      rw [hlength, Nat.add_assoc, Nat.add_comm 1] at hle hiff hperm
      refine ⟨hle, hiff.trans ⟨?_, ?_⟩, fun h => (hperm h).trans ?_⟩
      · rintro ⟨htodo, hacc'⟩
        refine ⟨⟨fun t ht => (hacc' t ht e (hadd.mem_iff.mpr List.mem_cons_self)).symm, htodo⟩,
          fun t ht other hother => ?_⟩
        rcases List.mem_cons.mp ht with rfl | ht
        · exact hapart other hother
        · exact hacc' t ht other (hadd.mem_iff.mpr (List.mem_cons_of_mem e hother))
      · rintro ⟨⟨he, htodo⟩, hall⟩
        refine ⟨htodo, fun t ht other hother => ?_⟩
        rcases List.mem_cons.mp (hadd.mem_iff.mp hother) with rfl | hother
        · exact (he t ht).symm
        · exact hall t (List.mem_cons_of_mem e ht) other hother
      · exact (hadd.append_left todo).trans List.perm_middle
    · have hlength := length_addRole hacc hapart
      rw [hlength] at hle
      refine ⟨by omega, ⟨fun h => ?_, fun h => ?_⟩, fun h => ?_⟩
      · omega
      · exact absurd (h.2 e List.mem_cons_self) hapart
      · omega

theorem collectRoles_eq (check : GuidList) :
    s.collectRoles check = (s.roles check).foldl s.addRole [] := by
  rw [collectRoles, roles, List.foldl_flatMap]

theorem length_collectRoles_iff (check : GuidList) :
    s.numPlayers check = (s.collectRoles check).length ↔ (s.roles check).Pairwise s.Apart := by
  obtain ⟨-, hiff, -⟩ := @foldl_addRole s [] (s.roles check) List.Pairwise.nil
  rw [List.length_nil, Nat.zero_add, ← collectRoles_eq] at hiff
  rw [numPlayers, eq_comm, hiff]
  simp

theorem collectRoles_perm {check : GuidList}
    (h : s.numPlayers check = (s.collectRoles check).length) :
    (s.collectRoles check).Perm (s.roles check) := by
  obtain ⟨-, -, hperm⟩ := @foldl_addRole s [] (s.roles check) List.Pairwise.nil
  rw [List.length_nil, Nat.zero_add, ← collectRoles_eq, List.append_nil] at hperm
  exact hperm h.symm

theorem mem_foldl_filter {dungeon : ℕ} {check : GuidList} {dungeons : List ℕ} :
    dungeon ∈ check.foldl (fun dungeons guid =>
      dungeons.filter fun d => d ∈ (s.queueData guid).dungeons) dungeons ↔
      dungeon ∈ dungeons ∧ ∀ guid ∈ check, dungeon ∈ (s.queueData guid).dungeons := by
  induction check generalizing dungeons with
  | nil => simp
  | cons guid check ih =>
    rw [List.foldl_cons, ih, List.mem_filter, List.forall_mem_cons]
    simp [and_assoc]

theorem commonDungeons_ne_nil {check : GuidList} (h : check ≠ []) :
    s.commonDungeons check ≠ [] ↔
      ∃ dungeon, ∀ guid ∈ check, dungeon ∈ (s.queueData guid).dungeons := by
  obtain ⟨guid, rest, rfl⟩ := List.exists_cons_of_ne_nil h
  simp only [List.forall_mem_cons, ← mem_foldl_filter]
  exact ⟨List.exists_mem_of_ne_nil _, fun ⟨_, hd⟩ => List.ne_nil_of_mem hd⟩

end Collecting

/-! ## 5. The check of a list -/

/-- What the check of a list by itself can come to. -/
inductive Checked (s : LFGMgr) (check : GuidList) : LfgCompatibility × LFGMgr → Prop
  | missing {guid} : guid ∈ check → s.queueDataStore guid = none →
      Checked s check (LFG_COMPATIBILITY_PENDING, s.removeFromQueue guid)
  | refused {compatibles} : compatibles < LFG_COMPATIBLES_WITH_LESS_PLAYERS →
      ¬ s.Compatible check →
      Checked s check (compatibles, s.setCompatibles (concatenateGuids check) compatibles)
  | lessPlayers : s.Compatible check → s.numPlayers check ≠ MAXGROUPSIZE →
      Checked s check (LFG_COMPATIBLES_WITH_LESS_PLAYERS,
        s.setCompatibles (concatenateGuids check) LFG_COMPATIBLES_WITH_LESS_PLAYERS)
  | badStates : s.Compatible check → s.numPlayers check = MAXGROUPSIZE →
      s.allQueued check = false →
      Checked s check (LFG_COMPATIBLES_BAD_STATES,
        s.setCompatibles (concatenateGuids check) LFG_COMPATIBLES_BAD_STATES)
  | matched {proposal : LfgProposal} : s.Compatible check → s.numPlayers check = MAXGROUPSIZE →
      s.allQueued check = true → proposal.queues = check →
      (proposal.players.map Prod.fst).Perm (keys (s.roles check)) →
      Checked s check (LFG_COMPATIBLES_MATCH,
        ((s.markNotQueued check).addProposal proposal).setCompatibles (concatenateGuids check)
          LFG_COMPATIBLES_MATCH)

theorem finishCheck_checked {check : GuidList} {numPlayers numLfgGroups : ℕ} {group : ObjectGuid}
    {assigned : LfgRolesMap} (h : s.Compatible check) (hplayers : numPlayers = s.numPlayers check)
    (hassigned : (keys assigned).Perm (keys (s.roles check))) :
    Checked s check (s.finishCheck check numPlayers numLfgGroups group assigned) := by
  rw [finishCheck]
  subst hplayers
  split
  · next hfull => exact .lessPlayers h hfull
  · next hfull =>
    split
    · next hqueued => exact .badStates h (not_not.mp hfull) (by simpa using hqueued)
    · next hqueued =>
      refine .matched h (not_not.mp hfull) (by simpa using hqueued) rfl ?_
      simp only [makeProposal, List.map_map]
      exact hassigned

theorem keys_perm {m m' : LfgRolesMap} (h : m.Perm m') : (keys m).Perm (keys m') :=
  h.map Prod.fst

theorem compatible_single {guid : ObjectGuid} (h : (s.queueDataStore guid).isSome) :
    s.Compatible [guid] where
  queued := fun g hg => by rwa [List.mem_singleton.mp hg]
  oneGroup := List.countP_le_length
  party := fun hlength => absurd hlength (lt_irrefl 1)

theorem checkSeveral_checked {check : GuidList} {group : ObjectGuid}
    (hdata : ∀ guid ∈ check, (s.queueDataStore guid).isSome) (hseveral : 1 < check.length)
    (hgroups : s.numLfgGroups check ≤ 1) (hsize : s.numPlayers check ≤ MAXGROUPSIZE) :
    Checked s check
      (s.checkSeveral check (s.numPlayers check) (s.numLfgGroups check) group) := by
  have hne : check ≠ [] := List.ne_nil_of_length_pos (Nat.lt_of_succ_lt hseveral)
  rw [checkSeveral]
  dsimp only
  split
  · next hignores =>
    refine .refused (by decide) fun h => hignores ?_
    exact (length_collectRoles_iff check).mpr (h.party hseveral).apart
  · next hignores =>
    have hapart := not_not.mp hignores
    have hperm := collectRoles_perm hapart
    have hlength : (s.collectRoles check).length < 256 := by
      have : MAXGROUPSIZE = 5 := rfl
      omega
    have hassign : (checkGroupRoles (s.collectRoles check)).1 = true ↔
        s.roles check ≠ [] ∧ Assignable (selections (s.roles check)) := by
      rw [checkGroupRoles_iff hlength]
      refine and_congr (not_congr ?_) ⟨?_, ?_⟩
      · rw [← List.length_eq_zero_iff, hperm.length_eq, List.length_eq_zero_iff]
      · exact Assignable.perm (hperm.map Prod.snd)
      · exact Assignable.perm (hperm.map Prod.snd).symm
    split
    · next hroles =>
      refine .refused (by decide) fun h => ?_
      have hparty := h.party hseveral
      rw [hassign.mpr ⟨hparty.somebody, hparty.assignable⟩] at hroles
      cases hroles
    · next hroles =>
      obtain ⟨hsomebody, hassignable⟩ := hassign.mp (by simpa using hroles)
      split
      · next hdungeons =>
        refine .refused (by decide) fun h => ?_
        exact (commonDungeons_ne_nil hne).mpr (h.party hseveral).dungeon hdungeons
      · next hdungeons =>
        refine finishCheck_checked ⟨hdata, hgroups, fun _ => ?_⟩ rfl ?_
        · exact ⟨hsize, hsomebody, (length_collectRoles_iff check).mp hapart, hassignable,
            (commonDungeons_ne_nil hne).mp hdungeons⟩
        · rw [checkGroupRoles_keys]
          exact keys_perm hperm

/-- **What `CheckCompatibility` finds out** about a list, once the list without its first guid has
passed. -/
theorem checkPlayers_checked {check : GuidList} (hne : check ≠ []) :
    Checked s check (s.checkPlayers check) := by
  rw [checkPlayers]
  cases hcount : s.countPlayers check 0 0 0 with
  | missing guid =>
    obtain ⟨hmem, hnone⟩ := countPlayers_missing hcount
    exact .missing hmem hnone
  | counted p n group =>
    have hle := countPlayers_le hcount
    rw [Nat.zero_add, Nat.zero_add] at hle
    dsimp only
    split
    · next hone =>
      obtain ⟨guid, rfl⟩ := List.length_eq_one_iff.mp hone.1
      obtain ⟨hdata, rfl⟩ := countPlayers_single hcount
      exact .lessPlayers (compatible_single hdata) hone.2
    · next hone =>
      split
      · next hgroups =>
        refine .refused (by decide) fun h => ?_
        have := h.oneGroup
        omega
      · next hgroups =>
        split
        · next hmany =>
          have hseveral : 1 < check.length := by
            have := List.length_pos_of_ne_nil hne
            have : MAXGROUPSIZE = 5 := rfl
            omega
          refine .refused (by decide) fun h => ?_
          have := (h.party hseveral).size
          omega
        · next hmany =>
          obtain ⟨hdata, hp, hn⟩ :=
            countPlayers_counted hcount (not_lt.mp hmany) (not_lt.mp hgroups)
          rw [Nat.zero_add] at hp hn
          subst hp hn
          split
          · next hseveral =>
            exact checkSeveral_checked hdata hseveral (not_lt.mp hgroups) (not_lt.mp hmany)
          · next hseveral =>
            obtain ⟨guid, rfl⟩ : ∃ guid, check = [guid] := by
              have := List.length_pos_of_ne_nil hne
              exact List.length_eq_one_iff.mp (by omega)
            refine finishCheck_checked (compatible_single (hdata guid List.mem_cons_self)) rfl ?_
            rw [checkGroupRoles_keys, roles_cons, roles_nil, List.append_nil]
            exact List.Perm.refl _

end LFGMgr

end FunPvp.DungeonFinding
