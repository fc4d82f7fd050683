/-
# The ids of temporary arena teams

`GenerateTempArenaTeamId` counts through the ids from `0xFFF00000` on and begins anew behind
`0xFFFFFFFD`, whoever has the ids it hands out then. `GenerateArenaTeamId`, beside it, stops the
server rather than begin anew.

`TempIds` keeps with the registry what it does not know itself: how many ids have been generated,
which of them every team got, and the ids that a team has which is not registered yet. An id comes
again exactly if the team that got it a whole round ago is still there (`tempIds_unique_iff`).
-/
import FunPvp.Battleground.TempTeams

namespace FunPvp.Battleground

open FunPvp.Lib

/-! ## 1. The runs -/

def TEMP_ID_COUNT : ℕ := 0xFFFFFFFE - TEMP_ARENA_TEAM_ID

def IsTempId (id : ℕ) : Prop := TEMP_ARENA_TEAM_ID ≤ id ∧ id < 0xFFFFFFFE

/-- The registry. `generated` counts the temporary ids so far, `number` has which one an id was at
last, and `reserved` the ids of teams that are not registered yet. -/
structure TempIds where
  mgr : ArenaTeamMgr
  generated : ℕ
  number : ℕ → ℕ
  reserved : Finset ℕ

inductive TempIdCall
  | generate
  | add (arenaTeam : ArenaTeam)
  | remove (arenaTeamId : ℕ)

namespace TempIds

def init : TempIds := ⟨ArenaTeamMgr.init, 0, fun _ => 0, ∅⟩

def nextId (s : TempIds) : ℕ := s.mgr.generateTempArenaTeamId.1

def step (s : TempIds) : TempIdCall → TempIds
  | .generate =>
    { mgr := s.mgr.generateTempArenaTeamId.2
      generated := s.generated + 1
      number := Function.update s.number s.nextId s.generated
      reserved := insert s.nextId s.reserved }
  | .add arenaTeam =>
    { s with mgr := s.mgr.addArenaTeam arenaTeam, reserved := s.reserved.erase arenaTeam.TeamId }
  | .remove arenaTeamId => { s with mgr := s.mgr.removeArenaTeam arenaTeamId }

def IsRegistered (s : TempIds) (id : ℕ) : Prop := s.mgr.getArenaTeamById id ≠ none

def InUse (s : TempIds) (id : ℕ) : Prop := s.IsRegistered id ∨ id ∈ s.reserved

/-- What the callers do: a team is registered under an id that was generated for it, or under one
that is not temporary and that no team is registered under. -/
def Proper (s : TempIds) : TempIdCall → Prop
  | .add arenaTeam => arenaTeam.TeamId ∈ s.reserved ∨
      ¬ IsTempId arenaTeam.TeamId ∧ ¬ s.IsRegistered arenaTeam.TeamId
  | _ => True

/-- No id is generated that a team has, and no team is registered over another. -/
def Unique (s : TempIds) : TempIdCall → Prop
  | .generate => ¬ s.InUse s.nextId
  | .add arenaTeam => ¬ s.IsRegistered arenaTeam.TeamId
  | .remove _ => True

/-- Where an id is generated, every team with a temporary id is among the last ones that got
one: the round has not come to its id again. -/
def Young (s : TempIds) : TempIdCall → Prop
  | .generate => ∀ id, IsTempId id → s.InUse id → s.generated < s.number id + TEMP_ID_COUNT
  | _ => True

/-! ## 2. The round -/

def idOf (n : ℕ) : ℕ := TEMP_ARENA_TEAM_ID + n % TEMP_ID_COUNT

theorem isTempId_idOf (n : ℕ) : IsTempId (idOf n) := by
  have hlt : n % TEMP_ID_COUNT < TEMP_ID_COUNT := Nat.mod_lt n (by decide)
  refine ⟨Nat.le_add_right _ _, ?_⟩
  simp only [idOf, TEMP_ID_COUNT, TEMP_ARENA_TEAM_ID] at hlt ⊢
  omega

theorem idOf_ne {n k : ℕ} (hkn : k < n) (hn : n < k + TEMP_ID_COUNT) : idOf k ≠ idOf n := by
  intro heq
  have hmod : k % TEMP_ID_COUNT = n % TEMP_ID_COUNT := Nat.add_left_cancel heq
  have hdvd := (Nat.modEq_iff_dvd' hkn.le).mp hmod
  have hle := Nat.le_of_dvd (Nat.sub_pos_of_lt hkn) hdvd
  omega

theorem idOf_add (k : ℕ) : idOf (k + TEMP_ID_COUNT) = idOf k := by
  rw [idOf, Nat.add_mod_right]
  rfl

/-- **The invariant.**  The counter is where the number of generated ids takes it; every temporary
id in use has a number of the last round; and no id is reserved for one team and registered for
another. -/
structure Inv (s : TempIds) : Prop where
  next : s.nextId = idOf s.generated
  number : ∀ id, IsTempId id → s.InUse id →
    s.number id < s.generated ∧ s.generated ≤ s.number id + TEMP_ID_COUNT ∧
      id = idOf (s.number id)
  reserved : ∀ id ∈ s.reserved, IsTempId id ∧ ¬ s.IsRegistered id

theorem inv_init : init.Inv where
  next := by decide
  number id _ h := by
    rcases h with h | h
    · exact absurd rfl h
    · exact absurd h (Finset.notMem_empty id)
  reserved id h := absurd h (Finset.notMem_empty id)

variable {s : TempIds}

theorem Inv.unique_iff (h : s.Inv) {call : TempIdCall} (hproper : s.Proper call) :
    s.Unique call ↔ s.Young call := by
  cases call with
  | generate =>
    constructor
    · intro hunique id htemp huse
      obtain ⟨-, hle, hid⟩ := h.number id htemp huse
      refine lt_of_le_of_ne hle fun heq => hunique ?_
      rw [h.next, heq, idOf_add, ← hid]
      exact huse
    · intro hyoung huse
      have htemp : IsTempId s.nextId := h.next ▸ isTempId_idOf s.generated
      obtain ⟨hlt, -, hid⟩ := h.number _ htemp huse
      exact idOf_ne hlt (hyoung _ htemp huse) (hid.symm.trans h.next)
  | add arenaTeam =>
    refine iff_of_true ?_ trivial
    rcases hproper with hreserved | ⟨-, hfree⟩
    · exact (h.reserved _ hreserved).2
    · exact hfree
  | remove => exact Iff.rfl

theorem Inv.generate (h : s.Inv) (hyoung : s.Young .generate) : (s.step .generate).Inv := by
  have hunique : ¬ s.InUse s.nextId := (@Inv.unique_iff s h .generate trivial).mpr hyoung
  have hold : ∀ id, (s.step .generate).InUse id → id = s.nextId ∨ s.InUse id := by
    rintro id (hreg | hres)
    · exact .inr (.inl hreg)
    · exact (Finset.mem_insert.mp hres).imp_right .inr
  refine ⟨?_, fun id htemp huse => ?_, fun id hid => ?_⟩
  · have hnext := h.next
    change (if s.nextId + 1 ≥ 0xFFFFFFFE then TEMP_ARENA_TEAM_ID else s.nextId + 1) =
      idOf (s.generated + 1)
    simp only [idOf, TEMP_ID_COUNT, TEMP_ARENA_TEAM_ID] at hnext ⊢
    split <;> omega
  · change Function.update s.number s.nextId s.generated id < s.generated + 1 ∧
      s.generated + 1 ≤ Function.update s.number s.nextId s.generated id + TEMP_ID_COUNT ∧
      id = idOf (Function.update s.number s.nextId s.generated id)
    have hcount : 1 ≤ TEMP_ID_COUNT := by decide
    rw [Function.update_apply]
    split
    · next heq => exact ⟨Nat.lt_succ_self _, Nat.add_le_add_left hcount _, heq.trans h.next⟩
    · next hne =>
      have huse' := (hold id huse).resolve_left hne
      obtain ⟨hlt, -, hid⟩ := h.number id htemp huse'
      exact ⟨Nat.lt_succ_of_lt hlt, hyoung id htemp huse', hid⟩
  · rcases Finset.mem_insert.mp hid with rfl | hid
    · exact ⟨h.next ▸ isTempId_idOf s.generated, fun hreg => hunique (.inl hreg)⟩
    · exact h.reserved id hid

theorem isRegistered_add (arenaTeam : ArenaTeam) (id : ℕ) :
    (s.step (.add arenaTeam)).IsRegistered id ↔ id = arenaTeam.TeamId ∨ s.IsRegistered id := by
  change (s.mgr.addArenaTeam arenaTeam).getArenaTeamById id ≠ none ↔ _
  rw [ArenaTeamMgr.getArenaTeamById_addArenaTeam]
  split
  · next heq => exact iff_of_true (Option.some_ne_none _) (.inl heq)
  · next hne => exact (or_iff_right hne).symm

theorem isRegistered_of_remove {arenaTeamId id : ℕ}
    (h : (s.step (.remove arenaTeamId)).IsRegistered id) : s.IsRegistered id := by
  change (s.mgr.removeArenaTeam arenaTeamId).getArenaTeamById id ≠ none at h
  rw [ArenaTeamMgr.getArenaTeamById_removeArenaTeam] at h
  split at h
  · exact absurd rfl h
  · exact h

theorem Inv.add (h : s.Inv) {arenaTeam : ArenaTeam} (hproper : s.Proper (.add arenaTeam)) :
    (s.step (.add arenaTeam)).Inv where
  next := h.next
  number id htemp huse := by
    refine h.number id htemp ?_
    rcases huse with hreg | hres
    · rcases (isRegistered_add arenaTeam id).mp hreg with rfl | hreg
      · rcases hproper with hreserved | ⟨hnot, -⟩
        · exact .inr hreserved
        · exact absurd htemp hnot
      · exact .inl hreg
    · exact .inr (Finset.mem_of_mem_erase hres)
  reserved id hid := by
    obtain ⟨hne, hid⟩ := Finset.mem_erase.mp hid
    obtain ⟨htemp, hfree⟩ := h.reserved id hid
    exact ⟨htemp, fun hreg => hfree (((isRegistered_add arenaTeam id).mp hreg).resolve_left hne)⟩

theorem Inv.remove (h : s.Inv) (arenaTeamId : ℕ) : (s.step (.remove arenaTeamId)).Inv where
  next := h.next
  number id htemp huse := h.number id htemp (huse.imp_left isRegistered_of_remove)
  reserved id hid := by
    obtain ⟨htemp, hfree⟩ := h.reserved id hid
    exact ⟨htemp, fun hreg => hfree (isRegistered_of_remove hreg)⟩

theorem Inv.step (h : s.Inv) {call : TempIdCall} (hproper : s.Proper call)
    (hyoung : s.Young call) : (s.step call).Inv := by
  cases call with
  | generate => exact h.generate hyoung
  | add arenaTeam => exact h.add hproper
  | remove arenaTeamId => exact h.remove arenaTeamId

/-- **Temporary ids**: in a run from the start of the server no id is generated that a team has,
and no team registered over another, exactly if no id is generated while a team is there that got
its id a whole round ago. -/
theorem tempIds_unique_iff (calls : List TempIdCall)
    (hproper : Steps TempIds.step TempIds.Proper TempIds.init calls) :
    Steps TempIds.step TempIds.Unique TempIds.init calls ↔
      Steps TempIds.step TempIds.Young TempIds.init calls :=
  Steps.iff_of_inv (I := TempIds.Inv) (fun _ _ hs hproper hyoung => hs.step hproper hyoung)
    (fun _ _ hs hproper => hs.unique_iff hproper) inv_init hproper

/-! ## 3. A team that stays for a round -/

/-- Fewer teams are there than there are temporary ids. -/
def Few (s : TempIds) : Prop :=
  ∃ ids : Finset ℕ, ids.card < TEMP_ID_COUNT ∧ ∀ id, s.InUse id → id ∈ ids

def teamAt (k : ℕ) : ArenaTeam :=
  ⟨k, TEMP_ARENA_TEAM_ID + k, ARENA_TEAM_5v5, "", 0, ⟨0, 0, 0, 0, 0⟩, []⟩

def game (k : ℕ) : List TempIdCall :=
  [.generate, .add (teamAt k), .remove (TEMP_ARENA_TEAM_ID + k)]

theorem inUse_init (id : ℕ) : ¬ init.InUse id := by
  rintro (h | h)
  · exact h rfl
  · exact Finset.notMem_empty id h

theorem mem_reserved_first : (teamAt 0).TeamId ∈ (init.step .generate).reserved :=
  Finset.mem_insert_self _ _

/-- The first team is registered, and removed after its game. -/
theorem tempIds_unique_iff_game :
    Steps TempIds.step TempIds.Unique TempIds.init (game 0) := by
  have hproper : Steps TempIds.step TempIds.Proper TempIds.init (game 0) :=
    ⟨trivial, .inl mem_reserved_first, trivial, trivial⟩
  exact (tempIds_unique_iff (game 0) hproper).mpr
    ⟨fun id _ huse => absurd huse (inUse_init id), trivial, trivial, trivial⟩

/-- The first team stays, the others come and go, until an id is generated once more. -/
def oneStays : List TempIdCall :=
  [.generate, .add (teamAt 0)] ++ ((List.range' 1 (TEMP_ID_COUNT - 1)).flatMap game ++ [.generate])

/-- After the game `m` only the first team is there. -/
structure Alone (s : TempIds) (m : ℕ) : Prop where
  store : ∀ id, s.IsRegistered id ↔ id = TEMP_ARENA_TEAM_ID
  next : s.mgr.NextTempArenaTeamId = TEMP_ARENA_TEAM_ID + (m + 1)
  reserved : s.reserved = ∅

theorem few_of_pair (id' : ℕ) (h : ∀ id, s.InUse id → id = TEMP_ARENA_TEAM_ID ∨ id = id') :
    s.Few := by
  refine ⟨{TEMP_ARENA_TEAM_ID, id'}, Finset.card_le_two.trans_lt (by decide), fun id huse => ?_⟩
  rw [Finset.mem_insert, Finset.mem_singleton]
  exact h id huse

variable {m : ℕ}

theorem Alone.nextId_eq (h : s.Alone m) (hm : m + 1 < TEMP_ID_COUNT) :
    s.nextId = TEMP_ARENA_TEAM_ID + (m + 1) := by
  have hlt : ¬ s.mgr.NextTempArenaTeamId ≥ 0xFFFFFFFE := by
    rw [h.next]
    simp only [TEMP_ID_COUNT, TEMP_ARENA_TEAM_ID] at hm ⊢
    omega
  exact (if_neg hlt).trans h.next

theorem Alone.few (h : s.Alone m) : s.Few := by
  refine few_of_pair 0 ?_
  rintro id (hreg | hres)
  · exact .inl ((h.store id).mp hreg)
  · rw [h.reserved] at hres
    exact absurd hres (Finset.notMem_empty id)

theorem Alone.not_unique (h : s.Alone m) (hm : m + 1 = TEMP_ID_COUNT) : ¬ s.Unique .generate := by
  intro hunique
  refine hunique (.inl ((h.store _).mpr (if_pos ?_)))
  rw [h.next, hm]
  decide

theorem Alone.game (h : s.Alone m) (hm : m + 1 < TEMP_ID_COUNT) :
    Steps TempIds.step (fun s call => s.Proper call ∧ s.Few) s (game (m + 1)) ∧
      (exec TempIds.step s (TempIds.game (m + 1))).Alone (m + 1) := by
  have hnext := h.nextId_eq hm
  have hreserved : (s.step .generate).reserved = {TEMP_ARENA_TEAM_ID + (m + 1)} := by
    change insert s.nextId s.reserved = _
    rw [h.reserved, hnext, insert_empty_eq]
  have hempty : ((s.step .generate).step (.add (teamAt (m + 1)))).reserved = ∅ := by
    change (s.step .generate).reserved.erase (TEMP_ARENA_TEAM_ID + (m + 1)) = ∅
    rw [hreserved, Finset.erase_singleton]
  have hadded : ∀ id, ((s.step .generate).step (.add (teamAt (m + 1)))).IsRegistered id ↔
      id = TEMP_ARENA_TEAM_ID + (m + 1) ∨ id = TEMP_ARENA_TEAM_ID := fun id =>
    (isRegistered_add (teamAt (m + 1)) id).trans (or_congr_right (h.store id))
  refine ⟨⟨⟨trivial, h.few⟩, ⟨.inl ?_, ?_⟩, ⟨trivial, ?_⟩, trivial⟩, ?_⟩
  · rw [hreserved]
    exact Finset.mem_singleton_self _
  · refine few_of_pair (TEMP_ARENA_TEAM_ID + (m + 1)) ?_
    rintro id (hreg | hres)
    · exact .inl ((h.store id).mp hreg)
    · rw [hreserved] at hres
      exact .inr (Finset.mem_singleton.mp hres)
  · refine few_of_pair (TEMP_ARENA_TEAM_ID + (m + 1)) ?_
    rintro id (hreg | hres)
    · exact ((hadded id).mp hreg).symm
    · rw [hempty] at hres
      exact absurd hres (Finset.notMem_empty id)
  · refine ⟨fun id => ?_, ?_, hempty⟩
    · change (ArenaTeamMgr.removeArenaTeam _ _).getArenaTeamById id ≠ none ↔ _
      rw [ArenaTeamMgr.getArenaTeamById_removeArenaTeam]
      split
      · next heq =>
        refine iff_of_false (fun h0 => h0 rfl) fun h0 => ?_
        rw [heq] at h0
        omega
      · next hne =>
        exact (hadded id).trans (or_iff_right hne)
    · change s.nextId + 1 = _
      rw [hnext]
      rfl

theorem Alone.games (n : ℕ) (h : s.Alone m) (hn : m + n < TEMP_ID_COUNT) :
    Steps TempIds.step (fun s call => s.Proper call ∧ s.Few) s
        ((List.range' (m + 1) n).flatMap TempIds.game) ∧
      (exec TempIds.step s ((List.range' (m + 1) n).flatMap TempIds.game)).Alone (m + n) := by
  induction n generalizing s m with
  | zero => exact ⟨trivial, h⟩
  | succ n ih =>
    obtain ⟨hsteps, hnext⟩ := h.game (by omega)
    obtain ⟨hrest, hend⟩ := ih hnext (by omega)
    rw [List.range'_succ, List.flatMap_cons, exec_append]
    refine ⟨Steps.append_iff.mpr ⟨hsteps, hrest⟩, ?_⟩
    rw [show m + (n + 1) = m + 1 + n by omega]
    exact hend

theorem alone_first : (exec TempIds.step init [.generate, .add (teamAt 0)]).Alone 0 := by
  refine ⟨fun id => ?_, by decide, by decide⟩
  change (ArenaTeamMgr.addArenaTeam _ _).getArenaTeamById id ≠ none ↔ _
  rw [ArenaTeamMgr.getArenaTeamById_addArenaTeam]
  split
  · next heq => exact iff_of_true (Option.some_ne_none _) heq
  · next hne => exact iff_of_false (fun h0 => h0 rfl) hne

/-- With never more than two teams, the id of the first team is generated again while it is
there. -/
theorem tempIds_come_again :
    Steps TempIds.step (fun s call => s.Proper call ∧ s.Few) TempIds.init oneStays ∧
      ¬ Steps TempIds.step TempIds.Unique TempIds.init oneStays := by
  obtain ⟨hgames, hend⟩ := alone_first.games (TEMP_ID_COUNT - 1) (by decide)
  have hfirst : Steps TempIds.step (fun s call => s.Proper call ∧ s.Few) TempIds.init
      [.generate, .add (teamAt 0)] := by
    refine ⟨⟨trivial, few_of_pair 0 fun id huse => absurd huse (inUse_init id)⟩,
      ⟨.inl mem_reserved_first, few_of_pair 0 ?_⟩, trivial⟩
    rintro id (hreg | hres)
    · exact absurd rfl hreg
    · exact .inl (Finset.mem_singleton.mp hres)
  have hlast : Steps TempIds.step (fun s call => s.Proper call ∧ s.Few) _ [.generate] :=
    ⟨⟨trivial, hend.few⟩, trivial⟩
  refine ⟨Steps.append_iff.mpr ⟨hfirst, Steps.append_iff.mpr ⟨hgames, hlast⟩⟩, fun hunique => ?_⟩
  exact hend.not_unique (by decide) (Steps.append_iff.mp (Steps.append_iff.mp hunique).2).2.1

end TempIds

end FunPvp.Battleground
