/-
# Cross-faction fill

With cross-faction battlegrounds every group queues in ONE list, and
`BattlegroundQueue::FillXPlayersToBG` decides which side a group plays on. When a new match is to
start, `PreAddPlayers` first puts groups into the pool of the side that `OTeam` names; then the
remaining groups, largest first, go to the side with more free slots, and have their `Team`
rewritten to it. The invitation goes by `Team`.

Nothing ever assigns `OTeam`, and a `Team` that an earlier attempt has rewritten stays rewritten.
So a group can be added to one side's pool and be invited to the other.
`fillXPlayersToBG_correct_iff` says that this is the only way in which the fill goes wrong.
-/
import FunPvp.Battleground.Queue

namespace FunPvp.Battleground

open FunPvp.Lib

/-! ## 1. Free slots -/

inductive BattlegroundStatus
  | STATUS_NONE | STATUS_WAIT_QUEUE | STATUS_WAIT_JOIN | STATUS_IN_PROGRESS | STATUS_WAIT_LEAVE
deriving DecidableEq

structure BattlegroundSlots where
  Status : BattlegroundStatus
  MinPlayersPerTeam : ℕ
  MaxPlayersPerTeam : ℕ
  /-- `GetInvitedCount`. -/
  invited : Team → ℕ
  /-- `GetPlayersCountByTeam`. -/
  playersCount : Team → ℕ

def BattlegroundSlots.getFreeSlotsForTeam (bg : BattlegroundSlots) (invitationType : InvitationType)
    (team : Team) : ℕ :=
  let max := bg.MaxPlayersPerTeam
  let thisTeamInvitedCount := bg.invited team
  let otherTeamInvitedCount := bg.invited team.other
  let thisTeamPlayersCount := bg.playersCount team
  let otherTeamPlayersCount := bg.playersCount team.other
  if bg.Status = .STATUS_WAIT_JOIN ∧ invitationType = .NO_BALANCE then
    if thisTeamInvitedCount < max then max - thisTeamInvitedCount else 0
  else if bg.Status = .STATUS_IN_PROGRESS ∨ bg.Status = .STATUS_WAIT_JOIN then
    let diff :=
      if otherTeamInvitedCount = thisTeamInvitedCount then 1
      else if otherTeamInvitedCount > thisTeamInvitedCount then
        otherTeamInvitedCount - thisTeamInvitedCount
      else 0
    let diff2 := if thisTeamInvitedCount < max then max - thisTeamInvitedCount else 0
    let diff3 :=
      if otherTeamPlayersCount = thisTeamPlayersCount then 1
      else if otherTeamPlayersCount > thisTeamPlayersCount then
        otherTeamPlayersCount - thisTeamPlayersCount
      else if thisTeamInvitedCount ≤ bg.MinPlayersPerTeam then
        bg.MinPlayersPerTeam - thisTeamInvitedCount + 1
      else 0
    min (min diff diff2) diff3
  else 0

theorem getFreeSlotsForTeam_le (bg : BattlegroundSlots) (invitationType : InvitationType)
    (team : Team) :
    bg.getFreeSlotsForTeam invitationType team ≤ bg.MaxPlayersPerTeam - bg.invited team := by
  simp only [BattlegroundSlots.getFreeSlotsForTeam]
  split
  · split <;> omega
  · split
    · refine (min_le_left _ _).trans ((min_le_right _ _).trans ?_)
      split <;> omega
    · exact Nat.zero_le _

/-! ## 2. The source -/

structure CrossFactionEnv where
  /-- `BATTLEGROUND_CROSSFACTION_ENABLED`. -/
  crossFactionEnabled : Bool
  /-- `sBattlegroundMgr->isTesting()`. -/
  isTesting : Bool
  /-- `CONFIG_BATTLEGROUND_INVITATION_TYPE`. -/
  invitationType : InvitationType

/-- Conversion to `int32`, and back to `uint32`. -/
def toInt32 (n : ℤ) : ℤ := n.bmod (2 ^ 32)

def toUInt32 (n : ℤ) : ℕ := (n % 2 ^ 32).toNat

def sideOf (OTeam : ℕ) : Team := if OTeam = Team.ALLIANCE.value then .ALLIANCE else .HORDE

/-- A `QueuedGroupMap` filled from a list: in ascending order of size, and among groups of one
size in the order of the list. -/
def queuedGroupMap (heap : GroupHeap) (groups : List GroupPtr) : List GroupPtr :=
  groups.insertionSort fun g g' => (heap g).Players.size ≤ (heap g').Players.size

/-- One round of `PreAddPlayers`: `LeftToAdd`, and the pools. -/
def preAddOne (heap : GroupHeap) (MaxInTeam : ℕ) (s : ℤ × Pools) (g : GroupPtr) : ℤ × Pools :=
  let PlayerSize : ℤ := (heap g).Players.size
  if PlayerSize ≤ s.1 then
    let side := sideOf (heap g).OTeam
    let r := (s.2 side).addGroup heap g MaxInTeam
    (if r.1 then toInt32 (s.1 - PlayerSize) else s.1, Function.update s.2 side r.2)
  else s

def preAddPlayers (heap : GroupHeap) (m_PreGroupMap : List GroupPtr) (MaxAdd : ℤ)
    (MaxInTeam : ℕ) (pools : Pools) : ℤ × Pools :=
  m_PreGroupMap.reverse.foldl (preAddOne heap MaxInTeam) (MaxAdd, pools)

/-- The groups of `m_PreGroupMap_a` or `m_PreGroupMap_h`, in the order of the list. -/
def preGroups (heap : GroupHeap) (mixed : List GroupPtr) (side : Team) : List GroupPtr :=
  mixed.filter fun g => (heap g).uninvited && decide (sideOf (heap g).OTeam = side)

/-- `queuedAlliance` or `queuedHorde`. -/
def queuedOfSide (heap : GroupHeap) (mixed : List GroupPtr) (side : Team) : ℤ :=
  toInt32 ((preGroups heap mixed side).map fun g => (heap g).Players.size).sum

def smallestOfTeams (heap : GroupHeap) (mixed : List GroupPtr) (free : Team → ℤ) : ℤ :=
  min (min (free .ALLIANCE) (queuedOfSide heap mixed .ALLIANCE))
    (min (free .HORDE) (queuedOfSide heap mixed .HORDE))

/-- "Add teams to their own factions as far as possible": `valiFree` and `vhordeFree`, and the
pools. -/
def preAddPhase (heap : GroupHeap) (mixed : List GroupPtr) (free : Team → ℤ) :
    (Team → ℤ) × Pools :=
  let m_SmallestOfTeams := smallestOfTeams heap mixed free
  let a := preAddPlayers heap (queuedGroupMap heap (preGroups heap mixed .ALLIANCE))
    m_SmallestOfTeams (toUInt32 (free .ALLIANCE)) Pools.init
  let h := preAddPlayers heap (queuedGroupMap heap (preGroups heap mixed .HORDE))
    m_SmallestOfTeams (toUInt32 (free .HORDE)) a.2
  (fun
    | .ALLIANCE => toInt32 (free .ALLIANCE - a.1)
    | .HORDE => toInt32 (free .HORDE - h.1), h.2)

/-- The variables of the main loop; `vfree` is `valiFree` and `vhordeFree`. -/
structure FillState where
  heap : GroupHeap
  pools : Pools
  vfree : Team → ℤ

def fillOne (MinPlayersPerTeam : ℕ) (free : Team → ℤ) (s : FillState) (g : GroupPtr) :
    FillState :=
  if ¬ (s.heap g).uninvited ∨ g ∈ s.pools.selected ∨
      ((s.pools .ALLIANCE).PlayerCount ≥ MinPlayersPerTeam ∧
        (s.pools .HORDE).PlayerCount ≥ MinPlayersPerTeam) then s
  else
    let diff := (toInt32 (s.vfree .ALLIANCE - s.vfree .HORDE)).natAbs
    let moreAli := decide (s.vfree .ALLIANCE < s.vfree .HORDE)
    let heap := if diff > 0 then s.heap.setTeam g (if moreAli then .HORDE else .ALLIANCE)
      else s.heap
    let team := (heap g).Team
    let r := (s.pools team).addGroup heap g (toUInt32 (free team))
    { heap := heap
      pools := Function.update s.pools team r.2
      vfree := if r.1 then
          Function.update s.vfree team (toInt32 (s.vfree team - (heap g).Players.size))
        else s.vfree }

def queuedPeople (heap : GroupHeap) (mixed : List GroupPtr) : ℕ :=
  ((mixed.filter fun g => (heap g).uninvited).map fun g => (heap g).Players.size).sum % 256

def CrossFactionEnv.freeSlots (env : CrossFactionEnv) (bg : BattlegroundSlots) (start : Bool)
    (team : Team) : ℕ :=
  if start then bg.MaxPlayersPerTeam else bg.getFreeSlotsForTeam env.invitationType team

/-- The state in which the main loop begins: the pools have been emptied and, for a new match,
filled by the pre-add phase. -/
def fillStart (env : CrossFactionEnv) (heap : GroupHeap) (mixed : List GroupPtr)
    (bg : BattlegroundSlots) (start : Bool) : FillState :=
  let free := fun team => toInt32 (env.freeSlots bg start team)
  if start then
    let r := preAddPhase heap mixed free
    ⟨heap, r.2, r.1⟩
  else ⟨heap, Pools.init, free⟩

def fillXPlayersToBG (env : CrossFactionEnv) (heap : GroupHeap) (mixed : List GroupPtr)
    (pools : Pools) (bg : BattlegroundSlots) (start : Bool) : Bool × GroupHeap × Pools :=
  if env.crossFactionEnabled ∧ (env.isTesting ∨
      queuedPeople heap mixed ≥ bg.MinPlayersPerTeam * 2 % 2 ^ 32 ∨ start = false) then
    let free := fun team => toInt32 (env.freeSlots bg start team)
    let s := (queuedGroupMap heap mixed).reverse.foldl (fillOne bg.MinPlayersPerTeam free)
      (fillStart env heap mixed bg start)
    (true, s.heap, s.pools)
  else (false, heap, pools)

/-- The variables of the invitation: the groups, and the invited counts of the battleground. -/
structure InviteState where
  heap : GroupHeap
  invited : Team → ℕ

/-- `InviteGroupToBG(ginfo, bg, side)`: every connected player of the group is counted. -/
def inviteGroupToBG (findConnectedPlayer : ObjectGuid → Bool) (instanceId : ℕ) (s : InviteState)
    (ginfo : GroupPtr) (side : Team) : InviteState :=
  let heap := s.heap.setTeam ginfo side
  if (heap ginfo).uninvited then
    let team := (heap ginfo).Team
    { heap := Function.update heap ginfo
        { heap ginfo with IsInvitedToBGInstanceGUID := instanceId }
      invited := Function.update s.invited team
        (s.invited team + (heap ginfo).Players.elems.countP findConnectedPlayer) }
  else { s with heap := heap }

/-- "invite those selection pools": `InviteGroupToBG((*citr), bg, (*citr)->Team)` for both. -/
def invitePools (findConnectedPlayer : ObjectGuid → Bool) (instanceId : ℕ) (pools : Pools)
    (s : InviteState) : InviteState :=
  pools.selected.foldl
    (fun s g => inviteGroupToBG findConnectedPlayer instanceId s g (s.heap g).Team) s

/-! ## 3. What a fill should be -/

/-- The mixed list of a bracket: every group is queued once. -/
structure MixedQueue where
  heap : GroupHeap
  mixed : List GroupPtr
  nodup : mixed.Nodup

/-- The battleground the selected groups are invited to: the one that is being filled, or a new
copy of the template with nobody in it. -/
def inviteTarget (bg : BattlegroundSlots) (start : Bool) : BattlegroundSlots :=
  if start then { bg with invited := fun _ => 0, playersCount := fun _ => 0 } else bg

/-- **What a fill should be**: everybody in the pool of his `Team`, no group twice, no pool above
the free slots of its side, and no invited count raised above the maximum when the selected
groups are invited. -/
structure GoodFill (env : CrossFactionEnv) (bg : BattlegroundSlots) (start : Bool)
    (heap : GroupHeap) (pools : Pools) : Prop where
  side : ∀ team, ∀ g ∈ (pools team).SelectedGroups, (heap g).Team = team
  once : pools.selected.Nodup
  free : ∀ team, (pools team).PlayerCount ≤ env.freeSlots bg start team
  invited : ∀ findConnectedPlayer instanceId team,
    (invitePools findConnectedPlayer instanceId pools
      ⟨heap, (inviteTarget bg start).invited⟩).invited team ≤
    max bg.MaxPlayersPerTeam ((inviteTarget bg start).invited team)

/-- The groups that the pre-add phase puts into the pools. -/
def preAdded (env : CrossFactionEnv) (q : MixedQueue) (bg : BattlegroundSlots) (start : Bool) :
    Pools :=
  (fillStart env q.heap q.mixed bg start).pools

/-! ## 4. The pre-add phase -/

section PreAdd

variable {heap : GroupHeap} {max : Team → ℕ} {s : ℤ × Pools}

theorem queuedGroupMap_perm (heap : GroupHeap) (groups : List GroupPtr) :
    (queuedGroupMap heap groups).reverse.Perm groups :=
  (List.reverse_perm _).trans (List.perm_insertionSort _ groups)

theorem toUInt32_toInt32_le (n : ℕ) : toUInt32 (toInt32 n) ≤ n := by
  have h : toInt32 n % 2 ^ 32 = (n : ℤ) % 2 ^ 32 := Int.bmod_emod
  rw [toUInt32, h]
  omega

/-- What the pools keep while groups are added: the counters are right and within bounds, every
selected group is uninvited, and none is selected twice. -/
structure PoolsOk (heap : GroupHeap) (max : Team → ℕ) (pools : Pools) : Prop where
  counted : ∀ team, (pools team).Counted heap
  le : ∀ team, (pools team).PlayerCount ≤ max team
  uninvited : ∀ g ∈ pools.selected, (heap g).uninvited = true
  once : pools.selected.Nodup

theorem PoolsOk.init (heap : GroupHeap) (max : Team → ℕ) : PoolsOk heap max Pools.init where
  counted := fun _ => rfl
  le := fun _ => Nat.zero_le _
  uninvited := fun _ hg => absurd hg List.not_mem_nil
  once := List.nodup_nil

theorem mem_selected_addGroup {pools : Pools} {team : Team} {g g' : GroupPtr} {n : ℕ}
    {t : Team} (h : g' ∈ (Function.update pools team
      ((pools team).addGroup heap g n).2 t).SelectedGroups) :
    g' ∈ (pools t).SelectedGroups ∨ (g' = g ∧ t = team ∧ (heap g).uninvited = true) := by
  by_cases ht : t = team
  · subst ht
    rw [Function.update_self] at h
    rcases SelectionPool.mem_addGroup h with h | ⟨rfl, hinv⟩
    · exact Or.inl h
    · exact Or.inr ⟨rfl, rfl, hinv⟩
  · rw [Function.update_of_ne ht] at h
    exact Or.inl h

theorem mem_selected_addGroup_of_mem {pools : Pools} {team t : Team} {g g' : GroupPtr} {n : ℕ}
    (h : g' ∈ (pools t).SelectedGroups) :
    g' ∈ (Function.update pools team ((pools team).addGroup heap g n).2 t).SelectedGroups := by
  by_cases ht : t = team
  · subst ht
    rw [Function.update_self, SelectionPool.addGroup_snd]
    exact List.mem_append_left _ h
  · rwa [Function.update_of_ne ht]

theorem PoolsOk.addGroup {pools : Pools} (h : PoolsOk heap max pools) {g : GroupPtr}
    (hg : g ∉ pools.selected) (team : Team) :
    PoolsOk heap max (Function.update pools team
      ((pools team).addGroup heap g (max team)).2) where
  counted := by
    intro t
    by_cases ht : t = team
    · subst ht
      rw [Function.update_self]
      exact SelectionPool.addGroup_counted (h.counted t)
    · rw [Function.update_of_ne ht]; exact h.counted t
  le := by
    intro t
    by_cases ht : t = team
    · subst ht
      rw [Function.update_self]
      exact SelectionPool.addGroup_le (h.le t)
    · rw [Function.update_of_ne ht]; exact h.le t
  uninvited := by
    intro g' hg'
    obtain ⟨t, ht⟩ := Pools.mem_selected.mp hg'
    rcases mem_selected_addGroup ht with ht | ⟨rfl, -, hinv⟩
    · exact h.uninvited g' (Pools.mem_selected.mpr ⟨t, ht⟩)
    · exact hinv
  once := by
    have hnd := h.once
    have hne : ∀ t, g ∉ (pools t).SelectedGroups :=
      fun t ht => hg (Pools.mem_selected.mpr ⟨t, ht⟩)
    rw [Pools.selected, List.nodup_append'] at hnd ⊢
    obtain ⟨hA, hH, hdis⟩ := hnd
    have hmem : ∀ {t g'}, g' ∈ (Function.update pools team
        ((pools team).addGroup heap g (max team)).2 t).SelectedGroups →
        g' ∈ (pools t).SelectedGroups ∨ (g' = g ∧ t = team) := by
      intro t g' h'
      rcases mem_selected_addGroup h' with h' | ⟨rfl, rfl, -⟩
      · exact Or.inl h'
      · exact Or.inr ⟨rfl, rfl⟩
    refine ⟨?_, ?_, fun g' h1 h2 => ?_⟩
    · by_cases ht : Team.ALLIANCE = team
      · subst ht
        rw [Function.update_self]
        exact SelectionPool.nodup_addGroup hA (hne _)
      · rwa [Function.update_of_ne ht]
    · by_cases ht : Team.HORDE = team
      · subst ht
        rw [Function.update_self]
        exact SelectionPool.nodup_addGroup hH (hne _)
      · rwa [Function.update_of_ne ht]
    · rcases hmem h1 with hA' | ⟨rfl, rfl⟩
      · rcases hmem h2 with hH' | ⟨rfl, -⟩
        · exact hdis hA' hH'
        · exact hne _ hA'
      · rcases hmem h2 with hH' | ⟨-, hteam⟩
        · exact hne _ hH'
        · exact absurd hteam (by decide)

/-- What holds of the pools while groups are pre-added. -/
structure PreAdding (heap : GroupHeap) (max : Team → ℕ) (pools : Pools) : Prop
    extends PoolsOk heap max pools where
  side : ∀ team, ∀ g ∈ (pools team).SelectedGroups, sideOf (heap g).OTeam = team

theorem PreAdding.foldl {team : Team} (l : List GroupPtr) :
    ∀ s : ℤ × Pools, PreAdding heap max s.2 → l.Nodup →
      (∀ g ∈ l, sideOf (heap g).OTeam = team ∧ g ∉ (s.2 team).SelectedGroups) →
      PreAdding heap max (l.foldl (preAddOne heap (max team)) s).2 ∧
        (l.foldl (preAddOne heap (max team)) s).2 team.other = s.2 team.other := by
  induction l with
  | nil => exact fun s h _ _ => ⟨h, rfl⟩
  | cons g l ih =>
    intro s h hnd hl
    obtain ⟨hgl, hnd'⟩ := List.nodup_cons.mp hnd
    obtain ⟨hside, hg⟩ := hl g List.mem_cons_self
    have hl' : ∀ g' ∈ l, sideOf (heap g').OTeam = team ∧ g' ∉ (s.2 team).SelectedGroups :=
      fun g' hg' => hl g' (List.mem_cons_of_mem g hg')
    -- it is not in the other pool either: that pool is for the other side
    have hnot : g ∉ s.2.selected := by
      intro hm
      obtain ⟨t, ht⟩ := Pools.mem_selected.mp hm
      have hteam : t = team := (h.side t g ht).symm.trans hside
      exact hg (hteam ▸ ht)
    rw [List.foldl_cons]
    unfold preAddOne
    dsimp only
    split
    · rw [hside]
      refine (ih _ ⟨h.toPoolsOk.addGroup hnot team, fun t g' hg' => ?_⟩ hnd'
        fun g' hg' => ⟨(hl' g' hg').1, fun hm => ?_⟩).imp_right fun heq => ?_
      · rcases mem_selected_addGroup hg' with hg' | ⟨rfl, rfl, -⟩
        · exact h.side t g' hg'
        · exact hside
      · rcases mem_selected_addGroup hm with hm | ⟨rfl, -, -⟩
        · exact (hl' g' hg').2 hm
        · exact hgl hg'
      · exact heq.trans (Function.update_of_ne (Team.other_ne team) _ _)
    · exact ih s h hnd' hl'

theorem preAdding_preAddPlayers (q : MixedQueue) (team : Team) {pools : Pools}
    (h : PreAdding q.heap max pools) (hempty : (pools team).SelectedGroups = []) (MaxAdd : ℤ) :
    PreAdding q.heap max (preAddPlayers q.heap
        (queuedGroupMap q.heap (preGroups q.heap q.mixed team)) MaxAdd (max team) pools).2 ∧
      (preAddPlayers q.heap (queuedGroupMap q.heap (preGroups q.heap q.mixed team)) MaxAdd
        (max team) pools).2 team.other = pools team.other := by
  have hperm := queuedGroupMap_perm q.heap (preGroups q.heap q.mixed team)
  refine PreAdding.foldl _ (MaxAdd, pools) h (hperm.nodup_iff.mpr (q.nodup.filter _))
    fun g hg => ⟨?_, by rw [hempty]; exact List.not_mem_nil⟩
  have hp := (List.mem_filter.mp (hperm.mem_iff.mp hg)).2
  rw [Bool.and_eq_true, decide_eq_true_eq] at hp
  exact hp.2

theorem preAdding_preAddPhase (q : MixedQueue) (free : Team → ℤ) :
    PreAdding q.heap (fun team => toUInt32 (free team))
      (preAddPhase q.heap q.mixed free).2 := by
  have hinit : PreAdding q.heap (fun team => toUInt32 (free team)) Pools.init :=
    ⟨PoolsOk.init _ _, fun _ _ hg => absurd hg List.not_mem_nil⟩
  obtain ⟨hA, hempty⟩ := preAdding_preAddPlayers q .ALLIANCE hinit rfl
    (smallestOfTeams q.heap q.mixed free)
  exact (preAdding_preAddPlayers q .HORDE hA
    (congrArg SelectionPool.SelectedGroups hempty) _).1

end PreAdd

/-! ## 5. The main loop -/

section Fill

variable {env : CrossFactionEnv} {q : MixedQueue} {bg : BattlegroundSlots} {start : Bool}

/-- **What the main loop keeps.**  A pre-added group stays where it is, with its `Team`; every
other selected group is in the pool of its `Team`. -/
structure Filling (q : MixedQueue) (max : Team → ℕ) (pre : Pools) (s : FillState) : Prop
    extends PoolsOk s.heap max s.pools where
  kept : ∀ team, ∀ g ∈ (pre team).SelectedGroups,
    g ∈ (s.pools team).SelectedGroups ∧ (s.heap g).Team = (q.heap g).Team
  side : ∀ team, ∀ g ∈ (s.pools team).SelectedGroups,
    g ∈ (pre team).SelectedGroups ∨ (s.heap g).Team = team

variable {max : Team → ℕ} {pre : Pools} {s : FillState}

theorem PoolsOk.setTeam {heap : GroupHeap} {pools : Pools}
    (h : PoolsOk heap max pools) (g : GroupPtr) (team : Team) :
    PoolsOk (heap.setTeam g team) max pools where
  counted := fun t => by
    have hc := h.counted t
    simpa [SelectionPool.Counted] using hc
  le := h.le
  uninvited := fun g' hg' => by
    have hinv := h.uninvited g' hg'
    simpa [GroupQueueInfo.uninvited] using hinv
  once := h.once

theorem Filling.setTeam
    (h : Filling q max pre s) {g : GroupPtr} (hg : g ∉ s.pools.selected) (team : Team) :
    Filling q max pre { s with heap := s.heap.setTeam g team } where
  toPoolsOk := h.toPoolsOk.setTeam g team
  kept := by
    intro t g' hg'
    obtain ⟨hm, hteam⟩ := h.kept t g' hg'
    have hne : g' ≠ g := fun heq => hg (heq ▸ Pools.mem_selected.mpr ⟨t, hm⟩)
    exact ⟨hm, (GroupHeap.setTeam_Team_of_ne hne).trans hteam⟩
  side := by
    intro t g' hg'
    have hne : g' ≠ g := fun heq => hg (heq ▸ Pools.mem_selected.mpr ⟨t, hg'⟩)
    rw [show (s.heap.setTeam g team g').Team = (s.heap g').Team from
      GroupHeap.setTeam_Team_of_ne hne]
    exact h.side t g' hg'

theorem Filling.addGroup
    (h : Filling q max pre s) {g : GroupPtr} (hg : g ∉ s.pools.selected) {team : Team}
    (hteam : (s.heap g).Team = team) (vfree : Team → ℤ) :
    Filling q max pre
      ⟨s.heap, Function.update s.pools team ((s.pools team).addGroup s.heap g (max team)).2,
        vfree⟩ where
  toPoolsOk := h.toPoolsOk.addGroup hg team
  kept := fun t g' hg' =>
    ⟨mem_selected_addGroup_of_mem (h.kept t g' hg').1, (h.kept t g' hg').2⟩
  side := by
    intro t g' hg'
    rcases mem_selected_addGroup hg' with hg' | ⟨rfl, rfl, -⟩
    · exact h.side t g' hg'
    · exact Or.inr hteam

theorem Filling.fillOne {free : Team → ℤ}
    (h : Filling q (fun team => toUInt32 (free team)) pre s) (MinPlayersPerTeam : ℕ)
    (g : GroupPtr) : Filling q (fun team => toUInt32 (free team)) pre
      (FunPvp.Battleground.fillOne MinPlayersPerTeam free s g) := by
  unfold FunPvp.Battleground.fillOne
  split
  · exact h
  · next hskip =>
    have hg : g ∉ s.pools.selected := fun hm => hskip (Or.inr (Or.inl hm))
    dsimp only
    split
    · exact (h.setTeam hg _).addGroup hg rfl _
    · exact h.addGroup hg rfl _

theorem Filling.foldl {free : Team → ℤ} (MinPlayersPerTeam : ℕ) (l : List GroupPtr) {s : FillState}
    (h : Filling q (fun team => toUInt32 (free team)) pre s) :
    Filling q (fun team => toUInt32 (free team)) pre
      (l.foldl (FunPvp.Battleground.fillOne MinPlayersPerTeam free) s) := by
  induction l generalizing s with
  | nil => exact h
  | cons g l ih => exact ih (h.fillOne MinPlayersPerTeam g)

theorem filling_start (env : CrossFactionEnv) (q : MixedQueue) (bg : BattlegroundSlots)
    (start : Bool) : Filling q (fun team => toUInt32 (toInt32 (env.freeSlots bg start team)))
      (preAdded env q bg start) (fillStart env q.heap q.mixed bg start) := by
  have hheap : (fillStart env q.heap q.mixed bg start).heap = q.heap := by
    cases start <;> rfl
  have hok : PoolsOk q.heap (fun team => toUInt32 (toInt32 (env.freeSlots bg start team)))
      (fillStart env q.heap q.mixed bg start).pools := by
    cases start with
    | false => exact PoolsOk.init _ _
    | true => exact (preAdding_preAddPhase q _).toPoolsOk
  exact {
    toPoolsOk := by rw [hheap]; exact hok
    kept := fun team g hg => ⟨hg, by rw [hheap]⟩
    side := fun team g hg => Or.inl hg }

theorem preAdded_side {team : Team} {g : GroupPtr}
    (hg : g ∈ (preAdded env q bg start team).SelectedGroups) :
    sideOf (q.heap g).OTeam = team := by
  cases start with
  | false => exact absurd hg List.not_mem_nil
  | true => exact (preAdding_preAddPhase q _).side team g hg

end Fill

/-! ## 6. The invitation -/

section Invite

variable (findConnectedPlayer : ObjectGuid → Bool) (instanceId : ℕ)

theorem inviteGroupToBG_spec (s : InviteState) (g : GroupPtr) :
    let s' := inviteGroupToBG findConnectedPlayer instanceId s g (s.heap g).Team
    (∀ g', (s'.heap g').Team = (s.heap g').Team ∧ (s'.heap g').Players = (s.heap g').Players) ∧
      ∀ team, s'.invited team ≤ s.invited team +
        if (s.heap g).Team = team then (s.heap g).Players.size else 0 := by
  have hsame : s.heap.setTeam g (s.heap g).Team = s.heap := by
    funext g'
    by_cases h : g' = g
    · subst h; simp [GroupHeap.setTeam]
    · simp [GroupHeap.setTeam, h]
  dsimp only [inviteGroupToBG]
  rw [hsame]
  split
  · refine ⟨fun g' => ?_, fun team => ?_⟩
    · by_cases h : g' = g
      · subst h; simp
      · simp [h]
    · by_cases h : team = (s.heap g).Team
      · subst h
        have hle : (s.heap g).Players.elems.countP findConnectedPlayer ≤ (s.heap g).Players.size :=
          List.countP_le_length
        simpa using hle
      · simp [Function.update_of_ne h]
  · exact ⟨fun _ => ⟨rfl, rfl⟩, fun team => Nat.le_add_right _ _⟩

theorem inviteAll_le (l : List GroupPtr) (s : InviteState) (team : Team) :
    (l.foldl (fun s g =>
        inviteGroupToBG findConnectedPlayer instanceId s g (s.heap g).Team) s).invited team ≤
      s.invited team +
        ((l.filter fun g => (s.heap g).Team = team).map fun g => (s.heap g).Players.size).sum := by
  induction l generalizing s with
  | nil => simp
  | cons g l ih =>
    obtain ⟨hsame, hle⟩ := inviteGroupToBG_spec findConnectedPlayer instanceId s g
    have ih' := ih (inviteGroupToBG findConnectedPlayer instanceId s g (s.heap g).Team)
    have hone := hle team
    simp only [fun g' => (hsame g').1, fun g' => (hsame g').2] at ih'
    rw [List.foldl_cons]
    by_cases hteam : (s.heap g).Team = team
    · rw [if_pos hteam] at hone
      rw [List.filter_cons_of_pos (by simpa using hteam), List.map_cons, List.sum_cons]
      omega
    · rw [if_neg hteam] at hone
      rw [List.filter_cons_of_neg (by simpa using hteam)]
      omega

end Invite

/-! ## 7. The function -/

theorem GoodFill.of_side {env : CrossFactionEnv} {bg : BattlegroundSlots} {start : Bool}
    {heap : GroupHeap} {pools : Pools}
    (hok : PoolsOk heap (fun team => toUInt32 (toInt32 (env.freeSlots bg start team))) pools)
    (hside : ∀ team, ∀ g ∈ (pools team).SelectedGroups, (heap g).Team = team) :
    GoodFill env bg start heap pools where
  side := hside
  once := hok.once
  free := fun team => (hok.le team).trans (toUInt32_toInt32_le _)
  invited := by
    intro findConnectedPlayer instanceId team
    have hle := inviteAll_le findConnectedPlayer instanceId pools.selected
      ⟨heap, (inviteTarget bg start).invited⟩ team
    have hmine : (pools.selected.filter fun g => (heap g).Team = team)
        = (pools team).SelectedGroups := by
      have hself : ∀ t, t = team → ((pools t).SelectedGroups.filter fun g => (heap g).Team = team)
          = (pools t).SelectedGroups := by
        intro t ht
        exact List.filter_eq_self.mpr fun g hg => by simp [hside t g hg, ht]
      have hother : ∀ t, t ≠ team →
          ((pools t).SelectedGroups.filter fun g => (heap g).Team = team) = [] := by
        intro t ht
        exact List.filter_eq_nil_iff.mpr fun g hg => by simp [hside t g hg, ht]
      rw [Pools.selected, List.filter_append]
      cases team with
      | ALLIANCE => rw [hself _ rfl, hother .HORDE (by decide), List.append_nil]
      | HORDE => rw [hself _ rfl, hother .ALLIANCE (by decide), List.nil_append]
    have hcount := hok.counted team
    have hfree := (hok.le team).trans (toUInt32_toInt32_le _)
    have hslots : env.freeSlots bg start team ≤
        bg.MaxPlayersPerTeam - (inviteTarget bg start).invited team := by
      cases start with
      | false => exact getFreeSlotsForTeam_le bg env.invitationType team
      | true => exact Nat.le_of_eq (Nat.sub_zero _).symm
    simp only [hmine] at hle
    rw [← show (pools team).PlayerCount = _ from hcount] at hle
    refine hle.trans ?_
    omega

/-- **A fill is what it should be exactly if every pre-added group has the `Team` that its
`OTeam` names.**  When a running battleground is filled nothing is pre-added. -/
theorem fillXPlayersToBG_correct_iff (env : CrossFactionEnv) (q : MixedQueue) (pools : Pools)
    (bg : BattlegroundSlots) (start : Bool) (heap' : GroupHeap) (pools' : Pools)
    (h : fillXPlayersToBG env q.heap q.mixed pools bg start = (true, heap', pools')) :
    GoodFill env bg start heap' pools' ↔
      ∀ g ∈ (preAdded env q bg start).selected, (q.heap g).Team = sideOf (q.heap g).OTeam := by
  unfold fillXPlayersToBG at h
  split at h
  · obtain ⟨-, h⟩ := Prod.mk.inj h
    obtain ⟨rfl, rfl⟩ := Prod.mk.inj h
    have hfill := (filling_start env q bg start).foldl bg.MinPlayersPerTeam
      (queuedGroupMap q.heap q.mixed).reverse
    constructor
    · intro hgood g hg
      obtain ⟨team, hg⟩ := Pools.mem_selected.mp hg
      obtain ⟨hm, hteam⟩ := hfill.kept team g hg
      rw [← hteam, hgood.side team g hm, preAdded_side hg]
    · intro hpre
      refine GoodFill.of_side hfill.toPoolsOk fun team g hg => ?_
      rcases hfill.side team g hg with hg' | hteam
      · rw [(hfill.kept team g hg').2, hpre g (Pools.mem_selected.mpr ⟨team, hg'⟩),
          preAdded_side hg']
      · exact hteam
  · exact absurd (Prod.mk.inj h).1 (by decide)

/-! ## 8. A fill that goes wrong -/

def fourOnFour : BattlegroundSlots where
  Status := .STATUS_NONE
  MinPlayersPerTeam := 2
  MaxPlayersPerTeam := 4
  invited := fun _ => 0
  playersCount := fun _ => 0

/-- An alliance group of three, an alliance player, and a horde group of four; everybody's
`OTeam` is his `Team`. -/
def threeGroups : GroupHeap := fun
  | 0 => { Players := ⟨[1, 2, 3], by decide⟩, Team := .ALLIANCE, OTeam := 469 }
  | 1 => { Players := ⟨[4], by decide⟩, Team := .ALLIANCE, OTeam := 469 }
  | _ => { Players := ⟨[5, 6, 7, 8], by decide⟩, Team := .HORDE, OTeam := 67 }

def crossFactionOn : CrossFactionEnv := ⟨true, false, .BALANCED⟩

/-- The groups after a first attempt, made before the horde group had joined: the single player
has been rewritten to `HORDE`, and too few are selected for a match to start. -/
def afterFirstAttempt : GroupHeap := threeGroups.setTeam 1 .HORDE

example :
    let r := fillXPlayersToBG crossFactionOn threeGroups [0, 1] Pools.init fourOnFour true
    (∀ g ∈ [0, 1, 2], r.2.1 g = afterFirstAttempt g) ∧ (r.2.2 .HORDE).PlayerCount = 1 := by
  decide

/-- The second attempt adds the single player to the alliance pool by his `OTeam`, and invites
him to the horde by his `Team`, which makes five. -/
theorem second_attempt_crosses : ∃ heap' pools',
    fillXPlayersToBG crossFactionOn afterFirstAttempt [0, 1, 2] Pools.init fourOnFour true
      = (true, heap', pools') ∧ ¬ GoodFill crossFactionOn fourOnFour true heap' pools' := by
  refine ⟨_, _, rfl, fun h => ?_⟩
  have hfive := h.invited (fun _ => true) 1 .HORDE
  revert hfive
  decide

/-- Without the first attempt the same groups are filled as they should be. -/
theorem first_attempt_fits : ∃ heap' pools',
    fillXPlayersToBG crossFactionOn threeGroups [0, 1, 2] Pools.init fourOnFour true
      = (true, heap', pools') ∧ GoodFill crossFactionOn fourOnFour true heap' pools' :=
  ⟨_, _, rfl, (fillXPlayersToBG_correct_iff crossFactionOn ⟨threeGroups, [0, 1, 2], by decide⟩
    Pools.init fourOnFour true _ _ rfl).mpr (by decide)⟩

end FunPvp.Battleground
