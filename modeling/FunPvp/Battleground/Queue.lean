/-
# Queued groups and selection pools

The data the matchmaking functions share. A queue is a list of pointers to `GroupQueueInfo`;
the same group is reached through the lists of `m_QueuedGroups` and through the selection pools,
and its `Team` is rewritten through either, so groups live in a heap and lists hold pointers.
-/
import FunPvp.Lib.OrderedSet

namespace FunPvp.Battleground

open FunPvp.Lib

/-! ## 1. Groups -/

/-- `enum Team`; it doubles as `TeamId`, the index of a faction's list or pool. -/
inductive Team
  | ALLIANCE | HORDE
deriving DecidableEq

def Team.value : Team → ℕ
  | .ALLIANCE => 469
  | .HORDE => 67

/-- `(teamId + 1) % BG_TEAMS_COUNT`. -/
def Team.other : Team → Team
  | .ALLIANCE => .HORDE
  | .HORDE => .ALLIANCE

@[simp] theorem Team.other_ne (t : Team) : t.other ≠ t := by cases t <;> decide

theorem Team.eq_other_of_ne {t t' : Team} (h : t ≠ t') : t = t'.other := by
  cases t <;> cases t' <;> simp_all [Team.other]

/-- `BattlegroundQueueInvitationType`. -/
inductive InvitationType
  | NO_BALANCE | BALANCED | EVEN
deriving DecidableEq

abbrev ObjectGuid := ℕ

/-- `GroupQueueInfo*`. -/
abbrev GroupPtr := ℕ

/-- A group in the queue; a single player is a group of one. `Players` is the key set of the
map, `OTeam` the raw value of a field that the queue never assigns. -/
structure GroupQueueInfo where
  Players : OrderedSet ObjectGuid
  Team : Team
  OTeam : ℕ := 0
  IsRated : Bool := false
  ArenaTeamId : ℕ := 0
  JoinTime : UInt32 := 0
  ArenaMatchmakerRating : UInt32 := 0
  IsCustomSkirmish : Bool := false
  IsInvitedToBGInstanceGUID : ℕ := 0
deriving DecidableEq

/-- `!ginfo->IsInvitedToBGInstanceGUID`. -/
def GroupQueueInfo.uninvited (ginfo : GroupQueueInfo) : Bool :=
  decide (ginfo.IsInvitedToBGInstanceGUID = 0)

abbrev GroupHeap := GroupPtr → GroupQueueInfo

def GroupHeap.setTeam (heap : GroupHeap) (ginfo : GroupPtr) (team : Team) : GroupHeap :=
  Function.update heap ginfo { heap ginfo with Team := team }

def GroupHeap.setArenaTeamId (heap : GroupHeap) (ginfo : GroupPtr) (arenaTeamId : ℕ) : GroupHeap :=
  Function.update heap ginfo { heap ginfo with ArenaTeamId := arenaTeamId }

namespace GroupHeap

variable {heap : GroupHeap} {ginfo g : GroupPtr} {team : Team}

@[simp] theorem setTeam_Team_self : (heap.setTeam ginfo team ginfo).Team = team := by
  simp [setTeam]

theorem setTeam_Team_of_ne (h : g ≠ ginfo) :
    (heap.setTeam ginfo team g).Team = (heap g).Team := by
  simp [setTeam, Function.update_of_ne h]

@[simp] theorem setTeam_Players : (heap.setTeam ginfo team g).Players = (heap g).Players := by
  by_cases h : g = ginfo
  · subst h; simp [setTeam]
  · simp [setTeam, Function.update_of_ne h]

@[simp] theorem setTeam_IsInvitedToBGInstanceGUID :
    (heap.setTeam ginfo team g).IsInvitedToBGInstanceGUID
      = (heap g).IsInvitedToBGInstanceGUID := by
  by_cases h : g = ginfo
  · subst h; simp [setTeam]
  · simp [setTeam, Function.update_of_ne h]

end GroupHeap

/-! ## 2. Selection pools -/

/-- `BattlegroundQueue::SelectionPool`. -/
structure SelectionPool where
  SelectedGroups : List GroupPtr
  PlayerCount : ℕ
deriving DecidableEq

namespace SelectionPool

def init : SelectionPool := ⟨[], 0⟩

/-- `SelectedGroups.push_back(ginfo); PlayerCount += ginfo->Players.size();` -/
def push (pool : SelectionPool) (heap : GroupHeap) (ginfo : GroupPtr) : SelectionPool :=
  ⟨pool.SelectedGroups ++ [ginfo], pool.PlayerCount + (heap ginfo).Players.size⟩

/-- `SelectionPool::AddGroup`: the result, and the pool after the call. The result is also true
when the group was left out and there is room for a smaller one. -/
def addGroup (pool : SelectionPool) (heap : GroupHeap) (ginfo : GroupPtr) (desiredCount : ℕ) :
    Bool × SelectionPool :=
  if (heap ginfo).uninvited ∧ desiredCount ≥ pool.PlayerCount + (heap ginfo).Players.size then
    (true, pool.push heap ginfo)
  else if pool.PlayerCount < desiredCount then (true, pool)
  else (false, pool)

variable {pool : SelectionPool} {heap : GroupHeap} {ginfo : GroupPtr} {desiredCount : ℕ}

def extend (pool : SelectionPool) (heap : GroupHeap) (groups : List GroupPtr) : SelectionPool :=
  ⟨pool.SelectedGroups ++ groups,
    pool.PlayerCount + (groups.map fun g => (heap g).Players.size).sum⟩

@[simp] theorem extend_nil (pool : SelectionPool) (heap : GroupHeap) :
    pool.extend heap [] = pool := by
  simp [extend]

theorem extend_cons (pool : SelectionPool) (heap : GroupHeap) (g : GroupPtr)
    (groups : List GroupPtr) :
    pool.extend heap (g :: groups) = (pool.push heap g).extend heap groups := by
  simp [extend, push, Nat.add_assoc]

theorem addGroup_of_fits (hinv : (heap ginfo).uninvited = true)
    (hfits : pool.PlayerCount + (heap ginfo).Players.size ≤ desiredCount) :
    pool.addGroup heap ginfo desiredCount = (true, pool.push heap ginfo) :=
  if_pos ⟨hinv, hfits⟩

theorem addGroup_of_not_fits
    (hfits : ¬ pool.PlayerCount + (heap ginfo).Players.size ≤ desiredCount) :
    pool.addGroup heap ginfo desiredCount = (decide (pool.PlayerCount < desiredCount), pool) := by
  rw [addGroup, if_neg fun h => hfits h.2]
  by_cases hroom : pool.PlayerCount < desiredCount <;> simp [hroom]

theorem addGroup_snd (pool : SelectionPool) (heap : GroupHeap) (ginfo : GroupPtr)
    (desiredCount : ℕ) :
    (pool.addGroup heap ginfo desiredCount).2 =
      pool.extend heap
        (if (heap ginfo).uninvited ∧ pool.PlayerCount + (heap ginfo).Players.size ≤ desiredCount
          then [ginfo] else []) := by
  unfold addGroup
  split
  · rw [extend_cons, extend_nil]
  · split <;> simp

/-- The counter is the number of players of the selected groups, each group counted as often as
it was selected. -/
def Counted (pool : SelectionPool) (heap : GroupHeap) : Prop :=
  pool.PlayerCount = (pool.SelectedGroups.map fun g => (heap g).Players.size).sum

theorem Counted.extend (h : pool.Counted heap) (groups : List GroupPtr) :
    (pool.extend heap groups).Counted heap := by
  unfold Counted at h
  simp [Counted, SelectionPool.extend, h]

theorem addGroup_counted (h : pool.Counted heap) :
    (pool.addGroup heap ginfo desiredCount).2.Counted heap := by
  rw [addGroup_snd]; exact h.extend _

theorem addGroup_le (h : pool.PlayerCount ≤ desiredCount) :
    (pool.addGroup heap ginfo desiredCount).2.PlayerCount ≤ desiredCount := by
  unfold addGroup
  split
  · next hfits => exact hfits.2
  · split <;> exact h

theorem mem_addGroup {g : GroupPtr}
    (h : g ∈ (pool.addGroup heap ginfo desiredCount).2.SelectedGroups) :
    g ∈ pool.SelectedGroups ∨ (g = ginfo ∧ (heap g).uninvited = true) := by
  rw [addGroup_snd] at h
  rcases List.mem_append.mp h with h | h
  · exact Or.inl h
  · split at h
    · next hinv =>
      obtain rfl := List.mem_singleton.mp h
      exact Or.inr ⟨rfl, hinv.1⟩
    · exact absurd h List.not_mem_nil

theorem nodup_addGroup (h : pool.SelectedGroups.Nodup) (hg : ginfo ∉ pool.SelectedGroups) :
    (pool.addGroup heap ginfo desiredCount).2.SelectedGroups.Nodup := by
  rw [addGroup_snd]
  refine h.append ?_ fun g hm hm' => ?_
  · split
    · exact List.nodup_singleton _
    · exact List.nodup_nil
  · split at hm'
    · exact hg (List.mem_singleton.mp hm' ▸ hm)
    · exact absurd hm' List.not_mem_nil

end SelectionPool

abbrev Pools := Team → SelectionPool

/-- Freshly `Init()`-ed pools. -/
def Pools.init : Pools := fun _ => SelectionPool.init

def Pools.selected (pools : Pools) : List GroupPtr :=
  (pools .ALLIANCE).SelectedGroups ++ (pools .HORDE).SelectedGroups

theorem Pools.mem_selected {pools : Pools} {g : GroupPtr} :
    g ∈ pools.selected ↔ ∃ team, g ∈ (pools team).SelectedGroups := by
  rw [Pools.selected, List.mem_append]
  constructor
  · rintro (h | h)
    · exact ⟨_, h⟩
    · exact ⟨_, h⟩
  · rintro ⟨team, h⟩
    cases team with
    | ALLIANCE => exact Or.inl h
    | HORDE => exact Or.inr h

end FunPvp.Battleground
