/-
# Filling a running battleground

Where the factions queue apart, `FillPlayersToBG` fills the pool of each side from the head of its
list, up to the free slots of the side. Then it balances them: as long as the free slots that
remain differ by more than one, it kicks a group from the pool of the side that has fewer left, and
puts smaller groups from the rest of the list in its place.

Every round that goes on kicks somebody, and what is kicked is not looked at again: the players in
the pools and in the unread rest of the lists get fewer. So the loop ends (`fillPlayersToBG_good`),
and it gives up only where the pool it would have to kick from is empty.
-/
import FunPvp.Battleground.CrossFaction
import FunPvp.Lib.While

namespace FunPvp.Battleground

open FunPvp.Lib

/-! ## 1. The code -/

namespace SelectionPool

/-- One round of the loop of `KickGroup`: `groupToKick` and `found`. -/
def kickScan (heap : GroupHeap) (size : ℕ) (s : GroupPtr × Bool) (itr : GroupPtr) :
    GroupPtr × Bool :=
  if (((heap itr).Players.size : ℤ) - size).natAbs ≤ 1 then (itr, true)
  else if !s.2 && (heap s.1).Players.size ≤ (heap itr).Players.size then (itr, s.2)
  else s

/-- `SelectionPool::KickGroup`. The iterator to the group is the group: none is in the pool
twice. -/
def kickGroup (pool : SelectionPool) (heap : GroupHeap) (size : ℕ) : Bool × SelectionPool :=
  match pool.SelectedGroups with
  -- if pool is empty, do nothing
  | [] => (true, pool)
  | first :: groups =>
    if pool.PlayerCount ≠ 0 then
      let ginfo := ((first :: groups).foldl (kickScan heap size) (first, false)).1
      let pool' : SelectionPool :=
        ⟨pool.SelectedGroups.erase ginfo, pool.PlayerCount - (heap ginfo).Players.size⟩
      -- return false if we kicked smaller group or there are enough players in selection pool
      (decide (¬ (heap ginfo).Players.size ≤ size + 1), pool')
    else (true, pool)

/-- The loops that add groups until `AddGroup` returns false: the pool, and the groups from the
iterator on. -/
def addGroups (heap : GroupHeap) (desiredCount : ℕ) :
    SelectionPool → List GroupPtr → SelectionPool × List GroupPtr
  | pool, [] => (pool, [])
  | pool, itr :: groups =>
    let r := pool.addGroup heap itr desiredCount
    if r.1 then addGroups heap desiredCount r.2 groups else (r.2, itr :: groups)

def replaceGroup (heap : GroupHeap) (size desiredCount : ℕ) (pool : SelectionPool)
    (groups : List GroupPtr) : SelectionPool × List GroupPtr :=
  let kick := pool.kickGroup heap size
  if kick.1 then kick.2.addGroups heap desiredCount groups else (kick.2, groups)

end SelectionPool

/-- The variables of the balancing loop: the pools, and the lists from the iterators on. -/
structure BalanceState where
  pools : Pools
  unread : Team → List GroupPtr

/-- `diffAli` and `diffHorde`. -/
def BalanceState.diff (free : Team → ℕ) (s : BalanceState) (team : Team) : ℤ :=
  (free team : ℤ) - (s.pools team).PlayerCount

/-- A round that has fewer slots left on the one side: the branch for it, which the source has
twice. -/
def balanceSide (heap : GroupHeap) (free : Team → ℕ) (side : Team) (s : BalanceState) :
    Except BalanceState BalanceState :=
  let diff := s.diff free
  let size := (diff side.other - diff side).toNat
  let desired := if free side ≥ diff side.other then (free side - diff side.other).toNat else 0
  let filled := (s.pools side).replaceGroup heap size desired (s.unread side)
  let s : BalanceState :=
    ⟨Function.update s.pools side filled.1, Function.update s.unread side filled.2⟩
  -- if the selection is already empty, then kick from the other side
  if (s.pools side).PlayerCount = 0 then
    if free side ≤ diff side.other + 1 then .error s
    else
      .ok { s with
        pools := Function.update s.pools side.other
          ((s.pools side.other).kickGroup heap size).2 }
  else .ok s

def balanceRound (heap : GroupHeap) (free : Team → ℕ) (s : BalanceState) :
    Except BalanceState BalanceState :=
  if (s.diff free .ALLIANCE - s.diff free .HORDE).natAbs > 1 ∧
      ((s.pools .HORDE).PlayerCount > 0 ∨ (s.pools .ALLIANCE).PlayerCount > 0) then
    if s.diff free .ALLIANCE < s.diff free .HORDE then balanceSide heap free .ALLIANCE s
    else balanceSide heap free .HORDE s
  else .error s

/-- The free slots that the fill works with: with the invitation type `EVEN` and one free slot on
each side, a side gives up one for each group that its list is longer than the other. -/
def evenSlots (invitationType : InvitationType) (queued : Team → List GroupPtr)
    (free : Team → ℕ) (team : Team) : ℕ :=
  if invitationType = .EVEN ∧ free .HORDE = 1 ∧ free .ALLIANCE = 1 then
    free team - ((queued team).length - (queued team.other).length)
  else free team

/-- `FillPlayersToBG`, with what `GetFreeSlotsForTeam` returns: at most `MaxPlayersPerTeam`, a
`uint16` in the database, so that no `int32` overflows. -/
def fillPlayersToBG (fuel : ℕ) (env : CrossFactionEnv) (heap : GroupHeap)
    (queued : Team → List GroupPtr) (mixed : List GroupPtr) (pools : Pools)
    (bg : BattlegroundSlots) (isArena : Bool) (free : Team → ℕ) : Option (GroupHeap × Pools) :=
  let fillX := fillXPlayersToBG env heap mixed pools bg false
  if !isArena && fillX.1 then some fillX.2
  else
    let free := evenSlots env.invitationType queued free
    let filled := fun team => (pools team).addGroups heap (free team) (queued team)
    let s : BalanceState := ⟨fun team => (filled team).1, fun team => (filled team).2⟩
    -- if ofc like BG queue invitation is set in config, then we are happy
    if env.invitationType = .NO_BALANCE then some (heap, s.pools)
    else (whileLoop (balanceRound heap free) fuel s).map fun s => (heap, s.pools)

/-! ## 2. What the fill should be -/

/-- The lists of the two factions: no group has two places. -/
structure FactionQueue where
  heap : GroupHeap
  queued : Team → List GroupPtr
  nodup : (queued .ALLIANCE ++ queued .HORDE).Nodup

def Pools.remaining (pools : Pools) (free : Team → ℕ) (team : Team) : ℤ :=
  (free team : ℤ) - (pools team).PlayerCount

/-- The free slots that remain differ by at most one, or the side that has fewer has nobody in its
pool. -/
def Pools.Balanced (pools : Pools) (free : Team → ℕ) : Prop :=
  (pools.remaining free .ALLIANCE - pools.remaining free .HORDE).natAbs ≤ 1 ∨
    ∃ team, pools.remaining free team < pools.remaining free team.other ∧
      (pools team).PlayerCount = 0

/-- **What the fill should be.** -/
structure GoodPools (invitationType : InvitationType) (q : FactionQueue) (free : Team → ℕ)
    (pools : Pools) : Prop where
  once : pools.selected.Nodup
  queued : ∀ team, ∀ g ∈ (pools team).SelectedGroups, g ∈ q.queued team
  uninvited : ∀ team, ∀ g ∈ (pools team).SelectedGroups, (q.heap g).uninvited = true
  counted : ∀ team, (pools team).Counted q.heap
  balanced : invitationType ≠ .NO_BALANCE → pools.Balanced free
  free : ∀ team, (pools team).PlayerCount ≤ free team

/-! ## 3. One pool -/

/-- What a pool keeps: it is filled from the part of the list that has been read. -/
structure PoolFrom (heap : GroupHeap) (queue : List GroupPtr) (free : ℕ)
    (pool : SelectionPool) (unread : List GroupPtr) : Prop where
  read : ∃ read, queue = read ++ unread ∧ pool.SelectedGroups.Sublist read
  uninvited : ∀ g ∈ pool.SelectedGroups, (heap g).uninvited = true
  counted : pool.Counted heap
  free : pool.PlayerCount ≤ free

/-- The players in the pool and in the rest of the list. -/
def load (heap : GroupHeap) (pool : SelectionPool) (unread : List GroupPtr) : ℕ :=
  pool.PlayerCount + (unread.map fun g => (heap g).Players.size).sum

variable {heap : GroupHeap} {queue unread : List GroupPtr} {n : ℕ} {pool : SelectionPool}

theorem PoolFrom.addGroup {g : GroupPtr} (h : PoolFrom heap queue n pool (g :: unread))
    {desiredCount : ℕ} (hdesired : desiredCount ≤ n) :
    PoolFrom heap queue n (pool.addGroup heap g desiredCount).2 unread where
  read := by
    obtain ⟨read, hqueue, hsub⟩ := h.read
    refine ⟨read ++ [g], by rw [hqueue, List.append_assoc, List.singleton_append], ?_⟩
    rw [SelectionPool.addGroup_snd]
    refine hsub.append ?_
    split
    · exact List.Sublist.refl _
    · exact List.nil_sublist _
  uninvited := by
    intro g' hg'
    rcases SelectionPool.mem_addGroup hg' with hg' | ⟨rfl, hinv⟩
    · exact h.uninvited g' hg'
    · exact hinv
  counted := SelectionPool.addGroup_counted h.counted
  free := by
    unfold SelectionPool.addGroup
    split
    · next hfits => exact hfits.2.trans hdesired
    · split <;> exact h.free

theorem load_addGroup (heap : GroupHeap) (pool : SelectionPool) (g : GroupPtr)
    (unread : List GroupPtr) (desiredCount : ℕ) :
    load heap (pool.addGroup heap g desiredCount).2 unread ≤ load heap pool (g :: unread) := by
  rw [SelectionPool.addGroup_snd]
  unfold load SelectionPool.extend
  split
  · simp
    omega
  · simp

theorem PoolFrom.addGroups (h : PoolFrom heap queue n pool unread) {desiredCount : ℕ}
    (hdesired : desiredCount ≤ n) :
    PoolFrom heap queue n (pool.addGroups heap desiredCount unread).1
        (pool.addGroups heap desiredCount unread).2 ∧
      load heap (pool.addGroups heap desiredCount unread).1
        (pool.addGroups heap desiredCount unread).2 ≤ load heap pool unread := by
  induction unread generalizing pool with
  | nil => exact ⟨h, le_rfl⟩
  | cons g unread ih =>
    unfold SelectionPool.addGroups
    dsimp only
    split
    · obtain ⟨hrest, hload⟩ := ih (h.addGroup hdesired)
      exact ⟨hrest, hload.trans (load_addGroup heap pool g unread desiredCount)⟩
    · next hfull =>
      have hpool : (pool.addGroup heap g desiredCount).2 = pool := by
        unfold SelectionPool.addGroup at hfull ⊢
        split_ifs at hfull ⊢ <;> first | rfl | exact absurd rfl hfull
      rw [hpool]
      exact ⟨h, le_rfl⟩

theorem playerCount_addGroups_zero (h : pool.PlayerCount = 0) (unread : List GroupPtr) :
    (pool.addGroups heap 0 unread).1.PlayerCount = 0 := by
  induction unread generalizing pool with
  | nil => exact h
  | cons g unread ih =>
    unfold SelectionPool.addGroups
    dsimp only
    have hadd : (pool.addGroup heap g 0).2.PlayerCount = 0 :=
      Nat.le_zero.mp (SelectionPool.addGroup_le h.le)
    split
    · exact ih hadd
    · exact hadd

/-- What the loop of `KickGroup` has found after a part of the groups: one of them, of nearly the
size looked for, or the largest. -/
structure Scanned (heap : GroupHeap) (size : ℕ) (first : GroupPtr) (seen : List GroupPtr)
    (s : GroupPtr × Bool) : Prop where
  mem : s.1 ∈ first :: seen
  found : s.2 = true → size ≤ (heap s.1).Players.size + 1
  largest : s.2 = false → ∀ g ∈ seen, (heap g).Players.size ≤ (heap s.1).Players.size

theorem Scanned.mem_groups {size : ℕ} {first : GroupPtr} {groups : List GroupPtr}
    {s : GroupPtr × Bool} (h : Scanned heap size first (first :: groups) s) :
    s.1 ∈ first :: groups := by
  rcases List.mem_cons.mp h.mem with heq | hmem
  · rw [heq]
    exact List.mem_cons_self
  · exact hmem

theorem Scanned.step {size : ℕ} {first g : GroupPtr} {seen : List GroupPtr} {s : GroupPtr × Bool}
    (h : Scanned heap size first seen s) :
    Scanned heap size first (seen ++ [g]) (SelectionPool.kickScan heap size s g) := by
  have hmem : s.1 ∈ first :: (seen ++ [g]) := by
    rcases List.mem_cons.mp h.mem with heq | hseen
    · exact heq ▸ List.mem_cons_self
    · exact List.mem_cons_of_mem _ (List.mem_append_left _ hseen)
  have hlast : g ∈ first :: (seen ++ [g]) :=
    List.mem_cons_of_mem _ (List.mem_append_right _ (List.mem_singleton_self g))
  unfold SelectionPool.kickScan
  split_ifs with hnear hlarger
  · refine ⟨hlast, fun _ => ?_, fun hfound => by cases hfound⟩
    dsimp only
    omega
  · rw [Bool.and_eq_true, Bool.not_eq_true', decide_eq_true_eq] at hlarger
    refine ⟨hlast, fun hfound => ?_, fun _ g' hg' => ?_⟩
    · rw [hlarger.1] at hfound
      cases hfound
    · rcases List.mem_append.mp hg' with hg' | hg'
      · exact (h.largest hlarger.1 g' hg').trans hlarger.2
      · rw [List.mem_singleton.mp hg']
  · refine ⟨hmem, h.found, fun hfound g' hg' => ?_⟩
    rcases List.mem_append.mp hg' with hg' | hg'
    · exact h.largest hfound g' hg'
    · rw [List.mem_singleton.mp hg']
      by_contra hlt
      exact hlarger (by simp [hfound, Nat.le_of_not_le hlt])

theorem scanned_foldl (heap : GroupHeap) (size : ℕ) (first : GroupPtr) (groups : List GroupPtr) :
    Scanned heap size first groups
      (groups.foldl (SelectionPool.kickScan heap size) (first, false)) := by
  induction groups using List.reverseRecOn with
  | nil => exact ⟨List.mem_cons_self, nofun, fun _ g hg => absurd hg List.not_mem_nil⟩
  | append_singleton groups g ih =>
    rw [List.foldl_append, List.foldl_cons, List.foldl_nil]
    exact ih.step

theorem kicked_pos {size : ℕ} (hsize : 2 ≤ size) {first : GroupPtr} {groups : List GroupPtr}
    (hcount : ((first :: groups).map fun g => (heap g).Players.size).sum ≠ 0) :
    0 < (heap ((first :: groups).foldl (SelectionPool.kickScan heap size)
      (first, false)).1).Players.size := by
  have hscan := scanned_foldl heap size first (first :: groups)
  generalize (first :: groups).foldl (SelectionPool.kickScan heap size) (first, false) = s at hscan
  cases hfound : s.2 with
  | true =>
    have := hscan.found hfound
    omega
  | false =>
    obtain ⟨g, hg, hpos⟩ : ∃ g ∈ first :: groups, (heap g).Players.size ≠ 0 := by
      by_contra hnone
      push Not at hnone
      refine hcount (List.sum_eq_zero fun n hn => ?_)
      obtain ⟨g, hg, rfl⟩ := List.mem_map.mp hn
      exact hnone g hg
    have := hscan.largest hfound g hg
    omega

/-- **`KickGroup`.**  An empty pool is left alone; otherwise somebody is kicked. -/
structure Kicked (heap : GroupHeap) (queue : List GroupPtr) (n : ℕ) (pool : SelectionPool)
    (unread : List GroupPtr) (kick : Bool × SelectionPool) : Prop where
  poolFrom : PoolFrom heap queue n kick.2 unread
  empty : pool.PlayerCount = 0 → kick = (true, pool)
  lt : pool.PlayerCount ≠ 0 → kick.2.PlayerCount < pool.PlayerCount

theorem PoolFrom.kickGroup (h : PoolFrom heap queue n pool unread) {size : ℕ}
    (hsize : 2 ≤ size) :
    Kicked heap queue n pool unread (pool.kickGroup heap size) := by
  unfold SelectionPool.kickGroup
  have hcounted := h.counted
  unfold SelectionPool.Counted at hcounted
  cases hgroups : pool.SelectedGroups with
  | nil =>
    rw [hgroups] at hcounted
    exact ⟨h, fun _ => rfl, fun hne => absurd hcounted hne⟩
  | cons first groups =>
    dsimp only
    by_cases hzero : pool.PlayerCount = 0
    · rw [if_neg (not_not.mpr hzero)]
      exact ⟨h, fun _ => rfl, fun hne => absurd hzero hne⟩
    · rw [if_pos hzero]
      rw [hgroups] at hcounted
      have hpos := kicked_pos hsize (hcounted ▸ hzero)
      have hmem := (scanned_foldl heap size first (first :: groups)).mem_groups
      generalize ((first :: groups).foldl (SelectionPool.kickScan heap size) (first, false)).1 =
        ginfo at hpos hmem
      have hsum := List.sum_map_erase (fun g => (heap g).Players.size) hmem
      have hlt : pool.PlayerCount - (heap ginfo).Players.size < pool.PlayerCount := by omega
      refine ⟨⟨?_, ?_, ?_, hlt.le.trans h.free⟩, fun heq => absurd heq hzero, fun _ => hlt⟩
      · obtain ⟨read, hqueue, hsub⟩ := h.read
        rw [hgroups] at hsub
        exact ⟨read, hqueue, (List.erase_sublist).trans hsub⟩
      · intro g hg
        exact h.uninvited g (hgroups ▸ List.mem_of_mem_erase hg)
      · unfold SelectionPool.Counted
        dsimp only
        omega

/-! ## 4. One round -/

structure FilledFrom (q : FactionQueue) (free : Team → ℕ) (s : BalanceState) : Prop where
  poolFrom : ∀ team, PoolFrom q.heap (q.queued team) (free team) (s.pools team) (s.unread team)

/-- The players in the pools and in the rests of the lists. -/
def BalanceState.load (heap : GroupHeap) (s : BalanceState) : ℕ :=
  Battleground.load heap (s.pools .ALLIANCE) (s.unread .ALLIANCE) +
    Battleground.load heap (s.pools .HORDE) (s.unread .HORDE)

theorem load_eq (heap : GroupHeap) (s : BalanceState) (team : Team) :
    s.load heap = load heap (s.pools team) (s.unread team) +
      load heap (s.pools team.other) (s.unread team.other) := by
  cases team with
  | ALLIANCE => rfl
  | HORDE => exact Nat.add_comm _ _

variable {q : FactionQueue} {free : Team → ℕ} {s : BalanceState}

theorem FilledFrom.update (h : FilledFrom q free s) {side : Team} {pool : SelectionPool}
    {unread : List GroupPtr}
    (hpool : PoolFrom q.heap (q.queued side) (free side) pool unread) :
    FilledFrom q free
      ⟨Function.update s.pools side pool, Function.update s.unread side unread⟩ where
  poolFrom := by
    intro team
    by_cases hteam : team = side
    · subst hteam
      dsimp only
      rw [Function.update_self, Function.update_self]
      exact hpool
    · dsimp only
      rw [Function.update_of_ne hteam, Function.update_of_ne hteam]
      exact h.poolFrom team

theorem FilledFrom.updatePool (h : FilledFrom q free s) {side : Team} {pool : SelectionPool}
    (hpool : PoolFrom q.heap (q.queued side) (free side) pool (s.unread side)) :
    FilledFrom q free { s with pools := Function.update s.pools side pool } := by
  have hfilled := h.update hpool
  rw [Function.update_eq_self] at hfilled
  exact hfilled

theorem balanced_of_empty {pools : Pools} (side : Team) (hempty : (pools side).PlayerCount = 0)
    (hle : pools.remaining free side ≤ pools.remaining free side.other + 1) :
    pools.Balanced free := by
  by_cases hlt : pools.remaining free side < pools.remaining free side.other
  · exact Or.inr ⟨side, hlt, hempty⟩
  · left
    cases side with
    | ALLIANCE =>
      dsimp only [Team.other] at hle hlt
      omega
    | HORDE =>
      dsimp only [Team.other] at hle hlt
      omega

theorem Kicked.le {kick : Bool × SelectionPool} (h : Kicked heap queue n pool unread kick) :
    kick.2.PlayerCount ≤ pool.PlayerCount := by
  by_cases hzero : pool.PlayerCount = 0
  · rw [h.empty hzero]
  · exact (h.lt hzero).le

theorem PoolFrom.replaceGroup (h : PoolFrom heap queue n pool unread) {size desired : ℕ}
    (hsize : 2 ≤ size) (hdesired : desired ≤ n) (hfull : pool.PlayerCount = 0 → desired = 0) :
    PoolFrom heap queue n (pool.replaceGroup heap size desired unread).1
        (pool.replaceGroup heap size desired unread).2 ∧
      (pool.PlayerCount = 0 → (pool.replaceGroup heap size desired unread).1.PlayerCount = 0) ∧
      (pool.PlayerCount ≠ 0 → load heap (pool.replaceGroup heap size desired unread).1
        (pool.replaceGroup heap size desired unread).2 < load heap pool unread) := by
  have hkick := h.kickGroup hsize
  unfold SelectionPool.replaceGroup
  dsimp only
  generalize pool.kickGroup heap size = kick at hkick ⊢
  have hlt : pool.PlayerCount ≠ 0 → load heap kick.2 unread < load heap pool unread :=
    fun hne => Nat.add_lt_add_right (hkick.lt hne) _
  split
  · obtain ⟨hpool, hload⟩ := hkick.poolFrom.addGroups hdesired
    refine ⟨hpool, fun hzero => ?_, fun hne => hload.trans_lt (hlt hne)⟩
    rw [hfull hzero, hkick.empty hzero]
    exact playerCount_addGroups_zero hzero unread
  · next hfalse =>
    refine ⟨hkick.poolFrom, fun hzero => ?_, hlt⟩
    rw [hkick.empty hzero] at hfalse
    exact absurd rfl hfalse

/-- **A round for the side that has fewer slots left.**  Somebody is kicked, unless the pool of the
side is empty; then the loop is left. -/
theorem FilledFrom.balanceSide (h : FilledFrom q free s) {side : Team}
    (hless : s.diff free side + 1 < s.diff free side.other) :
    Outcome (fun s' => FilledFrom q free s' ∧ s'.load q.heap < s.load q.heap)
      (fun s' => FilledFrom q free s' ∧ s'.pools.Balanced free)
      (balanceSide q.heap free side s) := by
  have hsize : 2 ≤ (s.diff free side.other - s.diff free side).toNat := by omega
  have hslots : s.diff free side = free side - (s.pools side).PlayerCount := rfl
  have hother : 0 ≤ s.diff free side.other := by
    have hfree := (h.poolFrom side.other).free
    unfold BalanceState.diff
    omega
  have hdesired : (if (free side : ℤ) ≥ s.diff free side.other then
      ((free side : ℤ) - s.diff free side.other).toNat else 0) ≤ free side := by
    split <;> omega
  obtain ⟨hpool, hzero, hload⟩ := (h.poolFrom side).replaceGroup hsize hdesired
    fun hzero => if_neg (by omega)
  unfold Battleground.balanceSide
  dsimp only
  generalize (s.pools side).replaceGroup q.heap _ _ _ = filled at hpool hzero hload ⊢
  simp only [Function.update_self, Function.update_of_ne (Team.other_ne side)]
  have hfilled := h.update hpool
  have hload₀ := load_eq q.heap s side
  have hload₁ := load_eq q.heap
    ⟨Function.update s.pools side filled.1, Function.update s.unread side filled.2⟩ side
  simp only [Function.update_self, Function.update_of_ne (Team.other_ne side)] at hload₁
  split_ifs with hempty hbreak
  · -- nobody is left to kick
    refine ⟨hfilled, balanced_of_empty side ?_ ?_⟩
    · dsimp only
      rw [Function.update_self]
      exact hempty
    · unfold Pools.remaining
      dsimp only
      rw [Function.update_self, Function.update_of_ne (Team.other_ne side), hempty]
      unfold BalanceState.diff at hbreak
      omega
  · have hne : (s.pools side).PlayerCount ≠ 0 := by
      intro hzero'
      omega
    have hlt := hload hne
    have hkick := (hfilled.poolFrom side.other).kickGroup hsize
    simp only [Function.update_of_ne (Team.other_ne side)] at hkick
    have hle := hkick.le
    refine ⟨hfilled.updatePool ?_, ?_⟩
    · dsimp only
      rw [Function.update_of_ne (Team.other_ne side)]
      exact hkick.poolFrom
    · rw [load_eq q.heap _ side]
      dsimp only
      rw [Function.update_self, Function.update_of_ne (Team.other_ne side).symm,
        Function.update_self, Function.update_self, Function.update_of_ne (Team.other_ne side)]
      unfold load at hlt hload₀ ⊢
      omega
  · have hne : (s.pools side).PlayerCount ≠ 0 := fun hzero' => hempty (hzero hzero')
    have hlt := hload hne
    exact ⟨hfilled, by omega⟩

theorem FilledFrom.balanceRound (h : FilledFrom q free s) :
    Outcome (fun s' => FilledFrom q free s' ∧ s'.load q.heap < s.load q.heap)
      (fun s' => FilledFrom q free s' ∧ s'.pools.Balanced free)
      (balanceRound q.heap free s) := by
  unfold Battleground.balanceRound
  split_ifs with hguard hless
  · exact h.balanceSide (by dsimp only [Team.other]; omega)
  · exact h.balanceSide (by dsimp only [Team.other]; omega)
  · refine ⟨h, ?_⟩
    rw [not_and_or] at hguard
    rcases hguard with hnear | hempty
    · exact Or.inl (Nat.le_of_not_lt hnear)
    · have hali : (s.pools .ALLIANCE).PlayerCount = 0 := by omega
      have hhorde : (s.pools .HORDE).PlayerCount = 0 := by omega
      by_cases hle : s.pools.remaining free .ALLIANCE ≤ s.pools.remaining free .HORDE + 1
      · exact balanced_of_empty .ALLIANCE hali hle
      · exact balanced_of_empty .HORDE hhorde (by dsimp only [Team.other]; omega)

/-! ## 5. The fill -/

theorem FilledFrom.once (h : FilledFrom q free s) : s.pools.selected.Nodup := by
  have hsub : ∀ team, (s.pools team).SelectedGroups.Sublist (q.queued team) := by
    intro team
    obtain ⟨read, hqueue, hsub⟩ := (h.poolFrom team).read
    rw [hqueue]
    exact hsub.trans (List.sublist_append_left read _)
  exact q.nodup.sublist ((hsub .ALLIANCE).append (hsub .HORDE))

theorem evenSlots_le (invitationType : InvitationType) (queued : Team → List GroupPtr)
    (free : Team → ℕ) (team : Team) : evenSlots invitationType queued free team ≤ free team := by
  unfold evenSlots
  split
  · exact Nat.sub_le _ _
  · exact le_rfl

theorem FilledFrom.balanced {invitationType : InvitationType}
    (h : FilledFrom q (evenSlots invitationType q.queued free) s)
    (hbalanced : s.pools.Balanced (evenSlots invitationType q.queued free)) :
    s.pools.Balanced free := by
  by_cases heven : invitationType = .EVEN ∧ free .HORDE = 1 ∧ free .ALLIANCE = 1
  · left
    obtain ⟨-, hhorde, hali⟩ := heven
    have hle := fun team => ((h.poolFrom team).free.trans (evenSlots_le invitationType _ _ team))
    have hle₁ := hle .ALLIANCE
    have hle₂ := hle .HORDE
    unfold Pools.remaining
    omega
  · have hsame : evenSlots invitationType q.queued free = free := by
      funext team
      exact if_neg heven
    rw [← hsame]
    exact hbalanced

theorem FilledFrom.good {invitationType : InvitationType}
    (h : FilledFrom q (evenSlots invitationType q.queued free) s)
    (hbalanced : invitationType ≠ .NO_BALANCE →
      s.pools.Balanced (evenSlots invitationType q.queued free)) :
    GoodPools invitationType q free s.pools where
  once := h.once
  queued := by
    intro team g hg
    obtain ⟨read, hqueue, hsub⟩ := (h.poolFrom team).read
    rw [hqueue]
    exact List.mem_append_left _ (hsub.subset hg)
  uninvited := fun team => (h.poolFrom team).uninvited
  counted := fun team => (h.poolFrom team).counted
  balanced := fun htype => h.balanced (hbalanced htype)
  free := fun team => (h.poolFrom team).free.trans (evenSlots_le invitationType _ _ team)

theorem filledFrom_first (q : FactionQueue) (free : Team → ℕ) :
    FilledFrom q free
      ⟨fun team => ((Pools.init team).addGroups q.heap (free team) (q.queued team)).1,
        fun team => ((Pools.init team).addGroups q.heap (free team) (q.queued team)).2⟩ := by
  refine ⟨fun team => ?_⟩
  have hinit : PoolFrom q.heap (q.queued team) (free team) (Pools.init team) (q.queued team) :=
    ⟨⟨[], rfl, List.Sublist.refl _⟩, fun g hg => absurd hg List.not_mem_nil, rfl, Nat.zero_le _⟩
  exact (hinit.addGroups le_rfl).1

/-- **The fill ends, and fills the pools as it should.**  From some fuel on, the pools are the same;
no group is selected twice, the invited ones are left out, no side gets more players than it has
free slots, and the slots that remain are balanced. -/
theorem fillPlayersToBG_good (env : CrossFactionEnv) (hcross : env.crossFactionEnabled = false)
    (q : FactionQueue) (mixed : List GroupPtr) (bg : BattlegroundSlots) (isArena : Bool)
    (free : Team → ℕ) :
    ∃ pools, GoodPools env.invitationType q free pools ∧ ∃ needed, ∀ fuel, needed ≤ fuel →
      fillPlayersToBG fuel env q.heap q.queued mixed Pools.init bg isArena free =
        some (q.heap, pools) := by
  have hfillX : (fillXPlayersToBG env q.heap mixed Pools.init bg false).1 = false := by
    unfold fillXPlayersToBG
    rw [if_neg fun h => by simp [hcross] at h]
  have hfirst := filledFrom_first q (evenSlots env.invitationType q.queued free)
  by_cases htype : env.invitationType = .NO_BALANCE
  · refine ⟨_, hfirst.good fun hne => absurd htype hne, 0, fun fuel _ => ?_⟩
    unfold fillPlayersToBG
    simp [hfillX, htype]
  · obtain ⟨s, ⟨hs, hbalanced⟩, hloop⟩ := exists_whileLoop
      (fun s : BalanceState => s.load q.heap) (fun s h => h.balanceRound) hfirst
    obtain ⟨needed, hneeded⟩ := hloop
    refine ⟨s.pools, hs.good fun _ => hbalanced, needed, fun fuel hfuel => ?_⟩
    unfold fillPlayersToBG
    simp only [hfillX, htype, Bool.and_false, Bool.false_eq_true, if_false]
    rw [hneeded fuel hfuel]
    rfl

/-- Two players queue for the Alliance and one for the Horde. -/
def threePlayers : FactionQueue where
  heap := fun g => { Players := OrderedSet.empty.insert g, Team := .ALLIANCE }
  queued := fun
    | .ALLIANCE => [1, 2]
    | .HORDE => [3]
  nodup := by decide

/-- They fill a battleground with free slots for five on each side. -/
theorem threePlayers_fill : ∃ pools, GoodPools .BALANCED threePlayers (fun _ => 5) pools ∧
    ∃ needed, ∀ fuel, needed ≤ fuel →
      fillPlayersToBG fuel ⟨false, false, .BALANCED⟩ threePlayers.heap threePlayers.queued []
        Pools.init ⟨.STATUS_IN_PROGRESS, 5, 10, fun _ => 5, fun _ => 5⟩ false (fun _ => 5) =
          some (threePlayers.heap, pools) :=
  fillPlayersToBG_good ⟨false, false, .BALANCED⟩ rfl threePlayers [] _ false _

end FunPvp.Battleground
