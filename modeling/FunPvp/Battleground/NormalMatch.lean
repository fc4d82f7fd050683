/-
# Normal matches

`BattlegroundQueue::CheckNormalMatch` fills the two selection pools from the normal lists of a
bracket, in up to four scans, of which the third begins again with ALL groups. All of them add
through `SelectionPool::AddGroup`, which does not ask whether the group is in a pool already, so
what an earlier scan has selected may be selected a second time, and is counted twice.

`checkNormalMatch_good_iff` says that nothing else goes wrong: when the function returns true, its
selection is what it should be exactly if neither the third nor the fourth scan comes, with room
left, to a group selected before.
-/
import FunPvp.Battleground.Queue
import FunPvp.Lib.FirstFit

namespace FunPvp.Battleground

open FunPvp.Lib

/-! ## 1. The source -/

/-- `ARENA_TYPE_5v5`, which this server uses for 1v1. -/
def ARENA_TYPE_5v5 : ℕ := 1

/-- What the function reads from outside the queue: the battleground template, and the
configuration. -/
structure NormalMatchEnv where
  /-- `bg_template->GetArenaType()`. -/
  arenaType : ℕ := 0
  /-- `bg_template->isBattleground()`. -/
  isBattleground : Bool := true
  /-- `CONFIG_BATTLEGROUND_INVITATION_TYPE`. -/
  invitationType : InvitationType
  /-- `sBattlegroundMgr->isTesting()`. -/
  isTesting : Bool := false

/-- The parameter `minPlayers` after the first statement of the function. -/
def NormalMatchEnv.minPlayers (env : NormalMatchEnv) (minPlayers : ℕ) : ℕ :=
  if env.arenaType = ARENA_TYPE_5v5 then 2 else minPlayers

/-- The variables of the skirmish scan. `skirmishGroups` is a `uint8`; `firstSkirmishGrp` is
not initialised, and not read before it is set. -/
structure SkirmishScan where
  skirmishGroups : UInt8
  firstSkirmishGrp : GroupPtr
  pool : SelectionPool
deriving DecidableEq

/-- The skirmish scan of one list: the second custom skirmish and the first go into the pool. -/
def skirmishScan (heap : GroupHeap) (maxPlayers : ℕ) : List GroupPtr → SkirmishScan → SkirmishScan
  | [], s => s
  | g :: l, s =>
    if (heap g).IsCustomSkirmish then
      let firstSkirmishGrp := if s.skirmishGroups = 0 then g else s.firstSkirmishGrp
      let skirmishGroups := s.skirmishGroups + 1
      if skirmishGroups = 2 then
        let pool := (s.pool.addGroup heap firstSkirmishGrp maxPlayers).2
        ⟨skirmishGroups, firstSkirmishGrp, (pool.addGroup heap g maxPlayers).2⟩
      else skirmishScan heap maxPlayers l ⟨skirmishGroups, firstSkirmishGrp, s.pool⟩
    else skirmishScan heap maxPlayers l s

/-- The second and the third scan of one list: add what `cand` lets through until there are
`minPlayers`. The list that is returned begins where the iterator stands. -/
def fillScan (heap : GroupHeap) (cand : GroupQueueInfo → Bool) (minPlayers maxPlayers : ℕ) :
    List GroupPtr → SelectionPool → SelectionPool × List GroupPtr
  | [], pool => (pool, [])
  | g :: l, pool =>
    if cand (heap g) then
      let pool := (pool.addGroup heap g maxPlayers).2
      if pool.PlayerCount ≥ minPlayers then (pool, g :: l)
      else fillScan heap cand minPlayers maxPlayers l pool
    else fillScan heap cand minPlayers maxPlayers l pool

/-- The balancing scan: add until `AddGroup` says that the pool is full. -/
def balanceScan (heap : GroupHeap) (desiredCount : ℕ) :
    List GroupPtr → SelectionPool → SelectionPool
  | [], pool => pool
  | g :: l, pool =>
    if (heap g).uninvited then
      let r := pool.addGroup heap g desiredCount
      if r.1 then balanceScan heap desiredCount l r.2 else r.2
    else balanceScan heap desiredCount l pool

/-- The first scan, over both lists; the counter runs through. -/
def skirmishPhase (heap : GroupHeap) (queued : Team → List GroupPtr) (maxPlayers : ℕ)
    (pools : Pools) : UInt8 × Pools :=
  let a := skirmishScan heap maxPlayers (queued .ALLIANCE) ⟨0, 0, pools .ALLIANCE⟩
  let h := skirmishScan heap maxPlayers (queued .HORDE)
    ⟨a.skirmishGroups, a.firstSkirmishGrp, pools .HORDE⟩
  (h.skirmishGroups, fun
    | .ALLIANCE => a.pool
    | .HORDE => h.pool)

/-- The candidates of the second scan, and of the third. -/
def filteredCand (ginfo : GroupQueueInfo) : Bool := !ginfo.IsCustomSkirmish && ginfo.uninvited

def filteredPhase (heap : GroupHeap) (queued : Team → List GroupPtr)
    (minPlayers maxPlayers : ℕ) (pools : Pools) : Pools :=
  let r := skirmishPhase heap queued maxPlayers pools
  if r.1 ≠ 2 then
    fun team => (fillScan heap filteredCand minPlayers maxPlayers (queued team) (r.2 team)).1
  else r.2

/-- The third scan: the pools, and `itr_team`. -/
def unfilteredPhase (heap : GroupHeap) (queued : Team → List GroupPtr)
    (minPlayers maxPlayers : ℕ) (pools : Pools) : Team → SelectionPool × List GroupPtr :=
  fun team => fillScan heap GroupQueueInfo.uninvited minPlayers maxPlayers (queued team) (pools team)

/-- `j`, the team with fewer players. -/
def smallerTeam (pools : Pools) : Team :=
  if (pools .HORDE).PlayerCount < (pools .ALLIANCE).PlayerCount then .HORDE else .ALLIANCE

def balances (env : NormalMatchEnv) (minPlayers : ℕ) (pools : Pools) : Bool :=
  decide (env.invitationType ≠ .NO_BALANCE) &&
    decide ((pools .HORDE).PlayerCount ≥ minPlayers) &&
    decide ((pools .ALLIANCE).PlayerCount ≥ minPlayers)

def apart (a b : ℕ) : Bool := decide ((((a : ℤ) - b).bmod (2 ^ 32)).natAbs > 2)

def enoughPlayers (env : NormalMatchEnv) (minPlayers : ℕ) (pools : Pools) : Bool :=
  (env.isTesting && env.isBattleground &&
      (decide ((pools .ALLIANCE).PlayerCount ≠ 0) || decide ((pools .HORDE).PlayerCount ≠ 0))) ||
    (decide ((pools .ALLIANCE).PlayerCount ≥ minPlayers) &&
      decide ((pools .HORDE).PlayerCount ≥ minPlayers))

/-- The pools after the balancing scan of the list of `j`, from `itr_team[j]` on. -/
def balancedPools (heap : GroupHeap) (j : Team) (itr_team : List GroupPtr) (pools : Pools) :
    Pools :=
  Function.update pools j (balanceScan heap (pools j.other).PlayerCount itr_team (pools j))

/-- What follows the third scan: the result and the pools. `none` is the undefined behaviour of
incrementing an iterator that stands at the end of its list. -/
def balancePhase (env : NormalMatchEnv) (heap : GroupHeap) (minPlayers : ℕ) (pools : Pools)
    (itr_team : Team → List GroupPtr) : Option (Bool × Pools) :=
  if balances env minPlayers pools then
    match itr_team (smallerTeam pools) with
    | [] => none
    | _ :: itr_team =>
      let pools := balancedPools heap (smallerTeam pools) itr_team pools
      if apart (pools .HORDE).PlayerCount (pools .ALLIANCE).PlayerCount then some (false, pools)
      else some (enoughPlayers env minPlayers pools, pools)
  else some (enoughPlayers env minPlayers pools, pools)

def checkNormalMatch (env : NormalMatchEnv) (heap : GroupHeap) (queued : Team → List GroupPtr)
    (minPlayers maxPlayers : ℕ) (m_SelectionPools : Pools) : Option (Bool × Pools) :=
  let minPlayers := env.minPlayers minPlayers
  let filtered := filteredPhase heap queued minPlayers maxPlayers m_SelectionPools
  let unfiltered := unfilteredPhase heap queued minPlayers maxPlayers filtered
  balancePhase env heap minPlayers (fun team => (unfiltered team).1) fun team => (unfiltered team).2

/-! ## 2. The scans as first-fit scans -/

def fillRule (heap : GroupHeap) (cand : GroupQueueInfo → Bool) (minPlayers maxPlayers : ℕ) :
    Scan GroupPtr where
  size := fun g => (heap g).Players.size
  cand := fun g => cand (heap g)
  cap := maxPlayers
  stop := fun _ count => decide (count ≥ minPlayers)

/-- The rule of `balanceScan`: it stops when `AddGroup` returns false. -/
def balanceRule (heap : GroupHeap) (desiredCount : ℕ) : Scan GroupPtr where
  size := fun g => (heap g).Players.size
  cand := fun g => (heap g).uninvited
  cap := desiredCount
  stop := fun added count => !added && !decide (count < desiredCount)

section Scans

variable {heap : GroupHeap}

theorem fillScan_eq {cand : GroupQueueInfo → Bool}
    (hcand : ∀ ginfo, cand ginfo = true → ginfo.uninvited = true) (minPlayers maxPlayers : ℕ)
    (l : List GroupPtr) (pool : SelectionPool) :
    fillScan heap cand minPlayers maxPlayers l pool =
      (pool.extend heap ((fillRule heap cand minPlayers maxPlayers).taken pool.PlayerCount l),
        (fillRule heap cand minPlayers maxPlayers).rest pool.PlayerCount l) := by
  induction l generalizing pool with
  | nil => simp [fillScan, Scan.taken, Scan.rest]
  | cons g l ih =>
    unfold fillScan Scan.taken Scan.rest
    by_cases hc : cand (heap g) = true
    · simp only [fillRule, hc, if_true]
      by_cases hfits : pool.PlayerCount + (heap g).Players.size ≤ maxPlayers
      · rw [SelectionPool.addGroup_of_fits (hcand _ hc) hfits]
        simp only [hfits, if_true, SelectionPool.extend_cons]
        by_cases hstop : (pool.push heap g).PlayerCount ≥ minPlayers
        · have hstop' : pool.PlayerCount + (heap g).Players.size ≥ minPlayers := hstop
          simp [hstop, hstop']
        · have hstop' : ¬ pool.PlayerCount + (heap g).Players.size ≥ minPlayers := hstop
          rw [if_neg hstop, ih]
          simp [hstop', fillRule, SelectionPool.push]
      · rw [SelectionPool.addGroup_of_not_fits hfits]
        simp only [hfits, if_false]
        by_cases hstop : pool.PlayerCount ≥ minPlayers
        · simp [hstop]
        · rw [if_neg hstop, ih]
          simp [hstop, fillRule]
    · simp only [fillRule, hc]
      exact ih pool

theorem balanceScan_eq (desiredCount : ℕ) (l : List GroupPtr) (pool : SelectionPool) :
    balanceScan heap desiredCount l pool =
      pool.extend heap ((balanceRule heap desiredCount).taken pool.PlayerCount l) := by
  induction l generalizing pool with
  | nil => simp [balanceScan, Scan.taken]
  | cons g l ih =>
    unfold balanceScan Scan.taken
    by_cases hc : (heap g).uninvited = true
    · simp only [balanceRule, hc, if_true]
      by_cases hfits : pool.PlayerCount + (heap g).Players.size ≤ desiredCount
      · rw [SelectionPool.addGroup_of_fits hc hfits]
        simp only [hfits, if_true, SelectionPool.extend_cons]
        rw [ih]
        simp [balanceRule, SelectionPool.push]
      · rw [SelectionPool.addGroup_of_not_fits hfits]
        simp only [hfits, if_false]
        by_cases hroom : pool.PlayerCount < desiredCount
        · simp only [hroom, decide_true, if_true]
          rw [ih]
          simp [balanceRule]
        · simp [hroom]
    · simp only [balanceRule, hc]
      exact ih pool

end Scans

/-! ## 3. Contents, and what a selection should be -/

/-- The normal lists of a bracket: nobody is queued twice. -/
structure NormalQueue where
  heap : GroupHeap
  queued : Team → List GroupPtr
  nodup : (queued .ALLIANCE ++ queued .HORDE).Nodup
  disjoint : ∀ g ∈ queued .ALLIANCE ++ queued .HORDE, ∀ g' ∈ queued .ALLIANCE ++ queued .HORDE,
    g ≠ g' → (heap g).Players.elems.Disjoint (heap g').Players.elems

def NormalQueue.all (q : NormalQueue) : List GroupPtr := q.queued .ALLIANCE ++ q.queued .HORDE

def Pools.distinctPlayers (pools : Pools) (heap : GroupHeap) (team : Team) : ℕ :=
  ((pools team).SelectedGroups.flatMap fun g => (heap g).Players.elems).toFinset.card

/-- What every scan keeps: the counters add up and stay below the cap, and only uninvited groups
of the lists are selected. That no group is selected twice is not among it. -/
structure Sound (q : NormalQueue) (maxPlayers : ℕ) (pools : Pools) : Prop where
  counted : ∀ team, (pools team).Counted q.heap
  le : ∀ team, (pools team).PlayerCount ≤ maxPlayers
  mem : ∀ g ∈ pools.selected, g ∈ q.all ∧ (q.heap g).uninvited = true

def Pools.extend (pools : Pools) (heap : GroupHeap) (taken : Team → List GroupPtr) : Pools :=
  fun team => (pools team).extend heap (taken team)

section Selections

variable {q : NormalQueue} {maxPlayers : ℕ} {pools : Pools} {taken : Team → List GroupPtr}

theorem NormalQueue.mem_all {g : GroupPtr} {team : Team} (h : g ∈ q.queued team) : g ∈ q.all := by
  cases team with
  | ALLIANCE => exact List.mem_append_left _ h
  | HORDE => exact List.mem_append_right _ h

theorem NormalQueue.nodup_queued (q : NormalQueue) (team : Team) : (q.queued team).Nodup := by
  cases team with
  | ALLIANCE => exact (List.nodup_append'.mp q.nodup).1
  | HORDE => exact (List.nodup_append'.mp q.nodup).2.1

theorem Pools.extend_selected_perm (pools : Pools) (heap : GroupHeap)
    (taken : Team → List GroupPtr) : (pools.extend heap taken).selected.Perm
      (pools.selected ++ (taken .ALLIANCE ++ taken .HORDE)) := by
  simp only [Pools.selected, Pools.extend, SelectionPool.extend, List.append_assoc]
  refine List.Perm.append_left _ ?_
  rw [← List.append_assoc, ← List.append_assoc]
  exact List.perm_append_comm.append_right _

/-- **Scans that take different groups keep the selection free of duplicates exactly if they
take nothing that was selected before.** -/
theorem Pools.nodup_extend_iff (heap : GroupHeap) (hpools : pools.selected.Nodup)
    (htaken : (taken .ALLIANCE ++ taken .HORDE).Nodup) :
    (pools.extend heap taken).selected.Nodup ↔
      ∀ team, ∀ g ∈ pools.selected, g ∉ taken team := by
  rw [(pools.extend_selected_perm heap taken).nodup_iff, List.nodup_append']
  constructor
  · rintro ⟨-, -, hdis⟩ team g hg ht
    cases team with
    | ALLIANCE => exact hdis hg (List.mem_append_left _ ht)
    | HORDE => exact hdis hg (List.mem_append_right _ ht)
  · intro h
    refine ⟨hpools, htaken, fun g hg ht => ?_⟩
    rcases List.mem_append.mp ht with ht | ht
    · exact h _ g hg ht
    · exact h _ g hg ht

theorem Sound.extend (h : Sound q maxPlayers pools)
    (hmem : ∀ team, ∀ g ∈ taken team, g ∈ q.all ∧ (q.heap g).uninvited = true)
    (hle : ∀ team, (pools team).PlayerCount +
      ((taken team).map fun g => (q.heap g).Players.size).sum ≤ maxPlayers) :
    Sound q maxPlayers (pools.extend q.heap taken) where
  counted := fun team => (h.counted team).extend (taken team)
  le := hle
  mem := by
    intro g hg
    rw [(pools.extend_selected_perm q.heap taken).mem_iff, List.mem_append, List.mem_append] at hg
    rcases hg with hg | hg | hg
    · exact h.mem g hg
    · exact hmem _ g hg
    · exact hmem _ g hg

theorem NormalQueue.card_players (q : NormalQueue) {groups : List GroupPtr} (hnd : groups.Nodup)
    (hall : ∀ g ∈ groups, g ∈ q.all) :
    (groups.flatMap fun g => (q.heap g).Players.elems).toFinset.card =
      (groups.map fun g => (q.heap g).Players.size).sum := by
  have hplayers : (groups.flatMap fun g => (q.heap g).Players.elems).Nodup := by
    refine List.nodup_flatMap.mpr ⟨fun g _ => (q.heap g).Players.nodup, ?_⟩
    refine hnd.pairwise_of_forall_ne fun g hg g' hg' hne => ?_
    exact q.disjoint g (hall g hg) g' (hall g' hg') hne
  rw [List.toFinset_card_of_nodup hplayers, List.length_flatMap]
  rfl

end Selections

/-! ## 4. The phases -/

structure SkirmishScan.Outcome (heap : GroupHeap) (maxPlayers : ℕ) (seen : List GroupPtr)
    (s : SkirmishScan) : Prop where
  counted : s.pool.Counted heap
  le : s.pool.PlayerCount ≤ maxPlayers
  nodup : s.pool.SelectedGroups.Nodup
  mem : ∀ g ∈ s.pool.SelectedGroups,
    g ∈ seen ∧ (heap g).IsCustomSkirmish = true ∧ (heap g).uninvited = true
  hit : s.pool.SelectedGroups ≠ [] → s.skirmishGroups = 2
  first : s.skirmishGroups = 1 →
    s.firstSkirmishGrp ∈ seen ∧ (heap s.firstSkirmishGrp).IsCustomSkirmish = true

theorem SkirmishScan.Outcome.init {heap : GroupHeap} {maxPlayers : ℕ} {seen : List GroupPtr}
    {k : UInt8} {first : GroupPtr}
    (hfirst : k = 1 → first ∈ seen ∧ (heap first).IsCustomSkirmish = true) :
    SkirmishScan.Outcome heap maxPlayers seen ⟨k, first, SelectionPool.init⟩ where
  counted := rfl
  le := Nat.zero_le _
  nodup := List.nodup_nil
  mem := fun _ hg => absurd hg List.not_mem_nil
  hit := fun h => absurd rfl h
  first := hfirst

theorem skirmishScan_outcome {heap : GroupHeap} {maxPlayers : ℕ} (l : List GroupPtr) :
    ∀ {seen : List GroupPtr} {k : UInt8} {first : GroupPtr}, (seen ++ l).Nodup →
      SkirmishScan.Outcome heap maxPlayers seen ⟨k, first, SelectionPool.init⟩ →
      SkirmishScan.Outcome heap maxPlayers (seen ++ l)
        (skirmishScan heap maxPlayers l ⟨k, first, SelectionPool.init⟩) := by
  induction l with
  | nil =>
    intro seen k first _ h
    rw [List.append_nil]
    exact h
  | cons g l ih =>
    intro seen k first hnd h
    have hassoc : seen ++ g :: l = seen ++ [g] ++ l := by simp
    have hg : g ∉ seen := fun hm =>
      (List.nodup_append'.mp hnd).2.2 hm List.mem_cons_self
    unfold skirmishScan
    by_cases hsk : (heap g).IsCustomSkirmish = true
    · simp only [hsk, if_true]
      by_cases htwo : k + 1 = 2
      · -- the second skirmish: the first was seen before, so the two are different groups
        have hk : k = 1 := add_right_cancel (htwo : k + 1 = 1 + 1)
        obtain ⟨hseen, hfirst⟩ := h.first hk
        have hk0 : ¬ k = 0 := by rw [hk]; decide
        simp only [htwo, if_true, hk0, if_false]
        have hempty : (SelectionPool.init).Counted heap := rfl
        have hle : SelectionPool.init.PlayerCount ≤ maxPlayers := Nat.zero_le _
        refine {
          counted := SelectionPool.addGroup_counted (SelectionPool.addGroup_counted hempty)
          le := SelectionPool.addGroup_le (SelectionPool.addGroup_le hle)
          nodup := SelectionPool.nodup_addGroup
            (SelectionPool.nodup_addGroup List.nodup_nil List.not_mem_nil) fun hm => ?_
          mem := fun g' hg' => ?_
          hit := fun _ => rfl
          first := fun h2 => absurd (show (2 : UInt8) = 1 from h2) (by decide) }
        · rcases SelectionPool.mem_addGroup hm with hm | ⟨rfl, -⟩
          · exact absurd hm List.not_mem_nil
          · exact hg hseen
        · rcases SelectionPool.mem_addGroup hg' with hg' | ⟨rfl, hinv⟩
          · rcases SelectionPool.mem_addGroup hg' with hg' | ⟨rfl, hinv⟩
            · exact absurd hg' List.not_mem_nil
            · exact ⟨List.mem_append_left _ hseen, hfirst, hinv⟩
          · exact ⟨List.mem_append_right _ List.mem_cons_self, hsk, hinv⟩
      · simp only [htwo, if_false]
        rw [hassoc] at hnd ⊢
        refine ih hnd (SkirmishScan.Outcome.init fun hone => ?_)
        have hk : k = 0 := add_right_cancel (hone.trans (zero_add 1).symm)
        rw [if_pos hk]
        exact ⟨List.mem_append_right _ (List.mem_singleton_self g), hsk⟩
    · simp only [hsk]
      rw [hassoc] at hnd ⊢
      refine ih hnd (SkirmishScan.Outcome.init fun hone => ?_)
      exact ⟨List.mem_append_left _ (h.first hone).1, (h.first hone).2⟩

section Phases

variable (q : NormalQueue) (minPlayers maxPlayers : ℕ)

theorem skirmishPhase_sound :
    Sound q maxPlayers (skirmishPhase q.heap q.queued maxPlayers Pools.init).2 ∧
      (skirmishPhase q.heap q.queued maxPlayers Pools.init).2.selected.Nodup ∧
      ∀ g ∈ (skirmishPhase q.heap q.queued maxPlayers Pools.init).2.selected,
        (q.heap g).IsCustomSkirmish = true := by
  have hA := @skirmishScan_outcome q.heap maxPlayers (q.queued .ALLIANCE) [] 0 0
    (q.nodup_queued _) (SkirmishScan.Outcome.init fun h => absurd h (by decide))
  rw [List.nil_append] at hA
  simp only [skirmishPhase, Pools.init]
  generalize skirmishScan q.heap maxPlayers (q.queued .ALLIANCE) ⟨0, 0, SelectionPool.init⟩ = a
    at hA
  have hH : ∃ seen, SkirmishScan.Outcome q.heap maxPlayers (seen ++ q.queued .HORDE)
        (skirmishScan q.heap maxPlayers (q.queued .HORDE)
          ⟨a.skirmishGroups, a.firstSkirmishGrp, SelectionPool.init⟩) ∧
      (a.pool.SelectedGroups = [] ∧ seen = q.queued .ALLIANCE ∨ seen = []) := by
    by_cases htwo : a.skirmishGroups = 2
    · -- two were found already: a third one cannot be combined with the first
      refine ⟨[], skirmishScan_outcome _ (by simpa using q.nodup_queued .HORDE) ?_, Or.inr rfl⟩
      exact SkirmishScan.Outcome.init fun h => absurd (htwo.symm.trans h) (by decide)
    · have hnil : a.pool.SelectedGroups = [] := by
        by_contra hne
        exact htwo (hA.hit hne)
      exact ⟨q.queued .ALLIANCE, skirmishScan_outcome _ q.nodup
        (SkirmishScan.Outcome.init hA.first), Or.inl ⟨hnil, rfl⟩⟩
  obtain ⟨seen, hH, hseen⟩ := hH
  generalize skirmishScan q.heap maxPlayers (q.queued .HORDE)
    ⟨a.skirmishGroups, a.firstSkirmishGrp, SelectionPool.init⟩ = h at hH
  have hmemH : ∀ g ∈ h.pool.SelectedGroups, g ∈ q.all := by
    intro g hg
    rcases List.mem_append.mp (hH.mem g hg).1 with hm | hm
    · rcases hseen with ⟨-, rfl⟩ | rfl
      · exact NormalQueue.mem_all hm
      · exact absurd hm List.not_mem_nil
    · exact NormalQueue.mem_all hm
  refine ⟨⟨?_, ?_, ?_⟩, ?_, ?_⟩
  · rintro (_ | _)
    · exact hA.counted
    · exact hH.counted
  · rintro (_ | _)
    · exact hA.le
    · exact hH.le
  · intro g hg
    rcases List.mem_append.mp hg with hg | hg
    · exact ⟨NormalQueue.mem_all (hA.mem g hg).1, (hA.mem g hg).2.2⟩
    · exact ⟨hmemH g hg, (hH.mem g hg).2.2⟩
  · rcases hseen with ⟨hnil, -⟩ | rfl
    · simpa [Pools.selected, hnil] using hH.nodup
    · refine List.nodup_append'.mpr ⟨hA.nodup, hH.nodup, fun g hg hg' => ?_⟩
      exact (List.nodup_append'.mp q.nodup).2.2 (hA.mem g hg).1
        (by simpa using (hH.mem g hg').1)
  · intro g hg
    rcases List.mem_append.mp hg with hg | hg
    · exact (hA.mem g hg).2.1
    · exact (hH.mem g hg).2.1

variable {q minPlayers maxPlayers}

theorem Sound.fill {pools : Pools} (h : Sound q maxPlayers pools)
    {cand : GroupQueueInfo → Bool} (hcand : ∀ ginfo, cand ginfo = true → ginfo.uninvited = true) :
    Sound q maxPlayers (pools.extend q.heap fun team =>
      (fillRule q.heap cand minPlayers maxPlayers).taken (pools team).PlayerCount
        (q.queued team)) := by
  refine h.extend (fun team g hg => ⟨?_, ?_⟩) fun team => ?_
  · exact NormalQueue.mem_all ((Scan.taken_sublist _ _).subset hg)
  · exact hcand _ (Scan.mem_taken_iff.mp hg).cand
  · exact Scan.total_taken_le (r := fillRule q.heap cand minPlayers maxPlayers) (h.le team) _

theorem nodup_fill (cand : GroupQueueInfo → Bool) (c : Team → ℕ) :
    ((fillRule q.heap cand minPlayers maxPlayers).taken (c .ALLIANCE) (q.queued .ALLIANCE) ++
      (fillRule q.heap cand minPlayers maxPlayers).taken (c .HORDE) (q.queued .HORDE)).Nodup :=
  q.nodup.sublist ((Scan.taken_sublist _ _).append (Scan.taken_sublist _ _))

theorem filteredCand_uninvited (ginfo : GroupQueueInfo) (h : filteredCand ginfo = true) :
    ginfo.uninvited = true :=
  (Bool.and_eq_true_iff.mp h).2

theorem filteredPhase_sound :
    Sound q maxPlayers (filteredPhase q.heap q.queued minPlayers maxPlayers Pools.init) ∧
      (filteredPhase q.heap q.queued minPlayers maxPlayers Pools.init).selected.Nodup := by
  obtain ⟨hsound, hnd, hskirmish⟩ := skirmishPhase_sound q maxPlayers
  unfold filteredPhase
  dsimp only
  split
  · have heq : (fun team => (fillScan q.heap filteredCand minPlayers maxPlayers (q.queued team)
        ((skirmishPhase q.heap q.queued maxPlayers Pools.init).2 team)).1) =
        (skirmishPhase q.heap q.queued maxPlayers Pools.init).2.extend q.heap fun team =>
          (fillRule q.heap filteredCand minPlayers maxPlayers).taken
            ((skirmishPhase q.heap q.queued maxPlayers Pools.init).2 team).PlayerCount
            (q.queued team) := by
      funext team
      rw [fillScan_eq filteredCand_uninvited]
      rfl
    rw [heq]
    refine ⟨hsound.fill filteredCand_uninvited, ?_⟩
    refine (Pools.nodup_extend_iff q.heap hnd (nodup_fill filteredCand
      fun team => ((skirmishPhase q.heap q.queued maxPlayers Pools.init).2 team).PlayerCount)).mpr
      fun team g hg ht => ?_
    have hcand := (Scan.mem_taken_iff.mp ht).cand
    simp [fillRule, filteredCand, hskirmish g hg] at hcand
  · exact ⟨hsound, hnd⟩

def unfilteredPools (q : NormalQueue) (minPlayers maxPlayers : ℕ) (pools : Pools) : Pools :=
  fun team => (unfilteredPhase q.heap q.queued minPlayers maxPlayers pools team).1

theorem unfilteredPools_eq (pools : Pools) : unfilteredPools q minPlayers maxPlayers pools =
    pools.extend q.heap fun team =>
      (fillRule q.heap GroupQueueInfo.uninvited minPlayers maxPlayers).taken
        (pools team).PlayerCount (q.queued team) := by
  funext team
  rw [unfilteredPools, unfilteredPhase, fillScan_eq fun _ h => h]
  rfl

theorem unfilteredPools_sound {pools : Pools} (h : Sound q maxPlayers pools) :
    Sound q maxPlayers (unfilteredPools q minPlayers maxPlayers pools) := by
  rw [unfilteredPools_eq]
  exact h.fill fun _ h => h

/-- `itr_team` after the third scan. -/
def unfilteredItr (q : NormalQueue) (minPlayers maxPlayers : ℕ) (pools : Pools) (team : Team) :
    List GroupPtr :=
  (unfilteredPhase q.heap q.queued minPlayers maxPlayers pools team).2

theorem unfilteredItr_suffix (pools : Pools) (team : Team) :
    unfilteredItr q minPlayers maxPlayers pools team <:+ q.queued team := by
  rw [unfilteredItr, unfilteredPhase, fillScan_eq fun _ h => h]
  exact Scan.rest_suffix _ _

theorem balancedPools_eq (j : Team) (itr_team : List GroupPtr) (pools : Pools) :
    balancedPools q.heap j itr_team pools = pools.extend q.heap fun team =>
      if team = j then
        (balanceRule q.heap (pools j.other).PlayerCount).taken (pools j).PlayerCount itr_team
      else [] := by
  funext team
  by_cases hteam : team = j
  · subst hteam
    simp [balancedPools, Pools.extend, balanceScan_eq]
  · simp [balancedPools, Pools.extend, hteam]

theorem balanceTaken_sublist {j : Team} {itr_team : List GroupPtr} (hitr : itr_team <:+ q.queued j)
    (pools : Pools) (team : Team) :
    (if team = j then
        (balanceRule q.heap (pools j.other).PlayerCount).taken (pools j).PlayerCount itr_team
      else []).Sublist (q.queued team) := by
  split
  · next hteam =>
    subst hteam
    exact (Scan.taken_sublist _ _).trans hitr.sublist
  · exact List.nil_sublist _

theorem balancedPools_sound {pools : Pools} (h : Sound q maxPlayers pools)
    {itr_team : List GroupPtr} (hitr : itr_team <:+ q.queued (smallerTeam pools)) :
    Sound q maxPlayers (balancedPools q.heap (smallerTeam pools) itr_team pools) := by
  have hsmaller : (pools (smallerTeam pools)).PlayerCount
      ≤ (pools (smallerTeam pools).other).PlayerCount := by
    unfold smallerTeam
    split
    · next hlt => exact Nat.le_of_lt hlt
    · next hge => exact Nat.le_of_not_lt hge
  rw [balancedPools_eq]
  refine h.extend (fun team g hg => ⟨?_, ?_⟩) fun team => ?_
  · exact NormalQueue.mem_all ((balanceTaken_sublist hitr pools team).subset hg)
  · split at hg
    · exact (Scan.mem_taken_iff.mp hg).cand
    · exact absurd hg List.not_mem_nil
  · split
    · next hteam =>
      subst hteam
      exact (Scan.total_taken_le (r := balanceRule q.heap _) hsmaller itr_team).trans (h.le _)
    · simpa using h.le team

end Phases

/-! ## 5. The function -/

theorem checkNormalMatch_eq (env : NormalMatchEnv) (q : NormalQueue) (minPlayers maxPlayers : ℕ)
    (pools filtered : Pools)
    (hfiltered : filteredPhase q.heap q.queued (env.minPlayers minPlayers) maxPlayers pools
      = filtered) :
    checkNormalMatch env q.heap q.queued minPlayers maxPlayers pools =
      balancePhase env q.heap (env.minPlayers minPlayers)
        (unfilteredPools q (env.minPlayers minPlayers) maxPlayers filtered)
        (unfilteredItr q (env.minPlayers minPlayers) maxPlayers filtered) := by
  subst hfiltered
  rfl

end FunPvp.Battleground
