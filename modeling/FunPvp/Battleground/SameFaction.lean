/-
# A skirmish within one faction

When `CheckNormalMatch` has found no match for an arena, `CheckSkirmishForSameFaction` lets the
groups of one pool play against groups of the same list, those behind the last group of the pool.
Two things it relies on are not so. The team is the Horde if its pool has EXACTLY
`minPlayersPerTeam` players and the Alliance otherwise, although that pool may be empty when
`back()` is called on it. And the groups of a pool need be neither different nor in the order of
the list, so that the pool may have fewer players than it counts, or play against itself.

`skirmish_good_iff` says that there is nothing else.
-/
import FunPvp.Battleground.GroupQueueInv

namespace FunPvp.Battleground

open FunPvp.Lib

/-! ## 1. What the normal match leaves behind -/

section NormalMatch

variable {env : NormalMatchEnv} {q : NormalQueue} {minPlayers maxPlayers : ℕ} {pools : Pools}
  {result : Bool}

theorem balancePhase_pools {heap : GroupHeap} {pools' : Pools} {itr_team : Team → List GroupPtr}
    (h : balancePhase env heap minPlayers pools itr_team = some (result, pools')) :
    pools' = pools ∨ pools' =
      balancedPools heap (smallerTeam pools) (itr_team (smallerTeam pools)).tail pools := by
  unfold balancePhase at h
  split at h
  · split at h
    · exact absurd h nofun
    · next g rest hitr =>
      right
      rw [hitr, List.tail_cons]
      dsimp only at h
      split at h
      · exact (Prod.mk.inj (Option.some.inj h)).2.symm
      · exact (Prod.mk.inj (Option.some.inj h)).2.symm
  · exact Or.inl (Prod.mk.inj (Option.some.inj h)).2.symm

theorem checkNormalMatch_sound
    (h : checkNormalMatch env q.heap q.queued minPlayers maxPlayers Pools.init
      = some (result, pools)) : Sound q maxPlayers pools := by
  obtain ⟨hsound, -⟩ := @filteredPhase_sound q (env.minPlayers minPlayers) maxPlayers
  rw [checkNormalMatch_eq env q minPlayers maxPlayers Pools.init _ rfl] at h
  generalize filteredPhase q.heap q.queued (env.minPlayers minPlayers) maxPlayers Pools.init
    = filtered at *
  have hunfiltered := @unfilteredPools_sound q (env.minPlayers minPlayers) maxPlayers _ hsound
  rcases balancePhase_pools h with rfl | rfl
  · exact hunfiltered
  · exact balancedPools_sound hunfiltered
      ((List.tail_suffix _).trans (unfilteredItr_suffix filtered _))

end NormalMatch

namespace BattlegroundQueue

variable {q q' : BattlegroundQueue} {b : BattlegroundBracketId} {t : Team}
  {g ginfo : GroupPtr} {minPlayersPerTeam : ℕ} {seen rest : List GroupPtr}

def normalQueue (q : BattlegroundQueue) (h : q.Inv) (b : BattlegroundBracketId) : NormalQueue where
  heap := q.heap
  queued := fun team => q.m_QueuedGroups (b, normal team)
  nodup := by
    refine List.nodup_append'.mpr ⟨h.placed.nodup _, h.placed.nodup _, fun g hA hH => ?_⟩
    exact absurd (normal_inj.mp (Prod.mk.inj (h.placed.unique hA hH)).2) (by decide)
  disjoint := by
    intro g hg g' hg' hne guid hguid hguid'
    have hlisted : ∀ x ∈ q.m_QueuedGroups (b, normal .ALLIANCE) ++
        q.m_QueuedGroups (b, normal .HORDE), Listed q.m_QueuedGroups x := by
      intro x hx
      rcases List.mem_append.mp hx with hx | hx
      · exact ⟨_, hx⟩
      · exact ⟨_, hx⟩
    have hmap := (h.linked guid g).mpr ⟨hlisted g hg, hguid⟩
    have hmap' := (h.linked guid g').mpr ⟨hlisted g' hg', hguid'⟩
    exact hne (Option.some.inj (hmap.symm.trans hmap'))

/-! ## 2. Groups that change sides -/

/-- What the last loop has done when it has moved the groups `selected`. -/
structure Switched (b : BattlegroundBracketId) (t : Team) (selected : List GroupPtr)
    (q q' : BattlegroundQueue) : Prop where
  pools : q'.m_SelectionPools = q.m_SelectionPools
  players : ∀ g, (q'.heap g).Players = (q.heap g).Players
  invited : ∀ g, (q'.heap g).IsInvitedToBGInstanceGUID = (q.heap g).IsInvitedToBGInstanceGUID
  team : ∀ g ∈ selected, (q'.heap g).Team = t.other
  kept : ∀ g ∉ selected, q'.heap g = q.heap g
  stayed : ∀ g ∈ q'.m_QueuedGroups (b, normal t), g ∈ q.m_QueuedGroups (b, normal t)
  came : ∀ g ∈ q'.m_QueuedGroups (b, normal t.other),
    g ∈ selected ∨ g ∈ q.m_QueuedGroups (b, normal t.other)
  perm : (q'.m_QueuedGroups (b, normal t) ++ q'.m_QueuedGroups (b, normal t.other)).Perm
    (q.m_QueuedGroups (b, normal t) ++ q.m_QueuedGroups (b, normal t.other))

theorem Switched.nil (q : BattlegroundQueue) : Switched b t [] q q where
  pools := rfl
  players := fun _ => rfl
  invited := fun _ => rfl
  team := fun _ h => absurd h List.not_mem_nil
  kept := fun _ _ => rfl
  stayed := fun _ h => h
  came := fun _ h => Or.inr h
  perm := List.Perm.refl _

theorem Switched.switchTeam (h : q.Inv)
    (hlist : q.m_QueuedGroups (b, normal t) = seen ++ ginfo :: rest) (hg : g ∈ rest) :
    Switched b t [g] q (BattlegroundQueue.switchTeam b t ginfo q g) := by
  have hmem : g ∈ q.m_QueuedGroups (b, normal t) := by
    rw [hlist]
    exact List.mem_append_right _ (List.mem_cons_of_mem _ hg)
  have hne := normal_ne_other b t
  obtain ⟨hlists, -⟩ := switchTeam_lists (h.placed.nodup (b, normal t)) hlist hg
  refine ⟨rfl, fun _ => GroupHeap.setTeam_Players, fun _ =>
    GroupHeap.setTeam_IsInvitedToBGInstanceGUID, fun x hx => ?_, fun x hx => ?_, fun x hx => ?_,
    fun x hx => ?_, ?_⟩
  · obtain rfl := List.mem_singleton.mp hx
    exact GroupHeap.setTeam_Team_self
  · exact Function.update_of_ne (fun he => hx (List.mem_singleton.mpr he)) _ _
  · rw [hlists, mem_moveTo h.placed hne hmem] at hx
    rcases hx with ⟨-, he⟩ | ⟨-, hx⟩
    · exact absurd he hne
    · exact hx
  · rw [hlists, mem_moveTo h.placed hne hmem] at hx
    rcases hx with ⟨rfl, -⟩ | ⟨-, hx⟩
    · exact Or.inl (List.mem_singleton_self x)
    · exact Or.inr hx
  · rw [hlists]
    exact perm_moveTo hne hmem

theorem Switched.trans {selected : List GroupPtr} {q₁ : BattlegroundQueue}
    (h₁ : Switched b t [g] q q₁) (h₂ : Switched b t selected q₁ q') :
    Switched b t (g :: selected) q q' where
  pools := h₂.pools.trans h₁.pools
  players := fun x => (h₂.players x).trans (h₁.players x)
  invited := fun x => (h₂.invited x).trans (h₁.invited x)
  team := by
    intro x hx
    by_cases hsel : x ∈ selected
    · exact h₂.team x hsel
    · rw [h₂.kept x hsel]
      rcases List.mem_cons.mp hx with rfl | hx
      · exact h₁.team x (List.mem_singleton_self x)
      · exact absurd hx hsel
  kept := by
    intro x hx
    rw [List.mem_cons, not_or] at hx
    rw [h₂.kept x hx.2]
    exact h₁.kept x fun hm => hx.1 (List.mem_singleton.mp hm)
  stayed := fun x hx => h₁.stayed x (h₂.stayed x hx)
  came := by
    intro x hx
    rcases h₂.came x hx with hx | hx
    · exact Or.inl (List.mem_cons_of_mem g hx)
    · rcases h₁.came x hx with hx | hx
      · obtain rfl := List.mem_singleton.mp hx
        exact Or.inl List.mem_cons_self
      · exact Or.inr hx
  perm := h₂.perm.trans h₁.perm

theorem Inv.switched (h : q.Inv) {selected : List GroupPtr}
    (hlist : q.m_QueuedGroups (b, normal t) = seen ++ ginfo :: rest)
    (hnd : selected.Nodup) (hsub : selected ⊆ rest) :
    Switched b t selected q (selected.foldl (BattlegroundQueue.switchTeam b t ginfo) q) := by
  induction selected generalizing q rest with
  | nil => exact Switched.nil q
  | cons g selected ih =>
    obtain ⟨hg, hnd⟩ := List.nodup_cons.mp hnd
    have hmem := hsub List.mem_cons_self
    obtain ⟨hinv, hlist'⟩ := h.switchTeam hlist hmem
    refine (Switched.switchTeam h hlist hmem).trans (ih hinv hlist' hnd fun x hx => ?_)
    refine (List.mem_erase_of_ne ?_).mpr (hsub (List.mem_cons_of_mem g hx))
    rintro rfl
    exact hg hx

/-! ## 3. The function, case by case -/

def BothTooSmall (q : BattlegroundQueue) (minPlayersPerTeam : ℕ) : Prop :=
  (q.m_SelectionPools .ALLIANCE).PlayerCount < minPlayersPerTeam ∧
    (q.m_SelectionPools .HORDE).PlayerCount < minPlayersPerTeam

/-- The groups of the other side: those behind the last one of the pool, as they fit. -/
def opponents (q : BattlegroundQueue) (minPlayersPerTeam : ℕ) (rest : List GroupPtr) :
    List GroupPtr :=
  (balanceRule q.heap minPlayersPerTeam).taken 0 rest

/-- The pools after the function has filled that of the other side. -/
def opposedPools (q : BattlegroundQueue) (minPlayersPerTeam : ℕ) (t : Team)
    (rest : List GroupPtr) : Pools :=
  Function.update q.m_SelectionPools t.other
    (SelectionPool.init.extend q.heap (q.opponents minPlayersPerTeam rest))

theorem check_of_tooSmall (h : q.BothTooSmall minPlayersPerTeam) :
    q.checkSkirmishForSameFaction b minPlayersPerTeam = some (false, q) :=
  if_pos h

theorem check_of_empty (h : ¬ q.BothTooSmall minPlayersPerTeam)
    (hempty : (q.m_SelectionPools (q.skirmishTeam minPlayersPerTeam)).SelectedGroups = []) :
    q.checkSkirmishForSameFaction b minPlayersPerTeam = none := by
  refine (if_neg h).trans ?_
  dsimp only
  rw [hempty]
  rfl

section Resumed

variable (hsmall : ¬ q.BothTooSmall minPlayersPerTeam)
  (hlast : (q.m_SelectionPools (q.skirmishTeam minPlayersPerTeam)).SelectedGroups.getLast?
    = some ginfo)

include hsmall hlast

theorem check_of_not_mem
    (hmem : ginfo ∉ q.m_QueuedGroups (b, normal (q.skirmishTeam minPlayersPerTeam))) :
    ∃ q', q.checkSkirmishForSameFaction b minPlayersPerTeam = some (false, q') := by
  have hdrop : (q.m_QueuedGroups (b, normal (q.skirmishTeam minPlayersPerTeam))).dropWhile
      (· ≠ ginfo) = [] := by
    refine List.dropWhile_eq_nil_iff.mpr fun g hg => decide_eq_true ?_
    rintro rfl
    exact hmem hg
  let pools := Function.update q.m_SelectionPools (q.skirmishTeam minPlayersPerTeam).other
    SelectionPool.init
  refine ⟨{ q with m_SelectionPools := pools }, (if_neg hsmall).trans ?_⟩
  dsimp only
  rw [hlast]
  dsimp only
  rw [hdrop]

theorem check_of_mem (hseen : ginfo ∉ seen)
    (hlist : q.m_QueuedGroups (b, normal (q.skirmishTeam minPlayersPerTeam)) =
      seen ++ ginfo :: rest) :
    q.checkSkirmishForSameFaction b minPlayersPerTeam =
      let t := q.skirmishTeam minPlayersPerTeam
      let opponents := q.opponents minPlayersPerTeam rest
      let q := { q with m_SelectionPools := q.opposedPools minPlayersPerTeam t rest }
      if (balanceRule q.heap minPlayersPerTeam).total opponents ≠ minPlayersPerTeam then
        some (false, q)
      else some (true, opponents.foldl (switchTeam b t ginfo) q) := by
  have hdrop : (q.m_QueuedGroups (b, normal (q.skirmishTeam minPlayersPerTeam))).dropWhile
      (· ≠ ginfo) = ginfo :: rest := by
    rw [hlist, List.dropWhile_append_of_pos]
    · simp
    · intro g hg
      refine decide_eq_true ?_
      rintro rfl
      exact hseen hg
  have hpool : balanceScan q.heap minPlayersPerTeam rest SelectionPool.init =
      SelectionPool.init.extend q.heap (q.opponents minPlayersPerTeam rest) :=
    balanceScan_eq _ _ _
  have hcount : (SelectionPool.init.extend q.heap
      (q.opponents minPlayersPerTeam rest)).PlayerCount =
      (balanceRule q.heap minPlayersPerTeam).total (q.opponents minPlayersPerTeam rest) :=
    Nat.zero_add _
  have hgroups : (SelectionPool.init.extend q.heap
      (q.opponents minPlayersPerTeam rest)).SelectedGroups =
      q.opponents minPlayersPerTeam rest := List.nil_append _
  refine (if_neg hsmall).trans ?_
  dsimp only
  rw [hlast]
  dsimp only
  rw [hdrop]
  dsimp only
  rw [hpool, hcount, hgroups, opposedPools, Function.update_idem]

end Resumed

/-! ## 4. What a skirmish should be -/

/-- **What a successful check should leave**, the queue before and after. -/
structure GoodSkirmish (minPlayersPerTeam : ℕ) (b : BattlegroundBracketId)
    (q q' : BattlegroundQueue) : Prop where
  enough : ∀ team, minPlayersPerTeam ≤ q'.m_SelectionPools.distinctPlayers q'.heap team
  disjoint : (q'.m_SelectionPools .ALLIANCE).SelectedGroups.Disjoint
    (q'.m_SelectionPools .HORDE).SelectedGroups
  uninvited : ∀ g ∈ q'.m_SelectionPools.selected, (q'.heap g).IsInvitedToBGInstanceGUID = 0
  moved : ∀ team, ∀ g ∈ q'.m_QueuedGroups (b, normal team),
    g ∉ q.m_QueuedGroups (b, normal team) → (q'.heap g).Team = team
  perm : (q'.m_QueuedGroups (b, normal .ALLIANCE) ++ q'.m_QueuedGroups (b, normal .HORDE)).Perm
    (q.m_QueuedGroups (b, normal .ALLIANCE) ++ q.m_QueuedGroups (b, normal .HORDE))

/-- **What the function should do**: read no empty pool, and return true with a good skirmish
only. -/
structure ChecksSkirmish (minPlayersPerTeam : ℕ) (b : BattlegroundBracketId)
    (q : BattlegroundQueue) : Prop where
  returns : ∃ result q', q.checkSkirmishForSameFaction b minPlayersPerTeam = some (result, q')
  good : ∀ q', q.checkSkirmishForSameFaction b minPlayersPerTeam = some (true, q') →
    GoodSkirmish minPlayersPerTeam b q q'

/-- **When it does.**  Both pools are too small; or the pool that is resumed has a last group, and
if the groups behind it in the list make a full team as they fit, the pool has enough players, each
counted once, and that team takes none of its groups. -/
def Resumable (minPlayersPerTeam : ℕ) (b : BattlegroundBracketId) (q : BattlegroundQueue) :
    Prop :=
  q.BothTooSmall minPlayersPerTeam ∨
    let t := q.skirmishTeam minPlayersPerTeam
    let r := balanceRule q.heap minPlayersPerTeam
    (q.m_SelectionPools t).SelectedGroups ≠ [] ∧
      ∀ seen ginfo rest, (q.m_SelectionPools t).SelectedGroups.getLast? = some ginfo →
        q.m_QueuedGroups (b, normal t) = seen ++ ginfo :: rest →
        r.total (r.taken 0 rest) = minPlayersPerTeam →
        minPlayersPerTeam ≤ q.m_SelectionPools.distinctPlayers q.heap t ∧
          ∀ g ∈ (q.m_SelectionPools t).SelectedGroups, ¬ r.Reaches 0 rest g

theorem opposedPools_disjoint_iff (q : BattlegroundQueue) (t : Team) (rest : List GroupPtr) :
    let pools := q.opposedPools minPlayersPerTeam t rest
    (pools .ALLIANCE).SelectedGroups.Disjoint (pools .HORDE).SelectedGroups ↔
      ∀ g ∈ (q.m_SelectionPools t).SelectedGroups,
        ¬ (balanceRule q.heap minPlayersPerTeam).Reaches 0 rest g := by
  have hsame : (q.opposedPools minPlayersPerTeam t rest) t = q.m_SelectionPools t :=
    Function.update_of_ne (Team.other_ne t).symm _ _
  have hother : ((q.opposedPools minPlayersPerTeam t rest) t.other).SelectedGroups =
      q.opponents minPlayersPerTeam rest := by
    rw [opposedPools, Function.update_self]
    exact List.nil_append _
  have hdisjoint : (q.m_SelectionPools t).SelectedGroups.Disjoint
        (q.opponents minPlayersPerTeam rest) ↔
      ∀ g ∈ (q.m_SelectionPools t).SelectedGroups,
        ¬ (balanceRule q.heap minPlayersPerTeam).Reaches 0 rest g := by
    simp only [List.Disjoint, opponents, Scan.mem_taken_iff]
  dsimp only
  rw [← hdisjoint, ← hother, ← hsame]
  cases t with
  | ALLIANCE => exact Iff.rfl
  | HORDE => exact ⟨List.Disjoint.symm, List.Disjoint.symm⟩

/-- **A full team behind the last group makes a good skirmish exactly if the pool has enough
players and shares none of its groups.** -/
theorem Inv.goodSkirmish_iff (h : q.Inv)
    (huninvited : ∀ g ∈ q.m_SelectionPools.selected, (q.heap g).IsInvitedToBGInstanceGUID = 0)
    (hlist : q.m_QueuedGroups (b, normal t) = seen ++ ginfo :: rest)
    (htotal : (balanceRule q.heap minPlayersPerTeam).total (q.opponents minPlayersPerTeam rest) =
      minPlayersPerTeam) :
    let q₁ := { q with m_SelectionPools := q.opposedPools minPlayersPerTeam t rest }
    GoodSkirmish minPlayersPerTeam b q
        ((q.opponents minPlayersPerTeam rest).foldl (BattlegroundQueue.switchTeam b t ginfo) q₁) ↔
      minPlayersPerTeam ≤ q.m_SelectionPools.distinctPlayers q.heap t ∧
        ∀ g ∈ (q.m_SelectionPools t).SelectedGroups,
          ¬ (balanceRule q.heap minPlayersPerTeam).Reaches 0 rest g := by
  dsimp only
  have hnd := h.placed.nodup (b, normal t)
  rw [hlist] at hnd
  have htaken : (q.opponents minPlayersPerTeam rest).Sublist rest := Scan.taken_sublist 0 rest
  have hopp : (q.opponents minPlayersPerTeam rest).Nodup :=
    htaken.nodup (List.nodup_cons.mp (List.nodup_append.mp hnd).2.1).2
  have hmem : ∀ g ∈ q.opponents minPlayersPerTeam rest, g ∈ q.m_QueuedGroups (b, normal t) := by
    intro g hg
    rw [hlist]
    exact List.mem_append_right _ (List.mem_cons_of_mem _ (htaken.subset hg))
  have hswitched := (h.setPools (q.opposedPools minPlayersPerTeam t rest)).switched hlist hopp
    htaken.subset
  generalize (q.opponents minPlayersPerTeam rest).foldl (BattlegroundQueue.switchTeam b t ginfo)
    { q with m_SelectionPools := q.opposedPools minPlayersPerTeam t rest } = q' at hswitched
  have hpools : q'.m_SelectionPools = q.opposedPools minPlayersPerTeam t rest := hswitched.pools
  have hdistinct : ∀ team, q'.m_SelectionPools.distinctPlayers q'.heap team =
      (q.opposedPools minPlayersPerTeam t rest).distinctPlayers q.heap team := by
    intro team
    unfold Pools.distinctPlayers
    simp only [hpools, hswitched.players]
  have hsame : (q.opposedPools minPlayersPerTeam t rest).distinctPlayers q.heap t =
      q.m_SelectionPools.distinctPlayers q.heap t := by
    unfold Pools.distinctPlayers opposedPools
    rw [Function.update_of_ne (Team.other_ne t).symm]
  have hother : (q.opposedPools minPlayersPerTeam t rest).distinctPlayers q.heap t.other =
      minPlayersPerTeam := by
    unfold Pools.distinctPlayers opposedPools
    rw [Function.update_self]
    refine Eq.trans ?_ htotal
    exact (q.normalQueue h b).card_players hopp fun g hg => NormalQueue.mem_all (hmem g hg)
  constructor
  · intro hgood
    refine ⟨?_, (opposedPools_disjoint_iff q t rest).mp ?_⟩
    · rw [← hsame, ← hdistinct]
      exact hgood.enough t
    · rw [← hpools]
      exact hgood.disjoint
  · rintro ⟨henough, hdis⟩
    refine ⟨fun team => ?_, ?_, fun g hg => ?_, fun team g hg hnew => ?_, ?_⟩
    · rw [hdistinct]
      by_cases hteam : team = t
      · rw [hteam, hsame]
        exact henough
      · rw [Team.eq_other_of_ne hteam, hother]
    · rw [hpools]
      exact (opposedPools_disjoint_iff q t rest).mpr hdis
    · rw [hswitched.invited]
      rw [hpools] at hg
      obtain ⟨team, hg⟩ := Pools.mem_selected.mp hg
      by_cases hteam : team = t.other
      · rw [hteam, opposedPools, Function.update_self] at hg
        have htake : g ∈ q.opponents minPlayersPerTeam rest := by simpa [SelectionPool.extend,
          SelectionPool.init] using hg
        exact of_decide_eq_true (Scan.mem_taken_iff.mp htake).cand
      · rw [opposedPools, Function.update_of_ne hteam] at hg
        exact huninvited g (Pools.mem_selected.mpr ⟨team, hg⟩)
    · by_cases hteam : team = t
      · rw [hteam] at hg hnew
        exact absurd (hswitched.stayed g hg) hnew
      · rw [Team.eq_other_of_ne hteam] at hg hnew ⊢
        rcases hswitched.came g hg with hg | hg
        · exact hswitched.team g hg
        · exact absurd hg hnew
    · have hperm := hswitched.perm
      cases t with
      | ALLIANCE => exact hperm
      | HORDE => exact (List.perm_append_comm.trans hperm).trans List.perm_append_comm

/-! ## 5. The function -/

theorem Inv.checksSkirmish_iff (h : q.Inv)
    (huninvited : ∀ g ∈ q.m_SelectionPools.selected, (q.heap g).IsInvitedToBGInstanceGUID = 0) :
    ChecksSkirmish minPlayersPerTeam b q ↔ Resumable minPlayersPerTeam b q := by
  by_cases hsmall : q.BothTooSmall minPlayersPerTeam
  · refine iff_of_true ⟨⟨_, _, check_of_tooSmall hsmall⟩, fun q' hq' => ?_⟩ (Or.inl hsmall)
    rw [check_of_tooSmall hsmall] at hq'
    exact absurd (Prod.mk.inj (Option.some.inj hq')).1 (by decide)
  · by_cases hempty : (q.m_SelectionPools (q.skirmishTeam minPlayersPerTeam)).SelectedGroups = []
    · refine iff_of_false (fun hc => ?_) fun hr => ?_
      · obtain ⟨result, q', hq'⟩ := hc.returns
        exact absurd ((check_of_empty hsmall hempty).symm.trans hq') nofun
      · rcases hr with hr | hr
        · exact hsmall hr
        · exact hr.1 hempty
    · obtain ⟨ginfo, hlast⟩ := Option.isSome_iff_exists.mp (List.getLast?_isSome.mpr hempty)
      by_cases hmem : ginfo ∈ q.m_QueuedGroups (b, normal (q.skirmishTeam minPlayersPerTeam))
      · obtain ⟨seen, rest, hlist⟩ := List.append_of_mem hmem
        have hnd := h.placed.nodup (b, normal (q.skirmishTeam minPlayersPerTeam))
        rw [hlist] at hnd
        have hseen : ginfo ∉ seen := fun hm =>
          (List.nodup_append'.mp hnd).2.2 hm List.mem_cons_self
        have hcheck := check_of_mem hsmall hlast hseen hlist
        dsimp only at hcheck
        -- the list can be taken apart in one way only
        have hunique : ∀ seen' rest', q.m_QueuedGroups
            (b, normal (q.skirmishTeam minPlayersPerTeam)) = seen' ++ ginfo :: rest' →
            rest' = rest := by
          intro seen' rest' hlist'
          have hrest : ginfo ∉ rest := (List.nodup_cons.mp (List.nodup_append.mp hnd).2.1).1
          rw [hlist] at hlist'
          exact ((List.append_cons_inj_of_notMem hseen hrest).mp hlist').2.2.symm
        by_cases htotal : (balanceRule q.heap minPlayersPerTeam).total
            (q.opponents minPlayersPerTeam rest) = minPlayersPerTeam
        · rw [if_neg (not_not.mpr htotal)] at hcheck
          have hgood := h.goodSkirmish_iff huninvited hlist htotal
          constructor
          · intro hc
            refine Or.inr ⟨hempty, fun seen' ginfo' rest' hlast' hlist' _ => ?_⟩
            obtain rfl := Option.some.inj (hlast.symm.trans hlast')
            obtain rfl := hunique seen' rest' hlist'
            exact hgood.mp (hc.good _ hcheck)
          · rintro (hr | ⟨-, hr⟩)
            · exact absurd hr hsmall
            · refine ⟨⟨_, _, hcheck⟩, fun q' hq' => ?_⟩
              rw [← (Prod.mk.inj (Option.some.inj (hcheck.symm.trans hq'))).2]
              exact hgood.mpr (hr seen ginfo rest hlast hlist htotal)
        · rw [if_pos htotal] at hcheck
          refine iff_of_true ⟨⟨_, _, hcheck⟩, fun q' hq' => ?_⟩ (Or.inr ⟨hempty, ?_⟩)
          · exact absurd (Prod.mk.inj (Option.some.inj (hcheck.symm.trans hq'))).1 (by decide)
          · intro seen' ginfo' rest' hlast' hlist' htotal'
            obtain rfl := Option.some.inj (hlast.symm.trans hlast')
            obtain rfl := hunique seen' rest' hlist'
            exact absurd htotal' htotal
      · obtain ⟨q', hcheck⟩ := check_of_not_mem hsmall hlast hmem
        refine iff_of_true ⟨⟨_, _, hcheck⟩, fun q' hq' => ?_⟩ (Or.inr ⟨hempty, ?_⟩)
        · exact absurd (Prod.mk.inj (Option.some.inj (hcheck.symm.trans hq'))).1 (by decide)
        · intro seen ginfo' rest hlast' hlist
          obtain rfl := Option.some.inj (hlast.symm.trans hlast')
          refine absurd ?_ hmem
          rw [hlist]
          exact List.mem_append_right _ List.mem_cons_self

/-- **After a normal match that was not found, the function does what it should exactly if the pool
it resumes has a last group, and has enough players and no group of the other side where the list
has a full team behind that group.** -/
theorem skirmish_good_iff (h : q.Inv) (b : BattlegroundBracketId) (env : NormalMatchEnv)
    (minPlayersPerTeam MaxPlayersPerTeam : ℕ) (pools : Pools)
    (hnormal : checkNormalMatch env q.heap (fun team => q.m_QueuedGroups (b, normal team))
      minPlayersPerTeam MaxPlayersPerTeam Pools.init = some (false, pools)) :
    ChecksSkirmish minPlayersPerTeam b { q with m_SelectionPools := pools } ↔
      Resumable minPlayersPerTeam b { q with m_SelectionPools := pools } := by
  have hsound := @checkNormalMatch_sound env (q.normalQueue h b) _ _ _ _ hnormal
  exact (h.setPools pools).checksSkirmish_iff fun g hg =>
    of_decide_eq_true (hsound.mem g hg).2

def hordeJoin (leader : ObjectGuid) : Join where
  leader := leader
  leaderTeam := .HORDE
  skirmishJoined := false
  grp := none
  bracketId := ⟨14, topBracket_lt⟩
  ArenaType := 2
  isRated := false
  isPremade := false
  MatchmakerRating := 0
  arenateamid := 0

def oneHorde : BattlegroundQueue :=
  (new fun _ => { Players := OrderedSet.empty, Team := .HORDE }).addGroup false 1000 5 (hordeJoin 1)

theorem oneHorde_reachable : Reachable oneHorde :=
  .step (.new _) (.addGroup false 1000 5 (hordeJoin 1) (by simp [new]) (by simp [hordeJoin])
    fun _ _ => rfl)

def skirmishEnv : NormalMatchEnv where
  isBattleground := false
  invitationType := .BALANCED

/-- With full teams of one, the lone player is counted once, and waits. -/
theorem oneHorde_waits : ∃ pools,
    checkNormalMatch skirmishEnv oneHorde.heap
        (fun team => oneHorde.m_QueuedGroups (14, normal team)) 1 1 Pools.init =
      some (false, pools) ∧
    (ChecksSkirmish 1 14 { oneHorde with m_SelectionPools := pools } ↔
      Resumable 1 14 { oneHorde with m_SelectionPools := pools }) :=
  ⟨_, rfl, skirmish_good_iff oneHorde_reachable.inv 14 skirmishEnv 1 1 _ rfl⟩

/-- **When the arena is tested, the lone player is counted twice, and the last group of an empty
pool is read.** -/
theorem oneHorde_empty_pool : Reachable oneHorde ∧ ∃ pools,
    checkNormalMatch skirmishEnv oneHorde.heap
        (fun team => oneHorde.m_QueuedGroups (14, normal team)) 1 2 Pools.init =
      some (false, pools) ∧
    ¬ ChecksSkirmish 1 14 { oneHorde with m_SelectionPools := pools } := by
  refine ⟨oneHorde_reachable, _, rfl, fun h => ?_⟩
  obtain ⟨result, q', hq'⟩ := h.returns
  exact absurd hq' nofun

end BattlegroundQueue

end FunPvp.Battleground
