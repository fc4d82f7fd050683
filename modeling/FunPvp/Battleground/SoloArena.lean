/-
# Solo arena matchmaking

`BattlegroundQueue::CheckSolo2v2Arena` looks for six players for a solo 3v3 arena. A player who is
needed on the other side has his `Team` rewritten, is moved to the end of the other list, and the
function STARTS AGAIN. As the alliance pool is filled first, the distance between what the alliance
list has and what the pool takes, summed over the talent categories, drops with every restart
(`SoloQueue.distance_move_lt`). `checkSolo2v2Arena_correct` puts this together with what a match
looks like when one is found.
-/
import FunPvp.Battleground.Queue
import FunPvp.Lib.Loop

namespace FunPvp.Battleground

open FunPvp.Lib

/-! ## 1. Talent categories -/

inductive Solo2v2TalentCat
  | MELEE | RANGE | HEALER
deriving DecidableEq

/-- `SOLO_2v2_TALENTS_MELEE`, `_RANGE` and `_HEAL`, without the final 0. -/
def Solo2v2TalentCat.talents : Solo2v2TalentCat → List ℕ
  | .MELEE => [383, 163, 361, 161, 182, 398, 164, 181, 263, 281, 399, 183, 381, 400]
  | .RANGE => [81, 261, 283, 302, 41, 303, 363, 61, 203, 301, 362]
  | .HEALER => [201, 202, 382, 262, 282]

/-- A row of `Talent.dbc`. -/
structure TalentEntry where
  TalentTab : ℕ
  RankID : List ℕ

/-- What the matchmaking asks a `Player` for. -/
structure Player where
  /-- `HasTalent(spell, GetActiveSpec())`. -/
  hasTalent : ℕ → Bool

/-- What `CheckSolo2v2Arena` reads from outside the queue. -/
structure SoloEnv where
  /-- `CONFIG_SOLO_2V2_FILTER_TALENTS`. -/
  filterTalents : Bool
  /-- `sTalentStore`; a row number may be missing. -/
  talentStore : List (Option TalentEntry)
  /-- `ObjectAccessor::FindPlayer`: nothing for a player who is offline. -/
  findPlayer : ObjectGuid → Option Player

/-- The talent points of one row that count for a category: `rank + 1` for each rank the player
has, once for each mention of the row's tab in the category's table. -/
def TalentEntry.points (talentInfo : TalentEntry) (player : Player) (c : Solo2v2TalentCat) : ℕ :=
  (talentInfo.RankID.zipIdx.map fun (rankId, rank) =>
    if rankId ≠ 0 ∧ player.hasTalent rankId then
      c.talents.count talentInfo.TalentTab * (rank + 1)
    else 0).sum

def SoloEnv.talentCount (env : SoloEnv) (player : Player) (c : Solo2v2TalentCat) : ℕ :=
  (env.talentStore.map fun
    | none => 0
    | some talentInfo => talentInfo.points player c).sum

/-- `GetTalentCatForSolo2v2`: the first category with the most points, and `MELEE` when the
filter is off. -/
def SoloEnv.getTalentCat (env : SoloEnv) (player : Player) : Solo2v2TalentCat :=
  if env.filterTalents = false then .MELEE
  else
    ([Solo2v2TalentCat.MELEE, .RANGE, .HEALER].foldl
      (fun (best : Solo2v2TalentCat × ℕ) i =>
        if env.talentCount player i > best.2 then (i, env.talentCount player i) else best)
      (.MELEE, 0)).1

/-! ## 2. The source -/

def PLAYERS_COUNT_PER_TEAM : ℕ := 3

def REQUIRED_TOTAL_PLAYERS : ℕ := 6

/-- The two premade lists of the bracket, the selection pools, and the slots taken. -/
structure SoloState where
  heap : GroupHeap
  m_QueuedGroups : Team → List GroupPtr
  m_SelectionPools : Team → SelectionPool
  soloTeam : Team → Solo2v2TalentCat → Bool

inductive SoloExit
  /-- `return true` from inside the loops. -/
  | found (s : SoloState)
  /-- `return CheckSolo2v2Arena(bracket_id)`. -/
  | moved (s : SoloState)

namespace SoloState

def reset (s : SoloState) : SoloState :=
  { s with m_SelectionPools := fun _ => SelectionPool.init, soloTeam := fun _ _ => false }

def totalPlayers (s : SoloState) : ℕ :=
  (s.m_SelectionPools .ALLIANCE).PlayerCount + (s.m_SelectionPools .HORDE).PlayerCount

def moveTo (s : SoloState) (team : Team) (ginfo : GroupPtr) : SoloState :=
  { s with
    heap := s.heap.setTeam ginfo team
    m_QueuedGroups := fun t =>
      if t = team then s.m_QueuedGroups t ++ [ginfo] else (s.m_QueuedGroups t).erase ginfo }

/-- "added successfully?" and what follows, for either team. -/
def tryTeam (s : SoloState) (team : Team) (ginfo : GroupPtr) (plrCat : Solo2v2TalentCat) :
    Except SoloExit SoloState :=
  let r := (s.m_SelectionPools team).addGroup s.heap ginfo PLAYERS_COUNT_PER_TEAM
  let s := { s with m_SelectionPools := Function.update s.m_SelectionPools team r.2 }
  if r.1 then
    let s := { s with
      soloTeam := Function.update s.soloTeam team
        (Function.update (s.soloTeam team) plrCat true) }
    if (s.heap ginfo).Team ≠ team then .error (.moved (s.moveTo team ginfo)) else .ok s
  else .ok s

end SoloState

/-- The body of the innermost loop, for one player of the group. -/
def soloPlayer (env : SoloEnv) (ginfo : GroupPtr) (s : SoloState) (guid : ObjectGuid) :
    Except SoloExit SoloState :=
  match env.findPlayer guid with
  | none => .ok s
  | some plr =>
    if env.filterTalents = false ∧ s.totalPlayers = REQUIRED_TOTAL_PLAYERS then
      .error (.found s)
    else
      let plrCat := env.getTalentCat plr
      if (env.filterTalents = true ∧ s.soloTeam .ALLIANCE plrCat = false) ∨
          (env.filterTalents = false ∧
            (s.m_SelectionPools .ALLIANCE).PlayerCount ≠ PLAYERS_COUNT_PER_TEAM) then
        s.tryTeam .ALLIANCE ginfo plrCat
      else if (env.filterTalents = true ∧ s.soloTeam .HORDE plrCat = false) ∨
          env.filterTalents = false then
        s.tryTeam .HORDE ginfo plrCat
      else .ok s

def soloGroup (env : SoloEnv) (s : SoloState) (ginfo : GroupPtr) : Except SoloExit SoloState :=
  if (s.heap ginfo).uninvited then
    (s.heap ginfo).Players.elems.foldlM (soloPlayer env ginfo) s
  else .ok s

def soloWalk (env : SoloEnv) (s : SoloState) : Except SoloExit SoloState := do
  let s ← (s.m_QueuedGroups .ALLIANCE).foldlM (soloGroup env) s
  (s.m_QueuedGroups .HORDE).foldlM (soloGroup env) s

def SoloState.countAll (s : SoloState) : ℕ :=
  ([Team.ALLIANCE, .HORDE].map fun i =>
    [Solo2v2TalentCat.MELEE, .RANGE, .HEALER].countP (s.soloTeam i)).sum

/-- The `return` at the end of the function. -/
def SoloState.complete (env : SoloEnv) (s : SoloState) : Bool :=
  decide (s.countAll = REQUIRED_TOTAL_PLAYERS) ||
    (!env.filterTalents && decide (s.totalPlayers = REQUIRED_TOTAL_PLAYERS))

/-- `CheckSolo2v2Arena`; `none` when the fuel, one unit for each call, runs out. -/
def checkSolo2v2Arena (env : SoloEnv) : ℕ → SoloState → Option (Bool × SoloState)
  | 0, _ => none
  | fuel + 1, s =>
    match soloWalk env s.reset with
    | .ok s' => some (s'.complete env, s')
    | .error (.found s') => some (true, s')
    | .error (.moved s') => checkSolo2v2Arena env fuel s'

/-! ## 3. Queue contents -/

/-- A bracket of the solo queue: every queued group is one player, its `Team` is that of its
list, and nobody is queued twice. -/
structure SoloQueue where
  heap : GroupHeap
  queued : Team → List GroupPtr
  single : ∀ team, ∀ g ∈ queued team, ∃ guid, (heap g).Players.elems = [guid]
  team_eq : ∀ team, ∀ g ∈ queued team, (heap g).Team = team
  nodup : ∀ team, (queued team).Nodup
  distinct : ∀ team team' g g', g ∈ queued team → g' ∈ queued team' →
    (heap g).Players = (heap g').Players → g = g'

/-- The category of a group the matchmaking looks at: uninvited, and its player online. -/
def SoloEnv.soloCat (env : SoloEnv) (ginfo : GroupQueueInfo) : Option Solo2v2TalentCat :=
  if ginfo.uninvited then
    (ginfo.Players.elems.head?.bind env.findPlayer).map env.getTalentCat
  else none

/-- How many players of one category a pool takes: one with the filter on, and otherwise all
three, who then count as `MELEE`. -/
def SoloEnv.perTalent (env : SoloEnv) : ℕ :=
  if env.filterTalents then 1 else PLAYERS_COUNT_PER_TEAM

@[simp] theorem soloCat_setTeam (env : SoloEnv) (heap : GroupHeap) (g g' : GroupPtr)
    (team : Team) : env.soloCat (heap.setTeam g team g') = env.soloCat (heap g') := by
  simp [SoloEnv.soloCat, GroupQueueInfo.uninvited]

theorem soloCat_eq_melee {env : SoloEnv} (hoff : env.filterTalents = false)
    {ginfo : GroupQueueInfo} {c : Solo2v2TalentCat} (h : env.soloCat ginfo = some c) :
    c = .MELEE := by
  unfold SoloEnv.soloCat at h
  split at h
  · obtain ⟨player, -, rfl⟩ := Option.map_eq_some_iff.mp h
    exact if_pos hoff
  · exact absurd h (by simp)

namespace SoloQueue

theorem team_of_mem (q : SoloQueue) {team team' : Team} {g : GroupPtr} (h : g ∈ q.queued team)
    (h' : g ∈ q.queued team') : team = team' := by
  rw [← q.team_eq team g h, q.team_eq team' g h']

def movedLists (q : SoloQueue) (team : Team) (ginfo : GroupPtr) (t : Team) : List GroupPtr :=
  if t = team then q.queued t ++ [ginfo] else (q.queued t).erase ginfo

theorem mem_movedLists {q : SoloQueue} {team t : Team} {ginfo g : GroupPtr}
    (hg : ginfo ∈ q.queued team.other) :
    g ∈ q.movedLists team ginfo t ↔ (g = ginfo ∧ t = team) ∨ (g ≠ ginfo ∧ g ∈ q.queued t) := by
  unfold movedLists
  by_cases ht : t = team
  · subst ht
    have hne : g ∈ q.queued t → g ≠ ginfo := by
      rintro h rfl
      exact Team.other_ne t (q.team_of_mem hg h)
    rw [if_pos rfl, List.mem_append, List.mem_singleton]
    tauto
  · rw [if_neg ht, (q.nodup t).mem_erase_iff]
    tauto

/-- **The content after a move** of a group to the other list. -/
def move (q : SoloQueue) (team : Team) (ginfo : GroupPtr) (hg : ginfo ∈ q.queued team.other) :
    SoloQueue where
  heap := q.heap.setTeam ginfo team
  queued := q.movedLists team ginfo
  single := by
    intro t g h
    rw [GroupHeap.setTeam_Players]
    rcases (mem_movedLists hg).mp h with ⟨rfl, rfl⟩ | ⟨-, h⟩
    · exact q.single _ g hg
    · exact q.single t g h
  team_eq := by
    intro t g h
    rcases (mem_movedLists hg).mp h with ⟨rfl, rfl⟩ | ⟨hne, h⟩
    · exact GroupHeap.setTeam_Team_self
    · rw [GroupHeap.setTeam_Team_of_ne hne]; exact q.team_eq t g h
  nodup := by
    intro t
    unfold movedLists
    split
    · next ht =>
      subst ht
      refine (q.nodup t).append (List.nodup_singleton _) (List.disjoint_singleton.mpr fun h => ?_)
      exact Team.other_ne t (q.team_of_mem hg h)
    · exact (q.nodup t).erase ginfo
  distinct := by
    intro t t' g g' h h' hP
    simp only [GroupHeap.setTeam_Players] at hP
    have hq : ∀ {t g}, g ∈ q.movedLists team ginfo t → ∃ u, g ∈ q.queued u := by
      intro t g h
      rcases (mem_movedLists hg).mp h with ⟨rfl, rfl⟩ | ⟨-, h⟩
      · exact ⟨_, hg⟩
      · exact ⟨t, h⟩
    obtain ⟨u, hu⟩ := hq h
    obtain ⟨u', hu'⟩ := hq h'
    exact q.distinct u u' g g' hu hu' hP

def all (q : SoloQueue) : List GroupPtr := q.queued .ALLIANCE ++ q.queued .HORDE

theorem move_all_perm (q : SoloQueue) {team : Team} {ginfo : GroupPtr}
    (hg : ginfo ∈ q.queued team.other) : (q.move team ginfo hg).all.Perm q.all := by
  cases team with
  | ALLIANCE =>
    have hg' : ginfo ∈ q.queued .HORDE := hg
    show (q.queued .ALLIANCE ++ [ginfo] ++ (q.queued .HORDE).erase ginfo).Perm _
    rw [List.append_assoc]
    exact (List.perm_cons_erase hg').symm.append_left _
  | HORDE =>
    have hg' : ginfo ∈ q.queued .ALLIANCE := hg
    show ((q.queued .ALLIANCE).erase ginfo ++ (q.queued .HORDE ++ [ginfo])).Perm _
    calc ((q.queued .ALLIANCE).erase ginfo ++ (q.queued .HORDE ++ [ginfo])).Perm
          (ginfo :: ((q.queued .ALLIANCE).erase ginfo ++ q.queued .HORDE)) := by
            rw [← List.append_assoc]; exact List.perm_append_singleton _ _
      _ |>.Perm (q.queued .ALLIANCE ++ q.queued .HORDE) :=
            ((List.perm_cons_erase hg').append_right _).symm

/-- How many players of a category the alliance list has. -/
def allianceCount (env : SoloEnv) (q : SoloQueue) (c : Solo2v2TalentCat) : ℕ :=
  (q.queued .ALLIANCE).countP fun g => env.soloCat (q.heap g) = some c

/-- The distance of one category, in whichever direction. -/
def gap (env : SoloEnv) (q : SoloQueue) (c : Solo2v2TalentCat) : ℕ :=
  (q.allianceCount env c - env.perTalent) + (env.perTalent - q.allianceCount env c)

/-- **The measure**: how far the alliance list is from what its pool takes. -/
def distance (env : SoloEnv) (q : SoloQueue) : ℕ :=
  q.gap env .MELEE + q.gap env .RANGE + q.gap env .HEALER

/-- A move is called for: the alliance list has too many of the category, or too few. -/
def Wanted (env : SoloEnv) (q : SoloQueue) (team : Team) (c : Solo2v2TalentCat) : Prop :=
  match team with
  | .HORDE => env.perTalent < q.allianceCount env c
  | .ALLIANCE => q.allianceCount env c < env.perTalent

theorem allianceCount_move (env : SoloEnv) (q : SoloQueue) {team : Team} {ginfo : GroupPtr}
    (hg : ginfo ∈ q.queued team.other) (c : Solo2v2TalentCat) :
    (q.move team ginfo hg).allianceCount env c =
      match team with
      | .HORDE => q.allianceCount env c - if env.soloCat (q.heap ginfo) = some c then 1 else 0
      | .ALLIANCE => q.allianceCount env c + if env.soloCat (q.heap ginfo) = some c then 1 else 0
    := by
  cases team with
  | HORDE =>
    have hg' : ginfo ∈ q.queued .ALLIANCE := hg
    show ((q.queued .ALLIANCE).erase ginfo).countP
      (fun g => env.soloCat (q.heap.setTeam ginfo .HORDE g) = some c) = _
    simp only [soloCat_setTeam, List.countP_erase, hg', true_and, allianceCount,
      decide_eq_true_eq]
  | ALLIANCE =>
    show (q.queued .ALLIANCE ++ [ginfo]).countP
      (fun g => env.soloCat (q.heap.setTeam ginfo .ALLIANCE g) = some c) = _
    simp only [soloCat_setTeam, List.countP_append, List.countP_singleton, allianceCount,
      decide_eq_true_eq]

theorem distance_move_lt (env : SoloEnv) (q : SoloQueue) {team : Team} {ginfo : GroupPtr}
    (hg : ginfo ∈ q.queued team.other) {c : Solo2v2TalentCat}
    (hc : env.soloCat (q.heap ginfo) = some c) (hw : q.Wanted env team c) :
    (q.move team ginfo hg).distance env < q.distance env := by
  have hgap : ∀ d, (q.move team ginfo hg).gap env d + (if d = c then 1 else 0) = q.gap env d := by
    intro d
    simp only [gap, allianceCount_move env q hg, hc, Option.some.injEq]
    by_cases hd : d = c
    · subst hd
      cases team <;> simp only [Wanted] at hw <;> simp only [if_true] <;> omega
    · cases team <;> simp only [hd, Ne.symm hd, if_false] <;> omega
  have h1 := hgap .MELEE
  have h2 := hgap .RANGE
  have h3 := hgap .HEALER
  unfold distance
  cases c <;> simp only [reduceCtorEq, if_true, if_false] at h1 h2 h3 <;> omega

end SoloQueue

/-! ## 4. One walk over the lists -/

/-- How many players of a category a list of groups has. -/
def SoloEnv.catCount (env : SoloEnv) (heap : GroupHeap) (l : List GroupPtr)
    (c : Solo2v2TalentCat) : ℕ :=
  l.countP fun g => env.soloCat (heap g) = some c

theorem length_eq_catCount (env : SoloEnv) (heap : GroupHeap) :
    ∀ (l : List GroupPtr), (∀ g ∈ l, ∃ c, env.soloCat (heap g) = some c) →
      l.length = env.catCount heap l .MELEE + env.catCount heap l .RANGE
        + env.catCount heap l .HEALER
  | [], _ => rfl
  | g :: l, h => by
    obtain ⟨c, hc⟩ := h g List.mem_cons_self
    have ih := length_eq_catCount env heap l fun g' hg' => h g' (List.mem_cons_of_mem g hg')
    simp only [SoloEnv.catCount, List.countP_cons, List.length_cons, hc] at ih ⊢
    cases c <;> simp <;> omega

theorem catCount_eq_zero {env : SoloEnv} (hoff : env.filterTalents = false) (heap : GroupHeap)
    (l : List GroupPtr) {c : Solo2v2TalentCat} (hc : c ≠ .MELEE) : env.catCount heap l c = 0 := by
  refine List.countP_eq_zero.mpr fun g _ h => hc ?_
  exact soloCat_eq_melee hoff (of_decide_eq_true h)

theorem countP_le_of_subset {p : GroupPtr → Bool} {l l' : List GroupPtr} (hl : l.Nodup)
    (h : ∀ g ∈ l, p g = true → g ∈ l') : l.countP p ≤ l'.countP p := by
  rw [List.countP_eq_length_filter, List.countP_eq_length_filter]
  refine ((hl.filter p).subperm fun g hg => ?_).length_le
  obtain ⟨hm, hp⟩ := List.mem_filter.mp hg
  exact List.mem_filter.mpr ⟨h g hm hp, hp⟩

/-- **What holds while the lists are walked** without a move: `done` has been looked at, and the
alliance pool has been filled first. -/
structure Filled (env : SoloEnv) (q : SoloQueue) (done : List GroupPtr) (s : SoloState) :
    Prop where
  heap : s.heap = q.heap
  queued : s.m_QueuedGroups = q.queued
  selected : ∀ team, ∀ g ∈ (s.m_SelectionPools team).SelectedGroups,
    g ∈ done ∧ g ∈ q.queued team ∧ ∃ c, env.soloCat (q.heap g) = some c
  nodup : ∀ team, (s.m_SelectionPools team).SelectedGroups.Nodup
  playerCount : ∀ team,
    (s.m_SelectionPools team).PlayerCount = (s.m_SelectionPools team).SelectedGroups.length
  atMost : ∀ team c,
    env.catCount q.heap (s.m_SelectionPools team).SelectedGroups c ≤ env.perTalent
  slot : env.filterTalents = true → ∀ team c, s.soloTeam team c = true ↔
    env.catCount q.heap (s.m_SelectionPools team).SelectedGroups c = 1
  melee : env.filterTalents = false → ∀ team c, s.soloTeam team c = true → c = .MELEE
  first : ∀ c, env.catCount q.heap (s.m_SelectionPools .ALLIANCE).SelectedGroups c
      < env.perTalent →
    ∀ g ∈ done, env.soloCat (q.heap g) = some c →
      g ∈ (s.m_SelectionPools .ALLIANCE).SelectedGroups

namespace Filled

variable {env : SoloEnv} {q : SoloQueue} {done : List GroupPtr} {s : SoloState}

/-- The pool of a team has room for a player of the category. -/
def Room (env : SoloEnv) (q : SoloQueue) (s : SoloState) (team : Team)
    (c : Solo2v2TalentCat) : Prop :=
  env.catCount q.heap (s.m_SelectionPools team).SelectedGroups c < env.perTalent

theorem length_eq (h : Filled env q done s) (team : Team) :
    (s.m_SelectionPools team).SelectedGroups.length =
      env.catCount q.heap (s.m_SelectionPools team).SelectedGroups .MELEE
        + env.catCount q.heap (s.m_SelectionPools team).SelectedGroups .RANGE
        + env.catCount q.heap (s.m_SelectionPools team).SelectedGroups .HEALER :=
  length_eq_catCount env q.heap _ fun g hg => (h.selected team g hg).2.2

theorem length_eq_melee (h : Filled env q done s) (hoff : env.filterTalents = false)
    (team : Team) : (s.m_SelectionPools team).SelectedGroups.length =
      env.catCount q.heap (s.m_SelectionPools team).SelectedGroups .MELEE := by
  rw [h.length_eq team, catCount_eq_zero hoff _ _ (by decide : Solo2v2TalentCat.RANGE ≠ .MELEE),
    catCount_eq_zero hoff _ _ (by decide : Solo2v2TalentCat.HEALER ≠ .MELEE), add_zero, add_zero]

theorem length_le (h : Filled env q done s) (team : Team) :
    (s.m_SelectionPools team).SelectedGroups.length ≤ PLAYERS_COUNT_PER_TEAM := by
  have hle := h.atMost team
  cases hon : env.filterTalents with
  | true =>
    simp only [SoloEnv.perTalent, hon, if_true] at hle
    have h1 := hle .MELEE
    have h2 := hle .RANGE
    have h3 := hle .HEALER
    rw [h.length_eq team, PLAYERS_COUNT_PER_TEAM]
    omega
  | false =>
    have h1 := hle .MELEE
    simp only [SoloEnv.perTalent, hon, Bool.false_eq_true, if_false] at h1
    rw [h.length_eq_melee hon team]
    exact h1

theorem length_lt (h : Filled env q done s) {team : Team} {c : Solo2v2TalentCat}
    (hroom : Room env q s team c) (hc : env.filterTalents = false → c = .MELEE) :
    (s.m_SelectionPools team).SelectedGroups.length < PLAYERS_COUNT_PER_TEAM := by
  have hle := h.atMost team
  unfold Room at hroom
  cases hon : env.filterTalents with
  | true =>
    simp only [SoloEnv.perTalent, hon, if_true] at hle hroom
    have h1 := hle .MELEE
    have h2 := hle .RANGE
    have h3 := hle .HEALER
    rw [h.length_eq team, PLAYERS_COUNT_PER_TEAM]
    cases c <;> omega
  | false =>
    obtain rfl := hc hon
    simp only [SoloEnv.perTalent, hon, Bool.false_eq_true, if_false] at hroom
    rw [h.length_eq_melee hon team]
    exact hroom

theorem slot_free_iff (h : Filled env q done s) (hon : env.filterTalents = true) (team : Team)
    (c : Solo2v2TalentCat) : s.soloTeam team c = false ↔ Room env q s team c := by
  have hle := h.atMost team c
  rw [← Bool.not_eq_true, h.slot hon team c, Room]
  simp only [SoloEnv.perTalent, hon, if_true] at hle ⊢
  omega

theorem alliance_condition_iff (h : Filled env q done s) {g : GroupPtr} {c : Solo2v2TalentCat}
    (hc : env.soloCat (q.heap g) = some c) :
    ((env.filterTalents = true ∧ s.soloTeam .ALLIANCE c = false) ∨
      (env.filterTalents = false ∧
        (s.m_SelectionPools .ALLIANCE).PlayerCount ≠ PLAYERS_COUNT_PER_TEAM)) ↔
    Room env q s .ALLIANCE c := by
  cases hon : env.filterTalents with
  | true => simpa using h.slot_free_iff hon .ALLIANCE c
  | false =>
    obtain rfl := soloCat_eq_melee hon hc
    have hle := h.length_le .ALLIANCE
    simp only [Bool.false_eq_true, false_and, true_and, false_or, h.playerCount, Room,
      SoloEnv.perTalent, hon, if_false, ← h.length_eq_melee hon]
    omega

/-- With the alliance pool full, the condition of the horde branch says that the horde pool has
room: with the filter off the check for six players has just failed. -/
theorem horde_condition_iff (h : Filled env q done s) {g : GroupPtr} {c : Solo2v2TalentCat}
    (hc : env.soloCat (q.heap g) = some c)
    (hnotFound : ¬ (env.filterTalents = false ∧ s.totalPlayers = REQUIRED_TOTAL_PLAYERS))
    (hfull : ¬ Room env q s .ALLIANCE c) :
    ((env.filterTalents = true ∧ s.soloTeam .HORDE c = false) ∨ env.filterTalents = false) ↔
    Room env q s .HORDE c := by
  cases hon : env.filterTalents with
  | true => simpa using h.slot_free_iff hon .HORDE c
  | false =>
    obtain rfl := soloCat_eq_melee hon hc
    have hleA := h.length_le .ALLIANCE
    have hleH := h.length_le .HORDE
    simp only [hon, true_and, SoloState.totalPlayers, h.playerCount] at hnotFound
    simp only [Room, SoloEnv.perTalent, hon, Bool.false_eq_true, if_false,
      ← h.length_eq_melee hon, PLAYERS_COUNT_PER_TEAM, REQUIRED_TOTAL_PLAYERS, false_and,
      false_or, true_iff] at *
    omega

theorem init (env : SoloEnv) (q : SoloQueue) {s : SoloState} (hheap : s.heap = q.heap)
    (hqueued : s.m_QueuedGroups = q.queued) : Filled env q [] s.reset where
  heap := hheap
  queued := hqueued
  selected := fun _ _ hg => absurd hg List.not_mem_nil
  nodup := fun _ => List.nodup_nil
  playerCount := fun _ => rfl
  atMost := fun _ _ => Nat.zero_le _
  slot := fun _ _ _ => by simp [SoloState.reset, SelectionPool.init, SoloEnv.catCount]
  melee := fun _ _ _ h => absurd h Bool.false_ne_true
  first := fun _ _ _ hg => absurd hg List.not_mem_nil

theorem skip (h : Filled env q done s) {g : GroupPtr}
    (hg : ∀ c, env.soloCat (q.heap g) = some c → ¬ Room env q s .ALLIANCE c) :
    Filled env q (done ++ [g]) s where
  heap := h.heap
  queued := h.queued
  selected := fun team g' hg' =>
    have ⟨hdone, hrest⟩ := h.selected team g' hg'
    ⟨List.mem_append_left [g] hdone, hrest⟩
  nodup := h.nodup
  playerCount := h.playerCount
  atMost := h.atMost
  slot := h.slot
  melee := h.melee
  first := by
    intro c hroom g' hg' hc
    rcases List.mem_append.mp hg' with hg' | hg'
    · exact h.first c hroom g' hg' hc
    · obtain rfl := List.mem_singleton.mp hg'
      exact absurd hroom (hg c hc)

end Filled

/-- The state in which the group has been added to the team's pool and has taken its slot. -/
def SoloState.take (s : SoloState) (team : Team) (ginfo : GroupPtr) (c : Solo2v2TalentCat) :
    SoloState :=
  { s with
    m_SelectionPools := Function.update s.m_SelectionPools team
      ((s.m_SelectionPools team).push s.heap ginfo)
    soloTeam := Function.update s.soloTeam team (Function.update (s.soloTeam team) c true) }

namespace Filled

variable {env : SoloEnv} {q : SoloQueue} {done : List GroupPtr} {s : SoloState}
  {team : Team} {g : GroupPtr} {c : Solo2v2TalentCat}

theorem tryTeam_eq (h : Filled env q done s) (hsize : (q.heap g).Players.size = 1)
    (hc : env.soloCat (q.heap g) = some c) (hroom : Room env q s team c) :
    s.tryTeam team g c =
      if (q.heap g).Team ≠ team then .error (.moved ((s.take team g c).moveTo team g))
      else .ok (s.take team g c) := by
  have hinv : (s.heap g).uninvited = true := by
    rw [h.heap]
    by_contra hn
    rw [SoloEnv.soloCat, if_neg hn] at hc
    exact absurd hc (by simp)
  have hlt := h.length_lt hroom fun hoff => soloCat_eq_melee hoff hc
  have hfits : (s.m_SelectionPools team).PlayerCount + (s.heap g).Players.size
      ≤ PLAYERS_COUNT_PER_TEAM := by
    rw [h.heap, hsize, h.playerCount team]; exact hlt
  rw [h.heap] at hinv hfits
  simp only [SoloState.tryTeam, SelectionPool.addGroup_of_fits hinv hfits, if_true,
    SoloState.take, h.heap]

theorem catCount_push (env : SoloEnv) (heap : GroupHeap) (l : List GroupPtr)
    (hc : env.soloCat (heap g) = some c) (d : Solo2v2TalentCat) :
    env.catCount heap (l ++ [g]) d = env.catCount heap l d + if d = c then 1 else 0 := by
  rw [SoloEnv.catCount, List.countP_append, List.countP_singleton, hc]
  by_cases hd : d = c
  · simp [SoloEnv.catCount, hd]
  · simp [SoloEnv.catCount, hd, Ne.symm hd]

theorem take (h : Filled env q done s) (hsize : (q.heap g).Players.size = 1)
    (hg : g ∈ q.queued team) (hdone : g ∉ done) (hc : env.soloCat (q.heap g) = some c)
    (hroom : Room env q s team c) (hfull : team = .HORDE → ¬ Room env q s .ALLIANCE c) :
    Filled env q (done ++ [g]) (s.take team g c) := by
  have hself : ((s.take team g c).m_SelectionPools team).SelectedGroups
      = (s.m_SelectionPools team).SelectedGroups ++ [g] := by
    simp [SoloState.take, SelectionPool.push]
  have hother : ∀ t, t ≠ team → (s.take team g c).m_SelectionPools t = s.m_SelectionPools t :=
    fun t ht => by simp [SoloState.take, Function.update_of_ne ht]
  have hcount : ∀ t d,
      env.catCount q.heap ((s.take team g c).m_SelectionPools t).SelectedGroups d =
        env.catCount q.heap (s.m_SelectionPools t).SelectedGroups d
          + if t = team ∧ d = c then 1 else 0 := by
    intro t d
    by_cases ht : t = team
    · subst ht
      rw [hself, catCount_push env q.heap _ hc]
      simp
    · rw [hother t ht]
      simp [ht]
  refine ⟨h.heap, h.queued, ?_, ?_, ?_, ?_, ?_, ?_, ?_⟩
  · intro t g' hg'
    by_cases ht : t = team
    · subst ht
      rw [hself] at hg'
      rcases List.mem_append.mp hg' with hg' | hg'
      · obtain ⟨hd, hrest⟩ := h.selected t g' hg'
        exact ⟨List.mem_append_left _ hd, hrest⟩
      · obtain rfl := List.mem_singleton.mp hg'
        exact ⟨List.mem_append_right _ (List.mem_singleton_self _), hg, c, hc⟩
    · rw [hother t ht] at hg'
      obtain ⟨hd, hrest⟩ := h.selected t g' hg'
      exact ⟨List.mem_append_left _ hd, hrest⟩
  · intro t
    by_cases ht : t = team
    · subst ht
      rw [hself]
      refine (h.nodup t).append (List.nodup_singleton g) (List.disjoint_singleton.mpr fun hm => ?_)
      exact hdone (h.selected t g hm).1
    · rw [hother t ht]; exact h.nodup t
  · intro t
    by_cases ht : t = team
    · subst ht
      rw [hself, List.length_append, List.length_singleton, ← h.playerCount t]
      simp [SoloState.take, SelectionPool.push, h.heap, hsize]
    · rw [hother t ht]; exact h.playerCount t
  · intro t d
    have hle := h.atMost t d
    rw [hcount]
    unfold Room at hroom
    split
    · next htd => obtain ⟨rfl, rfl⟩ := htd; omega
    · exact hle
  · intro hon t d
    have hslot := h.slot hon t d
    rw [hcount]
    by_cases htd : t = team ∧ d = c
    · obtain ⟨rfl, rfl⟩ := htd
      simp only [Room, SoloEnv.perTalent, hon, if_true] at hroom
      simp only [SoloState.take, Function.update_self, true_iff, and_self, if_true]
      omega
    · rw [if_neg htd, add_zero, ← hslot]
      by_cases ht : t = team
      · subst ht
        have hd : d ≠ c := fun hd => htd ⟨rfl, hd⟩
        simp [SoloState.take, Function.update_of_ne hd]
      · simp [SoloState.take, Function.update_of_ne ht]
  · intro hoff t d hd
    have hcm := soloCat_eq_melee hoff hc
    by_cases htd : t = team ∧ d = c
    · rw [htd.2, hcm]
    · refine h.melee hoff t d ?_
      by_cases ht : t = team
      · subst ht
        have hdc : d ≠ c := fun hdc => htd ⟨rfl, hdc⟩
        simpa [SoloState.take, Function.update_of_ne hdc] using hd
      · simpa [SoloState.take, Function.update_of_ne ht] using hd
  · -- a group looked at before is where it was; the new one is in, or its category was full
    intro d hd g' hg' hcd
    rw [hcount] at hd
    have hd' : Room env q s .ALLIANCE d := Nat.lt_of_le_of_lt (Nat.le_add_right _ _) hd
    rcases List.mem_append.mp hg' with hg' | hg'
    · have hm := h.first d hd' g' hg' hcd
      by_cases ht : Team.ALLIANCE = team
      · subst ht; rw [hself]; exact List.mem_append_left _ hm
      · rw [hother _ ht]; exact hm
    · obtain rfl := List.mem_singleton.mp hg'
      cases team with
      | ALLIANCE => rw [hself]; exact List.mem_append_right _ (List.mem_singleton_self _)
      | HORDE =>
        rw [hc] at hcd
        obtain rfl := Option.some.inj hcd
        exact absurd hd' (hfull rfl)

theorem wanted (h : Filled env q done s) (hg : g ∈ q.queued team.other) (hdone : g ∉ done)
    (halliance : team = .ALLIANCE → ∀ g' ∈ q.queued .ALLIANCE, g' ∈ done)
    (hc : env.soloCat (q.heap g) = some c) (hroom : Room env q s team c)
    (hfull : team = .HORDE → ¬ Room env q s .ALLIANCE c) : q.Wanted env team c := by
  cases team with
  | ALLIANCE =>
    -- every alliance player of the category has been looked at, and had room
    refine Nat.lt_of_le_of_lt ?_ hroom
    refine countP_le_of_subset (q.nodup _) fun g' hg' hc' => ?_
    exact h.first c hroom g' (halliance rfl g' hg') (of_decide_eq_true hc')
  | HORDE =>
    have hg' : g ∈ q.queued .ALLIANCE := hg
    have hle : env.catCount q.heap (g :: (s.m_SelectionPools .ALLIANCE).SelectedGroups) c
        ≤ q.allianceCount env c := by
      refine countP_le_of_subset (List.nodup_cons.mpr ⟨fun hm => ?_, h.nodup _⟩) fun g' hm _ => ?_
      · exact hdone (h.selected _ g hm).1
      · rcases List.mem_cons.mp hm with rfl | hm
        · exact hg'
        · exact (h.selected _ g' hm).2.1
    have hge : env.perTalent ≤
        env.catCount q.heap (s.m_SelectionPools .ALLIANCE).SelectedGroups c :=
      Nat.le_of_not_lt (hfull rfl)
    rw [SoloEnv.catCount, List.countP_cons, hc] at hle
    simp only [decide_true, if_true] at hle
    exact Nat.lt_of_lt_of_le (Nat.lt_succ_of_le hge) hle

end Filled

/-- How an early exit leaves things: a match with the filter off, or a content that is closer to
what the alliance pool takes. -/
def ExitOk (env : SoloEnv) (q : SoloQueue) : SoloExit → Prop
  | .found s => env.filterTalents = false ∧ s.totalPlayers = REQUIRED_TOTAL_PLAYERS ∧
      ∃ done, Filled env q done s
  | .moved s => ∃ team ginfo, ∃ hg : ginfo ∈ q.queued team.other,
      s.heap = (q.move team ginfo hg).heap ∧ s.m_QueuedGroups = (q.move team ginfo hg).queued ∧
      (q.move team ginfo hg).distance env < q.distance env

section Step

variable {env : SoloEnv} {q : SoloQueue} {done : List GroupPtr} {s : SoloState}
  {team : Team} {g : GroupPtr} {c : Solo2v2TalentCat}

theorem tryTeam_outcome (h : Filled env q done s) {t : Team} (hg : g ∈ q.queued t)
    (hdone : g ∉ done) (halliance : t = .HORDE → ∀ g' ∈ q.queued .ALLIANCE, g' ∈ done)
    (hc : env.soloCat (q.heap g) = some c) (hroom : Filled.Room env q s team c)
    (hfull : team = .HORDE → ¬ Filled.Room env q s .ALLIANCE c) :
    Outcome (Filled env q (done ++ [g])) (ExitOk env q) (s.tryTeam team g c) := by
  have hsize : (q.heap g).Players.size = 1 := by
    obtain ⟨guid, hguid⟩ := q.single t g hg
    rw [OrderedSet.size, hguid, List.length_singleton]
  rw [h.tryTeam_eq hsize hc hroom, q.team_eq t g hg]
  split
  · next hne =>
    obtain rfl := Team.eq_other_of_ne hne
    refine ⟨team, g, hg, ?_, ?_, q.distance_move_lt env hg hc ?_⟩
    · simp [SoloState.moveTo, SoloState.take, SoloQueue.move, h.heap]
    · funext u
      simp [SoloState.moveTo, SoloState.take, SoloQueue.move, SoloQueue.movedLists, h.queued]
    · refine h.wanted hg hdone (fun hA => halliance ?_) hc hroom hfull
      rw [hA]; rfl
  · next heq =>
    obtain rfl := not_not.mp heq
    exact h.take hsize hg hdone hc hroom hfull

theorem soloCat_of_single {ginfo : GroupQueueInfo} {guid : ObjectGuid}
    (hguid : ginfo.Players.elems = [guid]) (hinv : ginfo.uninvited = true) :
    env.soloCat ginfo = (env.findPlayer guid).map env.getTalentCat := by
  simp [SoloEnv.soloCat, hinv, hguid]

theorem soloGroup_outcome (h : Filled env q done s) {t : Team} (hg : g ∈ q.queued t)
    (hdone : g ∉ done) (halliance : t = .HORDE → ∀ g' ∈ q.queued .ALLIANCE, g' ∈ done) :
    Outcome (Filled env q (done ++ [g])) (ExitOk env q) (soloGroup env s g) := by
  obtain ⟨guid, hguid⟩ := q.single t g hg
  rw [soloGroup, h.heap]
  by_cases hinv : (q.heap g).uninvited = true
  · have hcat := @soloCat_of_single env _ _ hguid hinv
    rw [if_pos hinv, hguid, List.foldlM_cons]
    refine Outcome.bind ?_ fun _ hs => by rwa [List.foldlM_nil]
    unfold soloPlayer
    cases hplr : env.findPlayer guid with
    | none =>
      rw [hplr] at hcat
      exact h.skip fun c hc => absurd (hcat.symm.trans hc) (by simp)
    | some plr =>
      rw [hplr, Option.map_some] at hcat
      simp only
      split
      · next hfound => exact ⟨hfound.1, hfound.2, done, h⟩
      · next hnotFound =>
        have hA := h.alliance_condition_iff hcat
        split
        · next hcond =>
          exact tryTeam_outcome h hg hdone halliance hcat (hA.mp hcond) (by simp)
        · next hcond =>
          have hfull : ¬ Filled.Room env q s .ALLIANCE (env.getTalentCat plr) :=
            fun hroom => hcond (hA.mpr hroom)
          split
          · next hcondH =>
            refine tryTeam_outcome h hg hdone halliance hcat ?_ fun _ => hfull
            exact (h.horde_condition_iff hcat hnotFound hfull).mp hcondH
          · refine h.skip fun c hc => ?_
            obtain rfl := Option.some.inj (hcat.symm.trans hc)
            exact hfull
  · rw [if_neg hinv]
    refine h.skip fun c hc => ?_
    rw [SoloEnv.soloCat, if_neg hinv] at hc
    exact absurd hc (by simp)

end Step

theorem soloWalk_outcome (env : SoloEnv) (q : SoloQueue) {s : SoloState} (hheap : s.heap = q.heap)
    (hqueued : s.m_QueuedGroups = q.queued) :
    Outcome (Filled env q q.all) (ExitOk env q) (soloWalk env s.reset) := by
  unfold soloWalk
  refine Outcome.bind (Q := Filled env q (q.queued .ALLIANCE)) ?_ fun s' hs' => ?_
  · rw [show s.reset.m_QueuedGroups = q.queued from hqueued]
    refine Outcome.foldlM (Filled.init env q hheap hqueued) fun done g rest s' hl hs' => ?_
    have hnd := q.nodup .ALLIANCE
    rw [hl] at hnd
    exact soloGroup_outcome (t := .ALLIANCE) hs' (by rw [hl]; simp)
      (fun hm => (List.nodup_append.mp hnd).2.2 g hm g List.mem_cons_self rfl) (by simp)
  · rw [hs'.queued]
    refine Outcome.foldlM (I := fun done => Filled env q (q.queued .ALLIANCE ++ done))
      (by rwa [List.append_nil]) fun done g rest s'' hl hs'' => ?_
    have hnd := q.nodup .HORDE
    rw [hl] at hnd
    have hg : g ∈ q.queued .HORDE := by rw [hl]; simp
    rw [← List.append_assoc]
    refine soloGroup_outcome hs'' hg (fun hm => ?_) fun _ g' hg' => List.mem_append_left _ hg'
    rcases List.mem_append.mp hm with hm | hm
    · exact absurd (q.team_of_mem hm hg) (by decide)
    · exact (List.nodup_append.mp hnd).2.2 g hm g List.mem_cons_self rfl

/-! ## 5. What a match is -/

def SoloState.poolPlayers (s : SoloState) (team : Team) : List ObjectGuid :=
  (s.m_SelectionPools team).SelectedGroups.flatMap fun g => (s.heap g).Players.elems

/-- **Two teams of three** different, uninvited players who are online, each with the `Team` of
his pool; with the filter on, one of each talent category. -/
structure SoloMatch (env : SoloEnv) (s : SoloState) : Prop where
  three : ∀ team, (s.poolPlayers team).length = PLAYERS_COUNT_PER_TEAM
  distinct : (s.poolPlayers .ALLIANCE ++ s.poolPlayers .HORDE).Nodup
  counted : ∀ team, (s.m_SelectionPools team).PlayerCount = PLAYERS_COUNT_PER_TEAM
  uninvited : ∀ team, ∀ g ∈ (s.m_SelectionPools team).SelectedGroups,
    (s.heap g).IsInvitedToBGInstanceGUID = 0
  online : ∀ team, ∀ guid ∈ s.poolPlayers team, (env.findPlayer guid).isSome
  team_eq : ∀ team, ∀ g ∈ (s.m_SelectionPools team).SelectedGroups,
    g ∈ s.m_QueuedGroups team ∧ (s.heap g).Team = team
  talents : env.filterTalents = true → ∀ team c,
    (s.poolPlayers team).countP
      (fun guid => (env.findPlayer guid).map env.getTalentCat = some c) = 1

namespace Filled

variable {env : SoloEnv} {q : SoloQueue} {done : List GroupPtr} {s : SoloState}

theorem selected_iff (h : Filled env q done s) {team : Team} {g : GroupPtr}
    (hg : g ∈ (s.m_SelectionPools team).SelectedGroups) :
    (s.heap g).IsInvitedToBGInstanceGUID = 0 ∧ ∃ guid plr,
      (s.heap g).Players.elems = [guid] ∧ env.findPlayer guid = some plr ∧
        env.soloCat (s.heap g) = some (env.getTalentCat plr) := by
  obtain ⟨-, hq, c, hc⟩ := h.selected team g hg
  obtain ⟨guid, hguid⟩ := q.single team g hq
  rw [h.heap]
  by_cases hinv : (q.heap g).uninvited = true
  · have hcat := @soloCat_of_single env _ _ hguid hinv
    rw [hc] at hcat
    obtain ⟨plr, hplr, rfl⟩ := Option.map_eq_some_iff.mp hcat.symm
    exact ⟨of_decide_eq_true hinv, guid, plr, hguid, hplr, hc⟩
  · rw [SoloEnv.soloCat, if_neg hinv] at hc
    exact absurd hc (by simp)

theorem mem_poolPlayers (h : Filled env q done s) {team : Team} {guid : ObjectGuid}
    (hguid : guid ∈ s.poolPlayers team) : (env.findPlayer guid).isSome := by
  obtain ⟨g, hg, hmem⟩ := List.mem_flatMap.mp hguid
  obtain ⟨-, guid', plr, hsingle, hplr, -⟩ := h.selected_iff hg
  rw [hsingle, List.mem_singleton] at hmem
  rw [hmem, hplr]; rfl

theorem length_poolPlayers (h : Filled env q done s) (team : Team) :
    (s.poolPlayers team).length = (s.m_SelectionPools team).SelectedGroups.length := by
  rw [SoloState.poolPlayers, List.length_flatMap, List.map_congr_left (g := fun _ => 1)]
  · simp
  · intro g hg
    obtain ⟨-, guid, -, hsingle, -⟩ := h.selected_iff hg
    rw [hsingle, List.length_singleton]

theorem countP_poolPlayers (h : Filled env q done s) (team : Team) (c : Solo2v2TalentCat) :
    (s.poolPlayers team).countP
        (fun guid => (env.findPlayer guid).map env.getTalentCat = some c)
      = env.catCount q.heap (s.m_SelectionPools team).SelectedGroups c := by
  have hsel := fun g (hg : g ∈ (s.m_SelectionPools team).SelectedGroups) => h.selected_iff hg
  rw [SoloState.poolPlayers, ← h.heap, SoloEnv.catCount, List.countP_flatMap]
  generalize (s.m_SelectionPools team).SelectedGroups = groups at hsel
  induction groups with
  | nil => rfl
  | cons g l ih =>
    obtain ⟨-, guid, plr, hsingle, hplr, hcat⟩ := hsel g List.mem_cons_self
    rw [List.map_cons, List.sum_cons, ih fun g' hg' => hsel g' (List.mem_cons_of_mem g hg'),
      List.countP_cons, hcat, Nat.add_comm]
    simp [hsingle, hplr]

theorem nodup_players (h : Filled env q done s) :
    (s.poolPlayers .ALLIANCE ++ s.poolPlayers .HORDE).Nodup := by
  have hqueued : ∀ g, g ∈ (s.m_SelectionPools .ALLIANCE).SelectedGroups ++
      (s.m_SelectionPools .HORDE).SelectedGroups →
      ∃ team, g ∈ (s.m_SelectionPools team).SelectedGroups ∧ g ∈ q.queued team := by
    intro g hg
    rcases List.mem_append.mp hg with hg | hg
    · exact ⟨_, hg, (h.selected _ g hg).2.1⟩
    · exact ⟨_, hg, (h.selected _ g hg).2.1⟩
  have hgroups : ((s.m_SelectionPools .ALLIANCE).SelectedGroups ++
      (s.m_SelectionPools .HORDE).SelectedGroups).Nodup := by
    refine (h.nodup _).append (h.nodup _) fun g hA hH => ?_
    exact absurd (q.team_of_mem (h.selected _ g hA).2.1 (h.selected _ g hH).2.1) (by decide)
  rw [SoloState.poolPlayers, SoloState.poolPlayers, ← List.flatMap_append]
  refine List.nodup_flatMap.mpr ⟨fun g _ => (s.heap g).Players.nodup, ?_⟩
  refine hgroups.pairwise_of_forall_ne fun g hg g' hg' hne guid hm hm' => hne ?_
  obtain ⟨team, hsel, hq⟩ := hqueued g hg
  obtain ⟨team', hsel', hq'⟩ := hqueued g' hg'
  obtain ⟨-, guid₁, -, h₁, -⟩ := h.selected_iff hsel
  obtain ⟨-, guid₂, -, h₂, -⟩ := h.selected_iff hsel'
  simp only [h₁, h₂, List.mem_singleton] at hm hm'
  refine q.distinct team team' g g' hq hq' ?_
  rw [← h.heap, OrderedSet.ext_iff, h₁, h₂, ← hm, ← hm']

theorem soloMatch (h : Filled env q done s) (hfull : ∀ team,
    (s.m_SelectionPools team).SelectedGroups.length = PLAYERS_COUNT_PER_TEAM) :
    SoloMatch env s where
  three := fun team => by rw [h.length_poolPlayers, hfull team]
  distinct := h.nodup_players
  counted := fun team => by rw [h.playerCount, hfull team]
  uninvited := fun _ _ hg => (h.selected_iff hg).1
  online := fun _ _ hguid => h.mem_poolPlayers hguid
  team_eq := by
    intro team g hg
    have hq := (h.selected team g hg).2.1
    rw [h.queued, h.heap]
    exact ⟨hq, q.team_eq team g hq⟩
  talents := by
    intro hon team c
    rw [h.countP_poolPlayers]
    have hle := h.atMost team
    have hlen := h.length_eq team
    simp only [SoloEnv.perTalent, hon, if_true] at hle
    have h1 := hle .MELEE
    have h2 := hle .RANGE
    have h3 := hle .HEALER
    rw [hfull team, PLAYERS_COUNT_PER_TEAM] at hlen
    cases c <;> omega

theorem full_of_total (h : Filled env q done s) (htotal : s.totalPlayers = REQUIRED_TOTAL_PLAYERS)
    (team : Team) :
    (s.m_SelectionPools team).SelectedGroups.length = PLAYERS_COUNT_PER_TEAM := by
  have hA := h.length_le .ALLIANCE
  have hH := h.length_le .HORDE
  simp only [SoloState.totalPlayers, h.playerCount, REQUIRED_TOTAL_PLAYERS,
    PLAYERS_COUNT_PER_TEAM] at htotal hA hH ⊢
  cases team <;> omega

theorem full_of_countAll (h : Filled env q done s) (hon : env.filterTalents = true)
    (hall : s.countAll = REQUIRED_TOTAL_PLAYERS) (team : Team) :
    (s.m_SelectionPools team).SelectedGroups.length = PLAYERS_COUNT_PER_TEAM := by
  have hle : ∀ i, [Solo2v2TalentCat.MELEE, .RANGE, .HEALER].countP (s.soloTeam i) ≤ 3 :=
    fun _ => List.countP_le_length
  have hA := hle .ALLIANCE
  have hH := hle .HORDE
  simp only [SoloState.countAll, REQUIRED_TOTAL_PLAYERS, List.map_cons, List.map_nil,
    List.sum_cons, List.sum_nil] at hall
  have hteam : [Solo2v2TalentCat.MELEE, .RANGE, .HEALER].countP (s.soloTeam team) = 3 := by
    cases team <;> omega
  have htaken := List.countP_eq_length.mp hteam
  rw [h.length_eq team, (h.slot hon team _).mp (htaken .MELEE (by simp)),
    (h.slot hon team _).mp (htaken .RANGE (by simp)),
    (h.slot hon team _).mp (htaken .HEALER (by simp)), PLAYERS_COUNT_PER_TEAM]

theorem countAll_le (h : Filled env q done s) (hoff : env.filterTalents = false) :
    s.countAll ≤ 2 := by
  have hfalse : ∀ team c, c ≠ Solo2v2TalentCat.MELEE → s.soloTeam team c = false :=
    fun team c hc => Bool.eq_false_iff.mpr fun ht => hc (h.melee hoff team c ht)
  simp only [SoloState.countAll, List.map_cons, List.map_nil, List.sum_cons, List.sum_nil,
    List.countP_cons, List.countP_nil, hfalse _ .RANGE (by decide), hfalse _ .HEALER (by decide),
    Bool.false_eq_true, if_false]
  split <;> split <;> decide

theorem soloMatch_of_complete (h : Filled env q done s) (hc : s.complete env = true) :
    SoloMatch env s := by
  simp only [SoloState.complete, Bool.or_eq_true, Bool.and_eq_true, decide_eq_true_eq,
    Bool.not_eq_true'] at hc
  refine h.soloMatch fun team => ?_
  cases hon : env.filterTalents with
  | true =>
    rcases hc with hall | ⟨hoff, -⟩
    · exact h.full_of_countAll hon hall team
    · exact absurd (hon.symm.trans hoff) (by decide)
  | false =>
    rcases hc with hall | ⟨-, htotal⟩
    · have hle := h.countAll_le hon
      rw [hall, REQUIRED_TOTAL_PLAYERS] at hle
      exact absurd hle (by decide)
    · exact h.full_of_total htotal team

end Filled

/-! ## 6. The function -/

/-- What a call leaves behind, and what its result means. -/
structure SoloOutcome (env : SoloEnv) (q : SoloQueue) (result : Bool) (s : SoloState) : Prop where
  /-- The groups are the same but for their `Team`. -/
  same : ∀ g, (s.heap g).Players = (q.heap g).Players ∧
    (s.heap g).IsInvitedToBGInstanceGUID = (q.heap g).IsInvitedToBGInstanceGUID
  /-- The two lists together hold the same groups. -/
  perm : (s.m_QueuedGroups .ALLIANCE ++ s.m_QueuedGroups .HORDE).Perm q.all
  /-- The `Team` of every group is that of its list. -/
  team_eq : ∀ team, ∀ g ∈ s.m_QueuedGroups team, (s.heap g).Team = team
  found : result = true → SoloMatch env s

theorem Filled.outcome {env : SoloEnv} {q : SoloQueue} {done : List GroupPtr} {s : SoloState}
    {result : Bool} (h : Filled env q done s) (hfound : result = true → SoloMatch env s) :
    SoloOutcome env q result s where
  same := fun g => by rw [h.heap]; exact ⟨rfl, rfl⟩
  perm := by rw [h.queued]; exact List.Perm.refl _
  team_eq := by rw [h.queued, h.heap]; exact q.team_eq
  found := hfound

theorem SoloOutcome.of_move {env : SoloEnv} {q : SoloQueue} {team : Team} {ginfo : GroupPtr}
    (hg : ginfo ∈ q.queued team.other) {result : Bool} {s : SoloState}
    (h : SoloOutcome env (q.move team ginfo hg) result s) : SoloOutcome env q result s where
  same := fun g => by simpa [SoloQueue.move] using h.same g
  perm := h.perm.trans (q.move_all_perm hg)
  team_eq := h.team_eq
  found := h.found

theorem checkSolo2v2Arena_returns (env : SoloEnv) (q : SoloQueue) (s : SoloState)
    (hheap : s.heap = q.heap) (hqueued : s.m_QueuedGroups = q.queued) :
    ∃ result s', (∀ fuel, q.distance env < fuel →
        checkSolo2v2Arena env fuel s = some (result, s')) ∧ SoloOutcome env q result s' := by
  induction hn : q.distance env using Nat.strong_induction_on generalizing q s with
  | _ n ih =>
    have hwalk := soloWalk_outcome env q hheap hqueued
    cases hr : soloWalk env s.reset with
    | ok s' =>
      rw [hr] at hwalk
      refine ⟨s'.complete env, s', ?_, Filled.outcome hwalk hwalk.soloMatch_of_complete⟩
      intro fuel hfuel
      obtain ⟨fuel, rfl⟩ := Nat.exists_eq_add_of_lt hfuel
      simp [checkSolo2v2Arena, hr]
    | error e =>
      rw [hr] at hwalk
      cases e with
      | found s' =>
        obtain ⟨-, htotal, done, hfilled⟩ := hwalk
        refine ⟨true, s', ?_, hfilled.outcome fun _ =>
          hfilled.soloMatch (hfilled.full_of_total htotal)⟩
        intro fuel hfuel
        obtain ⟨fuel, rfl⟩ := Nat.exists_eq_add_of_lt hfuel
        simp [checkSolo2v2Arena, hr]
      | moved s' =>
        obtain ⟨team, ginfo, hg, hheap', hqueued', hlt⟩ := hwalk
        rw [hn] at hlt
        obtain ⟨result, s'', hrun, hout⟩ :=
          ih _ hlt (q.move team ginfo hg) s' hheap' hqueued' rfl
        refine ⟨result, s'', ?_, hout.of_move hg⟩
        intro fuel hfuel
        obtain ⟨fuel, rfl⟩ := Nat.exists_eq_add_of_lt hfuel
        rw [checkSolo2v2Arena, hr]
        exact hrun _ (by omega)

/-- A content of the queue, with whatever an earlier update left in the pools. -/
def SoloQueue.toState (q : SoloQueue) (m_SelectionPools : Team → SelectionPool)
    (soloTeam : Team → Solo2v2TalentCat → Bool) : SoloState :=
  ⟨q.heap, q.queued, m_SelectionPools, soloTeam⟩

/-- **Solo matchmaking**: on every content of the queue the function returns, after at most
`distance` restarts, whatever the pools were before; it keeps the union of the lists, and every
`Team` that of its list; and what it finds is a match. -/
theorem checkSolo2v2Arena_correct (env : SoloEnv) (q : SoloQueue)
    (m_SelectionPools : Team → SelectionPool) (soloTeam : Team → Solo2v2TalentCat → Bool) :
    ∃ result s', (∀ fuel, q.distance env < fuel →
        checkSolo2v2Arena env fuel (q.toState m_SelectionPools soloTeam) = some (result, s')) ∧
      SoloOutcome env q result s' :=
  checkSolo2v2Arena_returns env q _ rfl rfl

/-- Six alliance players, the filter off: three of them are moved, one restart each, and the
fourth call finds the match. -/
example :
    let heap : GroupHeap := fun g => { Players := OrderedSet.singleton g, Team := .ALLIANCE }
    let env : SoloEnv := ⟨false, [], fun _ => some ⟨fun _ => false⟩⟩
    let lists : Team → List GroupPtr := fun
      | .ALLIANCE => [1, 2, 3, 4, 5, 6]
      | .HORDE => []
    let s : SoloState := ⟨heap, lists, fun _ => SelectionPool.init, fun _ _ => false⟩
    (checkSolo2v2Arena env 4 s).map (fun r => (r.1, r.2.m_QueuedGroups .HORDE)) =
      some (true, [4, 5, 6]) := by
  decide

end FunPvp.Battleground
