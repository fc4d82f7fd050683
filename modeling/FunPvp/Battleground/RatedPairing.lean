/-
# Who meets whom in a rated arena

The last branch of `BattlegroundQueueUpdate` looks for two teams in the premade lists of a bracket:
one in each list, or, if only one list has any, a second one behind it. That the two groups belong
to different arena teams is asked by the second search alone, so two pairs of one team that are
queued on both sides may meet each other. `ratedPairing_iff` says that this is all that goes wrong;
the side swap is never at fault, because the groups of a premade list have the `Team` of the list.
-/
import FunPvp.Battleground.GroupQueueInv

namespace FunPvp.Battleground

open FunPvp.Lib

namespace BattlegroundQueue

/-! ## 1. What a pairing should be -/

/-- The groups an update starts a rated arena with, and the rating it searched with; nothing when
it starts none. -/
def startedArena (env : RatedEnv) (q : BattlegroundQueue) (bracket_id : BattlegroundBracketId)
    (arenaRating : UInt32) : Option (UInt32 × GroupPtr × GroupPtr) :=
  match q.referenceRating bracket_id arenaRating with
  | none => none
  | some reference =>
    match q.findTeams env reference bracket_id, env.createNewBattleground with
    | some teams, some _ => some (reference, teams)
    | _, _ => none

def RatedEnv.discardTime (env : RatedEnv) : Int32 :=
  (env.getMSTime - env.ratingDiscardTimer).toInt32

/-- The rating lies in the window, or the group joined before the discard time. -/
def RatedEnv.Matches (env : RatedEnv) (reference : UInt32) (ginfo : GroupQueueInfo) : Prop :=
  (ratingWindow reference env.maxRatingDifference env.dynamicMMRindex).Accepts
      ginfo.ArenaMatchmakerRating ∨
    ginfo.JoinTime.toInt32 < env.discardTime

/-- **What a pairing should be**, for the groups of the Alliance side and of the Horde side: the
queue before, and after. -/
structure GoodPairing (env : RatedEnv) (reference : UInt32) (q q' : BattlegroundQueue)
    (bracket_id : BattlegroundBracketId) (aTeam hTeam : GroupPtr) : Prop where
  groups_ne : aTeam ≠ hTeam
  teams_ne : (q.heap aTeam).ArenaTeamId ≠ (q.heap hTeam).ArenaTeamId
  uninvited : ∀ g ∈ [aTeam, hTeam], (q.heap g).IsInvitedToBGInstanceGUID = 0
  matched : ∀ g ∈ [aTeam, hTeam], env.Matches reference (q.heap g)
  sides : (q'.heap aTeam).Team = .ALLIANCE ∧ (q'.heap hTeam).Team = .HORDE
  /-- Each of the two is in the list of its side, and in no other. -/
  places : ∀ place, (aTeam ∈ q'.m_QueuedGroups place ↔ place = (bracket_id, premade .ALLIANCE)) ∧
    (hTeam ∈ q'.m_QueuedGroups place ↔ place = (bracket_id, premade .HORDE))
  /-- The others are where they were, in the order they were in. -/
  others : ∀ place, (q'.m_QueuedGroups place).filter (fun g => decide (g ∉ [aTeam, hTeam])) =
    (q.m_QueuedGroups place).filter fun g => decide (g ∉ [aTeam, hTeam])

variable {env : RatedEnv} {reference arenaRating : UInt32} {q : BattlegroundQueue}
  {b : BattlegroundBracketId} {t side : Team} {g g' ginfo aTeam hTeam : GroupPtr}

theorem RatedEnv.accepts_iff {ginfo : GroupQueueInfo} : env.accepts reference ginfo = true ↔
    ginfo.IsInvitedToBGInstanceGUID = 0 ∧ env.Matches reference ginfo := by
  simp [RatedEnv.accepts, RatedEnv.Matches, RatedEnv.discardTime, GroupQueueInfo.uninvited,
    teamWindowAccepts_iff]

/-! ## 2. The searches -/

theorem accepts_of_firstTeam (h : q.firstTeam env reference b t = some g) :
    env.accepts reference (q.heap g) = true :=
  List.find?_some (p := fun g => env.accepts reference (q.heap g)) h

theorem accepts_of_secondTeam (h : q.secondTeam env reference b t ginfo = some g) :
    env.accepts reference (q.heap g) = true ∧
      (q.heap ginfo).ArenaTeamId ≠ (q.heap g).ArenaTeamId := by
  have hg := List.find?_some h
  rw [Bool.and_eq_true_iff, decide_eq_true_eq] at hg
  exact hg

/-- The first groups that match in the two lists are of one arena team. -/
def TeamMeetsItself (env : RatedEnv) (reference : UInt32) (q : BattlegroundQueue)
    (b : BattlegroundBracketId) : Prop :=
  ∃ g g', q.firstTeam env reference b .ALLIANCE = some g ∧
    q.firstTeam env reference b .HORDE = some g' ∧
    (q.heap g).ArenaTeamId = (q.heap g').ArenaTeamId

theorem findTeams_accepts (hf : q.findTeams env reference b = some (aTeam, hTeam)) :
    ∀ g ∈ [aTeam, hTeam], env.accepts reference (q.heap g) = true := by
  simp only [List.forall_mem_cons, List.not_mem_nil, false_implies, implies_true, and_true]
  unfold findTeams at hf
  split at hf
  · next hA hH =>
    obtain ⟨rfl, rfl⟩ := Prod.mk.inj (Option.some.inj hf)
    exact ⟨accepts_of_firstTeam hA, accepts_of_firstTeam hH⟩
  · next hA _ =>
    obtain ⟨g', hg', he⟩ := Option.map_eq_some_iff.mp hf
    obtain ⟨rfl, rfl⟩ := Prod.mk.inj he
    exact ⟨accepts_of_firstTeam hA, (accepts_of_secondTeam hg').1⟩
  · next _ hH =>
    obtain ⟨g', hg', he⟩ := Option.map_eq_some_iff.mp hf
    obtain ⟨rfl, rfl⟩ := Prod.mk.inj he
    exact ⟨accepts_of_firstTeam hH, (accepts_of_secondTeam hg').1⟩
  · exact absurd hf nofun

theorem findTeams_teams_ne_iff (hf : q.findTeams env reference b = some (aTeam, hTeam)) :
    (q.heap aTeam).ArenaTeamId ≠ (q.heap hTeam).ArenaTeamId ↔
      ¬ TeamMeetsItself env reference q b := by
  unfold findTeams at hf
  split at hf
  · next g g' hA hH =>
    obtain ⟨rfl, rfl⟩ := Prod.mk.inj (Option.some.inj hf)
    refine not_congr ⟨fun heq => ⟨g, g', hA, hH, heq⟩, fun ⟨x, y, hx, hy, heq⟩ => ?_⟩
    obtain rfl := Option.some.inj (hA.symm.trans hx)
    obtain rfl := Option.some.inj (hH.symm.trans hy)
    exact heq
  · next g hA hH =>
    obtain ⟨g', hg', he⟩ := Option.map_eq_some_iff.mp hf
    obtain ⟨rfl, rfl⟩ := Prod.mk.inj he
    refine iff_of_true (accepts_of_secondTeam hg').2 ?_
    rintro ⟨x, y, -, hy, -⟩
    exact absurd (hH.symm.trans hy) nofun
  · next g hA hH =>
    obtain ⟨g', hg', he⟩ := Option.map_eq_some_iff.mp hf
    obtain ⟨rfl, rfl⟩ := Prod.mk.inj he
    refine iff_of_true (accepts_of_secondTeam hg').2 ?_
    rintro ⟨x, y, hx, -, -⟩
    exact absurd (hA.symm.trans hx) nofun
  · exact absurd hf nofun

/-! ## 3. The side swap -/

theorem filter_moveToSide {p : GroupPtr → Bool} (hp : p ginfo = false) (side : Team)
    (place : BattlegroundBracketId × BattlegroundQueueGroupTypes) :
    ((q.moveToSide b ginfo side).m_QueuedGroups place).filter p =
      (q.m_QueuedGroups place).filter p := by
  unfold moveToSide
  split
  · exact filter_moveTo hp place
  · rfl

theorem Inv.startArena_places (h : q.Inv) (ha : ∃ t, aTeam ∈ q.m_QueuedGroups (b, premade t))
    (hh : ∃ t, hTeam ∈ q.m_QueuedGroups (b, premade t)) (hne : hTeam ≠ aTeam)
    (findConnectedPlayer : ObjectGuid → Bool) (instanceId : ℕ)
    (place : BattlegroundBracketId × BattlegroundQueueGroupTypes) :
    let q' := q.startArena findConnectedPlayer instanceId b aTeam hTeam
    (aTeam ∈ q'.m_QueuedGroups place ↔ place = (b, premade .ALLIANCE)) ∧
      (hTeam ∈ q'.m_QueuedGroups place ↔ place = (b, premade .HORDE)) := by
  obtain ⟨tA, ha⟩ := ha
  obtain ⟨tH, hh⟩ := hh
  rw [← h.team_eq ha] at ha
  rw [← h.team_eq hh] at hh
  obtain ⟨hplaced, -, hmem⟩ := moveToSide_lists h.placed ha .ALLIANCE
  have hh₁ : hTeam ∈ (q.moveToSide b aTeam .ALLIANCE).m_QueuedGroups
      (b, premade ((q.moveToSide b aTeam .ALLIANCE).heap hTeam).Team) := by
    rw [(moveToSide_frame q b aTeam .ALLIANCE).1]
    exact (hmem _ _).mpr (Or.inr ⟨hne, hh⟩)
  obtain ⟨-, -, hmem₂⟩ := moveToSide_lists hplaced hh₁ .HORDE
  constructor
  · refine (hmem₂ aTeam place).trans ?_
    rw [hmem aTeam place]
    simp [hne.symm]
  · refine (hmem₂ hTeam place).trans ?_
    simp

theorem startArena_sides (q : BattlegroundQueue) (hne : hTeam ≠ aTeam)
    (findConnectedPlayer : ObjectGuid → Bool) (instanceId : ℕ) :
    let q' := q.startArena findConnectedPlayer instanceId b aTeam hTeam
    (q'.heap aTeam).Team = .ALLIANCE ∧ (q'.heap hTeam).Team = .HORDE := by
  simp only [startArena, inviteGroupToBG_Team]
  exact ⟨by rw [if_neg hne.symm, if_pos trivial], if_pos trivial⟩

theorem filter_startArena (findConnectedPlayer : ObjectGuid → Bool) (instanceId : ℕ)
    (place : BattlegroundBracketId × BattlegroundQueueGroupTypes) :
    ((q.startArena findConnectedPlayer instanceId b aTeam hTeam).m_QueuedGroups place).filter
        (fun g => decide (g ∉ [aTeam, hTeam])) =
      (q.m_QueuedGroups place).filter fun g => decide (g ∉ [aTeam, hTeam]) :=
  (filter_moveToSide (by simp) .HORDE place).trans (filter_moveToSide (by simp) .ALLIANCE place)

/-! ## 4. The update -/

theorem startedArena_eq_some
    (hstart : startedArena env q b arenaRating = some (reference, aTeam, hTeam)) :
    q.findTeams env reference b = some (aTeam, hTeam) ∧
      ∃ instanceId, q.ratedArenaUpdate env b arenaRating =
        q.startArena env.findConnectedPlayer instanceId b aTeam hTeam := by
  unfold startedArena at hstart
  unfold ratedArenaUpdate
  split at hstart
  · exact absurd hstart nofun
  · next r hr =>
    split at hstart
    · next teams instanceId hfind hnew =>
      obtain ⟨rfl, rfl⟩ := Prod.mk.inj (Option.some.inj hstart)
      exact ⟨hfind, instanceId, by simp only [hr, hfind, hnew]⟩
    · exact absurd hstart nofun

/-- **Whenever a rated arena starts, the pairing is what it should be exactly if the first groups
that match in the two lists are not of one arena team.** -/
theorem ratedPairing_iff (h : q.Inv)
    (hstart : startedArena env q b arenaRating = some (reference, aTeam, hTeam)) :
    GoodPairing env reference q (q.ratedArenaUpdate env b arenaRating) b aTeam hTeam ↔
      ¬ TeamMeetsItself env reference q b := by
  obtain ⟨hfind, instanceId, hupdate⟩ := startedArena_eq_some hstart
  rw [hupdate]
  rw [← findTeams_teams_ne_iff hfind]
  refine ⟨GoodPairing.teams_ne, fun hteams => ?_⟩
  obtain ⟨ha, hh, hne⟩ := h.findTeams_spec hfind
  have haccepts := findTeams_accepts hfind
  exact {
    groups_ne := hne.symm
    teams_ne := hteams
    uninvited := fun g hg => (RatedEnv.accepts_iff.mp (haccepts g hg)).1
    matched := fun g hg => (RatedEnv.accepts_iff.mp (haccepts g hg)).2
    sides := startArena_sides q hne _ _
    places := h.startArena_places ha hh hne _ _
    others := filter_startArena _ _ }

/-! ## 5. Two queues -/

/-- An arena that can be created at once, with a rating difference of 150. -/
def arenaEnv : RatedEnv where
  maxRatingDifference := 150
  dynamicMMRindex := 0
  getMSTime := 60000
  ratingDiscardTimer := 600000
  createNewBattleground := some 3
  findConnectedPlayer := fun _ => true

def ratedJoin (leader member : ObjectGuid) (leaderTeam : Team) (arenateamid : ℕ) : Join where
  leader := leader
  leaderTeam := leaderTeam
  skirmishJoined := false
  grp := some [some leader, some member]
  bracketId := ⟨14, topBracket_lt⟩
  ArenaType := 2
  isRated := true
  isPremade := false
  MatchmakerRating := 1500
  arenateamid := arenateamid

def twoPairs (arenateamid arenateamid' : ℕ) : BattlegroundQueue :=
  ((new fun _ => { Players := OrderedSet.empty, Team := .ALLIANCE }).addGroup false 1000 5
    (ratedJoin 1 2 .ALLIANCE arenateamid)).addGroup false 2000 6
    (ratedJoin 3 4 .HORDE arenateamid')

theorem twoPairs_reachable (arenateamid arenateamid' : ℕ) :
    Reachable (twoPairs arenateamid arenateamid') := by
  have hnew : 6 ∉ insert 5 (∅ : Finset GroupPtr) := by decide
  refine .step (.step (.new _) (.addGroup false 1000 5 _ (by simp [new]) ?_ fun _ _ => rfl))
    (.addGroup false 2000 6 _ hnew ?_ ?_)
  · simp [ratedJoin]
  · simp [ratedJoin]
  · intro guid hguid
    have h34 : guid = 3 ∨ guid = 4 := by simpa [ratedJoin, Join.members] using hguid
    rcases h34 with rfl | rfl
    · rfl
    · rfl

/-- The pairs of two teams are paired. -/
theorem twoTeams_paired :
    GoodPairing arenaEnv 1500 (twoPairs 7 8) ((twoPairs 7 8).ratedArenaUpdate arenaEnv 14 0)
        14 5 6 ↔
      ¬ TeamMeetsItself arenaEnv 1500 (twoPairs 7 8) 14 :=
  ratedPairing_iff (twoPairs_reachable 7 8).inv (by decide +kernel)

/-- **Two pairs of one team are paired with each other.** -/
theorem oneTeam_meets_itself : Reachable (twoPairs 7 7) ∧
    startedArena arenaEnv (twoPairs 7 7) 14 0 = some (1500, 5, 6) ∧
    ¬ GoodPairing arenaEnv 1500 (twoPairs 7 7) ((twoPairs 7 7).ratedArenaUpdate arenaEnv 14 0)
      14 5 6 :=
  ⟨twoPairs_reachable 7 7, by decide +kernel, fun h => h.teams_ne (by decide +kernel)⟩

end BattlegroundQueue

end FunPvp.Battleground
