/-
# Temporary arena teams

A solo arena is played by two temporary `ArenaTeam`s, one for each pool of
`CheckSolo2v2Arena`. `CreateTempArenaTeamForQueue` registers both with `ArenaTeamMgr`, and the
destructor of the battleground takes them out again.

Between the two there are ways to leave. The update returns when the alliance team is outside
the rating window, and when no battleground can be created: by then the teams are registered and
nothing refers to them. And the destructor asks `isRated()`, which is false once somebody has
not accepted the invitation or not entered the arena. `tempArenaTeams_tidy_iff` says that these
are the only ways in which a temporary team is left behind.
-/
import FunPvp.Battleground.ClientIds
import FunPvp.Battleground.CrossFaction
import FunPvp.Battleground.RatingWindow
import FunPvp.Battleground.SoloArena
import FunPvp.Lib.Run

namespace FunPvp.Battleground

open FunPvp.Lib

/-! ## 1. Arena teams -/

/-- `ArenaTeamMember`, without the name and the class. -/
structure ArenaTeamMember where
  Guid : ObjectGuid
  WeekGames : UInt16
  WeekWins : UInt16
  SeasonGames : UInt16
  SeasonWins : UInt16
  PersonalRating : UInt16
  MatchMakerRating : UInt16
deriving DecidableEq

structure ArenaTeamStats where
  Rating : UInt16
  WeekGames : UInt16
  WeekWins : UInt16
  SeasonGames : UInt16
  SeasonWins : UInt16
deriving DecidableEq

def ARENA_TEAM_5v5 : ℕ := 5

/-- `ArenaTeam`. `addr` is the object's identity: no two objects have the same. -/
structure ArenaTeam where
  addr : ℕ
  TeamId : ℕ
  TeamType : ℕ
  TeamName : String
  CaptainGuid : ObjectGuid
  Stats : ArenaTeamStats
  Members : List ArenaTeamMember
deriving DecidableEq

def ArenaTeam.getAverageMMR (t : ArenaTeam) : UInt32 :=
  let playerDivider : UInt32 := if t.Members = [] then 1 else UInt32.ofNat t.Members.length
  t.Members.foldl (fun matchMakerRating m => matchMakerRating + m.MatchMakerRating.toUInt32) 0
    / playerDivider

def TEMP_ARENA_TEAM_ID : ℕ := 0xFFF00000

/-- `ArenaTeamMgr`. `allocated` counts the objects that `new ArenaTeam()` has returned. -/
structure ArenaTeamMgr where
  NextTempArenaTeamId : ℕ
  ArenaTeamStore : ℕ → Option ArenaTeam
  allocated : ℕ

namespace ArenaTeamMgr

def init : ArenaTeamMgr := ⟨TEMP_ARENA_TEAM_ID, fun _ => none, 0⟩

def generateTempArenaTeamId (mgr : ArenaTeamMgr) : ℕ × ArenaTeamMgr :=
  let id := if mgr.NextTempArenaTeamId ≥ 0xFFFFFFFE then TEMP_ARENA_TEAM_ID
    else mgr.NextTempArenaTeamId
  (id, { mgr with NextTempArenaTeamId := id + 1 })

def getArenaTeamById (mgr : ArenaTeamMgr) (arenaTeamId : ℕ) : Option ArenaTeam :=
  mgr.ArenaTeamStore arenaTeamId

/-- `AddArenaTeam`: a team that has the id already is replaced. -/
def addArenaTeam (mgr : ArenaTeamMgr) (arenaTeam : ArenaTeam) : ArenaTeamMgr :=
  { mgr with ArenaTeamStore := Function.update mgr.ArenaTeamStore arenaTeam.TeamId arenaTeam }

def removeArenaTeam (mgr : ArenaTeamMgr) (arenaTeamId : ℕ) : ArenaTeamMgr :=
  { mgr with ArenaTeamStore := Function.update mgr.ArenaTeamStore arenaTeamId none }

def Registered (mgr : ArenaTeamMgr) (t : ArenaTeam) : Prop :=
  mgr.getArenaTeamById t.TeamId = some t

instance (mgr : ArenaTeamMgr) (t : ArenaTeam) : Decidable (mgr.Registered t) :=
  inferInstanceAs (Decidable (_ = _))

end ArenaTeamMgr

/-! ## 2. The temporary teams of an update -/

def Team.index : Team → ℕ
  | .ALLIANCE => 0
  | .HORDE => 1

/-- What an update of the solo queue meets: the world, the queue, and what `CreateNewBattleground`
will find. -/
structure SoloUpdate where
  env : SoloEnv
  /-- `GetArenaTeamId(GetSlotByType(ARENA_TEAM_5v5))`. -/
  getArenaTeamId : ObjectGuid → ℕ
  /-- What an `ArenaTeamMember` holds that nothing was assigned to. -/
  newMember : ArenaTeamMember
  /-- `ObjectAccessor::FindConnectedPlayer`. -/
  findConnectedPlayer : ObjectGuid → Bool
  maxRatingDifference : UInt32
  dynamicMMRindex : UInt8
  /-- The premade lists of the bracket, and what earlier updates left in the pools. -/
  queue : SoloQueue
  m_SelectionPools : Team → SelectionPool
  soloTeam : Team → Solo2v2TalentCat → Bool
  /-- Some other list of the bracket is not empty. -/
  othersQueued : Bool
  /-- The queue's template and its bracket entry are found. -/
  bracketFound : Bool
  /-- `GetRandomBG`. -/
  randomBG : BattlegroundTypeId
  /-- The template of the type that was drawn is found. -/
  templateFound : Bool
  /-- `GenerateInstanceId`. -/
  instanceId : ℕ

/-- The statistics of a temporary team: those of the real teams, added up. -/
def ArenaTeamStats.add (s s' : ArenaTeamStats) : ArenaTeamStats where
  Rating := s.Rating + s'.Rating
  WeekGames := s.WeekGames + s'.WeekGames
  WeekWins := s.WeekWins + s'.WeekWins
  SeasonGames := s.SeasonGames + s'.SeasonGames
  SeasonWins := s.SeasonWins + s'.SeasonWins

/-- Every statistic `/= 3`. -/
def ArenaTeamStats.third (s : ArenaTeamStats) : ArenaTeamStats where
  Rating := s.Rating / 3
  WeekGames := s.WeekGames / 3
  WeekWins := s.WeekWins / 3
  SeasonGames := s.SeasonGames / 3
  SeasonWins := s.SeasonWins / 3

namespace SoloUpdate

variable (u : SoloUpdate)

/-- `CreateTempForSolo2v2` on a new object. `plr` is the array; it has three players whenever a
match was found (`atPlr_complete`). -/
def createTempForSolo2v2 (mgr : ArenaTeamMgr) (plr : List ObjectGuid) (team : Team) :
    ArenaTeam × ArenaTeamMgr :=
  let r := mgr.generateTempArenaTeamId
  let realTeams := plr.filterMap fun guid => r.2.getArenaTeamById (u.getArenaTeamId guid)
  ({ addr := mgr.allocated
     TeamId := r.1
     TeamType := ARENA_TEAM_5v5
     TeamName := "Team " ++ toString (team.index + 1)
     CaptainGuid := plr.headD 0
     Stats := (realTeams.foldl (fun stats t => ArenaTeamStats.add stats t.Stats) ⟨0, 0, 0, 0, 0⟩).third
     -- The loop over the real team's members keeps the last one.
     Members := realTeams.map fun t => t.Members.getLast?.getD u.newMember },
    { r.2 with allocated := mgr.allocated + 1 })

/-- `atPlr`: of each selected group the first player, if he is online, and at most three. -/
def atPlr (s : SoloState) (team : Team) : List ObjectGuid :=
  ((s.m_SelectionPools team).SelectedGroups.filterMap fun g =>
    (s.heap g).Players.elems.head?.filter fun guid => (u.env.findPlayer guid).isSome).take
      PLAYERS_COUNT_PER_TEAM

def createTempArenaTeam (mgr : ArenaTeamMgr) (s : SoloState) (team : Team) :
    ArenaTeam × ArenaTeamMgr :=
  let r := u.createTempForSolo2v2 mgr (u.atPlr s team) team
  (r.1, r.2.addArenaTeam r.1)

def createTempArenaTeamForQueue (mgr : ArenaTeamMgr) (s : SoloState) :
    (Team → ArenaTeam) × ArenaTeamMgr :=
  let a := u.createTempArenaTeam mgr s .ALLIANCE
  let h := u.createTempArenaTeam a.2 s .HORDE
  (fun
    | .ALLIANCE => a.1
    | .HORDE => h.1, h.2)

end SoloUpdate

/-! ## 3. Arenas -/

def ARENA_TYPE_2v2_SOLO : ℕ := 5

/-- The part of a `Battleground` that decides what becomes of the teams. `teams` is what the
update knew and the battleground forgets: the objects whose ids are in `ArenaTeamIds`. -/
structure Arena where
  InstanceID : ℕ
  Status : BattlegroundStatus
  IsArena : Bool
  IsRated : Bool
  ArenaType : ℕ
  ArenaTeamIds : Team → ℕ
  ArenaMatchmakerRating : Team → UInt32
  invited : Team → ℕ
  teams : Team → ArenaTeam

namespace Arena

def setStatus (bg : Arena) (status : BattlegroundStatus) : Arena := { bg with Status := status }

/-- `SetRated(false); EndBattleground(..);` -/
def endUnrated (bg : Arena) : Arena :=
  { bg with IsRated := false, Status := .STATUS_WAIT_LEAVE }

/-- `CheckStartSolo2v2Arena`. `instanceIdOf` is the instance a player is in, nothing if he is
offline; `plrinarena` counts the players of the battleground. -/
def checkStartSolo2v2Arena (bg : Arena) (mgr : ArenaTeamMgr)
    (instanceIdOf : ObjectGuid → Option ℕ) (plrinarena : ℕ) : Arena :=
  if bg.ArenaType ≠ ARENA_TYPE_2v2_SOLO ∨ bg.Status ≠ .STATUS_IN_PROGRESS then bg
  else
    match mgr.getArenaTeamById (bg.ArenaTeamIds .ALLIANCE),
        mgr.getArenaTeamById (bg.ArenaTeamIds .HORDE) with
    | some alliance, some horde =>
      let someoneNotInArena := (alliance.Members ++ horde.Members).any fun m =>
        instanceIdOf m.Guid ≠ some bg.InstanceID
      if someoneNotInArena || plrinarena < 6 then bg.endUnrated else bg
    | _, _ => bg  -- the `ASSERT` stops the server

/-- The end of `BGQueueRemoveEvent::Execute`, for a player who was invited and did not enter. -/
def removeInvited (bg : Arena) : Arena :=
  if bg.Status ≠ .STATUS_WAIT_LEAVE then bg.endUnrated else bg

/-- "Cleanup temp arena teams for solo 2v2": the guard in the destructor. -/
def cleansUp (bg : Arena) : Bool :=
  bg.IsArena && bg.IsRated && decide (bg.ArenaType = ARENA_TYPE_2v2_SOLO)

end Arena

def ArenaTeamMgr.removeTemp (mgr : ArenaTeamMgr) : Option ArenaTeam → ArenaTeamMgr
  | none => mgr
  | some t => if t.TeamId ≥ TEMP_ARENA_TEAM_ID then mgr.removeArenaTeam t.TeamId else mgr

/-- `~Battleground`: both teams are looked up before one is removed. -/
def Arena.destroy (bg : Arena) (mgr : ArenaTeamMgr) : ArenaTeamMgr :=
  if bg.cleansUp then
    let tempAlliArenaTeam := mgr.getArenaTeamById (bg.ArenaTeamIds .ALLIANCE)
    let tempHordeArenaTeam := mgr.getArenaTeamById (bg.ArenaTeamIds .HORDE)
    (mgr.removeTemp tempAlliArenaTeam).removeTemp tempHordeArenaTeam
  else mgr

/-! ## 4. The update -/

/-- What an update leaves: the registry, the queue, the teams it created and the arena it
started. -/
structure SoloUpdateResult where
  mgr : ArenaTeamMgr
  lists : SoloState
  created : Option (Team → ArenaTeam)
  started : Option Arena

namespace SoloUpdate

variable (u : SoloUpdate)

/-- `CreateNewBattleground`: there is no class for `BATTLEGROUND_RB` and `BATTLEGROUND_AA`. -/
def createNewBattleground (teams : Team → ArenaTeam) : Option Arena :=
  match u.templateFound, u.randomBG with
  | false, _ => none
  | true, .BATTLEGROUND_RB => none
  | true, .BATTLEGROUND_AA => none
  | true, .BATTLEGROUND_TYPE_NONE => none
  | true, bgTypeId => some
    { InstanceID := u.instanceId
      Status := .STATUS_WAIT_JOIN
      IsArena := isArenaType bgTypeId
      IsRated := true
      ArenaType := ARENA_TYPE_2v2_SOLO
      ArenaTeamIds := fun _ => 0
      ArenaMatchmakerRating := fun _ => 0
      invited := fun _ => 0
      teams := teams }

/-- "invite those selection pools", with the temporary team's id in each group. -/
def inviteSelected (arenaTeams : Team → ArenaTeam) (s : SoloState) : InviteState :=
  [Team.ALLIANCE, .HORDE].foldl (fun inv i =>
    (s.m_SelectionPools i).SelectedGroups.foldl (fun inv g =>
      let heap := inv.heap.setArenaTeamId g (arenaTeams i).TeamId
      inviteGroupToBG u.findConnectedPlayer u.instanceId ⟨heap, inv.invited⟩ g (heap g).Team) inv)
    ⟨s.heap, fun _ => 0⟩

def turnedAway (arenaTeams : Team → ArenaTeam) : Bool :=
  soloWindowRejects (arenaTeams .HORDE).getAverageMMR u.maxRatingDifference u.dynamicMMRindex
    (arenaTeams .ALLIANCE).getAverageMMR

/-- What follows once `CheckSolo2v2Arena` has selected six players. -/
def startMatch (mgr : ArenaTeamMgr) (s : SoloState) : SoloUpdateResult :=
  let r := u.createTempArenaTeamForQueue mgr s
  if u.turnedAway r.1 then ⟨r.2, s, some r.1, none⟩
  else
    match u.createNewBattleground r.1 with
    | none => ⟨r.2, s, some r.1, none⟩
    | some arena =>
      let inv := u.inviteSelected r.1 s
      ⟨r.2, { s with heap := inv.heap }, some r.1, some
        { arena with
          ArenaTeamIds := fun team => (r.1 team).TeamId
          ArenaMatchmakerRating := fun team => (r.1 team).getAverageMMR
          invited := inv.invited }⟩

/-- `CheckSolo2v2Arena`, with as many calls as it can need. -/
def checkSolo : Option (Bool × SoloState) :=
  checkSolo2v2Arena u.env (u.queue.distance u.env + 1)
    (u.queue.toState u.m_SelectionPools u.soloTeam)

def battlegroundQueueUpdate (mgr : ArenaTeamMgr) : SoloUpdateResult :=
  let lists := u.queue.toState u.m_SelectionPools u.soloTeam
  if u.queue.all = [] ∧ u.othersQueued = false then ⟨mgr, lists, none, none⟩
  else if u.bracketFound = false then ⟨mgr, lists, none, none⟩
  else
    match u.checkSolo with
    | some (true, s) => u.startMatch mgr s
    | some (false, s) => ⟨mgr, s, none, none⟩
    | none => ⟨mgr, lists, none, none⟩  -- excluded by `checkSolo_isSome`

def selects : Option SoloState :=
  if u.queue.all = [] ∧ u.othersQueued = false then none
  else if u.bracketFound = false then none
  else
    match u.checkSolo with
    | some (true, s) => some s
    | _ => none

end SoloUpdate

/-! ## 5. Runs -/

/-- The registry and the arenas that are running. `temps` is the history: every team that
`CreateTempArenaTeamForQueue` has created. -/
structure SoloWorld where
  mgr : ArenaTeamMgr
  arenas : List Arena
  temps : List ArenaTeam

inductive SoloEvent
  | update (u : SoloUpdate)
  /-- `CheckStartSolo2v2Arena` for the arena at this place. -/
  | checkStart (place : ℕ) (instanceIdOf : ObjectGuid → Option ℕ) (plrinarena : ℕ)
  /-- An invitation to the arena at this place runs out. -/
  | inviteExpired (place : ℕ)
  /-- The arena at this place starts, or ends. -/
  | setStatus (place : ℕ) (status : BattlegroundStatus)
  /-- `BattlegroundMgr::Update` deletes the arena at this place. -/
  | destroy (place : ℕ)
  /-- `AddArenaTeam` for a team that players have founded; the object is a new one. -/
  | addArenaTeam (t : ArenaTeam)
  /-- `Disband`, of any team. -/
  | disband (arenaTeamId : ℕ)

def SoloWorld.step (w : SoloWorld) : SoloEvent → SoloWorld
  | .update u =>
    let r := u.battlegroundQueueUpdate w.mgr
    ⟨r.mgr, w.arenas ++ r.started.toList,
      match r.created with
      | none => w.temps
      | some teams => w.temps ++ [teams .ALLIANCE, teams .HORDE]⟩
  | .checkStart place instanceIdOf plrinarena =>
    { w with arenas := w.arenas.modify place fun bg =>
        bg.checkStartSolo2v2Arena w.mgr instanceIdOf plrinarena }
  | .inviteExpired place => { w with arenas := w.arenas.modify place Arena.removeInvited }
  | .setStatus place status =>
    { w with arenas := w.arenas.modify place fun bg => bg.setStatus status }
  | .destroy place =>
    match w.arenas[place]? with
    | none => w
    | some bg => { w with mgr := bg.destroy w.mgr, arenas := w.arenas.eraseIdx place }
  | .addArenaTeam t =>
    { w with mgr := { w.mgr.addArenaTeam { t with addr := w.mgr.allocated } with
        allocated := w.mgr.allocated + 1 } }
  | .disband arenaTeamId => { w with mgr := w.mgr.removeArenaTeam arenaTeamId }

def SoloWorld.init : SoloWorld := ⟨ArenaTeamMgr.init, [], []⟩

/-- **No team is left behind**: a temporary team that is still registered is one of the two of a
running arena. -/
def SoloWorld.Tidy (w : SoloWorld) : Prop :=
  ∀ t ∈ w.temps, w.mgr.Registered t → ∃ bg ∈ w.arenas, ∃ team,
    bg.teams team = t ∧ bg.ArenaTeamIds team = t.TeamId

/-- **What one event should do.**  An update that starts nothing leaves the registry as it was,
and one that creates teams starts the arena they play in or takes them out again; an arena that
is deleted takes its teams with it. -/
def SoloWorld.Keeps (w : SoloWorld) : SoloEvent → Prop
  | .update u =>
    let r := u.battlegroundQueueUpdate w.mgr
    (r.started = none → r.mgr.ArenaTeamStore = w.mgr.ArenaTeamStore) ∧
      ∀ teams, r.created = some teams → ∀ team, r.mgr.Registered (teams team) →
        ∃ arena, r.started = some arena ∧ arena.teams team = teams team ∧
          arena.ArenaTeamIds team = (teams team).TeamId
  | .destroy place => ∀ bg, w.arenas[place]? = some bg → ∀ team,
      ¬ (bg.destroy w.mgr).Registered (bg.teams team)
  | _ => True

/-- **The condition**, in the state before the event. If the update selects six players, the
window lets them through and there is a battleground for them; and an arena that is deleted is a
rated one, unless somebody has disbanded its teams. -/
def SoloWorld.Meets (w : SoloWorld) : SoloEvent → Prop
  | .update u => ∀ s, u.selects = some s →
      let teams := (u.createTempArenaTeamForQueue w.mgr s).1
      u.turnedAway teams = false ∧ (u.createNewBattleground teams).isSome
  | .destroy place => ∀ bg, w.arenas[place]? = some bg →
      bg.cleansUp = true ∨ ∀ team, ¬ w.mgr.Registered (bg.teams team)
  | _ => True

/-! ## 6. The players of the teams -/

theorem SoloUpdate.checkSolo_isSome (u : SoloUpdate) : ∃ result s,
    u.checkSolo = some (result, s) ∧ SoloOutcome u.env u.queue result s := by
  obtain ⟨result, s, hrun, hout⟩ := checkSolo2v2Arena_returns u.env u.queue
    (u.queue.toState u.m_SelectionPools u.soloTeam) rfl rfl
  exact ⟨result, s, hrun _ (Nat.lt_succ_self _), hout⟩

theorem SoloUpdate.outcome_of_selects {u : SoloUpdate} {s : SoloState}
    (hs : u.selects = some s) : SoloOutcome u.env u.queue true s := by
  obtain ⟨result, s', hrun, hout⟩ := u.checkSolo_isSome
  simp only [selects, hrun] at hs
  split at hs
  · exact absurd hs (by simp)
  · split at hs
    · exact absurd hs (by simp)
    · split at hs
      · next heq =>
        obtain ⟨rfl, rfl⟩ := Prod.mk.inj (Option.some.inj heq)
        exact Option.some.inj hs ▸ hout
      · exact absurd hs (by simp)

theorem SoloUpdate.atPlr_eq {u : SoloUpdate} {s : SoloState} (hs : u.selects = some s)
    (team : Team) : u.atPlr s team = s.poolPlayers team := by
  have hout := outcome_of_selects hs
  have hmatch := hout.found rfl
  have hgroups : (s.m_SelectionPools team).SelectedGroups.filterMap (fun g =>
      (s.heap g).Players.elems.head?.filter fun guid => (u.env.findPlayer guid).isSome)
      = s.poolPlayers team := by
    rw [SoloState.poolPlayers, List.filterMap_eq_flatMap_toList]
    refine List.flatMap_congr fun g hg => ?_
    obtain ⟨hqueued, -⟩ := hmatch.team_eq team g hg
    have hmem : g ∈ u.queue.all := hout.perm.mem_iff.mp <| List.mem_append.mpr <| by
      cases team with
      | ALLIANCE => exact Or.inl hqueued
      | HORDE => exact Or.inr hqueued
    have hsingle : ∃ guid, (u.queue.heap g).Players.elems = [guid] := by
      rcases List.mem_append.mp hmem with h | h
      · exact u.queue.single _ g h
      · exact u.queue.single _ g h
    obtain ⟨guid, hguid⟩ := hsingle
    rw [← (hout.same g).1] at hguid
    have honline := hmatch.online team guid
      (List.mem_flatMap.mpr ⟨g, hg, by rw [hguid]; exact List.mem_singleton_self _⟩)
    simp [hguid, Option.filter, honline]
  rw [atPlr, hgroups, List.take_of_length_le (hmatch.three team).le]

theorem SoloUpdate.atPlr_complete {u : SoloUpdate} {s : SoloState} (hs : u.selects = some s)
    (team : Team) : u.atPlr s team = s.poolPlayers team ∧
      (u.atPlr s team).length = PLAYERS_COUNT_PER_TEAM := by
  refine ⟨atPlr_eq hs team, ?_⟩
  rw [atPlr_eq hs, ((outcome_of_selects hs).found rfl).three team]

/-! ## 7. The registry -/

namespace ArenaTeamMgr

variable {mgr : ArenaTeamMgr}

@[simp] theorem getArenaTeamById_addArenaTeam (t : ArenaTeam) (id : ℕ) :
    (mgr.addArenaTeam t).getArenaTeamById id
      = if id = t.TeamId then some t else mgr.getArenaTeamById id := by
  simp [getArenaTeamById, addArenaTeam, Function.update_apply]

@[simp] theorem getArenaTeamById_removeArenaTeam (id' id : ℕ) :
    (mgr.removeArenaTeam id').getArenaTeamById id
      = if id = id' then none else mgr.getArenaTeamById id := by
  simp [getArenaTeamById, removeArenaTeam, Function.update_apply]

theorem getArenaTeamById_of_removeArenaTeam {id' id : ℕ} {t : ArenaTeam}
    (h : (mgr.removeArenaTeam id').getArenaTeamById id = some t) :
    mgr.getArenaTeamById id = some t := by
  rw [getArenaTeamById_removeArenaTeam] at h
  split at h
  · exact absurd h (by simp)
  · exact h

theorem getArenaTeamById_of_removeTemp {t' : Option ArenaTeam} {id : ℕ} {t : ArenaTeam}
    (h : (mgr.removeTemp t').getArenaTeamById id = some t) :
    mgr.getArenaTeamById id = some t := by
  cases t' with
  | none => exact h
  | some t' =>
    rw [removeTemp] at h
    split at h
    · exact getArenaTeamById_of_removeArenaTeam h
    · exact h

theorem getArenaTeamById_removeTemp_self {t : ArenaTeam} (ht : TEMP_ARENA_TEAM_ID ≤ t.TeamId) :
    (mgr.removeTemp (some t)).getArenaTeamById t.TeamId = none := by
  simp [removeTemp, ht]

/-- **The registry is keyed by id**, its objects have been allocated, and the next temporary id
is one. -/
structure Keyed (mgr : ArenaTeamMgr) : Prop where
  id_eq : ∀ id t, mgr.getArenaTeamById id = some t → t.TeamId = id
  allocated : ∀ id t, mgr.getArenaTeamById id = some t → t.addr < mgr.allocated
  next : TEMP_ARENA_TEAM_ID ≤ mgr.NextTempArenaTeamId

theorem keyed_init : init.Keyed where
  id_eq := fun _ _ h => absurd h (by simp [init, getArenaTeamById])
  allocated := fun _ _ h => absurd h (by simp [init, getArenaTeamById])
  next := le_refl _

theorem Keyed.of_sub {mgr' : ArenaTeamMgr} (h : mgr.Keyed)
    (hsub : ∀ id t, mgr'.getArenaTeamById id = some t → mgr.getArenaTeamById id = some t)
    (hnext : mgr'.NextTempArenaTeamId = mgr.NextTempArenaTeamId)
    (halloc : mgr'.allocated = mgr.allocated) : mgr'.Keyed where
  id_eq := fun id t ht => h.id_eq id t (hsub id t ht)
  allocated := fun id t ht => by rw [halloc]; exact h.allocated id t (hsub id t ht)
  next := by rw [hnext]; exact h.next

theorem Keyed.addArenaTeam (h : mgr.Keyed) {t : ArenaTeam} {next : ℕ}
    (haddr : t.addr = mgr.allocated) (hnext : TEMP_ARENA_TEAM_ID ≤ next) :
    ArenaTeamMgr.Keyed
      ⟨next, (mgr.addArenaTeam t).ArenaTeamStore, mgr.allocated + 1⟩ where
  id_eq := by
    intro id t' ht'
    have hget := (getArenaTeamById_addArenaTeam t id).symm.trans ht'
    split at hget
    · next hid => rw [hid, ← Option.some.inj hget]
    · exact h.id_eq id t' hget
  allocated := by
    intro id t' ht'
    have hget := (getArenaTeamById_addArenaTeam t id).symm.trans ht'
    split at hget
    · rw [← Option.some.inj hget, haddr]; exact Nat.lt_succ_self _
    · exact Nat.lt_succ_of_lt (h.allocated id t' hget)
  next := hnext

theorem le_generateTempArenaTeamId (h : mgr.Keyed) :
    TEMP_ARENA_TEAM_ID ≤ mgr.generateTempArenaTeamId.1 := by
  rw [generateTempArenaTeamId]
  split
  · exact le_refl _
  · exact h.next

end ArenaTeamMgr

/-- The result of registering one temporary team. -/
structure TempOf (mgr : ArenaTeamMgr) (t : ArenaTeam) (mgr' : ArenaTeamMgr) : Prop where
  keyed : mgr'.Keyed
  get : ∀ id, mgr'.getArenaTeamById id = if id = t.TeamId then some t else mgr.getArenaTeamById id
  addr : t.addr = mgr.allocated
  allocated : mgr'.allocated = mgr.allocated + 1
  temp : TEMP_ARENA_TEAM_ID ≤ t.TeamId

theorem SoloUpdate.tempOf_createTempArenaTeam (u : SoloUpdate) {mgr : ArenaTeamMgr}
    (h : mgr.Keyed) (s : SoloState) (team : Team) :
    TempOf mgr (u.createTempArenaTeam mgr s team).1 (u.createTempArenaTeam mgr s team).2 where
  keyed := h.addArenaTeam rfl (Nat.le_succ_of_le (ArenaTeamMgr.le_generateTempArenaTeamId h))
  get := fun id => ArenaTeamMgr.getArenaTeamById_addArenaTeam _ id
  addr := rfl
  allocated := rfl
  temp := ArenaTeamMgr.le_generateTempArenaTeamId h

structure TempsOf (mgr : ArenaTeamMgr) (teams : Team → ArenaTeam) (mgr' : ArenaTeamMgr) :
    Prop where
  keyed : mgr'.Keyed
  get : ∀ id t, mgr'.getArenaTeamById id = some t →
    mgr.getArenaTeamById id = some t ∨ ∃ team, teams team = t
  horde : mgr'.Registered (teams .HORDE)
  addr : ∀ team, mgr.allocated ≤ (teams team).addr ∧ (teams team).addr < mgr'.allocated
  temp : ∀ team, TEMP_ARENA_TEAM_ID ≤ (teams team).TeamId

theorem SoloUpdate.tempsOf_createTempArenaTeamForQueue (u : SoloUpdate) {mgr : ArenaTeamMgr}
    (h : mgr.Keyed) (s : SoloState) :
    TempsOf mgr (u.createTempArenaTeamForQueue mgr s).1 (u.createTempArenaTeamForQueue mgr s).2 := by
  have ha := u.tempOf_createTempArenaTeam h s .ALLIANCE
  have hh := u.tempOf_createTempArenaTeam ha.keyed s .HORDE
  refine ⟨hh.keyed, fun id t ht => ?_, ?_, fun team => ?_, fun team => ?_⟩
  · have ht' := (hh.get id).symm.trans ht
    split at ht'
    · exact Or.inr ⟨.HORDE, Option.some.inj ht'⟩
    · rw [ha.get id] at ht'
      split at ht'
      · exact Or.inr ⟨.ALLIANCE, Option.some.inj ht'⟩
      · exact Or.inl ht'
  · exact (hh.get _).trans (if_pos rfl)
  · have hlast : (u.createTempArenaTeamForQueue mgr s).2.allocated = mgr.allocated + 1 + 1 := by
      rw [← ha.allocated]; exact hh.allocated
    cases team with
    | ALLIANCE =>
      have haddr : ((u.createTempArenaTeamForQueue mgr s).1 .ALLIANCE).addr = mgr.allocated := ha.addr
      omega
    | HORDE =>
      have haddr : ((u.createTempArenaTeamForQueue mgr s).1 .HORDE).addr = mgr.allocated + 1 := by
        rw [← ha.allocated]; exact hh.addr
      omega
  · cases team with
    | ALLIANCE => exact ha.temp
    | HORDE => exact hh.temp

theorem Arena.get_of_destroy {bg : Arena} {mgr : ArenaTeamMgr} {id : ℕ} {t : ArenaTeam}
    (h : (bg.destroy mgr).getArenaTeamById id = some t) : mgr.getArenaTeamById id = some t := by
  unfold destroy at h
  split at h
  · exact ArenaTeamMgr.getArenaTeamById_of_removeTemp
      (ArenaTeamMgr.getArenaTeamById_of_removeTemp h)
  · exact h

theorem ArenaTeamMgr.removeTemp_frame (mgr : ArenaTeamMgr) (t : Option ArenaTeam) :
    (mgr.removeTemp t).NextTempArenaTeamId = mgr.NextTempArenaTeamId ∧
      (mgr.removeTemp t).allocated = mgr.allocated := by
  cases t with
  | none => exact ⟨rfl, rfl⟩
  | some t =>
    rw [removeTemp]
    split <;> exact ⟨rfl, rfl⟩

theorem Arena.destroy_frame (bg : Arena) (mgr : ArenaTeamMgr) :
    (bg.destroy mgr).NextTempArenaTeamId = mgr.NextTempArenaTeamId ∧
      (bg.destroy mgr).allocated = mgr.allocated := by
  unfold destroy
  split
  · simp only [ArenaTeamMgr.removeTemp_frame, and_self]
  · exact ⟨rfl, rfl⟩

theorem Arena.not_registered_destroy {bg : Arena} {mgr : ArenaTeamMgr}
    (hids : ∀ team, bg.ArenaTeamIds team = (bg.teams team).TeamId ∧
      TEMP_ARENA_TEAM_ID ≤ (bg.teams team).TeamId) (hclean : bg.cleansUp = true) (team : Team) :
    ¬ (bg.destroy mgr).Registered (bg.teams team) := by
  intro hreg
  have hold := get_of_destroy hreg
  -- whoever is found under the id has the id, and it is a temporary one
  have hremoved : ∀ mgr' : ArenaTeamMgr,
      (mgr'.removeTemp (mgr.getArenaTeamById (bg.ArenaTeamIds team))).getArenaTeamById
        (bg.teams team).TeamId = none := by
    intro mgr'
    rw [(hids team).1, hold]
    exact ArenaTeamMgr.getArenaTeamById_removeTemp_self (hids team).2
  simp only [ArenaTeamMgr.Registered, destroy, hclean, if_true] at hreg
  cases team with
  | ALLIANCE =>
    have hmid := ArenaTeamMgr.getArenaTeamById_of_removeTemp hreg
    rw [hremoved] at hmid
    exact absurd hmid (by simp)
  | HORDE =>
    rw [hremoved] at hreg
    exact absurd hreg (by simp)

/-! ## 8. What an update does -/

theorem SoloUpdate.battlegroundQueueUpdate_cases (u : SoloUpdate) (mgr : ArenaTeamMgr) :
    (u.selects = none ∧ (u.battlegroundQueueUpdate mgr).mgr = mgr ∧
      (u.battlegroundQueueUpdate mgr).created = none ∧
      (u.battlegroundQueueUpdate mgr).started = none) ∨
    ∃ s, u.selects = some s ∧ u.battlegroundQueueUpdate mgr = u.startMatch mgr s := by
  unfold selects battlegroundQueueUpdate
  dsimp only
  split
  · exact Or.inl ⟨rfl, rfl, rfl, rfl⟩
  · split
    · exact Or.inl ⟨rfl, rfl, rfl, rfl⟩
    · rcases u.checkSolo with - | ⟨_ | _, s⟩
      · exact Or.inl ⟨rfl, rfl, rfl, rfl⟩
      · exact Or.inl ⟨rfl, rfl, rfl, rfl⟩
      · exact Or.inr ⟨s, rfl, rfl⟩

theorem SoloUpdate.createNewBattleground_teams {u : SoloUpdate} {teams : Team → ArenaTeam}
    {arena : Arena} (h : u.createNewBattleground teams = some arena) : arena.teams = teams := by
  unfold createNewBattleground at h
  split at h
  all_goals cases h
  rfl

/-- **The two exits of the match**: the teams are registered in any case, and the arena is there
if the window lets them through and a battleground is created. -/
theorem SoloUpdate.startMatch_spec (u : SoloUpdate) (mgr : ArenaTeamMgr) (s : SoloState) :
    let r := u.createTempArenaTeamForQueue mgr s
    (u.startMatch mgr s).mgr = r.2 ∧ (u.startMatch mgr s).created = some r.1 ∧
      ((u.turnedAway r.1 = false ∧ (u.createNewBattleground r.1).isSome ∧
          ∃ arena, (u.startMatch mgr s).started = some arena ∧ arena.teams = r.1 ∧
            ∀ team, arena.ArenaTeamIds team = (r.1 team).TeamId) ∨
        (¬ (u.turnedAway r.1 = false ∧ (u.createNewBattleground r.1).isSome) ∧
          (u.startMatch mgr s).started = none)) := by
  dsimp only
  unfold startMatch
  cases haway : u.turnedAway (u.createTempArenaTeamForQueue mgr s).1 with
  | true => simp [haway]
  | false =>
    cases hnew : u.createNewBattleground (u.createTempArenaTeamForQueue mgr s).1 with
    | none => simp [haway, hnew]
    | some arena =>
      simp [haway, hnew, createNewBattleground_teams hnew]

/-! ## 9. The invariant of every run -/

/-- **What holds in every state**, whatever happens: the registry is keyed, every temporary team
was allocated, and every arena holds the ids of its two teams. -/
structure SoloWorld.Wf (w : SoloWorld) : Prop where
  keyed : w.mgr.Keyed
  temps : ∀ t ∈ w.temps, t.addr < w.mgr.allocated
  arenas : ∀ bg ∈ w.arenas, ∀ team, bg.ArenaTeamIds team = (bg.teams team).TeamId ∧
    TEMP_ARENA_TEAM_ID ≤ (bg.teams team).TeamId

/-- An arena changes its status and its rating only. -/
def Arena.SameTeams (bg bg' : Arena) : Prop :=
  bg'.teams = bg.teams ∧ bg'.ArenaTeamIds = bg.ArenaTeamIds

theorem Arena.sameTeams_checkStart (bg : Arena) (mgr : ArenaTeamMgr)
    (instanceIdOf : ObjectGuid → Option ℕ) (plrinarena : ℕ) :
    bg.SameTeams (bg.checkStartSolo2v2Arena mgr instanceIdOf plrinarena) := by
  unfold checkStartSolo2v2Arena
  split
  · exact ⟨rfl, rfl⟩
  · split
    · dsimp only
      split <;> exact ⟨rfl, rfl⟩
    · exact ⟨rfl, rfl⟩

theorem Arena.sameTeams_removeInvited (bg : Arena) : bg.SameTeams bg.removeInvited := by
  unfold removeInvited
  split <;> exact ⟨rfl, rfl⟩

theorem Arena.sameTeams_setStatus (bg : Arena) (status : BattlegroundStatus) :
    bg.SameTeams (bg.setStatus status) :=
  ⟨rfl, rfl⟩

theorem mem_modify {f : Arena → Arena} (hf : ∀ bg : Arena, bg.SameTeams (f bg)) {arenas : List Arena}
    {place : ℕ} {bg : Arena} (h : bg ∈ arenas.modify place f) :
    ∃ bg₀ ∈ arenas, bg₀.SameTeams bg := by
  obtain ⟨i, hi, rfl⟩ := List.mem_iff_getElem.mp h
  rw [List.length_modify] at hi
  refine ⟨arenas[i], List.getElem_mem hi, ?_⟩
  rw [List.getElem_modify]
  split
  · exact hf _
  · exact ⟨rfl, rfl⟩

theorem mem_modify_of_mem {f : Arena → Arena} (hf : ∀ bg : Arena, bg.SameTeams (f bg))
    {arenas : List Arena} {place : ℕ} {bg : Arena} (h : bg ∈ arenas) :
    ∃ bg' ∈ arenas.modify place f, bg.SameTeams bg' := by
  obtain ⟨i, hi, rfl⟩ := List.mem_iff_getElem.mp h
  refine ⟨(arenas.modify place f).get ⟨i, by rwa [List.length_modify]⟩, List.get_mem _ _, ?_⟩
  rw [List.get_eq_getElem, List.getElem_modify]
  split
  · exact hf _
  · exact ⟨rfl, rfl⟩

namespace SoloWorld

theorem wf_init : SoloWorld.init.Wf where
  keyed := ArenaTeamMgr.keyed_init
  temps := fun _ h => absurd h List.not_mem_nil
  arenas := fun _ h => absurd h List.not_mem_nil

variable {w : SoloWorld}

theorem Wf.modify (h : w.Wf) {f : Arena → Arena} (hf : ∀ bg : Arena, bg.SameTeams (f bg)) (place : ℕ) :
    SoloWorld.Wf { w with arenas := w.arenas.modify place f } where
  keyed := h.keyed
  temps := h.temps
  arenas := by
    intro bg hbg team
    obtain ⟨bg₀, hbg₀, hteams, hids⟩ := mem_modify hf hbg
    rw [hteams, hids]
    exact h.arenas bg₀ hbg₀ team

theorem Wf.step (h : w.Wf) (e : SoloEvent) : (w.step e).Wf := by
  cases e with
  | update u =>
    rcases u.battlegroundQueueUpdate_cases w.mgr with
      ⟨-, hmgr, hcreated, hstarted⟩ | ⟨s, -, hrun⟩
    · simpa [SoloWorld.step, hmgr, hcreated, hstarted] using h
    · obtain ⟨hmgr, hcreated, hstarted⟩ := u.startMatch_spec w.mgr s
      have htemps := u.tempsOf_createTempArenaTeamForQueue h.keyed s
      refine ⟨?_, ?_, ?_⟩
      · simp only [SoloWorld.step, hrun, hmgr]
        exact htemps.keyed
      · simp only [SoloWorld.step, hrun, hmgr, hcreated]
        intro t ht
        rcases List.mem_append.mp ht with ht | ht
        · have haddr := htemps.addr .ALLIANCE
          exact (h.temps t ht).trans (haddr.1.trans_lt haddr.2)
        · rcases List.mem_pair.mp ht with rfl | rfl
          · exact (htemps.addr _).2
          · exact (htemps.addr _).2
      · simp only [SoloWorld.step, hrun]
        intro bg hbg team
        rcases List.mem_append.mp hbg with hbg | hbg
        · exact h.arenas bg hbg team
        · rcases hstarted with ⟨-, -, arena, harena, hteams, hids⟩ | ⟨-, hnone⟩
          · rw [harena, Option.toList_some, List.mem_singleton] at hbg
            rw [hbg, hteams]
            exact ⟨hids team, htemps.temp team⟩
          · rw [hnone] at hbg
            exact absurd hbg List.not_mem_nil
  | checkStart place instanceIdOf plrinarena =>
    exact h.modify (fun bg => bg.sameTeams_checkStart _ _ _) place
  | inviteExpired place => exact h.modify Arena.sameTeams_removeInvited place
  | setStatus place status => exact h.modify (fun bg => bg.sameTeams_setStatus status) place
  | destroy place =>
    simp only [SoloWorld.step]
    split
    · exact h
    · next bg _ =>
      obtain ⟨hnext, halloc⟩ := bg.destroy_frame w.mgr
      refine ⟨h.keyed.of_sub (fun _ _ => bg.get_of_destroy) hnext halloc, ?_, ?_⟩
      · intro t ht
        rw [halloc]
        exact h.temps t ht
      · exact fun bg' hbg' => h.arenas bg' (List.mem_of_mem_eraseIdx hbg')
  | addArenaTeam t =>
    exact ⟨h.keyed.addArenaTeam rfl h.keyed.next, fun t' ht' => Nat.lt_succ_of_lt (h.temps t' ht'),
      h.arenas⟩
  | disband id =>
    exact ⟨h.keyed.of_sub (fun _ _ => ArenaTeamMgr.getArenaTeamById_of_removeArenaTeam) rfl rfl,
      h.temps, h.arenas⟩

/-! ## 10. The property -/

/-- **An update does what it should exactly if it does not leave after the teams are
registered.**  Leaving shows in the registry: the HORDE team is an object that was not there. -/
theorem Wf.keeps_update_iff (h : w.Wf) (u : SoloUpdate) :
    w.Keeps (.update u) ↔ w.Meets (.update u) := by
  simp only [Keeps, Meets]
  rcases u.battlegroundQueueUpdate_cases w.mgr with
    ⟨hsel, hmgr, hcreated, hstarted⟩ | ⟨s, hsel, hrun⟩
  · simp [hsel, hmgr, hcreated]
  · obtain ⟨hmgr, hcreated, hstarted⟩ := u.startMatch_spec w.mgr s
    have htemps := u.tempsOf_createTempArenaTeamForQueue h.keyed s
    rw [hsel, hrun]
    rcases hstarted with ⟨haway, hnew, arena, harena, hteams, hids⟩ | ⟨hleft, hnone⟩
    · refine iff_of_true ⟨fun hnone => ?_, fun teams hteams' team _ => ?_⟩ ?_
      · exact absurd (harena.symm.trans hnone) (by simp)
      · obtain rfl := Option.some.inj (hcreated.symm.trans hteams')
        exact ⟨arena, harena, by rw [hteams], hids team⟩
      · rintro s' hs'
        obtain rfl := Option.some.inj hs'
        exact ⟨haway, hnew⟩
    · refine iff_of_false (fun hkeeps => ?_) fun hmeets => hleft (hmeets s rfl)
      have hsame : w.mgr.ArenaTeamStore = (u.createTempArenaTeamForQueue w.mgr s).2.ArenaTeamStore :=
        (hkeeps.1 hnone).symm.trans (congrArg _ hmgr)
      have hold := (congrFun hsame _).trans htemps.horde
      exact absurd (h.keyed.allocated _ _ hold) (Nat.not_lt.mpr (htemps.addr .HORDE).1)

/-- **An arena takes its teams with it exactly if its destructor cleans up**, unless they are gone
already. -/
theorem Wf.keeps_destroy_iff (h : w.Wf) (place : ℕ) :
    w.Keeps (.destroy place) ↔ w.Meets (.destroy place) := by
  refine forall_congr' fun bg => forall_congr' fun hbg => ?_
  have hmem := List.mem_of_getElem? hbg
  cases hclean : bg.cleansUp with
  | true => simpa using Arena.not_registered_destroy (h.arenas bg hmem) hclean
  | false => simp [Arena.destroy, hclean]

theorem Wf.keeps_iff (h : w.Wf) (e : SoloEvent) : w.Keeps e ↔ w.Meets e := by
  cases e with
  | update u => exact h.keeps_update_iff u
  | destroy place => exact h.keeps_destroy_iff place
  | _ => exact Iff.rfl

theorem Tidy.modify (h : w.Tidy) {f : Arena → Arena} (hf : ∀ bg : Arena, bg.SameTeams (f bg))
    (place : ℕ) : SoloWorld.Tidy { w with arenas := w.arenas.modify place f } := by
  intro t ht hreg
  obtain ⟨bg, hbg, team, hteam, hid⟩ := h t ht hreg
  obtain ⟨bg', hbg', hteams, hids⟩ := mem_modify_of_mem hf hbg
  exact ⟨bg', hbg', team, by rw [hteams, hteam], by rw [hids, hid]⟩

theorem Tidy.step (hwf : w.Wf) (h : w.Tidy) {e : SoloEvent} (hmeets : w.Meets e) :
    (w.step e).Tidy := by
  cases e with
  | update u =>
    rcases u.battlegroundQueueUpdate_cases w.mgr with
      ⟨-, hmgr, hcreated, hstarted⟩ | ⟨s, hsel, hrun⟩
    · simpa [SoloWorld.step, hmgr, hcreated, hstarted] using h
    · obtain ⟨hmgr, hcreated, hstarted⟩ := u.startMatch_spec w.mgr s
      have htemps := u.tempsOf_createTempArenaTeamForQueue hwf.keyed s
      rcases hstarted with ⟨-, -, arena, harena, hteams, hids⟩ | ⟨hleft, -⟩
      · simp only [SoloWorld.step, hrun, hmgr, hcreated, harena, Tidy]
        intro t ht hreg
        have hnew : (∃ team, (u.createTempArenaTeamForQueue w.mgr s).1 team = t) →
            ∃ bg ∈ w.arenas ++ (some arena).toList, ∃ team,
              bg.teams team = t ∧ bg.ArenaTeamIds team = t.TeamId := by
          rintro ⟨team, rfl⟩
          exact ⟨arena, by simp, team, by rw [hteams], hids team⟩
        rcases htemps.get _ _ hreg with hold | hteam
        · rcases List.mem_append.mp ht with ht | ht
          · obtain ⟨bg, hbg, hof⟩ := h t ht hold
            exact ⟨bg, List.mem_append_left _ hbg, hof⟩
          · rcases List.mem_pair.mp ht with rfl | rfl
            · exact hnew ⟨_, rfl⟩
            · exact hnew ⟨_, rfl⟩
        · exact hnew hteam
      · exact absurd (hmeets s hsel) hleft
  | checkStart place instanceIdOf plrinarena =>
    exact h.modify (fun bg => bg.sameTeams_checkStart _ _ _) place
  | inviteExpired place => exact h.modify Arena.sameTeams_removeInvited place
  | setStatus place status => exact h.modify (fun bg => bg.sameTeams_setStatus status) place
  | destroy place =>
    have hkeeps := (hwf.keeps_destroy_iff place).mpr hmeets
    simp only [SoloWorld.step]
    split
    · exact h
    · next bg hbg =>
      intro t ht hreg
      obtain ⟨bg', hbg', team, hteam, hid⟩ := h t ht (bg.get_of_destroy hreg)
      refine ⟨bg', ?_, team, hteam, hid⟩
      obtain ⟨i, hi, hget⟩ := List.mem_iff_getElem.mp hbg'
      refine List.mem_eraseIdx_iff_getElem.mpr ⟨i, hi, ?_, hget⟩
      -- the deleted arena itself no longer has a registered team
      rintro rfl
      have hsame : bg = bg' :=
        Option.some.inj (hbg.symm.trans ((List.getElem?_eq_getElem hi).trans (congrArg some hget)))
      refine hkeeps bg hbg team ?_
      rw [hsame, hteam]
      exact hsame ▸ hreg
  | addArenaTeam t =>
    intro t' ht' hreg
    refine h t' ht' ?_
    have hget := (@ArenaTeamMgr.getArenaTeamById_addArenaTeam w.mgr
      { t with addr := w.mgr.allocated } t'.TeamId).symm.trans hreg
    split at hget
    · have haddr := hwf.temps t' ht'
      rw [← Option.some.inj hget] at haddr
      exact absurd haddr (Nat.lt_irrefl _)
    · exact hget
  | disband id =>
    exact fun t ht hreg => h t ht (ArenaTeamMgr.getArenaTeamById_of_removeArenaTeam hreg)

theorem tidy_init : SoloWorld.init.Tidy := fun _ h => absurd h List.not_mem_nil

end SoloWorld

/-- **The life of the temporary teams**: in a run from the start of the server, every event does
what it should and no team is ever left behind exactly if every event meets the condition: no
update leaves after it has selected its players, and no arena is deleted that is unrated while
its teams are registered. -/
theorem tempArenaTeams_tidy_iff (events : List SoloEvent) :
    (Steps SoloWorld.step SoloWorld.Keeps SoloWorld.init events ∧
        States SoloWorld.step SoloWorld.Tidy SoloWorld.init events) ↔
      Steps SoloWorld.step SoloWorld.Meets SoloWorld.init events := by
  have hcongr : Steps SoloWorld.step SoloWorld.Keeps SoloWorld.init events ↔
      Steps SoloWorld.step SoloWorld.Meets SoloWorld.init events :=
    Steps.congr (I := SoloWorld.Wf) (fun _ e h => h.step e) (fun _ e h => h.keeps_iff e)
      SoloWorld.wf_init events
  refine ⟨fun h => hcongr.mp h.1, fun h => ⟨hcongr.mpr h, ?_⟩⟩
  refine States.imp (fun _ hw => hw.2) (States.of_steps (I := fun w => w.Wf ∧ w.Tidy) ?_
    ⟨SoloWorld.wf_init, SoloWorld.tidy_init⟩ h)
  exact fun _ e hw hmeets => ⟨hw.1.step e, hw.2.step hw.1 hmeets⟩

/-! ## 11. A team that is left behind -/

def sixQueued : SoloQueue where
  heap := fun g => { Players := OrderedSet.singleton g, Team := if g < 4 then .ALLIANCE else .HORDE }
  queued := fun
    | .ALLIANCE => [1, 2, 3]
    | .HORDE => [4, 5, 6]
  single := fun _ g _ => ⟨g, rfl⟩
  team_eq := by
    intro team g hg
    cases team <;> fin_cases hg <;> rfl
  nodup := by intro team; cases team <;> decide
  distinct := by
    intro _ _ g g' _ _ hP
    exact List.singleton_inj.mp (congrArg OrderedSet.elems hP)

/-- Player 4 plays for the real team 7, whose rating is 1500; the others have none. -/
def ratedHorde : SoloUpdate where
  env := ⟨false, [], fun _ => some ⟨fun _ => false⟩⟩
  getArenaTeamId := fun guid => if guid = 4 then 7 else 0
  newMember := ⟨0, 0, 0, 0, 0, 0, 0⟩
  findConnectedPlayer := fun _ => true
  maxRatingDifference := 150
  dynamicMMRindex := 0
  queue := sixQueued
  m_SelectionPools := Pools.init
  soloTeam := fun _ _ => false
  othersQueued := false
  bracketFound := true
  randomBG := .BATTLEGROUND_NA
  templateFound := true
  instanceId := 1

def teamOfFour : ArenaTeam :=
  ⟨0, 7, ARENA_TEAM_5v5, "seven", 4, ⟨1500, 0, 0, 0, 0⟩, [⟨4, 0, 0, 0, 0, 1500, 1500⟩]⟩

/-- The alliance team is outside the window: the update starts nothing, and both temporary teams
stay in the registry. -/
theorem turned_away_stays : ¬ (Steps SoloWorld.step SoloWorld.Keeps SoloWorld.init
      [.addArenaTeam teamOfFour, .update ratedHorde] ∧
    States SoloWorld.step SoloWorld.Tidy SoloWorld.init
      [.addArenaTeam teamOfFour, .update ratedHorde]) := by
  rintro ⟨⟨-, ⟨hsame, -⟩, -⟩, -⟩
  have hnone : (ratedHorde.battlegroundQueueUpdate
      (SoloWorld.init.step (.addArenaTeam teamOfFour)).mgr).started = none :=
    Option.isNone_iff_eq_none.mp (by decide)
  have hstore := congrFun (hsame hnone) TEMP_ARENA_TEAM_ID
  revert hstore
  decide

/-- Without the real team the ratings agree: the arena starts, and takes both teams with it. -/
example :
    let w := SoloWorld.init.step (.update { ratedHorde with getArenaTeamId := fun _ => 0 })
    w.temps.map ArenaTeam.TeamId = [0xFFF00000, 0xFFF00001] ∧
      (∀ t ∈ w.temps, w.mgr.Registered t) ∧
      ∀ t ∈ w.temps, ¬ (w.step (.destroy 0)).mgr.Registered t := by
  decide

theorem ratedHorde_atPlr :
    (ratedHorde.atPlr (ratedHorde.selects.get (by decide)) .HORDE).length =
      PLAYERS_COUNT_PER_TEAM :=
  (SoloUpdate.atPlr_complete (Option.some_get _).symm .HORDE).2

end FunPvp.Battleground
