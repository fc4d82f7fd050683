/-
# The lists of a battleground queue

A `BattlegroundQueue` keeps its groups in `m_QueuedGroups`, five lists for each bracket, and in
`m_QueuedPlayers` the group of every queued player. This module is the code that changes either:

* `AddGroup` makes a group and puts it at the end of a list;
* `RemovePlayer` searches all lists for the player's group, and takes the group with it when it
  was the last player, or the whole team of a rated group, one recursive call for each player;
* `CheckPremadeMatch`, `CheckSkirmishForSameFaction`, `CheckSolo2v2Arena` and the rated arena of
  `BattlegroundQueueUpdate` move groups from list to list.

What they keep is the subject of `Battleground.GroupQueueInv`.
-/
import FunPvp.Battleground.RatingWindow
import FunPvp.Battleground.NormalMatch
import FunPvp.Battleground.SoloArena
import FunPvp.Battleground.CrossFaction
import FunPvp.Lib.Placement

namespace FunPvp.Battleground

open FunPvp.Lib

/-! ## 1. The queue -/

inductive BattlegroundQueueGroupTypes
  | BG_QUEUE_PREMADE_ALLIANCE
  | BG_QUEUE_PREMADE_HORDE
  | BG_QUEUE_NORMAL_ALLIANCE
  | BG_QUEUE_NORMAL_HORDE
  | BG_QUEUE_MIXED
deriving DecidableEq

open BattlegroundQueueGroupTypes

/-- `BG_QUEUE_PREMADE_ALLIANCE + i`. -/
def premade : Team → BattlegroundQueueGroupTypes
  | .ALLIANCE => BG_QUEUE_PREMADE_ALLIANCE
  | .HORDE => BG_QUEUE_PREMADE_HORDE

/-- `BG_QUEUE_NORMAL_ALLIANCE + i`. -/
def normal : Team → BattlegroundQueueGroupTypes
  | .ALLIANCE => BG_QUEUE_NORMAL_ALLIANCE
  | .HORDE => BG_QUEUE_NORMAL_HORDE

@[simp] theorem premade_inj {t t' : Team} : premade t = premade t' ↔ t = t' := by
  cases t <;> cases t' <;> simp [premade]

@[simp] theorem normal_inj {t t' : Team} : normal t = normal t' ↔ t = t' := by
  cases t <;> cases t' <;> simp [normal]

@[simp] theorem premade_ne_normal {t t' : Team} : premade t ≠ normal t' := by
  cases t <;> cases t' <;> simp [premade, normal]

abbrev BattlegroundBracketId := Fin 16

theorem topBracket_lt : 14 < 16 := by decide

/-- `m_QueuedGroups`, the two-dimensional array of lists. -/
abbrev QueuedGroups := BattlegroundBracketId × BattlegroundQueueGroupTypes → List GroupPtr

/-- The queue. `live` are the groups between `new` and `delete`; of a `PlayerQueueInfo` only its
`GroupInfo` is kept. -/
structure BattlegroundQueue where
  heap : GroupHeap
  live : Finset GroupPtr
  m_QueuedGroups : QueuedGroups
  m_QueuedPlayers : ObjectGuid → Option GroupPtr
  m_SelectionPools : Pools

namespace BattlegroundQueue

def new (heap : GroupHeap) : BattlegroundQueue where
  heap := heap
  live := ∅
  m_QueuedGroups := fun _ => []
  m_QueuedPlayers := fun _ => none
  m_SelectionPools := Pools.init

/-! ## 2. `AddGroup` -/

/-- The arguments of `AddGroup`, and what it asks the leader for. `grp` holds `GetSource()` of
each reference of the leader's group, if he joins with it. -/
structure Join where
  leader : ObjectGuid
  leaderTeam : Team
  skirmishJoined : Bool
  grp : Option (List (Option ObjectGuid))
  bracketId : BattlegroundBracketId
  ArenaType : ℕ
  isRated : Bool
  isPremade : Bool
  MatchmakerRating : UInt32
  arenateamid : ℕ

/-- The players that are queued: the members of the group, or the leader alone. -/
def Join.members (join : Join) : List ObjectGuid :=
  match join.grp with
  | some refs => refs.filterMap id
  | none => [join.leader]

/-- "compute index (if group is premade or joined a rated match) to queues". -/
def Join.index (join : Join) (crossFactionEnabled : Bool) : BattlegroundQueueGroupTypes :=
  if crossFactionEnabled = true ∧ join.ArenaType = 0 then BG_QUEUE_MIXED
  else if join.isRated = false ∧ join.isPremade = false then normal join.leaderTeam
  else premade join.leaderTeam

/-- One player of the group: his entry in `m_QueuedPlayers`, and the entry of `ginfo->Players`
that refers to it. -/
def addPlayer (ginfo : GroupPtr) (q : BattlegroundQueue) (guid : ObjectGuid) :
    BattlegroundQueue :=
  { q with
    m_QueuedPlayers := Function.update q.m_QueuedPlayers guid (some ginfo)
    heap := Function.update q.heap ginfo
      { q.heap ginfo with Players := (q.heap ginfo).Players.insert guid } }

def newGroup (q : BattlegroundQueue) (getMSTime : UInt32) (ginfo : GroupPtr) (join : Join) :
    BattlegroundQueue :=
  { q with
    live := insert ginfo q.live
    heap := Function.update q.heap ginfo
      { Players := OrderedSet.empty
        Team := join.leaderTeam
        ArenaTeamId := join.arenateamid
        IsRated := join.isRated
        IsInvitedToBGInstanceGUID := 0
        JoinTime := getMSTime
        ArenaMatchmakerRating := join.MatchmakerRating
        IsCustomSkirmish := join.skirmishJoined } }

/-- `AddGroup`; `ginfo` is the pointer `new` returns. -/
def addGroup (crossFactionEnabled : Bool) (getMSTime : UInt32) (q : BattlegroundQueue)
    (ginfo : GroupPtr) (join : Join) : BattlegroundQueue :=
  let q := join.members.foldl (addPlayer ginfo) (q.newGroup getMSTime ginfo join)
  { q with
    m_QueuedGroups :=
      putIn .back q.m_QueuedGroups (join.bracketId, join.index crossFactionEnabled) ginfo }

/-! ## 3. `RemovePlayer` -/

def groupTypes : List BattlegroundQueueGroupTypes :=
  [BG_QUEUE_PREMADE_ALLIANCE, BG_QUEUE_PREMADE_HORDE, BG_QUEUE_NORMAL_ALLIANCE,
    BG_QUEUE_NORMAL_HORDE, BG_QUEUE_MIXED]

/-- The search of `RemovePlayer`: brackets from the last to the first, ending with the first one
that has the group; inside a bracket all lists are looked at, so the last match counts. -/
def findGroup (lists : QueuedGroups) (group : GroupPtr) :
    Option (BattlegroundBracketId × BattlegroundQueueGroupTypes) :=
  (List.finRange 16).reverse.findSome? fun bracket_id_tmp =>
    groupTypes.foldl
      (fun found j => if group ∈ lists (bracket_id_tmp, j) then some (bracket_id_tmp, j) else found)
      none

/-- "remove player from group" and "remove player queue info". -/
def dropPlayer (q : BattlegroundQueue) (group : GroupPtr) (guid : ObjectGuid) :
    BattlegroundQueue :=
  { q with
    heap := Function.update q.heap group
      { q.heap group with Players := (q.heap group).Players.erase guid }
    m_QueuedPlayers := Function.update q.m_QueuedPlayers guid none }

def deleteGroup (q : BattlegroundQueue)
    (place : BattlegroundBracketId × BattlegroundQueueGroupTypes) (group : GroupPtr) :
    BattlegroundQueue :=
  { q with
    live := q.live.erase group
    m_QueuedGroups := takeOut q.m_QueuedGroups place group }

/-- `RemovePlayer`; `none` when the fuel, one unit for each call, runs out. What it does besides
(invited counts, rating losses, packets) does not touch the queue. -/
def removePlayer : ℕ → BattlegroundQueue → ObjectGuid → Option BattlegroundQueue
  | 0, _, _ => none
  | fuel + 1, q, guid =>
    match q.m_QueuedPlayers guid with
    | none => some q
    | some group =>
      match findGroup q.m_QueuedGroups group with
      | none => some q
      | some place =>
        let q := q.dropPlayer group guid
        match (q.heap group).Players.elems with
        | [] => some (q.deleteGroup place group)
        | next :: _ =>
          if (q.heap group).uninvited ∧ (q.heap group).IsRated then removePlayer fuel q next
          else some q

/-! ## 4. `CheckPremadeMatch` -/

/-- "move group from Premade queue to normal queue": the first group of one list. -/
def moveExpired (bracket_id : BattlegroundBracketId) (time_before : UInt32)
    (MinPlayersPerTeam : ℕ) (q : BattlegroundQueue) (i : Team) : BattlegroundQueue :=
  match q.m_QueuedGroups (bracket_id, premade i) with
  | [] => q
  | ginfo :: _ =>
    if (q.heap ginfo).uninvited ∧ ((q.heap ginfo).JoinTime < time_before ∨
        (q.heap ginfo).Players.size < MinPlayersPerTeam) then
      { q with
        m_QueuedGroups :=
          moveTo .front q.m_QueuedGroups (bracket_id, premade i) (bracket_id, normal i) ginfo }
    else q

/-- The pools of a premade match: the two groups, then others up to the smaller pool. -/
def premadePools (q : BattlegroundQueue) (bracket_id : BattlegroundBracketId)
    (MaxPlayersPerTeam : ℕ) (first : Team → GroupPtr) : Pools :=
  let pools := fun i => ((q.m_SelectionPools i).addGroup q.heap (first i) MaxPlayersPerTeam).2
  let maxPlayers := min (pools .ALLIANCE).PlayerCount (pools .HORDE).PlayerCount
  fun i => balanceScan q.heap maxPlayers (q.m_QueuedGroups (bracket_id, normal i)) (pools i)

/-- `CheckPremadeMatch`; `waitForMatch` is `CONFIG_BATTLEGROUND_PREMADE_GROUP_WAIT_FOR_MATCH`. -/
def checkPremadeMatch (getMSTime waitForMatch : UInt32) (q : BattlegroundQueue)
    (bracket_id : BattlegroundBracketId) (MinPlayersPerTeam MaxPlayersPerTeam : ℕ) :
    Bool × BattlegroundQueue :=
  let group := fun i =>
    (q.m_QueuedGroups (bracket_id, premade i)).find? fun g => (q.heap g).uninvited
  match group .ALLIANCE, group .HORDE with
  | some ali_group, some horde_group =>
    let first : Team → GroupPtr := fun
      | .ALLIANCE => ali_group
      | .HORDE => horde_group
    (true, { q with m_SelectionPools := q.premadePools bracket_id MaxPlayersPerTeam first })
  | _, _ =>
    (false, [Team.ALLIANCE, .HORDE].foldl
      (moveExpired bracket_id (getMSTime - waitForMatch) MinPlayersPerTeam) q)

/-! ## 5. `CheckSkirmishForSameFaction` -/

/-- "remove team from old queue": the search begins behind `itr_team`. -/
def eraseAfter (itr_team g : GroupPtr) : List GroupPtr → List GroupPtr
  | [] => []
  | x :: l => if x = itr_team then x :: l.erase g else x :: eraseAfter itr_team g l

/-- The body of the last loop: a selected group changes sides. -/
def switchTeam (bracket_id : BattlegroundBracketId) (teamIndex : Team) (itr_team : GroupPtr)
    (q : BattlegroundQueue) (g : GroupPtr) : BattlegroundQueue :=
  let lists := putIn .front q.m_QueuedGroups (bracket_id, normal teamIndex.other) g
  { q with
    heap := q.heap.setTeam g teamIndex.other
    m_QueuedGroups := Function.update lists (bracket_id, normal teamIndex)
      (eraseAfter itr_team g (lists (bracket_id, normal teamIndex))) }

def skirmishTeam (q : BattlegroundQueue) (minPlayersPerTeam : ℕ) : Team :=
  if (q.m_SelectionPools .HORDE).PlayerCount = minPlayersPerTeam then .HORDE else .ALLIANCE

/-- `CheckSkirmishForSameFaction`; `none` when `back()` is called on an empty pool. -/
def checkSkirmishForSameFaction (q : BattlegroundQueue) (bracket_id : BattlegroundBracketId)
    (minPlayersPerTeam : ℕ) : Option (Bool × BattlegroundQueue) :=
  if (q.m_SelectionPools .ALLIANCE).PlayerCount < minPlayersPerTeam ∧
      (q.m_SelectionPools .HORDE).PlayerCount < minPlayersPerTeam then
    some (false, q)
  else
    let teamIndex := q.skirmishTeam minPlayersPerTeam
    let init := Function.update q.m_SelectionPools teamIndex.other SelectionPool.init
    match (q.m_SelectionPools teamIndex).SelectedGroups.getLast? with
    | none => none
    | some ginfo =>
      match (q.m_QueuedGroups (bracket_id, normal teamIndex)).dropWhile (· ≠ ginfo) with
      | [] => some (false, { q with m_SelectionPools := init })
      | _ :: itr_team2 =>
        let pool := balanceScan q.heap minPlayersPerTeam itr_team2 SelectionPool.init
        let q := { q with m_SelectionPools := Function.update init teamIndex.other pool }
        if pool.PlayerCount ≠ minPlayersPerTeam then some (false, q)
        else some (true, pool.SelectedGroups.foldl (switchTeam bracket_id teamIndex ginfo) q)

/-! ## 6. `CheckSolo2v2Arena` -/

def toSolo (q : BattlegroundQueue) (bracket_id : BattlegroundBracketId) : SoloState where
  heap := q.heap
  m_QueuedGroups := fun i => q.m_QueuedGroups (bracket_id, premade i)
  m_SelectionPools := q.m_SelectionPools
  soloTeam := fun _ _ => false

def ofSolo (q : BattlegroundQueue) (bracket_id : BattlegroundBracketId) (s : SoloState) :
    BattlegroundQueue :=
  { q with
    heap := s.heap
    m_QueuedGroups := Function.update
      (Function.update q.m_QueuedGroups (bracket_id, premade .ALLIANCE) (s.m_QueuedGroups .ALLIANCE))
      (bracket_id, premade .HORDE) (s.m_QueuedGroups .HORDE)
    m_SelectionPools := s.m_SelectionPools }

def checkSolo (env : SoloEnv) (fuel : ℕ) (q : BattlegroundQueue)
    (bracket_id : BattlegroundBracketId) : Option (Bool × BattlegroundQueue) :=
  (checkSolo2v2Arena env fuel (q.toSolo bracket_id)).map fun r => (r.1, q.ofSolo bracket_id r.2)

/-! ## 7. The rated arena of `BattlegroundQueueUpdate` -/

/-- What the rated branch reads from outside the queue. -/
structure RatedEnv where
  /-- `GetMaxRatingDifference()`. -/
  maxRatingDifference : UInt32
  dynamicMMRindex : UInt8
  getMSTime : UInt32
  /-- `GetRatingDiscardTimer()`. -/
  ratingDiscardTimer : UInt32
  /-- The instance id of the arena `CreateNewBattleground` makes, if it makes one. -/
  createNewBattleground : Option ℕ
  findConnectedPlayer : ObjectGuid → Bool

/-- The rating of the latest team, or with 0 that of the team that waits longest; nothing when
the queues are empty. -/
def referenceRating (q : BattlegroundQueue) (bracket_id : BattlegroundBracketId)
    (arenaRating : UInt32) : Option UInt32 :=
  if arenaRating ≠ 0 then some arenaRating
  else
    match (q.m_QueuedGroups (bracket_id, premade .ALLIANCE)).head?,
      (q.m_QueuedGroups (bracket_id, premade .HORDE)).head? with
    | none, none => none
    | some front1, none => some (q.heap front1).ArenaMatchmakerRating
    | none, some front2 => some (q.heap front2).ArenaMatchmakerRating
    | some front1, some front2 =>
      if (q.heap front1).JoinTime < (q.heap front2).JoinTime then
        some (q.heap front1).ArenaMatchmakerRating
      else some (q.heap front2).ArenaMatchmakerRating

def RatedEnv.accepts (env : RatedEnv) (arenaRating : UInt32) (ginfo : GroupQueueInfo) : Bool :=
  ginfo.uninvited &&
    (teamWindowAccepts arenaRating env.maxRatingDifference env.dynamicMMRindex
        ginfo.ArenaMatchmakerRating ||
      decide (ginfo.JoinTime.toInt32 < (env.getMSTime - env.ratingDiscardTimer).toInt32))

/-- `itr_teams[0]`, or `itr_teams[1]`, of the first loop. -/
def firstTeam (env : RatedEnv) (arenaRating : UInt32) (q : BattlegroundQueue)
    (bracket_id : BattlegroundBracketId) (i : Team) : Option GroupPtr :=
  (q.m_QueuedGroups (bracket_id, premade i)).find? fun g => env.accepts arenaRating (q.heap g)

/-- `itr_teams[1]` of the second loop, which begins at `itr_teams[0]`. -/
def secondTeam (env : RatedEnv) (arenaRating : UInt32) (q : BattlegroundQueue)
    (bracket_id : BattlegroundBracketId) (team : Team) (itr_team : GroupPtr) : Option GroupPtr :=
  ((q.m_QueuedGroups (bracket_id, premade team)).dropWhile (· ≠ itr_team)).find? fun g =>
    env.accepts arenaRating (q.heap g) &&
      decide ((q.heap itr_team).ArenaTeamId ≠ (q.heap g).ArenaTeamId)

/-- The two teams that play, `itr_teams[TEAM_ALLIANCE]` first. -/
def findTeams (env : RatedEnv) (arenaRating : UInt32) (q : BattlegroundQueue)
    (bracket_id : BattlegroundBracketId) : Option (GroupPtr × GroupPtr) :=
  match q.firstTeam env arenaRating bracket_id .ALLIANCE,
    q.firstTeam env arenaRating bracket_id .HORDE with
  | some g, some g' => some (g, g')
  | some g, none => (q.secondTeam env arenaRating bracket_id .ALLIANCE g).map (g, ·)
  | none, some g => (q.secondTeam env arenaRating bracket_id .HORDE g).map (g, ·)
  | none, none => none

/-- "we must move team if we changed its faction to another faction queue". -/
def moveToSide (q : BattlegroundQueue) (bracket_id : BattlegroundBracketId) (ginfo : GroupPtr)
    (side : Team) : BattlegroundQueue :=
  if (q.heap ginfo).Team ≠ side then
    { q with
      m_QueuedGroups := moveTo .front q.m_QueuedGroups (bracket_id, premade side.other)
        (bracket_id, premade side) ginfo }
  else q

def startArena (findConnectedPlayer : ObjectGuid → Bool) (instanceId : ℕ) (q : BattlegroundQueue)
    (bracket_id : BattlegroundBracketId) (aTeam hTeam : GroupPtr) : BattlegroundQueue :=
  let q := (q.moveToSide bracket_id aTeam .ALLIANCE).moveToSide bracket_id hTeam .HORDE
  let s := inviteGroupToBG findConnectedPlayer instanceId ⟨q.heap, fun _ => 0⟩ aTeam .ALLIANCE
  let s := inviteGroupToBG findConnectedPlayer instanceId s hTeam .HORDE
  { q with heap := s.heap }

def ratedArenaUpdate (env : RatedEnv) (q : BattlegroundQueue)
    (bracket_id : BattlegroundBracketId) (arenaRating : UInt32) : BattlegroundQueue :=
  match q.referenceRating bracket_id arenaRating with
  | none => q
  | some arenaRating =>
    match q.findTeams env arenaRating bracket_id, env.createNewBattleground with
    | some (aTeam, hTeam), some instanceId =>
      q.startArena env.findConnectedPlayer instanceId bracket_id aTeam hTeam
    | _, _ => q

end BattlegroundQueue

end FunPvp.Battleground
