/-
# The queue of the dungeon finder

The guid of a player, or of a group that joined as one, waits in `newToQueueStore` until
`FindGroups` has looked for partners for it, and in `currentQueueStore` from then on. What it
selected is its queue data. How well a list of guids goes together is cached under the set of
them; a list that makes a full group becomes a proposal, and its guids leave the queue.

The queue asks the `LFGMgr` for the states of its guids and adds its proposals to the
`ProposalsStore`, so both are one state here. Of a proposal the leader, the dungeon and the times
are left out, which only the making of the new group and the clock look at.
-/
import FunPvp.DungeonFinding.RoleCheck

namespace FunPvp.DungeonFinding

open FunPvp.Groups (ObjectGuid MAXGROUPSIZE)

abbrev GuidList := List ObjectGuid

def isGroup (guid : ObjectGuid) : Bool := (guid >>> 48) &&& 0xFFFF == 0x1F50

/-- The values under `LFG_COMPATIBLES_WITH_LESS_PLAYERS` stand for lists that are not
compatible. -/
inductive LfgCompatibility
  | LFG_COMPATIBILITY_PENDING
  | LFG_INCOMPATIBLES_WRONG_GROUP_SIZE
  | LFG_INCOMPATIBLES_TOO_MUCH_PLAYERS
  | LFG_INCOMPATIBLES_MULTIPLE_LFG_GROUPS
  | LFG_INCOMPATIBLES_HAS_IGNORES
  | LFG_INCOMPATIBLES_NO_ROLES
  | LFG_INCOMPATIBLES_NO_DUNGEONS
  | LFG_COMPATIBLES_WITH_LESS_PLAYERS
  | LFG_COMPATIBLES_BAD_STATES
  | LFG_COMPATIBLES_MATCH
deriving DecidableEq

open LfgCompatibility

instance : LT LfgCompatibility := ⟨fun a b => a.ctorIdx < b.ctorIdx⟩

instance (a b : LfgCompatibility) : Decidable (a < b) :=
  inferInstanceAs (Decidable (a.ctorIdx < b.ctorIdx))

inductive LfgState
  | LFG_STATE_NONE
  | LFG_STATE_ROLECHECK
  | LFG_STATE_QUEUED
  | LFG_STATE_PROPOSAL
  | LFG_STATE_DUNGEON
  | LFG_STATE_FINISHED_DUNGEON
  | LFG_STATE_RAIDBROWSER
deriving DecidableEq

open LfgState

inductive LfgAnswer
  | LFG_ANSWER_PENDING
  | LFG_ANSWER_DENY
  | LFG_ANSWER_AGREE
deriving DecidableEq

open LfgAnswer

inductive LfgRoleCheckState
  | LFG_ROLECHECK_DEFAULT
  | LFG_ROLECHECK_FINISHED
  | LFG_ROLECHECK_INITIALITING
  | LFG_ROLECHECK_MISSING_ROLE
  | LFG_ROLECHECK_WRONG_ROLES
  | LFG_ROLECHECK_ABORTED
  | LFG_ROLECHECK_NO_ROLE
deriving DecidableEq

structure LfgQueueData where
  dungeons : List ℕ
  roles : LfgRolesMap
deriving DecidableEq, Inhabited

structure LfgProposalPlayer where
  role : UInt8
  accept : LfgAnswer
  /-- The group the player joined with, or `0`. -/
  group : ObjectGuid
deriving DecidableEq

structure LfgProposal where
  group : ObjectGuid
  isNew : Bool
  queues : GuidList
  players : List (ObjectGuid × LfgProposalPlayer)
deriving DecidableEq

structure LfgRoleCheck where
  roles : LfgRolesMap
  state : LfgRoleCheckState
  dungeons : List ℕ
deriving DecidableEq

/-- The stores of the dungeon finder, and what it asks others: who is connected, who ignores
whom, and who is in which group. -/
structure LFGMgr where
  newToQueueStore : GuidList
  currentQueueStore : GuidList
  queueDataStore : ObjectGuid → Option LfgQueueData
  /-- The cache, `LFG_COMPATIBILITY_PENDING` where there is no entry. -/
  compatibleMapStore : Finset ObjectGuid → LfgCompatibility
  /-- In the order of the ids. -/
  proposalsStore : List (ℕ × LfgProposal)
  lfgProposalId : ℕ
  roleChecksStore : ObjectGuid → Option LfgRoleCheck
  state : ObjectGuid → LfgState
  oldState : ObjectGuid → LfgState
  connected : ObjectGuid → Bool
  ignoring : ObjectGuid → ObjectGuid → Bool
  group : ObjectGuid → ObjectGuid
  players : ObjectGuid → GuidList
  leader : ObjectGuid → ObjectGuid

def LFGMgr.start : LFGMgr where
  newToQueueStore := []
  currentQueueStore := []
  queueDataStore := fun _ => none
  compatibleMapStore := fun _ => LFG_COMPATIBILITY_PENDING
  proposalsStore := []
  lfgProposalId := 0
  roleChecksStore := fun _ => none
  state := fun _ => LFG_STATE_NONE
  oldState := fun _ => LFG_STATE_NONE
  connected := fun _ => false
  ignoring := fun _ _ => false
  group := fun _ => 0
  players := fun _ => []
  leader := fun _ => 0

/-- Entry of a `std::map`: a key that is there gets the new value. -/
def setRole (guid : ObjectGuid) (role : UInt8) : LfgRolesMap → LfgRolesMap
  | [] => [(guid, role)]
  | (g, r) :: rest =>
    if guid = g then (guid, role) :: rest
    else if guid < g then (guid, role) :: (g, r) :: rest
    else (g, r) :: setRole guid role rest

namespace LFGMgr

/-! ## 1. What the queue asks the manager -/

def hasIgnore (s : LFGMgr) (guid1 guid2 : ObjectGuid) : Bool :=
  s.connected guid1 && s.connected guid2 && (s.ignoring guid1 guid2 || s.ignoring guid2 guid1)

theorem hasIgnore_comm (s : LFGMgr) (guid1 guid2 : ObjectGuid) :
    s.hasIgnore guid1 guid2 = s.hasIgnore guid2 guid1 := by
  unfold hasIgnore
  rw [Bool.and_comm (s.connected guid1), Bool.or_comm (s.ignoring guid1 guid2)]

def isLfgGroup (s : LFGMgr) (guid : ObjectGuid) : Bool :=
  guid ≠ 0 && isGroup guid && s.oldState guid ≠ LFG_STATE_NONE

def allQueued (s : LFGMgr) (check : GuidList) : Bool :=
  !check.isEmpty && check.all fun guid => s.state guid = LFG_STATE_QUEUED

def addProposal (s : LFGMgr) (proposal : LfgProposal) : LFGMgr :=
  { s with
    lfgProposalId := s.lfgProposalId + 1
    proposalsStore := s.proposalsStore ++ [(s.lfgProposalId + 1, proposal)] }

/-! ## 2. The stores of the queue -/

/-- `ConcatenateGuids`: the guids in order and without repetitions, so the set of them. -/
def concatenateGuids (check : GuidList) : Finset ObjectGuid := check.toFinset

def getCompatibles (s : LFGMgr) (key : Finset ObjectGuid) : LfgCompatibility :=
  s.compatibleMapStore key

def setCompatibles (s : LFGMgr) (key : Finset ObjectGuid) (compatibles : LfgCompatibility) :
    LFGMgr :=
  { s with
    compatibleMapStore := fun other =>
      if other = key then compatibles else s.compatibleMapStore other }

/-- The decimal representation of one guid is a part of that of the other. -/
def writtenIn (guid other : ObjectGuid) : Bool :=
  Nat.toDigits 10 guid.toNat <:+: Nat.toDigits 10 other.toNat

/-- `RemoveFromCompatibles` looks for the number of the guid in the string of the key. -/
def removeFromCompatibles (s : LFGMgr) (guid : ObjectGuid) : LFGMgr :=
  { s with
    compatibleMapStore := fun key =>
      if ∃ other ∈ key, writtenIn guid other then LFG_COMPATIBILITY_PENDING
      else s.compatibleMapStore key }

def removeFromNewQueue (s : LFGMgr) (guid : ObjectGuid) : LFGMgr :=
  { s with newToQueueStore := s.newToQueueStore.filter (· ≠ guid) }

def removeFromCurrentQueue (s : LFGMgr) (guid : ObjectGuid) : LFGMgr :=
  { s with currentQueueStore := s.currentQueueStore.filter (· ≠ guid) }

def addToNewQueue (s : LFGMgr) (guid : ObjectGuid) : LFGMgr :=
  { s with newToQueueStore := s.newToQueueStore ++ [guid] }

def addToCurrentQueue (s : LFGMgr) (guid : ObjectGuid) : LFGMgr :=
  { s with currentQueueStore := s.currentQueueStore ++ [guid] }

def addToFrontCurrentQueue (s : LFGMgr) (guid : ObjectGuid) : LFGMgr :=
  { s with currentQueueStore := guid :: s.currentQueueStore }

def addToQueue (s : LFGMgr) (guid : ObjectGuid) (reAdd : Bool) : LFGMgr :=
  match s.queueDataStore guid with
  | none => s
  | some _ => if reAdd then s.addToFrontCurrentQueue guid else s.addToNewQueue guid

def addQueueData (s : LFGMgr) (guid : ObjectGuid) (data : LfgQueueData) : LFGMgr :=
  addToQueue { s with queueDataStore := Function.update s.queueDataStore guid (some data) } guid
    false

/-- `RemoveFromQueue`, less the search for another best combination to show. -/
def removeFromQueue (s : LFGMgr) (guid : ObjectGuid) : LFGMgr :=
  let s := ((s.removeFromNewQueue guid).removeFromCurrentQueue guid).removeFromCompatibles guid
  { s with queueDataStore := Function.update s.queueDataStore guid none }

/-! ## 3. `CheckCompatibility` -/

inductive Count
  | missing (guid : ObjectGuid)
  | counted (numPlayers numLfgGroups : ℕ) (group : ObjectGuid)

/-- The loop stops at a second LFG group, and as soon as there are too many players. (The
counters are `uint8`; nobody joins with more players than a group has.) -/
def countPlayers (s : LFGMgr) : GuidList → ℕ → ℕ → ObjectGuid → Count
  | [], numPlayers, numLfgGroups, group => .counted numPlayers numLfgGroups group
  | guid :: rest, numPlayers, numLfgGroups, group =>
    if numLfgGroups < 2 ∧ numPlayers ≤ MAXGROUPSIZE then
      match s.queueDataStore guid with
      | none => .missing guid
      | some queue =>
        if s.isLfgGroup guid then
          s.countPlayers rest (numPlayers + queue.roles.length) (numLfgGroups + 1)
            (if numLfgGroups = 0 then guid else group)
        else s.countPlayers rest (numPlayers + queue.roles.length) numLfgGroups group
    else .counted numPlayers numLfgGroups group

def queueData (s : LFGMgr) (guid : ObjectGuid) : LfgQueueData := (s.queueDataStore guid).getD default

/-- `proposalGroups`: the group each player of the list joined with. -/
def proposalGroups (s : LFGMgr) (check : GuidList) : ObjectGuid → ObjectGuid :=
  check.foldl (fun groups guid =>
    (s.queueData guid).roles.foldl (fun groups entry =>
      Function.update groups entry.1 (if isGroup guid then guid else 0)) groups) fun _ => 0

/-- One round of the loop that collects the roles: a player who ignores somebody collected
before, or is ignored by him, is left out. -/
def addRole (s : LFGMgr) (proposalRoles : LfgRolesMap) (entry : ObjectGuid × UInt8) :
    LfgRolesMap :=
  if proposalRoles.any fun other => entry.1 ≠ other.1 && s.hasIgnore entry.1 other.1 then
    proposalRoles
  else setRole entry.1 entry.2 proposalRoles

def collectRoles (s : LFGMgr) (check : GuidList) : LfgRolesMap :=
  check.foldl (fun proposalRoles guid => (s.queueData guid).roles.foldl s.addRole proposalRoles) []

def commonDungeons (s : LFGMgr) : GuidList → List ℕ
  | [] => []
  | guid :: rest =>
    rest.foldl (fun proposalDungeons guid =>
      proposalDungeons.filter fun dungeon => dungeon ∈ (s.queueData guid).dungeons)
      (s.queueData guid).dungeons

def makeProposal (s : LFGMgr) (check : GuidList) (numLfgGroups : ℕ) (group : ObjectGuid)
    (proposalRoles : LfgRolesMap) : LfgProposal :=
  let isNew := numLfgGroups ≠ 1 || s.oldState (check.headD 0) ≠ LFG_STATE_DUNGEON
  { group
    isNew
    queues := check
    players := proposalRoles.map fun entry =>
      let playerGroup := s.proposalGroups check entry.1
      (entry.1,
        { role := entry.2
          group := playerGroup
          accept := if !isNew && playerGroup ≠ 0 && playerGroup == group then LFG_ANSWER_AGREE
            else LFG_ANSWER_PENDING }) }

/-- The guids of a proposal leave the queue; their queue data stay. -/
def markNotQueued (s : LFGMgr) (queues : GuidList) : LFGMgr :=
  queues.foldl (fun s guid => (s.removeFromNewQueue guid).removeFromCurrentQueue guid) s

/-- The end of `CheckCompatibility`, for a list with nothing against it. -/
def finishCheck (s : LFGMgr) (check : GuidList) (numPlayers numLfgGroups : ℕ)
    (group : ObjectGuid) (proposalRoles : LfgRolesMap) : LfgCompatibility × LFGMgr :=
  let strGuids := concatenateGuids check
  if numPlayers ≠ MAXGROUPSIZE then
    (LFG_COMPATIBLES_WITH_LESS_PLAYERS, s.setCompatibles strGuids LFG_COMPATIBLES_WITH_LESS_PLAYERS)
  else if !s.allQueued check then
    (LFG_COMPATIBLES_BAD_STATES, s.setCompatibles strGuids LFG_COMPATIBLES_BAD_STATES)
  else
    let proposal := s.makeProposal check numLfgGroups group proposalRoles
    let s := (s.markNotQueued check).addProposal proposal
    (LFG_COMPATIBLES_MATCH, s.setCompatibles strGuids LFG_COMPATIBLES_MATCH)

/-- What is checked when there are several guids; a single one has been checked when it joined. -/
def checkSeveral (s : LFGMgr) (check : GuidList) (numPlayers numLfgGroups : ℕ)
    (group : ObjectGuid) : LfgCompatibility × LFGMgr :=
  let strGuids := concatenateGuids check
  let proposalRoles := s.collectRoles check
  let (rolesFit, assigned) := checkGroupRoles proposalRoles
  if numPlayers ≠ proposalRoles.length then
    (LFG_INCOMPATIBLES_HAS_IGNORES, s.setCompatibles strGuids LFG_INCOMPATIBLES_HAS_IGNORES)
  else if !rolesFit then
    (LFG_INCOMPATIBLES_NO_ROLES, s.setCompatibles strGuids LFG_INCOMPATIBLES_NO_ROLES)
  else if s.commonDungeons check = [] then
    (LFG_INCOMPATIBLES_NO_DUNGEONS, s.setCompatibles strGuids LFG_INCOMPATIBLES_NO_DUNGEONS)
  else s.finishCheck check numPlayers numLfgGroups group assigned

def checkPlayers (s : LFGMgr) (check : GuidList) : LfgCompatibility × LFGMgr :=
  let strGuids := concatenateGuids check
  match s.countPlayers check 0 0 0 with
  | .missing guid => (LFG_COMPATIBILITY_PENDING, s.removeFromQueue guid)
  | .counted numPlayers numLfgGroups group =>
    if check.length = 1 ∧ numPlayers ≠ MAXGROUPSIZE then
      (LFG_COMPATIBLES_WITH_LESS_PLAYERS,
        s.setCompatibles strGuids LFG_COMPATIBLES_WITH_LESS_PLAYERS)
    else if 1 < numLfgGroups then
      (LFG_INCOMPATIBLES_MULTIPLE_LFG_GROUPS,
        s.setCompatibles strGuids LFG_INCOMPATIBLES_MULTIPLE_LFG_GROUPS)
    else if MAXGROUPSIZE < numPlayers then
      (LFG_INCOMPATIBLES_TOO_MUCH_PLAYERS,
        s.setCompatibles strGuids LFG_INCOMPATIBLES_TOO_MUCH_PLAYERS)
    else if 1 < check.length then s.checkSeveral check numPlayers numLfgGroups group
    else
      let (_, assigned) := checkGroupRoles (s.queueData (check.headD 0)).roles
      s.finishCheck check numPlayers numLfgGroups group assigned

/-- A list of more than two is checked without its first guid before. -/
def checkCompatibility (s : LFGMgr) : GuidList → LfgCompatibility × LFGMgr
  | [] => (LFG_INCOMPATIBLES_WRONG_GROUP_SIZE, s)
  | frontGuid :: check =>
    if MAXGROUPSIZE < check.length + 1 then (LFG_INCOMPATIBLES_WRONG_GROUP_SIZE, s)
    else if 2 < check.length + 1 then
      let (child, s) := s.checkCompatibility check
      if child < LFG_COMPATIBLES_WITH_LESS_PLAYERS then
        (child, s.setCompatibles (concatenateGuids (frontGuid :: check)) child)
      else s.checkPlayers (frontGuid :: check)
    else s.checkPlayers (frontGuid :: check)

/-! ## 4. `FindNewGroups` and `FindGroups` -/

/-- `FindNewGroups` up to its loop: the cached or the new compatibility of the list. -/
def lookUp (s : LFGMgr) (check : GuidList) : LfgCompatibility × LFGMgr :=
  let strGuids := concatenateGuids check
  let cached := s.getCompatibles strGuids
  let (compatibles, s) :=
    if cached = LFG_COMPATIBILITY_PENDING then s.checkCompatibility check else (cached, s)
  if compatibles = LFG_COMPATIBLES_BAD_STATES ∧ s.allQueued check then
    (LFG_COMPATIBLES_MATCH, s.setCompatibles strGuids LFG_COMPATIBLES_MATCH)
  else (compatibles, s)

/-- The loop of `FindNewGroups` for a list that has room left. The calls inside the loop take
guids off the same `all`; with the answer and the state the loop returns what is left of it. Each
round takes one off, so `all.length` rounds are enough. -/
def matchQueued : ℕ → LFGMgr → GuidList → GuidList → LfgCompatibility × LFGMgr × GuidList
  | 0, s, _, all => (LFG_COMPATIBLES_WITH_LESS_PLAYERS, s, all)
  | _ + 1, s, _, [] => (LFG_COMPATIBLES_WITH_LESS_PLAYERS, s, [])
  | fuel + 1, s, check, guid :: all =>
    -- the call of `FindNewGroups` on `check` and `guid`
    let called := s.lookUp (check ++ [guid])
    let (subcompatibility, s, all) :=
      if called.1 = LFG_COMPATIBLES_WITH_LESS_PLAYERS then
        matchQueued fuel called.2 (check ++ [guid]) all
      else (called.1, called.2, all)
    if subcompatibility = LFG_COMPATIBLES_MATCH then (LFG_COMPATIBLES_MATCH, s, all)
    else matchQueued fuel s check all

def findNewGroups (s : LFGMgr) (check all : GuidList) :
    LfgCompatibility × LFGMgr × GuidList :=
  let called := s.lookUp check
  if called.1 = LFG_COMPATIBLES_WITH_LESS_PLAYERS then matchQueued all.length called.2 check all
  else (called.1, called.2, all)

def findGroupsLoop : ℕ → LFGMgr → UInt8 → UInt8 × LFGMgr
  | 0, s, proposals => (proposals, s)
  | fuel + 1, s, proposals =>
    match s.newToQueueStore with
    | [] => (proposals, s)
    | frontguid :: _ =>
      let s := s.removeFromNewQueue frontguid
      let (compatibles, s, _) := s.findNewGroups [frontguid] s.currentQueueStore
      if compatibles = LFG_COMPATIBLES_MATCH then findGroupsLoop fuel s (proposals + 1)
      else findGroupsLoop fuel (s.addToCurrentQueue frontguid) proposals

/-- `FindGroups`. Each round takes a guid off `newToQueueStore`, and none is added. -/
def findGroups (s : LFGMgr) : UInt8 × LFGMgr :=
  findGroupsLoop s.newToQueueStore.length s 0

end LFGMgr

end FunPvp.DungeonFinding
