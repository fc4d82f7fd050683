/-
# A group and the references of its players

A group keeps its members in `m_memberSlots` and, once it is a raid, a counter for each of its
subgroups. A connected player has two references to groups: `m_group` is the one he plays in,
`m_originalGroup` the one he comes back to from a battleground or a battlefield. The references to
a group are its `m_memberMgr`, which says whether anybody is left who could play in it.

Players are described as one group sees them: a reference goes to this group, to another one, or
nowhere. What the other groups do with a player's references is part of the run.
-/
import FunPvp.Lib.Counters

namespace FunPvp.Groups

open FunPvp.Lib

abbrev ObjectGuid := UInt64

def MAXGROUPSIZE : ℕ := 5
def MAXRAIDSIZE : ℕ := 40
def MAX_RAID_SUBGROUPS : ℕ := MAXRAIDSIZE / MAXGROUPSIZE

def MEMBER_FLAG_ASSISTANT : UInt8 := 0x01

def GROUPTYPE_NORMAL : UInt8 := 0x00
def GROUPTYPE_BG : UInt8 := 0x01
def GROUPTYPE_RAID : UInt8 := 0x02
def GROUPTYPE_BGRAID : UInt8 := GROUPTYPE_BG ||| GROUPTYPE_RAID
def GROUPTYPE_LFG_RESTRICTED : UInt8 := 0x04
def GROUPTYPE_LFG : UInt8 := 0x08

inductive RemoveMethod
  | GROUP_REMOVEMETHOD_DEFAULT
  | GROUP_REMOVEMETHOD_KICK
  | GROUP_REMOVEMETHOD_LEAVE
  | GROUP_REMOVEMETHOD_KICK_LFG
deriving DecidableEq

open RemoveMethod

/-! ## 1. Players -/

/-- Where a `GroupReference` of a player goes. -/
inductive GroupRef
  | null
  | this
  | other
deriving DecidableEq

/-- A connected player, as far as his groups are concerned. -/
structure Player where
  guid : ObjectGuid
  group : GroupRef
  originalGroup : GroupRef
deriving DecidableEq

namespace Player

def setGroup (p : Player) (group : GroupRef) : Player := { p with group := group }

def setOriginalGroup (p : Player) (group : GroupRef) : Player := { p with originalGroup := group }

def setBattlegroundOrBattlefieldRaid (p : Player) (group : GroupRef) : Player :=
  { p with group := group, originalGroup := p.group }

def removeFromBattlegroundOrBattlefieldRaid (p : Player) : Player :=
  { p with group := p.originalGroup, originalGroup := .null }

/-- How many of the player's references are in this group's `m_memberMgr`. -/
def links (p : Player) : ℕ :=
  (if p.group = .this then 1 else 0) + if p.originalGroup = .this then 1 else 0

/-- `DelinkMember`, on a player who has just lost one of his references. -/
def delink (p : Player) : Player :=
  if p.group = .this then p.setGroup .null
  else if p.originalGroup = .this then p.setOriginalGroup .null
  else p

/-- What the references are once this group has been deleted. -/
def invalidate (p : Player) : Player :=
  { p with
    group := if p.group = .this then .null else p.group
    originalGroup := if p.originalGroup = .this then .null else p.originalGroup }

end Player

/-! ## 2. The group -/

structure MemberSlot where
  guid : ObjectGuid
  group : UInt8
  flags : UInt8
deriving DecidableEq

structure Group where
  leaderGuid : ObjectGuid
  groupType : UInt8
  memberSlots : List MemberSlot
  /-- `m_subGroupsCounts`, once `_initRaidSubGroupsCounter` has allocated it. -/
  subGroupsCounts : Option (UInt8 → UInt8)
  /-- `m_bgGroup != NULL`. -/
  bgGroup : Bool
  /-- `m_bfGroup != NULL`. -/
  bfGroup : Bool

namespace Group

def isRaidGroup (g : Group) : Bool := (g.groupType &&& GROUPTYPE_RAID) ≠ 0
def isLFGGroup (g : Group) : Bool := (g.groupType &&& GROUPTYPE_LFG) ≠ 0
def isBGGroup (g : Group) : Bool := g.bgGroup
def isBFGroup (g : Group) : Bool := g.bfGroup
def getMembersCount (g : Group) : ℕ := g.memberSlots.length

def getMemberSlot (g : Group) (guid : ObjectGuid) : Option MemberSlot :=
  g.memberSlots.find? fun slot => slot.guid == guid

def isMember (g : Group) (guid : ObjectGuid) : Bool := (g.getMemberSlot guid).isSome

def isLeader (g : Group) (guid : ObjectGuid) : Bool := g.leaderGuid == guid

def isAssistant (g : Group) (guid : ObjectGuid) : Bool :=
  match g.getMemberSlot guid with
  | none => false
  | some slot => (slot.flags &&& MEMBER_FLAG_ASSISTANT) ≠ 0

def isFull (g : Group) : Bool :=
  if g.isRaidGroup then g.getMembersCount ≥ MAXRAIDSIZE else g.getMembersCount ≥ MAXGROUPSIZE

def hasFreeSlotSubGroup (g : Group) (subgroup : UInt8) : Bool :=
  match g.subGroupsCounts with
  | none => false
  | some counts => (counts subgroup).toNat < MAXGROUPSIZE

def subGroupCounterIncrease (g : Group) (subgroup : UInt8) : Group :=
  { g with subGroupsCounts := g.subGroupsCounts.map fun counts => bump counts subgroup }

def subGroupCounterDecrease (g : Group) (subgroup : UInt8) : Group :=
  { g with subGroupsCounts := g.subGroupsCounts.map fun counts => drop counts subgroup }

def initRaidSubGroupsCounter (g : Group) : Group :=
  { g with
    subGroupsCounts :=
      some (g.memberSlots.foldl (fun counts slot => bump counts slot.group) fun _ => 0) }

def modifySlot (guid : ObjectGuid) (f : MemberSlot → MemberSlot) :
    List MemberSlot → List MemberSlot
  | [] => []
  | slot :: slots =>
    if slot.guid = guid then f slot :: slots else slot :: modifySlot guid f slots

/-- The slot of a member is erased, and his subgroup has one less. -/
def eraseSlot (g : Group) (guid : ObjectGuid) : Group :=
  match g.getMemberSlot guid with
  | none => g
  | some slot =>
    { g.subGroupCounterDecrease slot.group with
      memberSlots := g.memberSlots.eraseP fun slot => slot.guid == guid }

def firstFreeSubGroup (counts : UInt8 → UInt8) : Option UInt8 :=
  ((List.range MAX_RAID_SUBGROUPS).map UInt8.ofNat).find? fun subGroup =>
    (counts subGroup).toNat < MAXGROUPSIZE

/-- The subgroup `AddMember` has for a new member; `none` if it returns false. -/
def freeSubGroup (g : Group) : Option UInt8 :=
  match g.subGroupsCounts with
  | none => some 0
  | some counts => firstFreeSubGroup counts

def pushSlot (g : Group) (guid : ObjectGuid) (subGroup : UInt8) : Group :=
  { g.subGroupCounterIncrease subGroup with
    memberSlots := g.memberSlots ++ [{ guid := guid, group := subGroup, flags := 0 }] }

def linkMember (g : Group) (p : Player) : Player :=
  if p.group ≠ .null then
    if g.isBGGroup || g.isBFGroup then p.setBattlegroundOrBattlefieldRaid .this
    else p.setOriginalGroup .this
  else p.setGroup .this

/-- How `RemoveMember` takes a connected player's references. -/
def unlinkMember (g : Group) (p : Player) : Player :=
  if g.isBGGroup || g.isBFGroup then p.removeFromBattlegroundOrBattlefieldRaid
  else if p.originalGroup = .this then (p.setOriginalGroup .null).delink
  else (p.setGroup .null).delink

/-- `Disband`, on the references of a member. -/
def releaseMember (g : Group) (p : Player) : Player :=
  if g.isBGGroup || g.isBFGroup then p.removeFromBattlegroundOrBattlefieldRaid
  else if p.originalGroup = .this then p.setOriginalGroup .null
  else p.setGroup .null

def changeMembersGroup (g : Group) (guid : ObjectGuid) (group : UInt8) : Group :=
  if !g.isRaidGroup then g
  else
    match g.getMemberSlot guid with
    | none => g
    | some slot =>
      if slot.group = group then g
      else
        let g := { g with
          memberSlots := modifySlot guid (fun slot => { slot with group := group }) g.memberSlots }
        (g.subGroupCounterIncrease group).subGroupCounterDecrease slot.group

/-- `SetGroupMemberFlag` with the flag of an assistant. -/
def setAssistant (g : Group) (guid : ObjectGuid) (apply : Bool) : Group :=
  if !g.isRaidGroup then g
  else
    { g with
      memberSlots := modifySlot guid (fun slot =>
        { slot with
          flags := if apply then slot.flags ||| MEMBER_FLAG_ASSISTANT
            else slot.flags &&& ~~~MEMBER_FLAG_ASSISTANT }) g.memberSlots }

def convertToRaid (g : Group) : Group :=
  { g with groupType := g.groupType ||| GROUPTYPE_RAID }.initRaidSubGroupsCounter

end Group

/-! ## 3. The group among the connected players -/

/-- A group, if there is one, and the players `ObjectAccessor` knows. -/
structure GroupState where
  group : Option Group
  players : List Player

/-- What the dungeon finder and the leader's position say when one member of a dungeon finder
group is left. -/
structure LfgSight where
  mapId : UInt32
  leaderAlive : Bool
  leaderMapId : UInt32

namespace GroupState

def findConnectedPlayer (s : GroupState) (guid : ObjectGuid) : Option Player :=
  s.players.find? fun p => p.guid == guid

def updatePlayer (s : GroupState) (guid : ObjectGuid) (f : Player → Player) : GroupState :=
  { s with players := s.players.map fun p => if p.guid = guid then f p else p }

def memberMgrSize (s : GroupState) : ℕ := (s.players.map Player.links).sum

/-- `Disband`: the members are released and the group is deleted. -/
def disband (s : GroupState) : GroupState :=
  match s.group with
  | none => s
  | some g =>
    { group := none
      players := (s.players.map fun p =>
        if g.isMember p.guid then g.releaseMember p else p).map Player.invalidate }

def changeLeader (s : GroupState) (newLeaderGuid : ObjectGuid) : GroupState :=
  match s.group with
  | none => s
  | some g =>
    match g.getMemberSlot newLeaderGuid with
    | none => s
    | some slot =>
      match s.findConnectedPlayer slot.guid with
      | none => s
      | some newLeader =>
        { s with
          group := some { g with
            leaderGuid := newLeader.guid
            memberSlots := Group.modifySlot newLeaderGuid (fun slot =>
              { slot with flags := slot.flags &&& ~~~MEMBER_FLAG_ASSISTANT }) g.memberSlots } }

def addMember (s : GroupState) (guid : ObjectGuid) : GroupState :=
  match s.group with
  | none => s
  | some g =>
    match g.freeSubGroup with
    | none => s
    | some subGroup =>
      { s.updatePlayer guid g.linkMember with group := some (g.pushSlot guid subGroup) }

/-- The first member who is connected becomes the leader in the place of the one who left. -/
def pickNewLeader (s : GroupState) (guid : ObjectGuid) : GroupState :=
  match s.group with
  | none => s
  | some g =>
    if g.leaderGuid = guid then
      match g.memberSlots.find? fun slot => (s.findConnectedPlayer slot.guid).isSome with
      | none => s
      | some slot => s.changeLeader slot.guid
    else s

/-- The last one of a dungeon finder group is not inside the dungeon. -/
def lfgLeft (s : GroupState) (g : Group) (sight : LfgSight) : Bool :=
  sight.mapId == 0 || (s.findConnectedPlayer g.leaderGuid).isNone ||
    (sight.leaderAlive && sight.leaderMapId != sight.mapId)

/-- What `RemoveMember` looks at after the member is out. -/
def disbandIfLeft (s : GroupState) (sight : LfgSight) : GroupState :=
  match s.group with
  | none => s
  | some g =>
    if g.isLFGGroup && g.getMembersCount == 1 && s.lfgLeft g sight then s.disband
    else if s.memberMgrSize < (if g.isLFGGroup || g.isBGGroup then 1 else 2) then s.disband
    else s

def removeMember (s : GroupState) (guid : ObjectGuid) (method : RemoveMethod)
    (sight : LfgSight) : GroupState :=
  match s.group with
  | none => s
  | some g =>
    if g.isLFGGroup && method = GROUP_REMOVEMETHOD_KICK then s
    else if g.getMembersCount >
        (if g.isBGGroup || g.isLFGGroup || g.isBFGroup then 1 else 2) then
      (({ s.updatePlayer guid g.unlinkMember with
          group := some (g.eraseSlot guid) }).pickNewLeader guid).disbandIfLeft sight
    else s.disband

/-! ## 4. Who calls them -/

/-- What kind of group is created: by an invitation, by the dungeon finder, for a battleground or
for a battlefield. -/
inductive GroupKind
  | party
  | lfg
  | battleground
  | battlefield
deriving DecidableEq

/-- The type after `ConvertToLFG`, or as `Create` sets it. -/
def GroupKind.groupType : GroupKind → UInt8
  | .party => GROUPTYPE_NORMAL
  | .lfg => GROUPTYPE_LFG ||| GROUPTYPE_LFG_RESTRICTED
  | .battleground => GROUPTYPE_BGRAID
  | .battlefield => GROUPTYPE_BGRAID

def newGroup (kind : GroupKind) (leader : ObjectGuid) : Group :=
  let g : Group :=
    { leaderGuid := leader
      groupType := kind.groupType
      memberSlots := []
      subGroupsCounts := none
      bgGroup := kind = .battleground
      bfGroup := kind = .battlefield }
  if g.isRaidGroup then g.initRaidSubGroupsCounter else g

def create (s : GroupState) (kind : GroupKind) (leader : ObjectGuid) : GroupState :=
  match s.group, s.findConnectedPlayer leader with
  | none, some _ => { s with group := some (newGroup kind leader) }.addMember leader
  | _, _ => s

/-- `HandleGroupAcceptOpcode`, for a group that is created already. -/
def handleGroupAccept (s : GroupState) (guid : ObjectGuid) : GroupState :=
  match s.group, s.findConnectedPlayer guid with
  | some g, some _ =>
    if g.leaderGuid = guid then s
    else if g.isFull then s
    else s.addMember guid
  | _, _ => s

/-- `HandleGroupJoinCommand`, the game master's command. -/
def handleGroupJoin (s : GroupState) (guid : ObjectGuid) : GroupState :=
  match s.group, s.findConnectedPlayer guid with
  | some g, some p =>
    if p.group ≠ .null then s
    else if g.isFull then s
    else s.addMember guid
  | _, _ => s

/-- What another group does with a player's references. -/
inductive Elsewhere
  | setGroup (joins : Bool)
  | setOriginalGroup (joins : Bool)
  | setBattlegroundOrBattlefieldRaid
  | removeFromBattlegroundOrBattlefieldRaid
deriving DecidableEq

def Elsewhere.apply : Elsewhere → Player → Player
  | .setGroup joins, p => p.setGroup (if joins then .other else .null)
  | .setOriginalGroup joins, p => p.setOriginalGroup (if joins then .other else .null)
  | .setBattlegroundOrBattlefieldRaid, p => p.setBattlegroundOrBattlefieldRaid .other
  | .removeFromBattlegroundOrBattlefieldRaid, p => p.removeFromBattlegroundOrBattlefieldRaid

/-- `LFGMgr::MakeNewGroup` brings a player into its group; `op` is what the group he was in does
when he is removed from it. -/
def makeNewGroup (s : GroupState) (guid : ObjectGuid) (op : Elsewhere) : GroupState :=
  match s.findConnectedPlayer guid with
  | none => s
  | some p =>
    let s' := if p.group = .other then s.updatePlayer guid op.apply else s
    if p.group ≠ .this then s'.addMember guid else s'

/-- `AddOrSetPlayerToCorrectBgGroup` and `AddOrSetPlayerToCorrectBfGroup`, when there is a raid. -/
def addOrSetPlayer (s : GroupState) (guid : ObjectGuid) : GroupState :=
  match s.group, s.findConnectedPlayer guid with
  | some g, some _ =>
    if !(g.isBGGroup || g.isBFGroup) then s
    else if g.isMember guid then
      s.updatePlayer guid fun p => p.setBattlegroundOrBattlefieldRaid .this
    else s.addMember guid
  | _, _ => s

def handleGroupChangeSubGroup (s : GroupState) (sender guid : ObjectGuid) (groupNr : UInt8) :
    GroupState :=
  match s.group with
  | none => s
  | some g =>
    if groupNr.toNat ≥ MAX_RAID_SUBGROUPS then s
    else if !g.isLeader sender && !g.isAssistant sender then s
    else if !g.hasFreeSlotSubGroup groupNr then s
    else { s with group := some (g.changeMembersGroup guid groupNr) }

def handleGroupAssistantLeader (s : GroupState) (sender guid : ObjectGuid) (apply : Bool) :
    GroupState :=
  match s.group with
  | none => s
  | some g =>
    if !g.isLeader sender then s else { s with group := some (g.setAssistant guid apply) }

def handleGroupRaidConvert (s : GroupState) (sender : ObjectGuid) : GroupState :=
  match s.group with
  | none => s
  | some g =>
    if !g.isLeader sender || g.getMembersCount < 2 then s
    else { s with group := some g.convertToRaid }

/-- A player logs in; `row` is the group `_LoadGroup` finds a row of his for, and the rows of this
group are the slots of its members. -/
def login (s : GroupState) (guid : ObjectGuid) (row : GroupRef) : GroupState :=
  if (s.findConnectedPlayer guid).isSome then s
  else
    let loaded := s.group.any fun g => g.isMember guid && !g.isBGGroup && !g.isBFGroup
    { s with
      players :=
        { guid := guid
          group := if row = .this ∧ !loaded then .null else row
          originalGroup := .null } :: s.players }

/-- A player's object is deleted, and his references with it. -/
def logout (s : GroupState) (guid : ObjectGuid) : GroupState :=
  { s with players := s.players.filter fun p => p.guid ≠ guid }

end GroupState

/-- What happens to a group and to the players around it. -/
inductive GroupEvent
  | create (kind : GroupState.GroupKind) (leader : ObjectGuid)
  | accept (guid : ObjectGuid)
  | groupJoin (guid : ObjectGuid)
  | makeNewGroup (guid : ObjectGuid) (op : GroupState.Elsewhere)
  | addOrSetPlayer (guid : ObjectGuid)
  | removeMember (guid : ObjectGuid) (method : RemoveMethod) (sight : LfgSight)
  | changeLeader (guid : ObjectGuid)
  | changeSubGroup (sender guid : ObjectGuid) (groupNr : UInt8)
  | assistant (sender guid : ObjectGuid) (apply : Bool)
  | convertToRaid (sender : ObjectGuid)
  | disband
  | login (guid : ObjectGuid) (row : GroupRef)
  | logout (guid : ObjectGuid)
  | elsewhere (guid : ObjectGuid) (op : GroupState.Elsewhere)

def GroupState.step (s : GroupState) : GroupEvent → GroupState
  | .create kind leader => s.create kind leader
  | .accept guid => s.handleGroupAccept guid
  | .groupJoin guid => s.handleGroupJoin guid
  | .makeNewGroup guid op => s.makeNewGroup guid op
  | .addOrSetPlayer guid => s.addOrSetPlayer guid
  | .removeMember guid method sight => s.removeMember guid method sight
  | .changeLeader guid => s.changeLeader guid
  | .changeSubGroup sender guid groupNr => s.handleGroupChangeSubGroup sender guid groupNr
  | .assistant sender guid apply => s.handleGroupAssistantLeader sender guid apply
  | .convertToRaid sender => s.handleGroupRaidConvert sender
  | .disband => s.disband
  | .login guid row => s.login guid row
  | .logout guid => s.logout guid
  | .elsewhere guid op => s.updatePlayer guid op.apply

end FunPvp.Groups
