/-
# Instance binds

An `InstanceSave` stands for an instance that players or groups are bound to. A holder (a player or
a group) keeps one bind for each pair of a map and a difficulty, with a pointer to the save; the save
keeps the lists of its holders. When the last holder goes, the save deletes itself, unless players
are inside the map or the manager is resetting (`lock_instLists`).

Saves are objects in memory, and the model keeps their addresses: what a pointer leads to after its
save is deleted is an error here (`Fault.dangling`), and so is a failed assertion. What a step
learns of the loaded maps (`FindMap`, `HavePlayers`) comes with the step. The database, the clients
and the reset times are left out; so are the binds of players who are not online.
-/
import FunPvp.Instances.InstanceSaveMgr

namespace FunPvp.Instances

/-! ## 1. Saves and binds -/

inductive BindExtensionState
  | expired
  | normal
  | extended
  /-- Keep the current one. -/
  | keep
  deriving DecidableEq

abbrev PlayerGuid := UInt32

abbrev GroupId := UInt32

abbrev SaveId := ℕ

inductive Holder
  | player (guid : PlayerGuid)
  | group (id : GroupId)
  deriving DecidableEq

structure InstanceSave where
  m_instanceid : UInt32
  m_mapid : UInt16
  m_difficulty : UInt8
  m_canReset : Bool
  m_toDelete : Bool
  m_playerList : List PlayerGuid
  m_groupList : List GroupId

namespace InstanceSave

def key (save : InstanceSave) : MapDiff := (save.m_mapid, save.m_difficulty)

def count (save : InstanceSave) : Holder → ℕ
  | .player guid => save.m_playerList.count guid
  | .group id => save.m_groupList.count id

/-- `m_playerList.remove(player)`, `m_groupList.remove(group)`: every occurrence. -/
def remove (save : InstanceSave) : Holder → InstanceSave
  | .player guid => { save with m_playerList := save.m_playerList.filter (· ≠ guid) }
  | .group id => { save with m_groupList := save.m_groupList.filter (· ≠ id) }

/-- `m_playerList.push_back(player)`, `m_groupList.push_back(group)`. -/
def add (save : InstanceSave) : Holder → InstanceSave
  | .player guid => { save with m_playerList := save.m_playerList ++ [guid] }
  | .group id => { save with m_groupList := save.m_groupList ++ [id] }

def isEmpty (save : InstanceSave) : Bool := save.m_playerList.isEmpty && save.m_groupList.isEmpty

end InstanceSave

/-- `InstancePlayerBind` and `InstanceGroupBind`. A group's bind has no extension; it stays
`normal`. -/
structure InstanceBind where
  save : SaveId
  perm : Bool
  extendState : BindExtensionState

inductive Fault
  /-- A pointer to a save that is gone. -/
  | dangling
  /-- `ASSERT(m_playerList.empty() && m_groupList.empty())`, in the destructor of a save. -/
  | stillBound
  /-- `ASSERT(bind->save == itr->second)`, in `_ResetSave`. -/
  | otherSave
  /-- The loop over the groups of `_ResetSave` does not end. -/
  | endless
  deriving DecidableEq

abbrev Result := Except Fault

structure MapEntry where
  isDungeon : Bool
  isRaid : Bool

/-- The data of the client, and which groups are raids of a battleground or a battlefield. -/
structure BindEnv extends ResetEnv where
  sMapStore : UInt16 → Option MapEntry
  isBGGroup : GroupId → Bool

/-- The loaded maps: `FindMap(mapId, instanceId)`, and whether there are players inside. -/
abbrev Maps := UInt16 → UInt32 → Option Bool

/-- The saves in memory, the manager's table of them, and the binds of every holder. -/
structure BindState where
  saves : SaveId → Option InstanceSave
  nextSave : SaveId
  m_instanceSaveById : UInt32 → Option SaveId
  m_boundInstances : Holder → AList fun _ : MapDiff => InstanceBind
  lock_instLists : Bool

namespace BindState

def empty : BindState := ⟨fun _ => none, 0, fun _ => none, fun _ => ∅, false⟩

def deref (s : BindState) (a : SaveId) : Result InstanceSave :=
  match s.saves a with
  | some save => .ok save
  | none => .error .dangling

/-- A member of `*save` is assigned. -/
def setSave (s : BindState) (a : SaveId) (save : InstanceSave) : BindState :=
  { s with saves := Function.update s.saves a (some save) }

def setBinds (s : BindState) (h : Holder) (binds : AList fun _ : MapDiff => InstanceBind) :
    BindState :=
  { s with m_boundInstances := Function.update s.m_boundInstances h binds }

def findBind (s : BindState) (h : Holder) (k : MapDiff) : Option InstanceBind :=
  (s.m_boundInstances h).lookup k

/-! ## 2. The manager -/

def getInstanceSave (s : BindState) (instanceId : UInt32) : Option SaveId :=
  s.m_instanceSaveById instanceId

def addInstanceSave (env : BindEnv) (s : BindState) (mapId : UInt16) (instanceId : UInt32)
    (difficulty : UInt8) (canReset : Bool) : BindState :=
  match s.getInstanceSave instanceId, env.sMapStore mapId with
  | some _, _ => s
  | none, none => s
  | none, some entry =>
    if instanceId = 0 then s
    -- MAX_RAID_DIFFICULTY, MAX_DUNGEON_DIFFICULTY
    else if difficulty ≥ (if entry.isRaid then 4 else 3) then s
    else
      { s with
        saves := Function.update s.saves s.nextSave
          (some ⟨instanceId, mapId, difficulty, canReset, false, [], []⟩)
        nextSave := s.nextSave + 1
        m_instanceSaveById := Function.update s.m_instanceSaveById instanceId (some s.nextSave) }

def removeInstanceSave (s : BindState) (instanceId : UInt32) : BindState :=
  match s.m_instanceSaveById instanceId with
  | some a =>
    { s with
      saves := Function.update s.saves a
        ((s.saves a).map fun save => { save with m_toDelete := true })
      m_instanceSaveById := Function.update s.m_instanceSaveById instanceId none }
  | none => s

def deleteSave (s : BindState) (a : SaveId) : Result BindState := do
  let save ← s.deref a
  if save.isEmpty then .ok { s with saves := Function.update s.saves a none }
  else .error .stillBound

/-! ## 3. Saves -/

/-- `UnloadIfEmpty`. What it returns, nobody reads. -/
def unloadIfEmpty (maps : Maps) (s : BindState) (a : SaveId) : Result BindState := do
  let save ← s.deref a
  if save.isEmpty then
    -- don't remove the save if there are still players inside the map
    if maps save.m_mapid save.m_instanceid = some true then .ok s
    else if s.lock_instLists then .ok s
    else .ok (s.removeInstanceSave save.m_instanceid)
  else .ok s

def deleteIfFlagged (s : BindState) (a : SaveId) : Result BindState := do
  let save ← s.deref a
  if save.m_toDelete then s.deleteSave a else .ok s

/-- What `RemovePlayer` and `RemoveGroup` share. -/
def removeHolder (maps : Maps) (s : BindState) (a : SaveId) (h : Holder) : Result BindState := do
  let save ← s.deref a
  let s ← (s.setSave a (save.remove h)).unloadIfEmpty maps a
  s.deleteIfFlagged a

def removePlayer (maps : Maps) (s : BindState) (a : SaveId) (player : PlayerGuid) :
    Result BindState := s.removeHolder maps a (.player player)

def removeGroup (maps : Maps) (s : BindState) (a : SaveId) (group : GroupId) : Result BindState :=
  s.removeHolder maps a (.group group)

/-- What `AddPlayer` and `AddGroup` share. -/
def addHolder (s : BindState) (a : SaveId) (h : Holder) : Result BindState := do
  let save ← s.deref a
  return s.setSave a (save.add h)

def setCanReset (s : BindState) (a : SaveId) (canReset : Bool) : Result BindState := do
  let save ← s.deref a
  return s.setSave a { save with m_canReset := canReset }

/-- `UnloadInstanceSave`: the last player has left the map. -/
def unloadInstanceSave (maps : Maps) (s : BindState) (instanceId : UInt32) : Result BindState :=
  match s.getInstanceSave instanceId with
  | none => .ok s
  | some a => do
    let s ← s.unloadIfEmpty maps a
    s.deleteIfFlagged a

/-! ## 4. Binding and unbinding -/

/-- What the two functions `UnbindInstance` share: the save forgets the holder, and may become
invalid; then the bind goes. -/
def unbindHolder (maps : Maps) (s : BindState) (h : Holder) (k : MapDiff) : Result BindState :=
  match s.findBind h k with
  | none => .ok s
  | some bind => do
    let s ← s.removeHolder maps bind.save h
    return s.setBinds h ((s.m_boundInstances h).erase k)

def playerUnbindInstance (maps : Maps) (s : BindState) (player : PlayerGuid) (mapid : UInt16)
    (difficulty : UInt8) : Result BindState :=
  s.unbindHolder maps (.player player) (mapid, difficulty)

def groupUnbindInstance (maps : Maps) (s : BindState) (group : GroupId) (mapid : UInt16)
    (difficulty : UInt8) : Result BindState :=
  s.unbindHolder maps (.group group) (mapid, difficulty)

/-- `if (bind.save != save)`: the holder goes over from the save it was bound to. -/
def moveHolder (maps : Maps) (s : BindState) (h : Holder) (old : Option InstanceBind)
    (a : SaveId) : Result BindState :=
  match old with
  | some bind =>
    if bind.save = a then .ok s
    else do
      let s ← s.removeHolder maps bind.save h
      s.addHolder a h
  | none => s.addHolder a h

def setBind (s : BindState) (h : Holder) (k : MapDiff) (bind : InstanceBind) : BindState :=
  s.setBinds h ((s.m_boundInstances h).insert k bind)

/-- The extension of a new bind: `EXTEND_STATE_KEEP` stands for that of the old one, if it is to the
same save. -/
def newExtendState (old : Option InstanceBind) (a : SaveId) (extendState : BindExtensionState) :
    BindExtensionState :=
  if extendState = .keep then
    match old with
    | some bind => if bind.save = a then bind.extendState else .normal
    | none => .normal
  else extendState

def playerBindToInstance (maps : Maps) (s : BindState) (player : PlayerGuid)
    (save : Option SaveId) (permanent : Bool) (extendState : BindExtensionState) :
    Result BindState :=
  match save with
  | none => .ok s
  | some a => do
    let k := (← s.deref a).key
    let old := s.findBind (.player player) k
    let s ← s.moveHolder maps (.player player) old a
    let s ← (if permanent then s.setCanReset a false else .ok s)
    return s.setBind (.player player) k ⟨a, permanent, newExtendState old a extendState⟩

def groupBindToInstance (env : BindEnv) (maps : Maps) (s : BindState) (group : GroupId)
    (save : Option SaveId) (permanent : Bool) : Result BindState :=
  match save with
  | none => .ok s
  | some a =>
    if env.isBGGroup group then .ok s
    else do
      let k := (← s.deref a).key
      let s ← s.moveHolder maps (.group group) (s.findBind (.group group) k) a
      return s.setBind (.group group) k ⟨a, permanent, .normal⟩

/-- `Player::GetBoundInstance`, without expired binds: where it finds a bind, and the bind. -/
def getBoundInstance (env : BindEnv) (s : BindState) (player : PlayerGuid) (mapid : UInt16)
    (difficulty : UInt8) : Option (MapDiff × InstanceBind) :=
  match env.getDownscaledMapDifficulty mapid difficulty with
  | none => none
  | some difficulty =>
    match s.findBind (.player player) (mapid, difficulty) with
    | some bind => if bind.extendState ≠ .expired then some ((mapid, difficulty), bind) else none
    | none => none

/-! ## 5. Resets -/

inductive ResetMethod
  | all
  | changeDifficulty
  | global
  | groupDisband
  | groupJoin
  | respawnDelay
  deriving DecidableEq

/-- One round of the loop of `Group::ResetInstances`. -/
def resetGroupBind (env : BindEnv) (maps : Maps) (group : GroupId) (method : ResetMethod)
    (isRaid : Bool) (diff : UInt8) (s : BindState) (mapId : UInt16) : Result BindState :=
  match s.findBind (.group group) (mapId, diff) with
  | none => .ok s
  | some bind =>
    match env.sMapStore mapId with
    | none => .ok s
    | some entry =>
      if entry.isRaid ≠ isRaid then .ok s
      else do
        let instanceSave ← s.deref bind.save
        if ¬ instanceSave.m_canReset ∧ method ≠ .groupDisband then .ok s
        -- the "reset all instances" method can only reset normal maps
        else if method = .all ∧ (entry.isRaid ∨ diff = 1) then .ok s
        else
          let isEmpty : Bool :=
            match maps instanceSave.m_mapid instanceSave.m_instanceid with
            | some havePlayers =>
              if entry.isDungeon ∧ ¬ (method = .groupDisband ∧ ¬ instanceSave.m_canReset) then
                !havePlayers
              else true
            | none => true
          if isEmpty ∨ method = .groupDisband ∨ method = .changeDifficulty then
            let s :=
              s.setBinds (.group group) ((s.m_boundInstances (.group group)).erase (mapId, diff))
            s.removeGroup maps bind.save group
          else .ok s

/-- `Group::ResetInstances`, over the binds of the group's difficulty. The source starts again at
the first bind after each one it erases, and finds the ones before as it left them. -/
def groupResetInstances (env : BindEnv) (maps : Maps) (s : BindState) (group : GroupId)
    (method : ResetMethod) (isRaid : Bool) (diff : UInt8) : Result BindState :=
  if env.isBGGroup group then .ok s
  else
    ((s.m_boundInstances (.group group)).keys.filter (·.2 = diff)).foldlM
      (fun s k => resetGroupBind env maps group method isRaid diff s k.1) s

/-- What the first loop of `_ResetSave` keeps: the players to unbind, and whether nobody keeps the
save. -/
structure ResetLoop where
  state : BindState
  temp : List PlayerGuid
  shouldDelete : Bool

/-- One round of that loop. A permanent bind that has not expired is promoted. -/
def resetPlayerBind (env : BindEnv) (a : SaveId) (mapid : UInt16) (difficulty : UInt8)
    (loop : ResetLoop) (player : PlayerGuid) : Result ResetLoop :=
  match loop.state.getBoundInstance env player mapid difficulty with
  | some (k, bind) =>
    -- ASSERT(bind->save == itr->second)
    if bind.save ≠ a then .error .otherSave
    else if bind.perm ∧ bind.extendState ≠ .expired then
      let extendState : BindExtensionState :=
        if bind.extendState = .extended then .normal else .expired
      .ok ⟨loop.state.setBind (.player player) k { bind with extendState := extendState },
        loop.temp, false⟩
    else .ok { loop with temp := loop.temp ++ [player] }
  | none => .ok { loop with temp := loop.temp ++ [player] }

/-- `while (!gList.empty())`, for at most `fuel` rounds. -/
def unbindGroups (maps : Maps) (a : SaveId) : ℕ → BindState → Result BindState
  | 0, _ => .error .endless
  | fuel + 1, s => do
    let save ← s.deref a
    match save.m_groupList with
    | [] => .ok s
    | group :: _ => do
      let s ← s.groupUnbindInstance maps group save.m_mapid save.m_difficulty
      unbindGroups maps a fuel s

def resetSave (env : BindEnv) (maps : Maps) (s : BindState) (instanceId : UInt32) :
    Result BindState :=
  match s.getInstanceSave instanceId with
  | none => .ok s
  | some a => do
    let save ← s.deref a
    let loop ← save.m_playerList.foldlM
      (resetPlayerBind env a save.m_mapid save.m_difficulty)
      ⟨{ s with lock_instLists := true }, [], true⟩
    let s ← loop.temp.foldlM
      (fun s player => s.playerUnbindInstance maps player save.m_mapid save.m_difficulty) loop.state
    let s ← unbindGroups maps a (save.m_groupList.length + 1) s
    let s ← (if loop.shouldDelete then do
        let s ← s.deleteSave a
        return { s with
          m_instanceSaveById := Function.update s.m_instanceSaveById instanceId none }
      else .ok s)
    return { s with lock_instLists := false }

/-! ## 6. Steps -/

inductive BindEvent
  /-- A map is entered, or a row of the database is loaded. -/
  | addInstanceSave (mapId : UInt16) (instanceId : UInt32) (difficulty : UInt8) (canReset : Bool)
  | playerBind (player : PlayerGuid) (instanceId : UInt32) (permanent : Bool)
      (extendState : BindExtensionState)
  | playerUnbind (player : PlayerGuid) (mapid : UInt16) (difficulty : UInt8)
  | groupBind (group : GroupId) (instanceId : UInt32) (permanent : Bool)
  | groupUnbind (group : GroupId) (mapid : UInt16) (difficulty : UInt8)
  | groupResetInstances (group : GroupId) (method : ResetMethod) (isRaid : Bool) (diff : UInt8)
  | resetSave (instanceId : UInt32)
  /-- The last player leaves the map, so that it can unload. -/
  | unloadInstanceSave (instanceId : UInt32)

/-- One of them. Whoever binds to a save has it from the manager, or from a bind, which points to
a save of the manager. -/
def run (env : BindEnv) (maps : Maps) (s : BindState) : BindEvent → Result BindState
  | .addInstanceSave mapId instanceId difficulty canReset =>
    .ok (s.addInstanceSave env mapId instanceId difficulty canReset)
  | .playerBind player instanceId permanent extendState =>
    s.playerBindToInstance maps player (s.getInstanceSave instanceId) permanent extendState
  | .playerUnbind player mapid difficulty => s.playerUnbindInstance maps player mapid difficulty
  | .groupBind group instanceId permanent =>
    s.groupBindToInstance env maps group (s.getInstanceSave instanceId) permanent
  | .groupUnbind group mapid difficulty => s.groupUnbindInstance maps group mapid difficulty
  | .groupResetInstances group method isRaid diff =>
    s.groupResetInstances env maps group method isRaid diff
  | .resetSave instanceId => s.resetSave env maps instanceId
  | .unloadInstanceSave instanceId => s.unloadInstanceSave maps instanceId

def step (env : BindEnv) (r : Result BindState) (e : Maps × BindEvent) : Result BindState :=
  r >>= fun s => s.run env e.1 e.2

end BindState

end FunPvp.Instances
