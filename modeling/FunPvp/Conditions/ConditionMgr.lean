/-
# Conditions

A condition asks something of one of the objects an action is about: whether the target wears an
aura, whether the caster is near a creature. The conditions of a list fall into else groups: an
object meets the list when it meets every condition of one of the groups. A condition may stand
for a whole list, its reference template.

What the conditions read of the game and what the loader looks up in the data stores are
parameters (`Game`, `Stores`). A function has no result where the server stops: a failed assertion,
an index outside an array, or a reference template that leads back to itself more often than the
stack holds (`depth`). The failed condition that is kept for the message to the client, and the
log, are left out.
-/
import FunPvp.Lib.ElseGroups

namespace FunPvp.Conditions

open FunPvp.Lib

/-- `uint32`. -/
abbrev UInt := BitVec 32

/-! ## 1. Objects -/

inductive TypeID
  | unit
  | player
  | gameObject
  | dynamicObject
  | corpse
  deriving DecidableEq

def TypeID.toUInt : TypeID → UInt
  | unit => 3
  | player => 4
  | gameObject => 5
  | dynamicObject => 6
  | corpse => 7

abbrev TYPEMASK_OBJECT : UInt := 0x01
abbrev TYPEMASK_UNIT : UInt := 0x08
abbrev TYPEMASK_PLAYER : UInt := 0x10
abbrev TYPEMASK_GAMEOBJECT : UInt := 0x20
abbrev TYPEMASK_DYNAMICOBJECT : UInt := 0x40
abbrev TYPEMASK_CORPSE : UInt := 0x80

/-- `m_objectType`, as the constructors of the classes fill it. A player is a unit too. -/
def TypeID.objectType : TypeID → UInt
  | unit => TYPEMASK_OBJECT ||| TYPEMASK_UNIT
  | player => TYPEMASK_OBJECT ||| TYPEMASK_UNIT ||| TYPEMASK_PLAYER
  | gameObject => TYPEMASK_OBJECT ||| TYPEMASK_GAMEOBJECT
  | dynamicObject => TYPEMASK_OBJECT ||| TYPEMASK_DYNAMICOBJECT
  | corpse => TYPEMASK_OBJECT ||| TYPEMASK_CORPSE

abbrev GRID_MAP_TYPE_MASK_CORPSE : UInt := 0x01
abbrev GRID_MAP_TYPE_MASK_CREATURE : UInt := 0x02
abbrev GRID_MAP_TYPE_MASK_DYNAMICOBJECT : UInt := 0x04
abbrev GRID_MAP_TYPE_MASK_GAMEOBJECT : UInt := 0x08
abbrev GRID_MAP_TYPE_MASK_PLAYER : UInt := 0x10
abbrev GRID_MAP_TYPE_MASK_ALL : UInt := 0x1F

def TypeID.gridMapTypeMask : TypeID → UInt
  | unit => GRID_MAP_TYPE_MASK_CREATURE
  | player => GRID_MAP_TYPE_MASK_PLAYER
  | gameObject => GRID_MAP_TYPE_MASK_GAMEOBJECT
  | dynamicObject => GRID_MAP_TYPE_MASK_DYNAMICOBJECT
  | corpse => GRID_MAP_TYPE_MASK_CORPSE

/-- `WorldObject`: what tells one from another, and its spawn. -/
structure WorldObject where
  guid : BitVec 64
  typeId : TypeID
  entry : UInt
  spawnId : UInt
  deriving DecidableEq

def WorldObject.isType (o : WorldObject) (mask : UInt) : Bool :=
  mask.setWidth 16 &&& o.typeId.objectType.setWidth 16 != 0

def WorldObject.toUnit (o : WorldObject) : Option WorldObject :=
  if o.isType TYPEMASK_UNIT then some o else none

def WorldObject.toPlayer (o : WorldObject) : Option WorldObject :=
  if o.typeId = .player then some o else none

def WorldObject.toCreature (o : WorldObject) : Option WorldObject :=
  if o.typeId = .unit then some o else none

/-! ## 2. Conditions -/

inductive ConditionSourceType
  | none
  | creatureLootTemplate
  | disenchantLootTemplate
  | fishingLootTemplate
  | gameobjectLootTemplate
  | itemLootTemplate
  | mailLootTemplate
  | millingLootTemplate
  | pickpocketingLootTemplate
  | prospectingLootTemplate
  | referenceLootTemplate
  | skinningLootTemplate
  | spellLootTemplate
  | spellImplicitTarget
  | gossipMenu
  | gossipMenuOption
  | creatureTemplateVehicle
  | spell
  | spellClickEvent
  | questAccept
  | questShowMark
  | vehicleSpell
  | smartEvent
  | npcVendor
  | spellProc
  | terrainSwap
  | phase
  deriving DecidableEq

inductive ConditionTypes
  | none
  | aura
  | item
  | itemEquipped
  | zoneid
  | reputationRank
  | team
  | skill
  | questrewarded
  | questtaken
  | drunkenstate
  | worldState
  | activeEvent
  | instanceInfo
  | questNone
  | class : ConditionTypes
  | race
  | achievement
  | title
  | spawnmask
  | gender
  | unitState
  | mapid
  | areaid
  | creatureType
  | spell
  | phasemask
  | level
  | questComplete
  | nearCreature
  | nearGameobject
  | objectEntryGuid
  | typeMask
  | relationTo
  | reactionTo
  | distanceTo
  | alive
  | hpVal
  | hpPct
  | realmAchievement
  | inWater
  | terrainSwap
  | standState
  deriving DecidableEq

/-- `Condition`: what the checks read of it. -/
structure Condition where
  sourceType : ConditionSourceType
  elseGroup : UInt
  conditionType : ConditionTypes
  conditionValue1 : UInt
  conditionValue2 : UInt
  conditionValue3 : UInt
  referenceId : UInt
  conditionTarget : BitVec 8
  negativeCondition : Bool
  deriving DecidableEq

def Condition.isLoaded (c : Condition) : Bool := c.conditionType ≠ .none ∨ c.referenceId ≠ 0

structure ConditionSourceInfo where
  target0 : Option WorldObject
  target1 : Option WorldObject
  target2 : Option WorldObject

def ConditionSourceInfo.mConditionTargets (s : ConditionSourceInfo) (i : ℕ) :
    Option (Option WorldObject) :=
  match i with
  | 0 => some s.target0
  | 1 => some s.target1
  | 2 => some s.target2
  | _ => none

/-- `QuestStatus`, as far as the conditions tell them apart. -/
inductive QuestStatus
  | none
  | complete
  | incomplete
  | failed
  deriving DecidableEq, Inhabited

/-- `InstanceScript`, as far as the conditions ask it. -/
structure InstanceScript where
  getData : UInt → UInt
  getGuidData : UInt → BitVec 64
  getBossState : UInt → UInt
  getData64 : UInt → BitVec 64
  deriving Inhabited

/-- What the conditions read of the game, under the names of the functions they call. -/
structure Game where
  hasAuraEffect : WorldObject → UInt → UInt → Bool
  hasItemCount : WorldObject → UInt → UInt → Bool → Bool
  hasItemOrGemWithIdEquipped : WorldObject → UInt → ℕ → Bool
  getZoneId : WorldObject → UInt
  /-- `sFactionStore.LookupEntry` finds the faction. -/
  hasFaction : UInt → Bool
  getRank : WorldObject → UInt → ℕ
  hasAchieved : WorldObject → UInt → Bool
  getTeam : WorldObject → UInt
  getClassMask : WorldObject → UInt
  getRaceMask : WorldObject → UInt
  getGender : WorldObject → UInt
  hasSkill : WorldObject → UInt → Bool
  getBaseSkillValue : WorldObject → UInt → UInt
  getQuestRewardStatus : WorldObject → UInt → Bool
  getQuestStatus : WorldObject → UInt → QuestStatus
  isActiveEvent : UInt → Bool
  /-- `GetInstanceScript` of the object's map, if that is a dungeon and has one. -/
  instanceScript : WorldObject → Option InstanceScript
  getMapId : WorldObject → UInt
  getAreaId : WorldObject → UInt
  hasSpell : WorldObject → UInt → Bool
  getLevel : WorldObject → UInt
  getDrunkenstate : WorldObject → UInt
  /-- `GetClosestCreatureWithEntry` finds one: entry, range, alive. -/
  hasCloseCreature : WorldObject → UInt → UInt → Bool → Bool
  hasCloseGameObject : WorldObject → UInt → UInt → Bool
  isInPartyWith : WorldObject → WorldObject → Bool
  isInRaidWith : WorldObject → WorldObject → Bool
  getOwnerGUID : WorldObject → BitVec 64
  isOnVehicle : WorldObject → WorldObject → Bool
  getCreatorGUID : WorldObject → BitVec 64
  getReactionTo : WorldObject → WorldObject → ℕ
  getDistance : WorldObject → WorldObject → ℚ
  isAlive : WorldObject → Bool
  getHealth : WorldObject → UInt
  getHealthPct : WorldObject → ℚ
  getWorldState : UInt → UInt
  getPhaseMask : WorldObject → UInt
  hasTitle : WorldObject → UInt → Bool
  getSpawnMode : WorldObject → ℕ
  /-- `m_state`, of which `HasUnitState` reads some bits. -/
  unitState : WorldObject → UInt
  /-- `GetCreatureTemplate()->type`. -/
  creatureType : WorldObject → UInt
  /-- `sAchievementMgr` finds the achievement, and the realm has completed it. -/
  isRealmCompleted : UInt → Bool
  isInWater : WorldObject → Bool
  getStandState : WorldObject → UInt
  isStandState : WorldObject → Bool
  isSitState : WorldObject → Bool
  /-- The hook of the scripts. -/
  onConditionCheck : Condition → ConditionSourceInfo → Bool
  deriving Inhabited

/-- `CompareValues`. Any other comparison stops the server. -/
def compareValues {α : Type} [DecidableEq α] [LT α] [DecidableLT α] [LE α] [DecidableLE α]
    (type : UInt) (val1 val2 : α) : Option Bool :=
  match type.toNat with
  | 0 => some (val1 = val2)
  | 1 => some (val1 > val2)
  | 2 => some (val1 < val2)
  | 3 => some (val1 ≥ val2)
  | 4 => some (val1 ≤ val2)
  | _ => none

def Game.relation (game : Game) (type : UInt) (u toUnit : WorldObject) : Bool :=
  match type.toNat with
  | 0 => u = toUnit
  | 1 => game.isInPartyWith u toUnit
  | 2 => game.isInRaidWith u toUnit
  | 3 => game.getOwnerGUID u = toUnit.guid
  | 4 => game.isOnVehicle u toUnit
  | 5 => game.getCreatorGUID u = toUnit.guid
  | _ => false

def InstanceScript.info (instance_ : InstanceScript) (type value1 value2 : UInt) : Bool :=
  match type.toNat with
  | 0 => instance_.getData value1 = value2
  | 1 => instance_.getGuidData value1 = value2.setWidth 64
  | 2 => instance_.getBossState value1 = value2
  | 3 => instance_.getData64 value1 = value2.setWidth 64
  | _ => false

/-- `if (Unit* unit = object->ToUnit()) condMeets = …`, and the same for the other casts. -/
def ifCast (cast : Option WorldObject) (check : WorldObject → Option Bool) : Option Bool :=
  match cast with
  | some o => check o
  | none => some false

def Condition.condMeets (game : Game) (s : ConditionSourceInfo) (c : Condition)
    (object : WorldObject) : Option Bool :=
  match c.conditionType with
  | .none => some true
  | .aura => ifCast object.toUnit fun u =>
      some (game.hasAuraEffect u c.conditionValue1 c.conditionValue2)
  | .item => ifCast object.toPlayer fun p =>
      -- ASSERT(ConditionValue2)
      if c.conditionValue2 = 0 then none
      else some (game.hasItemCount p c.conditionValue1 c.conditionValue2 (c.conditionValue3 ≠ 0))
  | .itemEquipped => ifCast object.toPlayer fun p =>
      some (game.hasItemOrGemWithIdEquipped p c.conditionValue1 1)
  | .zoneid => some (game.getZoneId object = c.conditionValue1)
  | .reputationRank => ifCast object.toPlayer fun p =>
      some (game.hasFaction c.conditionValue1 &&
        c.conditionValue2 &&& (1 <<< game.getRank p c.conditionValue1) != 0)
  | .achievement => ifCast object.toPlayer fun p => some (game.hasAchieved p c.conditionValue1)
  | .team => ifCast object.toPlayer fun p => some (game.getTeam p = c.conditionValue1)
  | .class => ifCast object.toUnit fun u => some (game.getClassMask u &&& c.conditionValue1 != 0)
  | .race => ifCast object.toUnit fun u => some (game.getRaceMask u &&& c.conditionValue1 != 0)
  | .gender => ifCast object.toPlayer fun p => some (game.getGender p = c.conditionValue1)
  | .skill => ifCast object.toPlayer fun p =>
      some (game.hasSkill p c.conditionValue1 &&
        game.getBaseSkillValue p c.conditionValue1 ≥ c.conditionValue2)
  | .questrewarded => ifCast object.toPlayer fun p =>
      some (game.getQuestRewardStatus p c.conditionValue1)
  | .questtaken => ifCast object.toPlayer fun p =>
      some (game.getQuestStatus p c.conditionValue1 = .incomplete)
  | .questComplete => ifCast object.toPlayer fun p =>
      some (game.getQuestStatus p c.conditionValue1 = .complete &&
        !game.getQuestRewardStatus p c.conditionValue1)
  | .questNone => ifCast object.toPlayer fun p =>
      some (game.getQuestStatus p c.conditionValue1 = .none)
  | .activeEvent => some (game.isActiveEvent c.conditionValue1)
  | .instanceInfo =>
    match game.instanceScript object with
    | some instance_ => some (instance_.info c.conditionValue3 c.conditionValue1 c.conditionValue2)
    | none => some false
  | .mapid => some (game.getMapId object = c.conditionValue1)
  | .areaid => some (game.getAreaId object = c.conditionValue1)
  | .spell => ifCast object.toPlayer fun p => some (game.hasSpell p c.conditionValue1)
  | .level => ifCast object.toUnit fun u =>
      compareValues c.conditionValue2 (game.getLevel u) c.conditionValue1
  | .drunkenstate => ifCast object.toPlayer fun p =>
      some (game.getDrunkenstate p ≥ c.conditionValue1)
  | .nearCreature =>
    some (game.hasCloseCreature object c.conditionValue1 c.conditionValue2 (c.conditionValue3 = 0))
  | .nearGameobject =>
    some (game.hasCloseGameObject object c.conditionValue1 c.conditionValue2)
  | .objectEntryGuid =>
    some (object.typeId.toUInt = c.conditionValue1 &&
      (c.conditionValue2 = 0 || object.entry = c.conditionValue2) &&
      (c.conditionValue3 = 0 ||
        match object.typeId with
        | .unit | .gameObject => object.spawnId = c.conditionValue3
        | _ => true))
  | .typeMask => some (object.isType c.conditionValue1)
  | .relationTo =>
    (s.mConditionTargets c.conditionValue1.toNat).bind fun toObject => ifCast toObject fun o =>
      ifCast o.toUnit fun toUnit => ifCast object.toUnit fun u =>
        some (game.relation c.conditionValue2 u toUnit)
  | .reactionTo =>
    (s.mConditionTargets c.conditionValue1.toNat).bind fun toObject => ifCast toObject fun o =>
      ifCast o.toUnit fun toUnit => ifCast object.toUnit fun u =>
        some ((1 <<< game.getReactionTo u toUnit) &&& c.conditionValue2 != 0)
  | .distanceTo =>
    (s.mConditionTargets c.conditionValue1.toNat).bind fun toObject => ifCast toObject fun o =>
      compareValues c.conditionValue3 (game.getDistance object o) (c.conditionValue2.toNat : ℚ)
  | .alive => ifCast object.toUnit fun u => some (game.isAlive u)
  | .hpVal => ifCast object.toUnit fun u =>
      compareValues c.conditionValue2 (game.getHealth u) c.conditionValue1
  | .hpPct => ifCast object.toUnit fun u =>
      compareValues c.conditionValue2 (game.getHealthPct u) (c.conditionValue1.toNat : ℚ)
  | .worldState => some (c.conditionValue2 = game.getWorldState c.conditionValue1)
  | .phasemask => some (game.getPhaseMask object &&& c.conditionValue1 != 0)
  | .title => ifCast object.toPlayer fun p => some (game.hasTitle p c.conditionValue1)
  | .spawnmask => some ((1 <<< game.getSpawnMode object) &&& c.conditionValue1 != 0)
  | .unitState => ifCast object.toUnit fun u => some (game.unitState u &&& c.conditionValue1 != 0)
  | .creatureType => ifCast object.toCreature fun o =>
      some (game.creatureType o = c.conditionValue1)
  | .realmAchievement => some (game.isRealmCompleted c.conditionValue1)
  | .inWater => ifCast object.toUnit fun u => some (game.isInWater u)
  | .standState => ifCast object.toUnit fun u =>
      if c.conditionValue1 = 0 then some (game.getStandState u = c.conditionValue2)
      else if c.conditionValue2 = 0 then some (game.isStandState u)
      else if c.conditionValue2 = 1 then some (game.isSitState u)
      else some false
  | .terrainSwap => some false

/-- `Meets`. A condition whose object is missing is not met, negated or not. -/
def Condition.meets (game : Game) (s : ConditionSourceInfo) (c : Condition) : Option Bool :=
  (s.mConditionTargets c.conditionTarget.toNat).bind fun
    | none => some false
    | some object => (c.condMeets game s object).map fun condMeets =>
      (condMeets != c.negativeCondition) && game.onConditionCheck c s

/-! ## 3. The types that a condition leaves -/

/-- The bits of `CONDITION_TYPE_MASK` that `value` has, as types of a grid search. -/
def typeMaskTypes (value : UInt) : UInt :=
  (if value &&& TYPEMASK_UNIT ≠ 0 then
    GRID_MAP_TYPE_MASK_CREATURE ||| GRID_MAP_TYPE_MASK_PLAYER else 0) |||
  (if value &&& TYPEMASK_PLAYER ≠ 0 then GRID_MAP_TYPE_MASK_PLAYER else 0) |||
  (if value &&& TYPEMASK_GAMEOBJECT ≠ 0 then GRID_MAP_TYPE_MASK_GAMEOBJECT else 0) |||
  (if value &&& TYPEMASK_CORPSE ≠ 0 then GRID_MAP_TYPE_MASK_CORPSE else 0)

/-- The type of `CONDITION_OBJECT_ENTRY_GUID`. The `switch` has no case for a dynamic object. -/
def entryGuidTypes (value : UInt) : UInt :=
  if value = TypeID.unit.toUInt then GRID_MAP_TYPE_MASK_CREATURE
  else if value = TypeID.player.toUInt then GRID_MAP_TYPE_MASK_PLAYER
  else if value = TypeID.gameObject.toUInt then GRID_MAP_TYPE_MASK_GAMEOBJECT
  else if value = TypeID.corpse.toUInt then GRID_MAP_TYPE_MASK_CORPSE
  else 0

def Condition.typeMaskSwitch (c : Condition) : Option UInt :=
  match c.conditionType with
  | .none | .zoneid | .activeEvent | .instanceInfo | .mapid | .areaid | .nearCreature
  | .nearGameobject | .distanceTo | .worldState | .phasemask | .spawnmask | .realmAchievement =>
    some GRID_MAP_TYPE_MASK_ALL
  | .item | .itemEquipped | .reputationRank | .achievement | .team | .skill | .questrewarded
  | .questtaken | .questComplete | .questNone | .spell | .drunkenstate | .title | .gender =>
    some GRID_MAP_TYPE_MASK_PLAYER
  | .aura | .class | .race | .level | .relationTo | .reactionTo | .alive | .hpVal | .hpPct
  | .unitState | .inWater | .standState =>
    some (GRID_MAP_TYPE_MASK_CREATURE ||| GRID_MAP_TYPE_MASK_PLAYER)
  | .creatureType => some GRID_MAP_TYPE_MASK_CREATURE
  | .objectEntryGuid => some (entryGuidTypes c.conditionValue1)
  | .typeMask => some (typeMaskTypes c.conditionValue1)
  -- missing condition handling
  | .terrainSwap => none

/-- `GetSearcherTypeMaskForCondition`: the types for which the condition can be true. It does not
look at `ConditionTarget`. -/
def Condition.getSearcherTypeMaskForCondition (c : Condition) : Option UInt :=
  if c.negativeCondition then some GRID_MAP_TYPE_MASK_ALL else c.typeMaskSwitch

/-! ## 4. Lists -/

abbrev ReferenceStore := AList fun _ : UInt => List Condition

/-- An else group passes as long as no condition of it fails. -/
def groupCheckPassed : Filling Bool where
  top := true
  dead := (! ·)
  combine := (· && ·)

/-- An else group has the types that all its conditions leave. -/
def groupTypeMask : Filling UInt where
  top := GRID_MAP_TYPE_MASK_ALL
  dead := (· = 0)
  combine := (· &&& ·)

/-- What a condition adds to its group: a reference adds the value of its template, any other
condition its own. -/
def Condition.value {β : Type} (references : ReferenceStore) (template : List Condition → Option β)
    (missing : Option β) (own : Condition → Option β) (c : Condition) : Option β :=
  if c.referenceId ≠ 0 then
    match references.lookup c.referenceId with
    | some conditions => template conditions
    | none => missing
  else own c

/-- `IsObjectMeetToConditionList`. A condition that is not loaded is skipped; a reference template
that does not exist changes nothing. -/
def isObjectMeetToConditionList (game : Game) (references : ReferenceStore)
    (s : ConditionSourceInfo) : ℕ → List Condition → Option Bool
  | 0, _ => none
  | depth + 1, conditions =>
    let value := Condition.value references
      (isObjectMeetToConditionList game references s depth) (some true) (·.meets game s)
    (fillGroups groupCheckPassed Condition.elseGroup value
      (conditions.filter (·.isLoaded))).map fun elseGroupStore =>
        elseGroupStore.entries.any (·.2)

def isObjectMeetToConditions (game : Game) (references : ReferenceStore)
    (s : ConditionSourceInfo) (depth : ℕ) (conditions : List Condition) : Option Bool :=
  if conditions.isEmpty then some true
  else isObjectMeetToConditionList game references s depth conditions

/-- `GetSearcherTypeMaskForConditionList`. Every condition has to be loaded, and every reference
template that is asked for has to exist. -/
def getSearcherTypeMaskForConditionList (references : ReferenceStore) :
    ℕ → List Condition → Option UInt
  | 0, _ => none
  | depth + 1, conditions =>
    if conditions.isEmpty then some GRID_MAP_TYPE_MASK_ALL
    -- ASSERT((*i)->isLoaded())
    else if conditions.all (·.isLoaded) then
      -- ASSERT(ref != ConditionReferenceStore.end())
      let value := Condition.value references
        (getSearcherTypeMaskForConditionList references depth) none
        (·.getSearcherTypeMaskForCondition)
      (fillGroups groupTypeMask Condition.elseGroup value conditions).map
        fun elseGroupSearcherTypeMasks =>
          elseGroupSearcherTypeMasks.entries.foldl (fun mask group => mask ||| group.2) 0
    else none

/-! ## 5. Loading -/

def Condition.getMaxAvailableConditionTargets (c : Condition) : ℕ :=
  match c.sourceType with
  | .spell | .spellImplicitTarget | .creatureTemplateVehicle | .vehicleSpell | .spellClickEvent
  | .gossipMenu | .gossipMenuOption | .smartEvent | .npcVendor | .spellProc => 2
  | _ => 1

/-- What the loader looks up in the data of the server. -/
structure Stores where
  hasSpellInfo : UInt → Bool
  hasItemTemplate : UInt → Bool
  /-- The area of an entry, as the zone it is part of. -/
  areaZone : UInt → Option UInt
  hasFaction : UInt → Bool
  hasSkillLine : UInt → Bool
  configMaxSkillValue : UInt
  hasQuestTemplate : UInt → Bool
  isGameEvent : UInt → Bool
  hasAchievement : UInt → Bool
  hasMap : UInt → Bool
  hasCreatureTemplate : UInt → Bool
  hasGameObjectTemplate : UInt → Bool
  /-- The entry of the spawn. -/
  creatureData : UInt → Option UInt
  gameObjectData : UInt → Option UInt
  worldState : UInt → UInt
  hasTitle : UInt → Bool
  deriving Inhabited

/-- The checks of `CONDITION_OBJECT_ENTRY_GUID` for the entry and the spawn of a kind that has
them. -/
def entryAndSpawnValid (hasTemplate : UInt → Bool) (data : UInt → Option UInt)
    (entry guid : UInt) : Bool :=
  (entry = 0 || hasTemplate entry) &&
    (guid = 0 ||
      match data guid with
      | some id => entry = 0 || id = entry
      | none => false)

/-- The checks on `ConditionValue1` where it selects another target. -/
def Condition.targetSelectionValid (c : Condition) : Bool :=
  c.conditionValue1.toNat < c.getMaxAvailableConditionTargets ∧
    c.conditionValue1.toNat ≠ c.conditionTarget.toNat

abbrev ALLIANCE : UInt := 469
abbrev HORDE : UInt := 67
abbrev CLASSMASK_ALL_PLAYABLE : UInt := 0x5FF
abbrev RACEMASK_ALL_PLAYABLE : UInt := 0x6FF
abbrev COMP_TYPE_MAX : UInt := 5
abbrev DRUNKEN_SMASHED : UInt := 3
abbrev RELATION_MAX : UInt := 6
abbrev SPAWNMASK_RAID_ALL : UInt := 0xF
abbrev UNIT_STATE_ALL_STATE_SUPPORTED : UInt := 0x1FF7FFBB
abbrev CREATURE_TYPE_GAS_CLOUD : UInt := 13
abbrev UNIT_STAND_STATE_SUBMERGED : UInt := 9

/-- `isConditionTypeValid`: the loader drops a condition that fails it. -/
def Condition.isConditionTypeValid (stores : Stores) (c : Condition) : Bool :=
  c.conditionTarget.toNat < c.getMaxAvailableConditionTargets &&
  match c.conditionType with
  | .none => false
  | .aura => stores.hasSpellInfo c.conditionValue1 && c.conditionValue2 ≤ 2
  | .item => stores.hasItemTemplate c.conditionValue1 && c.conditionValue2 ≠ 0
  | .itemEquipped => stores.hasItemTemplate c.conditionValue1
  | .zoneid => stores.areaZone c.conditionValue1 = some 0
  | .reputationRank => stores.hasFaction c.conditionValue1
  | .team => c.conditionValue1 = ALLIANCE ∨ c.conditionValue1 = HORDE
  | .skill => stores.hasSkillLine c.conditionValue1 && 1 ≤ c.conditionValue2 &&
      c.conditionValue2 ≤ stores.configMaxSkillValue
  | .questrewarded | .questtaken | .questNone | .questComplete =>
    stores.hasQuestTemplate c.conditionValue1
  | .activeEvent => stores.isGameEvent c.conditionValue1
  | .achievement | .realmAchievement => stores.hasAchievement c.conditionValue1
  | .class => c.conditionValue1 &&& CLASSMASK_ALL_PLAYABLE ≠ 0
  | .race => c.conditionValue1 &&& RACEMASK_ALL_PLAYABLE ≠ 0
  | .gender => c.conditionValue1.setWidth 8 ≤ 1
  | .mapid => stores.hasMap c.conditionValue1
  | .spell => stores.hasSpellInfo c.conditionValue1
  | .level => c.conditionValue2 < COMP_TYPE_MAX
  | .drunkenstate => c.conditionValue1 ≤ DRUNKEN_SMASHED
  | .nearCreature => stores.hasCreatureTemplate c.conditionValue1
  | .nearGameobject => stores.hasGameObjectTemplate c.conditionValue1
  | .objectEntryGuid =>
    if c.conditionValue1 = TypeID.unit.toUInt then
      entryAndSpawnValid stores.hasCreatureTemplate stores.creatureData c.conditionValue2
        c.conditionValue3
    else if c.conditionValue1 = TypeID.gameObject.toUInt then
      entryAndSpawnValid stores.hasGameObjectTemplate stores.gameObjectData c.conditionValue2
        c.conditionValue3
    else c.conditionValue1 = TypeID.player.toUInt ∨ c.conditionValue1 = TypeID.corpse.toUInt
  | .typeMask => c.conditionValue1 ≠ 0 ∧
      c.conditionValue1 &&&
        ~~~(TYPEMASK_UNIT ||| TYPEMASK_PLAYER ||| TYPEMASK_GAMEOBJECT ||| TYPEMASK_CORPSE) = 0
  | .relationTo => c.targetSelectionValid && c.conditionValue2 < RELATION_MAX
  | .reactionTo => c.targetSelectionValid && c.conditionValue2 ≠ 0
  | .distanceTo => c.targetSelectionValid && c.conditionValue3 < COMP_TYPE_MAX
  | .hpVal => c.conditionValue2 < COMP_TYPE_MAX
  | .hpPct => c.conditionValue1 ≤ 100 ∧ c.conditionValue2 < COMP_TYPE_MAX
  | .worldState => stores.worldState c.conditionValue1 ≠ 0
  | .title => stores.hasTitle c.conditionValue1
  | .spawnmask => c.conditionValue1 ≤ SPAWNMASK_RAID_ALL
  | .unitState => c.conditionValue1 &&& UNIT_STATE_ALL_STATE_SUPPORTED ≠ 0
  | .creatureType => c.conditionValue1 ≠ 0 ∧ c.conditionValue1 ≤ CREATURE_TYPE_GAS_CLOUD
  | .instanceInfo | .areaid | .phasemask | .alive | .inWater => true
  | .terrainSwap => false
  | .standState =>
    match c.conditionValue1.toNat with
    | 0 => c.conditionValue2 ≤ UNIT_STAND_STATE_SUBMERGED
    | 1 => c.conditionValue2 ≤ 1
    | _ => false

/-- What `LoadConditions` lets into a list: a reference, of which it checks nothing but that it does
not name the template it stands in, or a condition of a valid type. -/
def Condition.Loaded (stores : Stores) (c : Condition) : Prop :=
  c.referenceId = 0 → c.isConditionTypeValid stores

def conditionTypes : List ConditionTypes :=
  [.none, .aura, .item, .itemEquipped, .zoneid, .reputationRank, .team, .skill, .questrewarded,
    .questtaken, .drunkenstate, .worldState, .activeEvent, .instanceInfo, .questNone, .class,
    .race, .achievement, .title, .spawnmask, .gender, .unitState, .mapid, .areaid, .creatureType,
    .spell, .phasemask, .level, .questComplete, .nearCreature, .nearGameobject, .objectEntryGuid,
    .typeMask, .relationTo, .reactionTo, .distanceTo, .alive, .hpVal, .hpPct, .realmAchievement,
    .inWater, .terrainSwap, .standState]

/-- A row of the table `conditions`. The two columns that hold either a type or, negative, the
number of a template are an `int32`. -/
structure ConditionRow where
  sourceTypeOrReferenceId : BitVec 32
  elseGroup : UInt
  conditionTypeOrReference : BitVec 32
  conditionTarget : BitVec 8
  conditionValue1 : UInt
  conditionValue2 : UInt
  conditionValue3 : UInt
  negativeCondition : Bool
  deriving DecidableEq

/-- What `LoadConditions` makes of a row of a reference template, if it does not skip it. It only
logs what is useless in a reference. -/
def ConditionRow.condition (stores : Stores) (row : ConditionRow) : Option Condition :=
  let cond : Condition :=
    { sourceType := .none
      elseGroup := row.elseGroup
      conditionType := .none
      conditionValue1 := row.conditionValue1
      conditionValue2 := row.conditionValue2
      conditionValue3 := row.conditionValue3
      referenceId := 0
      conditionTarget := row.conditionTarget
      negativeCondition := row.negativeCondition }
  if row.conditionTypeOrReference.slt 0 then
    -- self referencing, skip
    if row.conditionTypeOrReference = row.sourceTypeOrReferenceId then none
    else some { cond with referenceId := row.conditionTypeOrReference.abs }
  else
    match conditionTypes[row.conditionTypeOrReference.toNat]? with
    | none => none
    | some conditionType =>
      let cond := { cond with conditionType := conditionType }
      if cond.isConditionTypeValid stores then some cond else none

/-- `LoadConditions`, as far as it fills `ConditionReferenceStore`. The rows that are not part of a
reference template go to other lists. -/
def loadReferences (stores : Stores) (rows : List ConditionRow) : ReferenceStore :=
  rows.foldl (fun references row =>
    if row.sourceTypeOrReferenceId.slt 0 then
      match row.condition stores with
      | some cond =>
        let id := row.sourceTypeOrReferenceId.abs
        references.insert id ((references.lookup id).getD [] ++ [cond])
      | none => references
    else references) ∅

end FunPvp.Conditions
