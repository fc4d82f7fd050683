/-
# Reset times of instances

Normal instances are reset one by one, two hours after their last respawn; the instances of a raid
or of a heroic dungeon are reset together, at a time the manager keeps for each pair of a map and a
difficulty that has a reset period. Both kinds of reset, and the warnings before a global one, wait
in one queue (`m_resetTimeQueue`), ordered by time.

`LoadResetTimes` fills the queue when the server starts; `Update` works it off; `ScheduleReset` adds
and cancels; `ForceGlobalReset` resets a pair now. The model follows these functions, as far as
they touch the tables of reset times, the manager's two containers and the queue.

An event is as small as the source has it: 16 bits for the instance id. The product of a period
with the rate of the configuration is a floating point expression; its value is a parameter
(`scaled`).
-/
import Mathlib

namespace FunPvp.Instances

/-! ## 1. Times, maps and the queue -/

/-- `HOUR`, in seconds. -/
abbrev HOUR : ℕ := 3600

/-- `DAY`, in seconds. -/
abbrev DAY : ℕ := 86400

/-- `MINUTE`, in seconds. -/
abbrev MINUTE : ℕ := 60

/-- The key `MAKE_PAIR32(map, difficulty)`. -/
abbrev MapDiff := UInt16 × UInt8

/-- What the manager reads of the client's data and of the configuration: the reset period of each
pair (`sMapDifficultyMap`), whether a map is `Instanceable`, the value of
`uint32(((resetTime * rate) / DAY) * DAY)` and the hour of the resets. -/
structure ResetEnv where
  sMapDifficultyMap : AList fun _ : MapDiff => UInt32
  instanceable : UInt16 → Bool
  scaled : UInt32 → ℕ
  hour : ℕ

/-- `InstResetEvent`: type 0 resets one instance, types 1 to 3 warn of a global reset and type 4
is one. -/
structure InstResetEvent where
  type : ℕ
  mapid : UInt16
  difficulty : UInt8
  instanceId : UInt16
  deriving DecidableEq

/-- The constructor with an instance id of 32 bits: it keeps the low 16. -/
def InstResetEvent.new (type : ℕ) (mapid : UInt16) (difficulty : UInt8) (instanceid : UInt32) :
    InstResetEvent :=
  ⟨type, mapid, difficulty, instanceid.toUInt16⟩

/-- `ResetTimeDelay`, by the type of the event minus 1. -/
def resetTimeDelay : ℕ → ℕ
  | 0 => 3600
  | 1 => 900
  | 2 => 300
  | _ => 60

/-- `ResetTimeQueue`: ordered by time, and within one second by insertion. -/
abbrev ResetTimeQueue := List (ℤ × InstResetEvent)

def ResetTimeQueue.insert (time : ℤ) (event : InstResetEvent) : ResetTimeQueue → ResetTimeQueue
  | [] => [(time, event)]
  | e :: queue =>
    if e.1 ≤ time then e :: ResetTimeQueue.insert time event queue else (time, event) :: e :: queue

/-- The manager: the reset time of each pair and the queue. -/
structure InstanceSaveManager where
  m_resetTimeByMapDifficulty : MapDiff → Option ℕ
  m_resetTimeQueue : ResetTimeQueue

namespace ResetEnv

variable (env : ResetEnv)

def period (resetTime : UInt32) : ℕ :=
  if env.scaled resetTime < DAY then DAY else env.scaled resetTime

/-- `CONFIG_INSTANCE_RESET_TIME_HOUR * HOUR`. -/
def diff : ℕ := env.hour * HOUR

/-- The reset period the pair has in the client's data, if it has one. -/
def resetTimeOf (pair : MapDiff) : Option UInt32 :=
  match env.sMapDifficultyMap.lookup pair with
  | some resetTime => if resetTime = 0 then none else some resetTime
  | none => none

def getSubsequentResetTime (pair : MapDiff) (resetTime : ℕ) : ℕ :=
  match env.resetTimeOf pair with
  | none => 0
  | some mapDiffResetTime =>
    (resetTime + MINUTE) / DAY * DAY + env.period mapDiffResetTime + env.diff

/-- `GetDownscaledMapDifficultyData`: the difficulty it settles on, if it finds data. -/
def getDownscaledMapDifficulty (mapId : UInt16) (difficulty : UInt8) : Option UInt8 :=
  if (env.sMapDifficultyMap.lookup (mapId, difficulty)).isSome then some difficulty
  else
    -- heroic, downscale to normal; else any non-normal mode for raids like tbc
    let tmpDiff := if difficulty > 1 then difficulty - 2 else difficulty - 1
    if (env.sMapDifficultyMap.lookup (mapId, tmpDiff)).isSome then some tmpDiff
    else if (env.sMapDifficultyMap.lookup (mapId, tmpDiff - 1)).isSome then some (tmpDiff - 1)
    else none

end ResetEnv

namespace InstanceSaveManager

variable (m : InstanceSaveManager)

def getResetTimeFor (pair : MapDiff) : ℕ := (m.m_resetTimeByMapDifficulty pair).getD 0

def initializeResetTimeFor (pair : MapDiff) (t : ℕ) : InstanceSaveManager :=
  { m with
    m_resetTimeByMapDifficulty := Function.update m.m_resetTimeByMapDifficulty pair (some t) }

def schedule (time : ℤ) (event : InstResetEvent) : InstanceSaveManager :=
  { m with m_resetTimeQueue := ResetTimeQueue.insert time event m.m_resetTimeQueue }

end InstanceSaveManager

/-! ## 2. The start of the server -/

structure InstanceRow where
  id : UInt32
  map : UInt16
  difficulty : UInt8
  resettime : UInt32
  deriving DecidableEq

/-- The rows of `SELECT .. FROM instance ORDER BY id ASC`. -/
structure InstanceTable where
  rows : List InstanceRow
  ids : (rows.map InstanceRow.id).Nodup

/-- A row of `SELECT MAX(respawnTime), instanceId FROM creature_respawn .. GROUP BY instanceId`. -/
structure RespawnRow where
  maxRespawnTime : UInt32
  instanceId : UInt32
  deriving DecidableEq

structure RespawnTable where
  rows : List RespawnRow
  instances : (rows.map RespawnRow.instanceId).Nodup

structure ResetRow where
  mapid : UInt16
  difficulty : UInt8
  resettime : UInt32
  deriving DecidableEq

/-- What `LoadResetTimes` works on: the normal instances with their reset times (the column of the
table is updated with them), and the manager. -/
structure LoadState where
  instResetTime : List InstanceRow
  mgr : InstanceSaveManager

def setInstResetTime (instance_ resettime : UInt32) (rows : List InstanceRow) :
    List InstanceRow :=
  rows.map fun row => if row.id = instance_ then { row with resettime := resettime } else row

/-- `do { .. } while (result->NextRow())` with the row of `creature_respawn` that `result2` stands
on: `result` still has the rows `left` to give. -/
def updateLoop (row : RespawnRow) : List InstanceRow → List InstanceRow → List InstanceRow
  | [], inst => setInstResetTime row.instanceId (row.maxRespawnTime + 2 * 3600) inst
  | _ :: left, inst =>
    updateLoop row left (setInstResetTime row.instanceId (row.maxRespawnTime + 2 * 3600) inst)

/-- The update of the reset times by the respawn times. The first loop has read `result` to its
end, so it has no rows left. -/
def updateResetTimes (respawns : RespawnTable) (inst : List InstanceRow) : List InstanceRow :=
  match respawns.rows with
  | [] => inst
  | row :: _ => updateLoop row [] inst

def scheduleInstances (now : ℕ) (inst : List InstanceRow) (mgr : InstanceSaveManager) :
    InstanceSaveManager :=
  inst.foldl (fun mgr row =>
    if row.resettime.toNat > now then
      mgr.schedule row.resettime.toNat (.new 0 row.map row.difficulty row.id)
    else mgr) mgr

/-- The first part of `LoadResetTimes`: normal instances. -/
def loadInstances (table : InstanceTable) (respawns : RespawnTable) (now : ℕ)
    (mgr : InstanceSaveManager) : LoadState :=
  match table.rows with
  | [] => ⟨[], mgr⟩
  | rows =>
    let inst := updateResetTimes respawns (rows.filter fun row => row.resettime ≠ 0)
    ⟨inst, scheduleInstances now inst mgr⟩

/-- The reset time of a row of `instance_reset`, moved to the hour of the configuration. -/
def ResetRow.newResetTime (env : ResetEnv) (row : ResetRow) : ℕ :=
  row.resettime.toNat / DAY * DAY + env.diff

def loadStored (env : ResetEnv) (rows : List ResetRow) (mgr : InstanceSaveManager) :
    InstanceSaveManager :=
  rows.foldl (fun mgr row =>
    let pair := (row.mapid, row.difficulty)
    -- a row of an invalid pair is deleted
    if (env.sMapDifficultyMap.lookup pair).isNone then mgr
    else mgr.initializeResetTimeFor pair (row.newResetTime env)) mgr

/-- The reset time of a pair after the start, from the one that was stored (0 for none). -/
def ResetEnv.startTime (env : ResetEnv) (resetTime : UInt32) (now stored : ℕ) : ℕ :=
  let today := now / DAY * DAY
  let period := env.period resetTime
  let t := if stored = 0 then today + period + env.diff else stored
  if t < now then
    let day := t / DAY * DAY
    day + (((today - day) / period + 1) * period + env.diff)
  else t

/-- The type of the first warning that is still to come, or of the reset. -/
def firstType (t now : ℕ) : ℕ :=
  if (t : ℤ) - resetTimeDelay 0 > now then 1
  else if (t : ℤ) - resetTimeDelay 1 > now then 2
  else if (t : ℤ) - resetTimeDelay 2 > now then 3
  else 4

def loadPair (env : ResetEnv) (now : ℕ) (inst : List InstanceRow) (mgr : InstanceSaveManager)
    (pair : MapDiff) (resetTime : UInt32) : InstanceSaveManager :=
  if resetTime = 0 then mgr
  else
    let t := env.startTime resetTime now (mgr.getResetTimeFor pair)
    let type := firstType t now
    let time : ℤ := t - resetTimeDelay (type - 1)
    let mgr := mgr.initializeResetTimeFor pair t
    let mgr := mgr.schedule time (.new type pair.1 pair.2 0)
    (inst.filter fun row => (row.map, row.difficulty) = pair).foldl
      (fun mgr row => mgr.schedule time (.new type pair.1 pair.2 row.id)) mgr

/-- `LoadResetTimes`. The instances that are warned of a global reset are those of the pair that
had a reset time when the first loop read them. -/
def loadResetTimes (env : ResetEnv) (table : InstanceTable) (respawns : RespawnTable)
    (reset : List ResetRow) (now : ℕ) : LoadState :=
  let s := loadInstances table respawns now ⟨fun _ => none, []⟩
  let mgr := loadStored env reset s.mgr
  let inst := table.rows.filter fun row => row.resettime ≠ 0
  { s with
    mgr := env.sMapDifficultyMap.entries.foldl
      (fun mgr e => loadPair env now inst mgr e.1 e.2) mgr }

end FunPvp.Instances
