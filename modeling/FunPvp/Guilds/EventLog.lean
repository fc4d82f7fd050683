/-
# The event logs of a guild

A guild keeps one log of its events and, for its bank, one for each tab and one for money. A log
(`LogHolder`) is a list of at most `m_maxRecords` entries in memory and the rows of a table that
carry the same entries. Memory drops its front entry when it is full; the table replaces by
number (`LogGuid`), and the numbers go round from `m_maxRecords - 1` to 0.

The two are written by `_LogEvent` and `_LogBankEvent` and meet again when the server starts: the
rows are then read in the order `TimeStamp DESC, LogGuid DESC` and pushed to the front of the
lists, and the number of the first row read is where the numbering goes on.

The time stamp is bound as 64 bits (`setUInt64`) and read back as 32 (`GetUInt32`).
-/
import FunPvp.Guilds.Guild

namespace FunPvp.Guilds

/-! ## 1. A log and its rows -/

/-- `GUILD_EVENT_LOG_GUID_UNDEFINED`: no number has been given out. -/
def GUILD_EVENT_LOG_GUID_UNDEFINED : ℕ := 0xFFFFFFFF

/-- `GUILD_BANK_MONEY_LOGS_TAB`: the tab under which the table has the money log. -/
def GUILD_BANK_MONEY_LOGS_TAB : UInt8 := 100

/-- `LogEntry`: the number and the time of an event, and what the derived class adds to them. -/
structure LogEntry (E : Type*) where
  m_guid : ℕ
  m_timestamp : ℕ
  m_event : E
  deriving DecidableEq

structure LogHolder (E : Type*) where
  m_log : List (LogEntry E)
  m_maxRecords : ℕ
  m_nextGUID : ℕ
  deriving DecidableEq

namespace LogHolder

variable {E : Type*}

def new (maxRecords : ℕ) : LogHolder E := ⟨[], maxRecords, GUILD_EVENT_LOG_GUID_UNDEFINED⟩

def canInsert (holder : LogHolder E) : Bool := decide (holder.m_log.length < holder.m_maxRecords)

def loadEvent (holder : LogHolder E) (entry : LogEntry E) : LogHolder E :=
  { holder with
    m_nextGUID :=
      if holder.m_nextGUID = GUILD_EVENT_LOG_GUID_UNDEFINED then entry.m_guid
      else holder.m_nextGUID
    m_log := entry :: holder.m_log }

/-- `AddEvent`, the part in memory. -/
def addEvent (holder : LogHolder E) (entry : LogEntry E) : LogHolder E :=
  { holder with
    m_log :=
      (if holder.m_log.length ≥ holder.m_maxRecords then holder.m_log.tail else holder.m_log)
        ++ [entry] }

def getNextGUID (holder : LogHolder E) : ℕ :=
  if holder.m_nextGUID = GUILD_EVENT_LOG_GUID_UNDEFINED then 0
  else (holder.m_nextGUID + 1) % holder.m_maxRecords

/-- The holder after `GetNextGUID` and `AddEvent` of the entry that got the number. -/
def logEvent (holder : LogHolder E) (now : ℕ) (event : E) : LogHolder E :=
  { holder with m_nextGUID := holder.getNextGUID }.addEvent ⟨holder.getNextGUID, now, event⟩

end LogHolder

/-- `SaveToDB`: `DELETE` of the row with the entry's key, then `INSERT`. `same` compares what the
key has besides `LogGuid`. -/
def saveToDB {E : Type*} (same : E → E → Bool) (entry : LogEntry E) (rows : List (LogEntry E)) :
    List (LogEntry E) :=
  rows.filter (fun row => ¬ (row.m_guid = entry.m_guid ∧ same row.m_event entry.m_event))
    ++ [entry]

/-- The order of the loader's queries: `TimeStamp DESC, LogGuid DESC`. -/
def newer {E : Type*} (a b : LogEntry E) : Bool :=
  decide (b.m_timestamp < a.m_timestamp ∨ a.m_timestamp = b.m_timestamp ∧ b.m_guid ≤ a.m_guid)

/-- The result of the loader's query. Rows of one log never tie; which of two rows of different
logs comes first makes no difference. -/
def query {E : Type*} (rows : List (LogEntry E)) : List (LogEntry E) :=
  rows.insertionSort fun a b => newer a b

/-- The entry built from the fields of a row: `GetUInt32` reads the low 32 bits of the time. -/
def LogEntry.fetch {E : Type*} (row : LogEntry E) : LogEntry E :=
  { row with m_timestamp := row.m_timestamp % 2 ^ 32 }

/-! ## 2. The logs of a guild -/

inductive GuildEventLogTypes
  | invitePlayer | joinGuild | promotePlayer | demotePlayer | uninvitePlayer | leaveGuild
  deriving DecidableEq

inductive GuildBankEventLogTypes
  | depositItem | withdrawItem | moveItem | depositMoney | withdrawMoney | repairMoney
  | moveItem2 | unk1 | buySlot
  deriving DecidableEq

/-- What `EventLogEntry` adds to a `LogEntry`. -/
structure EventLogData where
  m_eventType : GuildEventLogTypes
  m_playerGuid1 : ObjectGuid
  m_playerGuid2 : ObjectGuid
  m_newRank : UInt8
  deriving DecidableEq

/-- What `BankEventLogEntry` adds to a `LogEntry`. -/
structure BankEventLogData where
  m_eventType : GuildBankEventLogTypes
  m_bankTabId : UInt8
  m_playerGuid : ObjectGuid
  m_itemOrMoney : UInt32
  m_itemStackCount : UInt16
  m_destTabId : UInt8
  deriving DecidableEq

def isMoneyEvent (eventType : GuildBankEventLogTypes) : Bool :=
  eventType = .depositMoney || eventType = .withdrawMoney || eventType = .repairMoney

/-- The logs of a guild, the rows of its two log tables, the number of its bank tabs
(`m_bankTabs.size()`) and the time. -/
structure GuildLogs where
  now : ℕ
  m_bankTabs : ℕ
  m_eventLog : LogHolder EventLogData
  m_bankEventLog : UInt8 → LogHolder BankEventLogData
  guild_eventlog : List (LogEntry EventLogData)
  guild_bank_eventlog : List (LogEntry BankEventLogData)

/-- `CONFIG_GUILD_EVENT_LOG_COUNT` and `CONFIG_GUILD_BANK_EVENT_LOG_COUNT`. -/
structure LogCounts where
  eventLogCount : ℕ
  bankEventLogCount : ℕ

/-- The index in `m_bankEventLog` of the log that the table has under `dbTabId`. -/
def bankLogIndex (dbTabId : UInt8) : UInt8 :=
  if dbTabId = GUILD_BANK_MONEY_LOGS_TAB then GUILD_BANK_MAX_TABS else dbTabId

namespace GuildLogs

/-- A guild without events: `Guild::Create` after `_CreateLogHolders`. -/
def create (counts : LogCounts) (now : ℕ) : GuildLogs where
  now := now
  m_bankTabs := 0
  m_eventLog := .new counts.eventLogCount
  m_bankEventLog := fun _ => .new counts.bankEventLogCount
  guild_eventlog := []
  guild_bank_eventlog := []

def logEvent (s : GuildLogs) (data : EventLogData) : GuildLogs :=
  { s with
    m_eventLog := s.m_eventLog.logEvent s.now data
    guild_eventlog :=
      saveToDB (fun _ _ => true) ⟨s.m_eventLog.getNextGUID, s.now, data⟩ s.guild_eventlog }

/-- The last part of `_LogBankEvent`: the entry goes to the log of its tab. -/
def addBankEvent (s : GuildLogs) (data : BankEventLogData) : GuildLogs :=
  let tabId := bankLogIndex data.m_bankTabId
  let pLog := s.m_bankEventLog tabId
  { s with
    m_bankEventLog := Function.update s.m_bankEventLog tabId (pLog.logEvent s.now data)
    guild_bank_eventlog :=
      saveToDB (fun a b => a.m_bankTabId = b.m_bankTabId) ⟨pLog.getNextGUID, s.now, data⟩
        s.guild_bank_eventlog }

end GuildLogs

def bankEventLogEntry (eventType : GuildBankEventLogTypes) (tabId : UInt8)
    (lowguid : ObjectGuid) (itemOrMoney : UInt32) (itemStackCount : UInt16) (destTabId : UInt8) :
    Option BankEventLogData :=
  if tabId > GUILD_BANK_MAX_TABS then none
  else if eventType = .moveItem ∧ tabId = destTabId then none
  else
    let dbTabId := if isMoneyEvent eventType then GUILD_BANK_MONEY_LOGS_TAB else tabId
    some ⟨eventType, dbTabId, lowguid, itemOrMoney, itemStackCount, destTabId⟩

namespace GuildLogs

def logBankEvent (s : GuildLogs) (eventType : GuildBankEventLogTypes) (tabId : UInt8)
    (lowguid : ObjectGuid) (itemOrMoney : UInt32) (itemStackCount : UInt16) (destTabId : UInt8) :
    GuildLogs :=
  match bankEventLogEntry eventType tabId lowguid itemOrMoney itemStackCount destTabId with
  | some data => s.addBankEvent data
  | none => s

def loadEventLogFromDB (s : GuildLogs) (row : LogEntry EventLogData) : GuildLogs :=
  if s.m_eventLog.canInsert then
    { s with m_eventLog := s.m_eventLog.loadEvent row.fetch }
  else s

def loadBankEventLogFromDB (s : GuildLogs) (row : LogEntry BankEventLogData) : GuildLogs :=
  let dbTabId := row.m_event.m_bankTabId
  let isMoneyTab := decide (dbTabId = GUILD_BANK_MONEY_LOGS_TAB)
  if dbTabId.toNat < s.m_bankTabs ∨ isMoneyTab then
    let tabId := if isMoneyTab then GUILD_BANK_MAX_TABS else dbTabId
    let pLog := s.m_bankEventLog tabId
    if pLog.canInsert then
      -- an event of the wrong kind is reported and left out
      if isMoneyEvent row.m_event.m_eventType ≠ isMoneyTab then s
      else { s with m_bankEventLog :=
               Function.update s.m_bankEventLog tabId (pLog.loadEvent row.fetch) }
    else s
  else s

/-- The start of the server: `_CreateLogHolders`, then parts 5 and 6 of `GuildMgr::LoadGuilds`. -/
def loadGuilds (counts : LogCounts) (s : GuildLogs) : GuildLogs :=
  let guild_eventlog :=
    s.guild_eventlog.filter fun row => ¬ row.m_guid > counts.eventLogCount
  let guild_bank_eventlog :=
    s.guild_bank_eventlog.filter fun row => ¬ row.m_guid > counts.bankEventLogCount
  let fresh : GuildLogs :=
    { s with
      m_eventLog := .new counts.eventLogCount
      m_bankEventLog := fun _ => .new counts.bankEventLogCount
      guild_eventlog := guild_eventlog
      guild_bank_eventlog := guild_bank_eventlog }
  (query guild_bank_eventlog).foldl loadBankEventLogFromDB
    ((query guild_eventlog).foldl loadEventLogFromDB fresh)

end GuildLogs

/-- What happens to the logs of a guild. -/
inductive LogStep
  /-- Time passes. -/
  | tick (seconds : ℕ)
  /-- `_LogEvent`. -/
  | event (data : EventLogData)
  /-- A change of the bank is logged. Moves of items come from `SwapItems` and
  `SwapItemsWithInventory`, which return before they log unless the tab is a purchased one. -/
  | bankEvent (eventType : GuildBankEventLogTypes) (tabId : UInt8) (lowguid : ObjectGuid)
      (itemOrMoney : UInt32) (itemStackCount : UInt16) (destTabId : UInt8)
  /-- `HandleBuyBankTab`, for the next tab. -/
  | buyBankTab
  /-- The server stops and starts again. -/
  | restart

namespace GuildLogs

/-- The entry a step adds to a bank log, after the checks of the callers and of `_LogBankEvent`. -/
def bankEntryOf (s : GuildLogs) : LogStep → Option BankEventLogData
  | .bankEvent eventType tabId lowguid itemOrMoney itemStackCount destTabId =>
    if ¬ isMoneyEvent eventType ∧ tabId.toNat ≥ s.m_bankTabs then none
    else bankEventLogEntry eventType tabId lowguid itemOrMoney itemStackCount destTabId
  | _ => none

def step (counts : LogCounts) (s : GuildLogs) : LogStep → GuildLogs
  | .tick seconds => { s with now := s.now + seconds }
  | .event data => s.logEvent data
  | .bankEvent eventType tabId lowguid itemOrMoney itemStackCount destTabId =>
    if ¬ isMoneyEvent eventType ∧ tabId.toNat ≥ s.m_bankTabs then s
    else s.logBankEvent eventType tabId lowguid itemOrMoney itemStackCount destTabId
  | .buyBankTab =>
    if s.m_bankTabs ≥ GUILD_BANK_MAX_TABS.toNat then s
    else { s with m_bankTabs := s.m_bankTabs + 1 }
  | .restart => s.loadGuilds counts

end GuildLogs

end FunPvp.Guilds
