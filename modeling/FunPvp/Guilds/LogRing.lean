/-
# The two rings of a guild log

After the history `H` of a log, memory has `ring n H`: the last `n` events with their numbers,
oldest first; the table has the same entries in some order (`Aligned`). Logging an event keeps
this, because the number that is used next is that of the oldest event once the ring is full.

A reload keeps it when the order of the query, time before number, is the order of the events. The
one thing that can go wrong is that an event with number 0 was logged in the same second as the one
before it (`WrapTie`): the query then takes the older of the two for the newer.
-/
import FunPvp.Guilds.EventLog
import FunPvp.Lib.Ring
import FunPvp.Lib.Run

namespace FunPvp.Guilds

open Lib

/-! ## 1. One log -/

section

variable {E : Type*} {n : ℕ} {H : List (ℕ × E)} {holder : LogHolder E} {rows : List (LogEntry E)}

def toEntry (p : ℕ × ℕ × E) : LogEntry E := ⟨p.1, p.2.1, p.2.2⟩

/-- Memory and table both carry the ring of the history. -/
structure Aligned (n : ℕ) (H : List (ℕ × E)) (holder : LogHolder E) (rows : List (LogEntry E)) :
    Prop where
  maxRecords : holder.m_maxRecords = n
  log : holder.m_log = (ring n H).map toEntry
  next : holder.getNextGUID = H.length % n
  rows : rows.Perm holder.m_log

theorem map_guid_map_toEntry (L : List (ℕ × ℕ × E)) :
    (L.map toEntry).map LogEntry.m_guid = L.map Prod.fst := by
  simp [toEntry, Function.comp_def]

theorem Aligned.guids (A : Aligned n H holder rows) :
    holder.m_log.map LogEntry.m_guid = (ring n H).map Prod.fst := by
  rw [A.log, map_guid_map_toEntry]

theorem Aligned.length_log (A : Aligned n H holder rows) :
    holder.m_log.length = min n H.length := by
  rw [A.log, List.length_map, length_ring]

theorem Aligned.nodup (A : Aligned n H holder rows) (hn : 1 ≤ n) :
    (holder.m_log.map LogEntry.m_guid).Nodup := by
  rw [A.guids]
  exact nodup_ring hn

theorem Aligned.lastEvents (A : Aligned n H holder rows) :
    holder.m_log.map (fun e => (e.m_timestamp, e.m_event)) = H.rtake n := by
  rw [A.log, List.map_map, ← map_snd_ring]
  rfl

def LogHolder.evicted (holder : LogHolder E) : List (LogEntry E) :=
  if holder.m_log.length ≥ holder.m_maxRecords then holder.m_log.take 1 else []

theorem aligned_new (n : ℕ) : Aligned n [] (LogHolder.new n : LogHolder E) [] where
  maxRecords := rfl
  log := by simp [LogHolder.new]
  next := by simp [LogHolder.getNextGUID, LogHolder.new]
  rows := List.Perm.refl _

theorem Aligned.next_cases (A : Aligned n H holder rows) (hn : 1 ≤ n) :
    (holder.m_log.length ≥ holder.m_maxRecords ∧ ∃ e l, holder.m_log = e :: l ∧
        e.m_guid = holder.getNextGUID ∧ ∀ x ∈ l, x.m_guid ≠ holder.getNextGUID) ∨
      (¬ holder.m_log.length ≥ holder.m_maxRecords ∧
        ∀ x ∈ holder.m_log, x.m_guid ≠ holder.getNextGUID) := by
  have hnodup := A.nodup hn
  rw [A.length_log, A.maxRecords, A.next]
  rcases Nat.lt_or_ge H.length n with hroom | hfull
  · refine .inr ⟨by omega, fun x hx heq => ?_⟩
    have hmem := List.mem_map_of_mem (f := LogEntry.m_guid) hx
    rw [A.guids, heq] at hmem
    exact next_not_mem_ring hroom hmem
  · obtain ⟨a, ha⟩ := exists_ring_eq_cons hn hfull
    have hlog : holder.m_log = toEntry (H.length % n, a) :: (ring n H).tail.map toEntry := by
      rw [A.log, ha]
      rfl
    rw [hlog, List.map_cons, List.nodup_cons] at hnodup
    refine .inl ⟨by omega, _, _, hlog, rfl, fun x hx heq => hnodup.1 ?_⟩
    have hmem := List.mem_map_of_mem (f := LogEntry.m_guid) hx
    rwa [heq] at hmem

theorem Aligned.filter_log (A : Aligned n H holder rows) (hn : 1 ≤ n) :
    holder.m_log.filter (fun e => ¬ e.m_guid = holder.getNextGUID)
      = if holder.m_log.length ≥ holder.m_maxRecords then holder.m_log.tail
        else holder.m_log := by
  rcases A.next_cases hn with ⟨hfull, e, l, hlog, he, hl⟩ | ⟨hroom, hfree⟩
  · rw [if_pos hfull, hlog, List.filter_cons_of_neg (by simpa using he), List.tail_cons,
      List.filter_eq_self]
    intro x hx
    simpa using hl x hx
  · rw [if_neg hroom, List.filter_eq_self]
    intro x hx
    simpa using hfree x hx

theorem Aligned.filter_rows (A : Aligned n H holder rows) (hn : 1 ≤ n) :
    rows.filter (fun e => e.m_guid = holder.getNextGUID) = holder.evicted := by
  have hperm := A.rows.filter fun e => decide (e.m_guid = holder.getNextGUID)
  unfold LogHolder.evicted
  rcases A.next_cases hn with ⟨hfull, e, l, hlog, he, hl⟩ | ⟨hroom, hfree⟩
  · have hnone : l.filter (fun x => x.m_guid = holder.getNextGUID) = [] := by
      rw [List.filter_eq_nil_iff]
      intro x hx
      simpa using hl x hx
    rw [hlog, List.filter_cons_of_pos (by simpa using he), hnone] at hperm
    rw [if_pos hfull, hlog]
    exact List.perm_singleton.mp hperm
  · have hnone : holder.m_log.filter (fun x => x.m_guid = holder.getNextGUID) = [] := by
      rw [List.filter_eq_nil_iff]
      intro x hx
      simpa using hfree x hx
    rw [hnone] at hperm
    rw [if_neg hroom]
    exact hperm.eq_nil

theorem getNextGUID_succ {m : ℕ} (hn : 1 ≤ n) (hmax : n ≤ GUILD_EVENT_LOG_GUID_UNDEFINED)
    (hholder : holder.m_maxRecords = n) (hnext : holder.m_nextGUID = m % n) :
    holder.getNextGUID = (m + 1) % n := by
  have hlt : m % n < n := Nat.mod_lt _ hn
  rw [LogHolder.getNextGUID, hholder, hnext, if_neg (by omega), Nat.mod_add_mod]

theorem Aligned.logEvent (A : Aligned n H holder rows) (hn : 1 ≤ n)
    (hmax : n ≤ GUILD_EVENT_LOG_GUID_UNDEFINED) (now : ℕ) (event : E) :
    Aligned n (H ++ [(now, event)]) (holder.logEvent now event)
      (rows.filter (fun e => ¬ e.m_guid = holder.getNextGUID)
        ++ [⟨holder.getNextGUID, now, event⟩]) where
  maxRecords := A.maxRecords
  log := by
    have hlog : (holder.logEvent now event).m_log
        = (if holder.m_log.length ≥ holder.m_maxRecords then holder.m_log.tail
            else holder.m_log) ++ [⟨holder.getNextGUID, now, event⟩] := rfl
    rw [hlog, A.length_log, A.maxRecords, A.next, A.log]
    split
    · rw [ring_concat_of_le hn (by omega), List.map_append, List.map_tail]
      rfl
    · rw [ring_concat_of_lt (by omega), List.map_append]
      rfl
  next := by
    rw [List.length_append, List.length_singleton]
    exact getNextGUID_succ hn hmax A.maxRecords A.next
  rows := by
    have hperm := A.rows.filter fun e => decide (¬ e.m_guid = holder.getNextGUID)
    rw [A.filter_log hn] at hperm
    exact hperm.append_right _

theorem Aligned.guid_lt (A : Aligned n H holder rows) (hn : 1 ≤ n) :
    ∀ e ∈ holder.m_log, e.m_guid < n := by
  intro e he
  have hmem := List.mem_map_of_mem (f := LogEntry.m_guid) he
  rw [A.guids, map_fst_ring, List.mem_map] at hmem
  obtain ⟨x, -, hx⟩ := hmem
  rw [← hx]
  exact Nat.mod_lt x hn

/-! ## 2. Reading a log back -/

/-- The loop of the loader over the rows of one log. -/
def LogHolder.load (holder : LogHolder E) (rows : List (LogEntry E)) : LogHolder E :=
  rows.foldl (fun h row => if h.canInsert then h.loadEvent row.fetch else h) holder

/-- An event with number 0 was logged in the same second as its predecessor. -/
def WrapTie (maxRecords : ℕ) (a b : LogEntry E) : Prop :=
  a.m_guid + 1 = maxRecords ∧ b.m_guid = 0 ∧ a.m_timestamp = b.m_timestamp

/-- No two neighbours of the log tie across the wrap. -/
def LogHolder.NoWrapTie (holder : LogHolder E) : Prop :=
  holder.m_log.IsChain fun a b => ¬ WrapTie holder.m_maxRecords a b

/-- `a` comes before `b` in the order by time and number. -/
def older (a b : LogEntry E) : Prop :=
  a.m_timestamp < b.m_timestamp ∨ a.m_timestamp = b.m_timestamp ∧ a.m_guid < b.m_guid

instance : IsTrans (LogEntry E) older where
  trans a b c hab hbc := by
    unfold older at *
    omega

theorem newer_of_older {a b : LogEntry E} (h : older a b) : newer b a := by
  simp only [older, newer, decide_eq_true_eq] at *
  omega

instance : IsTrans (LogEntry E) fun a b => newer a b where
  trans a b c := by
    simp only [newer, decide_eq_true_eq]
    omega

instance : Std.Total fun a b : LogEntry E => (newer a b : Prop) where
  total a b := by
    simp only [newer, decide_eq_true_eq]
    omega

theorem query_pairwise (rows : List (LogEntry E)) :
    (query rows).Pairwise fun a b => newer a b :=
  List.pairwise_insertionSort _ rows

theorem query_perm (rows : List (LogEntry E)) : (query rows).Perm rows :=
  List.perm_insertionSort _ rows

theorem Aligned.pairwise_older (A : Aligned n H holder rows) (hn : 1 ≤ n)
    (htime : (H.map Prod.fst).Pairwise (· ≤ ·)) (htie : holder.NoWrapTie) :
    holder.m_log.Pairwise older := by
  have htimes : (holder.m_log.map LogEntry.m_timestamp).Pairwise (· ≤ ·) := by
    have hmap : holder.m_log.map LogEntry.m_timestamp = (H.map Prod.fst).rtake n := by
      rw [List.rtake, List.length_map, ← List.map_drop, ← List.rtake, ← A.lastEvents, List.map_map]
      rfl
    rw [hmap]
    exact htime.sublist (List.drop_sublist _ _)
  rw [← List.isChain_iff_pairwise, List.isChain_iff_getElem]
  intro i hi
  have hle := List.pairwise_iff_getElem.mp htimes i (i + 1) (by simp; omega) (by simpa) (by omega)
  have hwrap := List.isChain_iff_getElem.mp htie i hi
  have hnums := isChain_ring (n := n) (H := H)
  rw [← A.guids] at hnums
  have hnum := List.isChain_iff_getElem.mp hnums i (by simpa)
  simp only [List.getElem_map] at hle hnum
  have hlt := A.guid_lt hn _ (List.getElem_mem (n := i) (by omega : i < holder.m_log.length))
  rw [A.maxRecords] at hwrap
  unfold WrapTie at hwrap
  rcases Nat.lt_or_ge (holder.m_log[i].m_guid + 1) n with hbelow | hlast
  · rw [Nat.mod_eq_of_lt hbelow] at hnum
    unfold older
    omega
  · have hzero : holder.m_log[i].m_guid + 1 = n := by omega
    rw [hzero, Nat.mod_self] at hnum
    unfold older
    omega

/-- **The query reads a log backwards**: what it gives of the rows of one log is its list in
memory, newest first. -/
theorem Aligned.read (A : Aligned n H holder rows) (hn : 1 ≤ n)
    (htime : (H.map Prod.fst).Pairwise (· ≤ ·)) (htie : holder.NoWrapTie)
    {result : List (LogEntry E)} (hsorted : result.Pairwise fun a b => newer a b)
    (hperm : result.Perm rows) : result = holder.m_log.reverse := by
  have hlog := A.pairwise_older hn htime htie
  have hrev : holder.m_log.reverse.Pairwise fun a b => newer a b := by
    rw [List.pairwise_reverse]
    exact hlog.imp newer_of_older
  refine List.Perm.eq_of_pairwise ?_ hsorted hrev
    (hperm.trans (A.rows.trans (List.reverse_perm _).symm))
  intro a b ha hb hab hba
  have hguid : a.m_guid = b.m_guid := by
    simp only [newer, decide_eq_true_eq] at hab hba
    omega
  exact List.inj_on_of_nodup_map (A.nodup hn) (A.rows.subset (hperm.subset ha))
    (List.mem_reverse.mp hb) hguid

theorem fetch_of_lt {e : LogEntry E} (h : e.m_timestamp < 2 ^ 32) : e.fetch = e := by
  rw [LogEntry.fetch, Nat.mod_eq_of_lt h]

theorem LogHolder.load_eq (holder : LogHolder E) {rows : List (LogEntry E)}
    (hroom : holder.m_log.length + rows.length ≤ holder.m_maxRecords)
    (hguid : ∀ e ∈ rows, e.m_guid ≠ GUILD_EVENT_LOG_GUID_UNDEFINED)
    (htime : ∀ e ∈ rows, e.m_timestamp < 2 ^ 32) :
    holder.load rows =
      ⟨rows.reverse ++ holder.m_log, holder.m_maxRecords,
        if holder.m_nextGUID = GUILD_EVENT_LOG_GUID_UNDEFINED then
          (rows.head?.map LogEntry.m_guid).getD GUILD_EVENT_LOG_GUID_UNDEFINED
        else holder.m_nextGUID⟩ := by
  induction rows generalizing holder with
  | nil =>
    obtain ⟨log, maxRecords, next⟩ := holder
    simp [LogHolder.load]
  | cons e rows ih =>
    have hinsert : holder.canInsert = true := by
      simp only [List.length_cons] at hroom
      simp only [LogHolder.canInsert, decide_eq_true_eq]
      omega
    have hcons : holder.load (e :: rows) = (holder.loadEvent e).load rows := by
      rw [LogHolder.load, List.foldl_cons, if_pos hinsert, fetch_of_lt (htime e (by simp)),
        LogHolder.load]
    have hne := hguid e List.mem_cons_self
    rw [hcons, ih _ (by simp only [LogHolder.loadEvent, List.length_cons] at *; omega)
      (fun e he => hguid e (List.mem_cons_of_mem _ he))
      (fun e he => htime e (List.mem_cons_of_mem _ he))]
    by_cases hundef : holder.m_nextGUID = GUILD_EVENT_LOG_GUID_UNDEFINED
    · simp [LogHolder.loadEvent, hundef, hne]
    · simp [LogHolder.loadEvent, hundef]

theorem Aligned.reload (A : Aligned n H holder rows) (hn : 1 ≤ n)
    (hmax : n ≤ GUILD_EVENT_LOG_GUID_UNDEFINED)
    (htime : (H.map Prod.fst).Pairwise (· ≤ ·)) (hfits : ∀ p ∈ H, p.1 < 2 ^ 32)
    (htie : holder.NoWrapTie) {result rows' : List (LogEntry E)}
    (hsorted : result.Pairwise fun a b => newer a b) (hperm : result.Perm rows')
    (hrows : rows'.Perm rows) :
    Aligned n H ((LogHolder.new n).load result) rows' := by
  have hread := A.read hn htime htie hsorted (hperm.trans hrows)
  have hguid := A.guid_lt hn
  have htimes : ∀ e ∈ holder.m_log, e.m_timestamp < 2 ^ 32 := by
    intro e he
    have hmem := List.mem_map_of_mem (f := fun e => (e.m_timestamp, e.m_event)) he
    rw [A.lastEvents] at hmem
    exact hfits _ (List.mem_of_mem_drop hmem)
  have hload := (LogHolder.new n).load_eq
    (by
      rw [hread, List.length_reverse, A.length_log]
      simp [LogHolder.new])
    (fun e he => by
      have := hguid e (List.mem_reverse.mp (hread ▸ he))
      omega)
    (fun e he => htimes e (List.mem_reverse.mp (hread ▸ he)))
  rw [hload, hread]
  refine ⟨rfl, by simp [LogHolder.new, A.log], ?_, ?_⟩
  · rw [List.head?_reverse]
    rcases List.eq_nil_or_concat H with rfl | ⟨H', p, rfl⟩
    · simp [A.log, LogHolder.new, LogHolder.getNextGUID]
    · have hlast := getLast?_ring (n := n) (H := H') hn p
      rw [List.concat_eq_append] at A
      rw [← A.guids, List.getLast?_map] at hlast
      rw [List.concat_eq_append, List.length_append, List.length_singleton]
      refine getNextGUID_succ hn hmax rfl ?_
      simp [hlast, LogHolder.new]
  · simpa [LogHolder.new] using hrows.trans A.rows

end

/-! ## 3. The logs of a guild -/

inductive LogRecord
  | event (data : EventLogData)
  | bank (data : BankEventLogData)
  deriving DecidableEq

/-- The tabs under which the table can have a log. -/
def IsBankLog (t : UInt8) : Prop := t < GUILD_BANK_MAX_TABS ∨ t = GUILD_BANK_MONEY_LOGS_TAB

def eventHistory (record : List (ℕ × LogRecord)) : List (ℕ × EventLogData) :=
  record.filterMap fun
    | (now, .event data) => some (now, data)
    | (_, .bank _) => none

def bankHistory (t : UInt8) (record : List (ℕ × LogRecord)) : List (ℕ × BankEventLogData) :=
  record.filterMap fun
    | (now, .bank data) => if data.m_bankTabId = t then some (now, data) else none
    | (_, .event _) => none

theorem bankLogIndex_inj {t u : UInt8} (ht : IsBankLog t) (hu : IsBankLog u) :
    bankLogIndex t = bankLogIndex u ↔ t = u := by
  simp only [IsBankLog, bankLogIndex, GUILD_BANK_MAX_TABS, GUILD_BANK_MONEY_LOGS_TAB,
    UInt8.lt_iff_toNat_lt, ← UInt8.toNat_inj] at *
  split_ifs <;> simp_all <;> omega

/-- What the bank tables hold can be loaded again. -/
structure Loadable (tabs : ℕ) (data : BankEventLogData) : Prop where
  tab : data.m_bankTabId.toNat < tabs ∨ data.m_bankTabId = GUILD_BANK_MONEY_LOGS_TAB
  money : isMoneyEvent data.m_eventType = true ↔ data.m_bankTabId = GUILD_BANK_MONEY_LOGS_TAB

theorem Loadable.isBankLog {tabs : ℕ} {data : BankEventLogData} (h : Loadable tabs data)
    (htabs : tabs ≤ GUILD_BANK_MAX_TABS.toNat) : IsBankLog data.m_bankTabId := by
  refine h.tab.imp_left fun hlt => ?_
  rw [UInt8.lt_iff_toNat_lt]
  omega

theorem Loadable.mono {tabs tabs' : ℕ} {data : BankEventLogData} (h : Loadable tabs data)
    (hle : tabs ≤ tabs') : Loadable tabs' data :=
  ⟨h.tab.imp_left fun hlt => by omega, h.money⟩

namespace GuildLogs

def recordOf (s : GuildLogs) (st : LogStep) : List (ℕ × LogRecord) :=
  match st with
  | .event data => [(s.now, .event data)]
  | st => ((s.bankEntryOf st).map fun data => (s.now, LogRecord.bank data)).toList

def bankRows (s : GuildLogs) (t : UInt8) : List (LogEntry BankEventLogData) :=
  s.guild_bank_eventlog.filter fun row => row.m_event.m_bankTabId = t

/-- All logs carry the rings of their histories. -/
structure Inv (counts : LogCounts) (record : List (ℕ × LogRecord)) (s : GuildLogs) : Prop where
  event : Aligned counts.eventLogCount (eventHistory record) s.m_eventLog s.guild_eventlog
  bank : ∀ t, IsBankLog t → Aligned counts.bankEventLogCount (bankHistory t record)
    (s.m_bankEventLog (bankLogIndex t)) (s.bankRows t)
  tabs : s.m_bankTabs ≤ GUILD_BANK_MAX_TABS.toNat
  loadable : ∀ row ∈ s.guild_bank_eventlog, Loadable s.m_bankTabs row.m_event
  sorted : (record.map Prod.fst).Pairwise (· ≤ ·)
  past : ∀ p ∈ record, p.1 ≤ s.now

/-- What a restart needs to read the logs back as they were: the clock fits the column, and no
log has a tie across the wrap. -/
def Readable (s : GuildLogs) : LogStep → Prop
  | .restart => s.now < 2 ^ 32 ∧ s.m_eventLog.NoWrapTie ∧
      ∀ t, IsBankLog t → (s.m_bankEventLog (bankLogIndex t)).NoWrapTie
  | _ => True

variable {counts : LogCounts} {record : List (ℕ × LogRecord)} {s : GuildLogs}

theorem inv_create (counts : LogCounts) (now : ℕ) : Inv counts [] (create counts now) where
  event := aligned_new _
  bank _ _ := aligned_new _
  tabs := Nat.zero_le _
  loadable _ h := absurd h List.not_mem_nil
  sorted := List.Pairwise.nil
  past _ h := absurd h List.not_mem_nil

end GuildLogs

theorem eventHistory_append (r r' : List (ℕ × LogRecord)) :
    eventHistory (r ++ r') = eventHistory r ++ eventHistory r' := List.filterMap_append

theorem bankHistory_append (t : UInt8) (r r' : List (ℕ × LogRecord)) :
    bankHistory t (r ++ r') = bankHistory t r ++ bankHistory t r' := List.filterMap_append

variable {record : List (ℕ × LogRecord)}

theorem mem_of_mem_eventHistory {p : ℕ × EventLogData}
    (h : p ∈ eventHistory record) : (p.1, .event p.2) ∈ record := by
  obtain ⟨⟨now, data | data⟩, hmem, heq⟩ := List.mem_filterMap.mp h
  · cases heq
    exact hmem
  · cases heq

theorem mem_of_mem_bankHistory {t : UInt8}
    {p : ℕ × BankEventLogData} (h : p ∈ bankHistory t record) : (p.1, .bank p.2) ∈ record := by
  obtain ⟨⟨now, data | data⟩, hmem, heq⟩ := List.mem_filterMap.mp h
  · cases heq
  · simp only [Option.ite_none_right_eq_some, Option.some.injEq] at heq
    obtain ⟨-, rfl⟩ := heq
    exact hmem

theorem eventHistory_sorted (h : (record.map Prod.fst).Pairwise (· ≤ ·)) :
    ((eventHistory record).map Prod.fst).Pairwise (· ≤ ·) := by
  rw [List.pairwise_map] at h ⊢
  refine h.filterMap _ fun p q hpq a ha b hb => ?_
  obtain ⟨now, data | data⟩ := p <;> obtain ⟨now', data' | data'⟩ := q <;> cases ha <;> cases hb
  exact hpq

theorem bankHistory_sorted {t : UInt8} (h : (record.map Prod.fst).Pairwise (· ≤ ·)) :
    ((bankHistory t record).map Prod.fst).Pairwise (· ≤ ·) := by
  rw [List.pairwise_map] at h ⊢
  refine h.filterMap _ fun p q hpq a ha b hb => ?_
  obtain ⟨now, data | data⟩ := p <;> obtain ⟨now', data' | data'⟩ := q <;>
    simp only [Option.ite_none_right_eq_some, Option.some.injEq, reduceCtorEq] at ha hb
  rw [← ha.2, ← hb.2]
  exact hpq

/-! ## 4. What a step keeps -/

namespace GuildLogs

variable {counts : LogCounts} {record : List (ℕ × LogRecord)} {s : GuildLogs}

theorem step_bankEvent (counts : LogCounts) (s : GuildLogs) (eventType : GuildBankEventLogTypes)
    (tabId : UInt8) (lowguid : ObjectGuid) (itemOrMoney : UInt32) (itemStackCount : UInt16)
    (destTabId : UInt8) :
    let st := LogStep.bankEvent eventType tabId lowguid itemOrMoney itemStackCount destTabId
    s.step counts st = ((s.bankEntryOf st).map s.addBankEvent).getD s := by
  simp only [step, bankEntryOf, logBankEvent]
  split
  · rfl
  · split <;> rename_i h <;> simp [h]

theorem loadable_of_bankEntryOf {st : LogStep} {data : BankEventLogData}
    (htabs : s.m_bankTabs ≤ GUILD_BANK_MAX_TABS.toNat) (h : s.bankEntryOf st = some data) :
    Loadable s.m_bankTabs data := by
  cases st with
  | bankEvent eventType tabId lowguid itemOrMoney itemStackCount destTabId =>
    simp only [bankEntryOf, Option.ite_none_left_eq_some, bankEventLogEntry,
      Option.some.injEq] at h
    obtain ⟨hgate, -, -, rfl⟩ := h
    by_cases hmoney : isMoneyEvent eventType = true
    · exact ⟨.inr (by simp [hmoney]), by simp [hmoney]⟩
    · have hlt : tabId.toNat < s.m_bankTabs := by
        rw [not_and] at hgate
        exact Nat.lt_of_not_ge (hgate (by simpa using hmoney))
      have hne : tabId ≠ GUILD_BANK_MONEY_LOGS_TAB := by
        rintro rfl
        have hmoneyTab : GUILD_BANK_MONEY_LOGS_TAB.toNat = 100 := rfl
        have hmaxTabs : GUILD_BANK_MAX_TABS.toNat = 6 := rfl
        omega
      exact ⟨.inl (by simpa [hmoney] using hlt), by simp [hmoney, hne]⟩
  | _ => cases h

theorem Inv.sorted_append (I : Inv counts record s) (r : LogRecord) :
    ((record ++ [(s.now, r)]).map Prod.fst).Pairwise (· ≤ ·) := by
  rw [List.map_append, List.pairwise_append]
  refine ⟨I.sorted, List.pairwise_singleton _ _, ?_⟩
  rintro x hx y hy
  obtain ⟨p, hp, rfl⟩ := List.mem_map.mp hx
  rw [List.map_singleton, List.mem_singleton] at hy
  exact hy ▸ I.past p hp

theorem Inv.past_append (I : Inv counts record s) (r : LogRecord) :
    ∀ p ∈ record ++ [(s.now, r)], p.1 ≤ s.now := by
  intro p hp
  rcases List.mem_append.mp hp with hp | hp
  · exact I.past p hp
  · rw [List.mem_singleton.mp hp]

theorem Inv.logEvent (I : Inv counts record s) (hcount : 1 ≤ counts.eventLogCount)
    (hmax : counts.eventLogCount ≤ GUILD_EVENT_LOG_GUID_UNDEFINED) (data : EventLogData) :
    Inv counts (record ++ [(s.now, .event data)]) (s.logEvent data) where
  event := by
    rw [eventHistory_append]
    have h := I.event.logEvent hcount hmax s.now data
    simpa [GuildLogs.logEvent, saveToDB, eventHistory] using h
  bank t ht := by
    have hnone : bankHistory t [(s.now, LogRecord.event data)] = [] := rfl
    rw [bankHistory_append, hnone, List.append_nil]
    exact I.bank t ht
  tabs := I.tabs
  loadable := I.loadable
  sorted := I.sorted_append _
  past := I.past_append _

theorem bankRows_addBankEvent (data : BankEventLogData) (t : UInt8) :
    (s.addBankEvent data).bankRows t =
      let entry : LogEntry BankEventLogData :=
        ⟨(s.m_bankEventLog (bankLogIndex data.m_bankTabId)).getNextGUID, s.now, data⟩
      if data.m_bankTabId = t then
        (s.bankRows t).filter (fun row => ¬ row.m_guid = entry.m_guid) ++ [entry]
      else s.bankRows t := by
  simp only [bankRows, addBankEvent, saveToDB, List.filter_append, List.filter_filter]
  split
  · rename_i htab
    subst htab
    simp only [List.filter_cons, decide_true, if_true, List.filter_nil]
    congr 1
    refine List.filter_congr fun row _ => ?_
    by_cases hrow : row.m_event.m_bankTabId = data.m_bankTabId <;> simp [hrow]
  · rename_i htab
    simp only [List.filter_cons, htab, decide_false, Bool.false_eq_true, if_false, List.filter_nil,
      List.append_nil]
    refine List.filter_congr fun row _ => ?_
    by_cases hrow : row.m_event.m_bankTabId = t
    · have hne : row.m_event.m_bankTabId ≠ data.m_bankTabId := by
        rw [hrow]
        exact Ne.symm htab
      simp [hrow, Ne.symm htab]
    · simp [hrow]

theorem Inv.addBankEvent (I : Inv counts record s) (hcount : 1 ≤ counts.bankEventLogCount)
    (hmax : counts.bankEventLogCount ≤ GUILD_EVENT_LOG_GUID_UNDEFINED) {data : BankEventLogData}
    (hdata : Loadable s.m_bankTabs data) :
    Inv counts (record ++ [(s.now, .bank data)]) (s.addBankEvent data) where
  event := by
    have hnone : eventHistory [(s.now, LogRecord.bank data)] = [] := rfl
    rw [eventHistory_append, hnone, List.append_nil]
    exact I.event
  bank t ht := by
    have hlog := hdata.isBankLog I.tabs
    rw [bankHistory_append, bankRows_addBankEvent]
    by_cases htab : data.m_bankTabId = t
    · subst htab
      have h := (I.bank _ hlog).logEvent hcount hmax s.now data
      simpa [GuildLogs.addBankEvent, bankHistory] using h
    · have hne : bankLogIndex t ≠ bankLogIndex data.m_bankTabId := fun heq =>
        htab ((bankLogIndex_inj ht hlog).mp heq).symm
      simpa [GuildLogs.addBankEvent, bankHistory, htab, Function.update_of_ne hne] using I.bank t ht
  tabs := I.tabs
  loadable row hrow := by
    rcases List.mem_append.mp hrow with hrow | hrow
    · exact I.loadable row (List.mem_of_mem_filter hrow)
    · rw [List.mem_singleton.mp hrow]
      exact hdata
  sorted := I.sorted_append _
  past := I.past_append _

/-! ## 5. What a restart keeps -/

theorem foldl_loadEventLogFromDB (rows : List (LogEntry EventLogData)) :
    rows.foldl loadEventLogFromDB s = { s with m_eventLog := s.m_eventLog.load rows } := by
  induction rows generalizing s with
  | nil => rfl
  | cons row rows ih =>
    rw [List.foldl_cons, ih, loadEventLogFromDB, LogHolder.load, LogHolder.load, List.foldl_cons]
    split <;> rfl

theorem loadBankEventLogFromDB_eq {row : LogEntry BankEventLogData}
    (hrow : Loadable s.m_bankTabs row.m_event) :
    loadBankEventLogFromDB s row = { s with
      m_bankEventLog := Function.update s.m_bankEventLog (bankLogIndex row.m_event.m_bankTabId)
        ((s.m_bankEventLog (bankLogIndex row.m_event.m_bankTabId)).load [row]) } := by
  have hkind : isMoneyEvent row.m_event.m_eventType
      = decide (row.m_event.m_bankTabId = GUILD_BANK_MONEY_LOGS_TAB) := by
    rw [Bool.eq_iff_iff, decide_eq_true_eq]
    exact hrow.money
  have htab : row.m_event.m_bankTabId.toNat < s.m_bankTabs ∨
      decide (row.m_event.m_bankTabId = GUILD_BANK_MONEY_LOGS_TAB) = true := by
    simpa using hrow.tab
  have hidx : (if decide (row.m_event.m_bankTabId = GUILD_BANK_MONEY_LOGS_TAB) then
      GUILD_BANK_MAX_TABS else row.m_event.m_bankTabId)
        = bankLogIndex row.m_event.m_bankTabId := by simp [bankLogIndex]
  simp only [loadBankEventLogFromDB, LogHolder.load, List.foldl_cons, List.foldl_nil]
  rw [if_pos htab, hidx, hkind]
  simp only [ne_eq, not_true_eq_false, if_false]
  split
  · rfl
  · rw [Function.update_eq_self]

theorem foldl_loadBankEventLogFromDB (htabs : s.m_bankTabs ≤ GUILD_BANK_MAX_TABS.toNat)
    {rows : List (LogEntry BankEventLogData)}
    (hrows : ∀ row ∈ rows, Loadable s.m_bankTabs row.m_event) :
    ∃ logs, rows.foldl loadBankEventLogFromDB s = { s with m_bankEventLog := logs } ∧
      ∀ t, IsBankLog t → logs (bankLogIndex t) = (s.m_bankEventLog (bankLogIndex t)).load
        (rows.filter fun row => row.m_event.m_bankTabId = t) := by
  induction rows generalizing s with
  | nil => exact ⟨s.m_bankEventLog, rfl, fun _ _ => rfl⟩
  | cons row rows ih =>
    have hrow := hrows row List.mem_cons_self
    rw [List.foldl_cons, loadBankEventLogFromDB_eq hrow]
    obtain ⟨logs, heq, hlogs⟩ := ih (s := { s with
      m_bankEventLog := Function.update s.m_bankEventLog (bankLogIndex row.m_event.m_bankTabId)
        ((s.m_bankEventLog (bankLogIndex row.m_event.m_bankTabId)).load [row]) }) htabs
      fun row hrow => hrows row (List.mem_cons_of_mem _ hrow)
    refine ⟨logs, heq, fun t ht => ?_⟩
    rw [hlogs t ht, List.filter_cons]
    by_cases htab : row.m_event.m_bankTabId = t
    · subst htab
      simp [LogHolder.load]
    · have hne : bankLogIndex t ≠ bankLogIndex row.m_event.m_bankTabId := fun hidx =>
        htab ((bankLogIndex_inj ht (hrow.isBankLog htabs)).mp hidx).symm
      simp [htab, Function.update_of_ne hne]

theorem Inv.loadGuilds (I : Inv counts record s)
    (hevent : 1 ≤ counts.eventLogCount)
    (heventMax : counts.eventLogCount ≤ GUILD_EVENT_LOG_GUID_UNDEFINED)
    (hbank : 1 ≤ counts.bankEventLogCount)
    (hbankMax : counts.bankEventLogCount ≤ GUILD_EVENT_LOG_GUID_UNDEFINED)
    (hread : s.Readable .restart) : Inv counts record (s.loadGuilds counts) := by
  obtain ⟨hclock, htie, hbankTie⟩ := hread
  -- the `DELETE ... WHERE LogGuid > count` finds nothing
  have hkeepEvent : s.guild_eventlog.filter (fun row => ¬ row.m_guid > counts.eventLogCount)
      = s.guild_eventlog := by
    rw [List.filter_eq_self]
    intro row hrow
    have hlt := I.event.guid_lt hevent row (I.event.rows.subset hrow)
    simpa using hlt.le
  have hkeepBank : s.guild_bank_eventlog.filter
      (fun row => ¬ row.m_guid > counts.bankEventLogCount) = s.guild_bank_eventlog := by
    rw [List.filter_eq_self]
    intro row hrow
    have A := I.bank _ ((I.loadable row hrow).isBankLog I.tabs)
    have hmem : row ∈ s.bankRows row.m_event.m_bankTabId :=
      List.mem_filter.mpr ⟨hrow, by simp⟩
    have hlt := A.guid_lt hbank row (A.rows.subset hmem)
    simpa using hlt.le
  have hqueryLoadable : ∀ row ∈ query s.guild_bank_eventlog, Loadable s.m_bankTabs row.m_event :=
    fun row hrow => I.loadable row ((query_perm _).subset hrow)
  have hfits : ∀ p ∈ record, p.1 < 2 ^ 32 := fun p hp => lt_of_le_of_lt (I.past p hp) hclock
  unfold GuildLogs.loadGuilds
  simp only [hkeepEvent, hkeepBank, foldl_loadEventLogFromDB]
  obtain ⟨logs, heq, hlogs⟩ := foldl_loadBankEventLogFromDB (s := { s with
    m_eventLog := (LogHolder.new counts.eventLogCount).load (query s.guild_eventlog)
    m_bankEventLog := fun _ => .new counts.bankEventLogCount }) I.tabs hqueryLoadable
  rw [heq]
  refine ⟨?_, fun t ht => ?_, I.tabs, I.loadable, I.sorted, I.past⟩
  · exact I.event.reload hevent heventMax (eventHistory_sorted I.sorted)
      (fun p hp => hfits _ (mem_of_mem_eventHistory hp)) htie (query_pairwise _) (query_perm _)
      (List.Perm.refl _)
  · have A := (I.bank t ht).reload hbank hbankMax (bankHistory_sorted I.sorted)
      (fun p hp => hfits _ (mem_of_mem_bankHistory hp)) (hbankTie t ht)
      ((query_pairwise _).filter _) ((query_perm _).filter _) (List.Perm.refl _)
    have hlog : logs (bankLogIndex t) = (LogHolder.new counts.bankEventLogCount).load
        ((query s.guild_bank_eventlog).filter fun row => row.m_event.m_bankTabId = t) := hlogs t ht
    rw [← hlog] at A
    exact A

theorem Inv.step (hevent : 1 ≤ counts.eventLogCount)
    (heventMax : counts.eventLogCount ≤ GUILD_EVENT_LOG_GUID_UNDEFINED)
    (hbank : 1 ≤ counts.bankEventLogCount)
    (hbankMax : counts.bankEventLogCount ≤ GUILD_EVENT_LOG_GUID_UNDEFINED)
    (record : List (ℕ × LogRecord)) (s : GuildLogs) (st : LogStep) (I : Inv counts record s)
    (hread : s.Readable st) : Inv counts (record ++ s.recordOf st) (s.step counts st) := by
  cases st with
  | tick seconds =>
    rw [recordOf, bankEntryOf, Option.map_none, Option.toList_none, List.append_nil]
    · exact ⟨I.event, I.bank, I.tabs, I.loadable, I.sorted,
        fun p hp => (I.past p hp).trans (Nat.le_add_right _ _)⟩
    · simp
    · simp
  | event data => exact I.logEvent hevent heventMax data
  | bankEvent eventType tabId lowguid itemOrMoney itemStackCount destTabId =>
    rw [step_bankEvent]
    cases hentry : s.bankEntryOf
        (.bankEvent eventType tabId lowguid itemOrMoney itemStackCount destTabId) with
    | none =>
      simpa only [recordOf, hentry, Option.map_none, Option.toList_none, List.append_nil,
        Option.getD_none] using I
    | some data =>
      have h := I.addBankEvent hbank hbankMax (loadable_of_bankEntryOf I.tabs hentry)
      simpa only [recordOf, hentry, Option.map_some, Option.toList_some, Option.getD_some] using h
  | buyBankTab =>
    rw [recordOf, bankEntryOf, Option.map_none, Option.toList_none, List.append_nil]
    · unfold GuildLogs.step
      dsimp only
      split
      · exact I
      · exact ⟨I.event, I.bank, by dsimp only; omega,
          fun row hrow => (I.loadable row hrow).mono (Nat.le_succ _), I.sorted, I.past⟩
    · simp
    · simp
  | restart =>
    rw [recordOf, bankEntryOf, Option.map_none, Option.toList_none, List.append_nil]
    · exact I.loadGuilds hevent heventMax hbank hbankMax hread
    · simp
    · simp

end GuildLogs

/-! ## 6. The rings of a run -/

/-- A log after the history `H`: one row for each entry in memory, distinct numbers, the last `n`
events in order, and the next event replaces the oldest one, in the table as in memory. -/
structure IsRing {E : Type*} (n : ℕ) (H : List (ℕ × E)) (holder : LogHolder E)
    (rows : List (LogEntry E)) : Prop where
  onePerEntry : rows.Perm holder.m_log
  distinct : (holder.m_log.map LogEntry.m_guid).Nodup
  length : holder.m_log.length = min n H.length
  lastEvents : holder.m_log.map (fun e => (e.m_timestamp, e.m_event)) = H.drop (H.length - n)
  overwritten : rows.filter (fun e => e.m_guid = holder.getNextGUID)
    = if H.length < n then [] else holder.m_log.take 1

theorem Aligned.isRing {E : Type*} {n : ℕ} {H : List (ℕ × E)} {holder : LogHolder E}
    {rows : List (LogEntry E)} (A : Aligned n H holder rows) (hn : 1 ≤ n) :
    IsRing n H holder rows where
  onePerEntry := A.rows
  distinct := A.nodup hn
  length := A.length_log
  lastEvents := A.lastEvents
  overwritten := by
    rw [A.filter_rows hn, LogHolder.evicted, A.length_log, A.maxRecords]
    split_ifs <;> first | rfl | omega

/-- **The guild logs are rings** in every run whose restarts find the clock below 2^32 and no log
with a tie across the wrap. -/
theorem run_isRing (counts : LogCounts) (now : ℕ)
    (hevent : 1 ≤ counts.eventLogCount)
    (heventMax : counts.eventLogCount ≤ GUILD_EVENT_LOG_GUID_UNDEFINED)
    (hbank : 1 ≤ counts.bankEventLogCount)
    (hbankMax : counts.bankEventLogCount ≤ GUILD_EVENT_LOG_GUID_UNDEFINED) (steps : List LogStep)
    (hsteps : Steps (GuildLogs.step counts) GuildLogs.Readable (.create counts now) steps) :
    let record := trace (GuildLogs.step counts) GuildLogs.recordOf (.create counts now) steps
    let s := exec (GuildLogs.step counts) (.create counts now) steps
    IsRing counts.eventLogCount (eventHistory record) s.m_eventLog s.guild_eventlog ∧
      ∀ t, IsBankLog t → IsRing counts.bankEventLogCount (bankHistory t record)
        (s.m_bankEventLog (bankLogIndex t)) (s.bankRows t) := by
  have I := exec_trace (GuildLogs.step counts)
    (GuildLogs.Inv.step hevent heventMax hbank hbankMax) (GuildLogs.inv_create counts now) hsteps
  rw [List.nil_append] at I
  exact ⟨I.event.isRing hevent, fun t ht => (I.bank t ht).isRing hbank⟩

/-- The rings of a guild that logs, starts again and logs on within its counts. -/
theorem quietRestart_isRing :
    let steps := [.event ⟨.joinGuild, 1, 0, 0⟩, .tick 1, .event ⟨.leaveGuild, 1, 0, 0⟩, .restart,
      .event ⟨.joinGuild, 2, 0, 0⟩]
    let record := trace (GuildLogs.step ⟨1, 1⟩) GuildLogs.recordOf (.create ⟨1, 1⟩ 0) steps
    let s := exec (GuildLogs.step ⟨1, 1⟩) (.create ⟨1, 1⟩ 0) steps
    IsRing 1 (eventHistory record) s.m_eventLog s.guild_eventlog :=
  (run_isRing ⟨1, 1⟩ 0 le_rfl (by decide) le_rfl (by decide) _ (by
    refine ⟨trivial, trivial, trivial, ⟨by decide, ?_, fun t _ => ?_⟩, trivial, trivial⟩
    · exact List.isChain_singleton _
    · exact List.isChain_nil)).1

/-- The run of the tie: five events in a log of three, the second and third hour apart, the fourth
in the second of the third; the server starts again before the fifth. -/
def wrapTieRun : List LogStep :=
  [.event ⟨.joinGuild, 1, 0, 0⟩, .event ⟨.joinGuild, 2, 0, 0⟩, .tick 3600,
    .event ⟨.joinGuild, 3, 0, 0⟩, .event ⟨.joinGuild, 4, 0, 0⟩, .restart,
    .event ⟨.joinGuild, 5, 0, 0⟩]

/-- After the run of the tie two live entries have the same number. -/
theorem wrapTie_not_isRing :
    let record := trace (GuildLogs.step ⟨3, 3⟩) GuildLogs.recordOf (.create ⟨3, 3⟩ 0) wrapTieRun
    let s := exec (GuildLogs.step ⟨3, 3⟩) (.create ⟨3, 3⟩ 0) wrapTieRun
    ¬ IsRing 3 (eventHistory record) s.m_eventLog s.guild_eventlog := by
  intro record s h
  have hdistinct : ¬ (s.m_eventLog.m_log.map LogEntry.m_guid).Nodup := by decide +kernel
  exact hdistinct h.distinct

end FunPvp.Guilds
