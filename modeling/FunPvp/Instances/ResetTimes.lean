/-
# Reset times after the start of the server

What `LoadResetTimes` should leave behind: every normal instance with a respawn row has the reset
time two hours after its last respawn and is scheduled if that is still to come; every pair of a map
and a difficulty that has a period has a reset time that is not in the past, at the configured hour,
and whole periods after a stored one that had expired.

It does so exactly under `LoadCondition`: the loop over the respawn rows asks the wrong cursor for
the next row; an event has 16 bits for an instance id; a period need not be whole days; and a stored
time of 0 counts as none.
-/
import FunPvp.Instances.InstanceSaveMgr

namespace FunPvp.Instances

/-! ## 1. What is right -/

def RespawnRow.resetTime (respawn : RespawnRow) : ℕ := respawn.maxRespawnTime.toNat + 2 * HOUR

def IsScheduled (queue : ResetTimeQueue) (row : InstanceRow) (time : ℕ) : Prop :=
  ∃ event : InstResetEvent, ((time : ℤ), event) ∈ queue ∧ event.type = 0 ∧
    event.mapid = row.map ∧ event.difficulty = row.difficulty ∧
    event.instanceId.toNat = row.id.toNat

structure InstanceRight (s : LoadState) (now : ℕ) (row : InstanceRow) (respawn : RespawnRow) :
    Prop where
  time : ∃ row' ∈ s.instResetTime, row'.id = row.id ∧ row'.resettime.toNat = respawn.resetTime
  scheduled : IsScheduled s.mgr.m_resetTimeQueue row respawn.resetTime ↔ now < respawn.resetTime

/-- The reset time of a pair with the period `period`, when `stored` was the one in the table, at
the configured hour. -/
structure PairRight (env : ResetEnv) (s : LoadState) (now : ℕ) (stored : Option ℕ)
    (pair : MapDiff) (period : ℕ) : Prop where
  future : now ≤ s.mgr.getResetTimeFor pair
  onHour : s.mgr.getResetTimeFor pair % DAY = env.diff
  periods : ∀ old, stored = some old → old < now →
    ∃ k, 1 ≤ k ∧ s.mgr.getResetTimeFor pair / DAY * DAY = old / DAY * DAY + k * period
  subsequent : s.mgr.getResetTimeFor pair
    < env.getSubsequentResetTime pair (s.mgr.getResetTimeFor pair)

/-- The reset time the table has for a pair, moved to the configured hour. -/
def storedTime (env : ResetEnv) (reset : List ResetRow) (pair : MapDiff) : Option ℕ :=
  (reset.filter fun row => (row.mapid, row.difficulty) = pair).getLast?.map
    (ResetRow.newResetTime env)

/-- **All reset times are right** after `LoadResetTimes`. -/
structure ResetTimesRight (env : ResetEnv) (table : InstanceTable) (respawns : RespawnTable)
    (reset : List ResetRow) (now : ℕ) : Prop where
  instances : ∀ row ∈ table.rows, row.resettime ≠ 0 → ∀ respawn ∈ respawns.rows,
    respawn.instanceId = row.id →
      InstanceRight (loadResetTimes env table respawns reset now) now row respawn
  pairs : ∀ pair resetTime, env.resetTimeOf pair = some resetTime →
    PairRight env (loadResetTimes env table respawns reset now) now (storedTime env reset pair)
      pair (env.period resetTime)

/-! ## 2. When it is -/

/-- A normal instance with its respawn row: it is the first row, or the stored time is the right
one already; and the id of an instance that is to be scheduled fits an event. -/
def InstanceCondition (respawns : RespawnTable) (now : ℕ) (row : InstanceRow)
    (respawn : RespawnRow) : Prop :=
  (respawns.rows.head? = some respawn ∧ respawn.resetTime < 2 ^ 32 ∨
      row.resettime.toNat = respawn.resetTime) ∧
    (now < respawn.resetTime → row.id.toNat < 2 ^ 16)

/-- The number of periods that are added to the stored day, or to today. -/
def periodsAdded (now period : ℕ) : Option ℕ → ℕ
  | none => 1
  | some old =>
    if old = 0 then 1
    else if old < now then (now / DAY * DAY - old / DAY * DAY) / period + 1
    else 0

/-- A pair: the periods that are added are whole days, and a stored time of 0 is whole periods
before today. -/
def PairCondition (now period : ℕ) (stored : Option ℕ) : Prop :=
  DAY ∣ periodsAdded now period stored * period ∧
    (stored = some 0 → 0 < now → period ∣ now / DAY * DAY)

/-- The tables, the periods and the clock with which all reset times come out right. -/
structure LoadCondition (env : ResetEnv) (table : InstanceTable) (respawns : RespawnTable)
    (reset : List ResetRow) (now : ℕ) : Prop where
  instances : ∀ row ∈ table.rows, row.resettime ≠ 0 → ∀ respawn ∈ respawns.rows,
    respawn.instanceId = row.id → InstanceCondition respawns now row respawn
  pairs : ∀ pair resetTime, env.resetTimeOf pair = some resetTime →
    PairCondition now (env.period resetTime) (storedTime env reset pair)

/-! ## 3. The queue -/

variable {e : ℤ × InstResetEvent} {mgr : InstanceSaveManager} {inst : List InstanceRow}
  {pairs : List (Sigma fun _ : MapDiff => UInt32)}

theorem mem_insert {time : ℤ} {event : InstResetEvent} {queue : ResetTimeQueue} :
    e ∈ ResetTimeQueue.insert time event queue ↔ e = (time, event) ∨ e ∈ queue := by
  induction queue with
  | nil => simp [ResetTimeQueue.insert]
  | cons head queue ih =>
    rw [ResetTimeQueue.insert]
    split
    · rw [List.mem_cons, ih, List.mem_cons]
      tauto
    · rw [List.mem_cons]

@[simp] theorem m_resetTimeQueue_initializeResetTimeFor (mgr : InstanceSaveManager)
    (pair : MapDiff) (t : ℕ) :
    (mgr.initializeResetTimeFor pair t).m_resetTimeQueue = mgr.m_resetTimeQueue := rfl

theorem mem_schedule {time : ℤ} {event : InstResetEvent} :
    e ∈ (mgr.schedule time event).m_resetTimeQueue ↔
      e = (time, event) ∨ e ∈ mgr.m_resetTimeQueue := mem_insert

theorem mem_scheduleInstances {now : ℕ} :
    e ∈ (scheduleInstances now inst mgr).m_resetTimeQueue ↔
      e ∈ mgr.m_resetTimeQueue ∨ ∃ row ∈ inst, row.resettime.toNat > now ∧
        e = ((row.resettime.toNat : ℤ), .new 0 row.map row.difficulty row.id) := by
  unfold scheduleInstances
  induction inst generalizing mgr with
  | nil => simp
  | cons row inst ih =>
    rw [List.foldl_cons, ih]
    by_cases hrow : row.resettime.toNat > now
    · rw [if_pos hrow, mem_schedule]
      simp only [List.exists_mem_cons_iff, hrow, true_and]
      tauto
    · rw [if_neg hrow]
      simp only [List.exists_mem_cons_iff, hrow, false_and, false_or]

theorem m_resetTimeQueue_loadStored (env : ResetEnv) (reset : List ResetRow)
    (mgr : InstanceSaveManager) :
    (loadStored env reset mgr).m_resetTimeQueue = mgr.m_resetTimeQueue := by
  unfold loadStored
  induction reset generalizing mgr with
  | nil => rfl
  | cons row reset ih =>
    rw [List.foldl_cons, ih]
    dsimp only
    split <;> rfl

theorem mem_foldl_schedule {time : ℤ} {event : InstanceRow → InstResetEvent} :
    e ∈ (inst.foldl (fun mgr row => mgr.schedule time (event row)) mgr).m_resetTimeQueue ↔
      e ∈ mgr.m_resetTimeQueue ∨ ∃ row ∈ inst, e = (time, event row) := by
  induction inst generalizing mgr with
  | nil => simp
  | cons row inst ih =>
    rw [List.foldl_cons, ih, mem_schedule]
    simp only [List.exists_mem_cons_iff]
    tauto

theorem firstType_pos (t now : ℕ) : firstType t now ≠ 0 := by
  unfold firstType
  split_ifs <;> decide

theorem mem_loadPair_of_type_zero {env : ResetEnv} {now : ℕ} {pair : MapDiff} {resetTime : UInt32}
    (he : e.2.type = 0) :
    e ∈ (loadPair env now inst mgr pair resetTime).m_resetTimeQueue ↔
      e ∈ mgr.m_resetTimeQueue := by
  unfold loadPair
  split
  · rfl
  · have hne : ∀ time id, e ≠ (time, InstResetEvent.new
        (firstType (env.startTime resetTime now (mgr.getResetTimeFor pair)) now)
        pair.1 pair.2 id) := by
      rintro time id rfl
      exact firstType_pos _ _ he
    dsimp only
    rw [mem_foldl_schedule, mem_schedule, m_resetTimeQueue_initializeResetTimeFor]
    constructor
    · rintro ((h | h) | ⟨row, -, h⟩)
      · exact absurd h (hne _ _)
      · exact h
      · exact absurd h (hne _ _)
    · exact fun h => .inl (.inr h)

theorem mem_foldl_loadPair_of_type_zero {env : ResetEnv} {now : ℕ} (he : e.2.type = 0) :
    e ∈ (pairs.foldl (fun mgr p => loadPair env now inst mgr p.1 p.2) mgr).m_resetTimeQueue ↔
      e ∈ mgr.m_resetTimeQueue := by
  induction pairs generalizing mgr with
  | nil => rfl
  | cons p pairs ih => rw [List.foldl_cons, ih, mem_loadPair_of_type_zero he]

/-! ## 4. Normal instances -/

/-- The row of a normal instance after the update: only the first respawn row counts. -/
def finalRow (respawns : RespawnTable) (row : InstanceRow) : InstanceRow :=
  match respawns.rows with
  | [] => row
  | first :: _ =>
    if row.id = first.instanceId then
      { row with resettime := first.maxRespawnTime + 2 * 3600 }
    else row

theorem updateResetTimes_eq (respawns : RespawnTable) (inst : List InstanceRow) :
    updateResetTimes respawns inst = inst.map (finalRow respawns) := by
  unfold updateResetTimes finalRow
  rcases respawns.rows with _ | ⟨first, rest⟩
  · simp
  · rfl

theorem finalRow_id (respawns : RespawnTable) (row : InstanceRow) :
    (finalRow respawns row).id = row.id := by
  unfold finalRow
  split
  · rfl
  · split <;> rfl

theorem finalRow_map (respawns : RespawnTable) (row : InstanceRow) :
    (finalRow respawns row).map = row.map := by
  unfold finalRow
  split
  · rfl
  · split <;> rfl

theorem finalRow_difficulty (respawns : RespawnTable) (row : InstanceRow) :
    (finalRow respawns row).difficulty = row.difficulty := by
  unfold finalRow
  split
  · rfl
  · split <;> rfl

section

variable {env : ResetEnv} {table : InstanceTable} {respawns : RespawnTable}
  {reset : List ResetRow} {now : ℕ} {row : InstanceRow} {respawn : RespawnRow}

theorem instResetTime_loadResetTimes :
    (loadResetTimes env table respawns reset now).instResetTime
      = (table.rows.filter fun row => row.resettime ≠ 0).map (finalRow respawns) := by
  simp only [loadResetTimes, loadInstances]
  split
  · rename_i h
    rw [h]
    rfl
  · exact updateResetTimes_eq _ _

theorem mem_queue_of_type_zero {e : ℤ × InstResetEvent} (he : e.2.type = 0) :
    e ∈ (loadResetTimes env table respawns reset now).mgr.m_resetTimeQueue ↔
      ∃ row ∈ (loadResetTimes env table respawns reset now).instResetTime,
        row.resettime.toNat > now ∧
        e = ((row.resettime.toNat : ℤ), .new 0 row.map row.difficulty row.id) := by
  have hload : (loadResetTimes env table respawns reset now).mgr
      = env.sMapDifficultyMap.entries.foldl (fun mgr e => loadPair env now
          (table.rows.filter fun row => row.resettime ≠ 0) mgr e.1 e.2)
          (loadStored env reset (loadInstances table respawns now ⟨fun _ => none, []⟩).mgr) := rfl
  rw [hload, mem_foldl_loadPair_of_type_zero he, m_resetTimeQueue_loadStored,
    instResetTime_loadResetTimes]
  unfold loadInstances
  split
  · rename_i h
    simp [h]
  · rw [updateResetTimes_eq, mem_scheduleInstances]
    simp only [List.not_mem_nil, false_or]

theorem mem_instResetTime_iff (hrow : row ∈ table.rows) (hne : row.resettime ≠ 0)
    {row' : InstanceRow} :
    (row' ∈ (loadResetTimes env table respawns reset now).instResetTime ∧ row'.id = row.id) ↔
      row' = finalRow respawns row := by
  rw [instResetTime_loadResetTimes]
  constructor
  · rintro ⟨hmem, hid⟩
    obtain ⟨other, hother, rfl⟩ := List.mem_map.mp hmem
    rw [finalRow_id] at hid
    rw [List.inj_on_of_nodup_map table.ids (List.mem_of_mem_filter hother) hrow hid]
  · rintro rfl
    exact ⟨List.mem_map_of_mem (List.mem_filter.mpr ⟨hrow, by simpa using hne⟩),
      finalRow_id respawns row⟩

theorem finalRow_resettime_iff (hrespawn : respawn ∈ respawns.rows)
    (hid : respawn.instanceId = row.id) :
    (finalRow respawns row).resettime.toNat = respawn.resetTime ↔
      (respawns.rows.head? = some respawn ∧ respawn.resetTime < 2 ^ 32 ∨
        row.resettime.toNat = respawn.resetTime) := by
  have hnodup := respawns.instances
  have hbound := row.resettime.toNat_lt
  unfold finalRow
  rcases hrows : respawns.rows with _ | ⟨first, rest⟩
  · rw [hrows] at hrespawn
    cases hrespawn
  · rw [hrows] at hrespawn hnodup
    simp only [List.head?_cons, Option.some.injEq]
    by_cases hfirst : first = respawn
    · subst hfirst
      rw [if_pos hid.symm]
      have hsum : (first.maxRespawnTime + 2 * 3600).toNat = first.resetTime % 2 ^ 32 := by
        rw [UInt32.toNat_add]
        rfl
      simp only [hsum, true_and]
      constructor
      · intro h
        have hlt : first.resetTime % 2 ^ 32 < 2 ^ 32 := Nat.mod_lt _ (by decide)
        omega
      · rintro (h | h)
        · exact Nat.mod_eq_of_lt h
        · exact Nat.mod_eq_of_lt (by omega)
    · have hne : row.id ≠ first.instanceId := by
        intro heq
        exact hfirst (List.inj_on_of_nodup_map hnodup List.mem_cons_self hrespawn
          (by rw [hid, heq]))
      rw [if_neg hne]
      simp [hfirst]

theorem toNat_new_instanceId (type : ℕ) (mapid : UInt16) (difficulty : UInt8) (id : UInt32) :
    (InstResetEvent.new type mapid difficulty id).instanceId.toNat = id.toNat % 2 ^ 16 :=
  UInt32.toNat_toUInt16 id

theorem instanceRight_iff (hrow : row ∈ table.rows) (hne : row.resettime ≠ 0)
    (hrespawn : respawn ∈ respawns.rows) (hid : respawn.instanceId = row.id) :
    InstanceRight (loadResetTimes env table respawns reset now) now row respawn ↔
      InstanceCondition respawns now row respawn := by
  have hfinal : finalRow respawns row ∈
      (loadResetTimes env table respawns reset now).instResetTime :=
    ((mem_instResetTime_iff hrow hne).mpr rfl).1
  rw [InstanceCondition, ← finalRow_resettime_iff hrespawn hid]
  constructor
  · rintro ⟨⟨row', hmem, hid', htime⟩, hscheduled⟩
    obtain rfl := (mem_instResetTime_iff hrow hne).mp ⟨hmem, hid'⟩
    refine ⟨htime, fun hnow => ?_⟩
    obtain ⟨event, -, -, -, -, hevent⟩ := hscheduled.mpr hnow
    rw [← hevent]
    exact event.instanceId.toNat_lt
  · rintro ⟨htime, hfits⟩
    refine ⟨⟨_, hfinal, finalRow_id _ _, htime⟩, ?_, fun hnow => ?_⟩
    · rintro ⟨event, hmem, htype, -, -, -⟩
      obtain ⟨other, -, hgt, heq⟩ := (mem_queue_of_type_zero htype).mp hmem
      have hcast := congrArg Prod.fst heq
      simp only [Nat.cast_inj] at hcast
      omega
    · refine ⟨.new 0 row.map row.difficulty row.id, ?_, rfl, rfl, rfl, ?_⟩
      · rw [mem_queue_of_type_zero rfl]
        refine ⟨_, hfinal, by omega, ?_⟩
        rw [htime, finalRow_map, finalRow_difficulty, finalRow_id]
      · rw [toNat_new_instanceId]
        exact Nat.mod_eq_of_lt (hfits hnow)

end

/-! ## 5. Pairs with a period -/

theorem m_resetTimeByMapDifficulty_foldl_schedule {α : Type*} (time : ℤ)
    (event : α → InstResetEvent) (l : List α) (mgr : InstanceSaveManager) :
    (l.foldl (fun mgr a => mgr.schedule time (event a)) mgr).m_resetTimeByMapDifficulty
      = mgr.m_resetTimeByMapDifficulty := by
  induction l generalizing mgr with
  | nil => rfl
  | cons a l ih =>
    rw [List.foldl_cons, ih]
    rfl

theorem m_resetTimeByMapDifficulty_loadInstances (table : InstanceTable)
    (respawns : RespawnTable) (now : ℕ) (mgr : InstanceSaveManager) :
    (loadInstances table respawns now mgr).mgr.m_resetTimeByMapDifficulty
      = mgr.m_resetTimeByMapDifficulty := by
  unfold loadInstances
  split
  · rfl
  · dsimp only
    unfold scheduleInstances
    generalize updateResetTimes respawns _ = inst
    induction inst generalizing mgr with
    | nil => rfl
    | cons row inst ih =>
      rw [List.foldl_cons, ih]
      split <;> rfl

theorem m_resetTimeByMapDifficulty_loadStored {env : ResetEnv} (reset : List ResetRow)
    (mgr : InstanceSaveManager) {pair : MapDiff}
    (hpair : (env.sMapDifficultyMap.lookup pair).isSome) :
    (loadStored env reset mgr).m_resetTimeByMapDifficulty pair
      = (storedTime env reset pair).or (mgr.m_resetTimeByMapDifficulty pair) := by
  unfold loadStored storedTime
  induction reset generalizing mgr with
  | nil => rfl
  | cons row reset ih =>
    rw [List.foldl_cons, ih, List.filter_cons]
    by_cases hrow : (row.mapid, row.difficulty) = pair
    · subst hrow
      have hsome : (env.sMapDifficultyMap.lookup (row.mapid, row.difficulty)).isNone = false := by
        rw [Option.isNone_eq_false_iff]
        exact hpair
      simp only [hsome, Bool.false_eq_true, if_false, decide_true, if_true,
        InstanceSaveManager.initializeResetTimeFor, Function.update_self, List.getLast?_cons,
        Option.map_some, Option.some_or]
      cases (reset.filter _).getLast? <;> rfl
    · simp only [hrow, decide_false, Bool.false_eq_true, if_false]
      congr 1
      split
      · rfl
      · exact Function.update_of_ne (Ne.symm hrow) _ _

theorem m_resetTimeByMapDifficulty_loadPair {env : ResetEnv} {now : ℕ} {pair : MapDiff} {resetTime : UInt32} (hne : resetTime ≠ 0) :
    (loadPair env now inst mgr pair resetTime).m_resetTimeByMapDifficulty
      = Function.update mgr.m_resetTimeByMapDifficulty pair
          (some (env.startTime resetTime now (mgr.getResetTimeFor pair))) := by
  unfold loadPair
  rw [if_neg hne]
  exact m_resetTimeByMapDifficulty_foldl_schedule _ _ _ _

theorem loadPair_other {env : ResetEnv} {now : ℕ} {pair other : MapDiff} {resetTime : UInt32} (hne : other ≠ pair) :
    (loadPair env now inst mgr pair resetTime).m_resetTimeByMapDifficulty other
      = mgr.m_resetTimeByMapDifficulty other := by
  by_cases hzero : resetTime = 0
  · rw [loadPair, if_pos hzero]
  · rw [m_resetTimeByMapDifficulty_loadPair hzero, Function.update_of_ne hne]

theorem foldl_loadPair_other {env : ResetEnv} {now : ℕ} {other : MapDiff}
    (hnot : other ∉ pairs.keys) :
    (pairs.foldl (fun mgr p => loadPair env now inst mgr p.1 p.2)
        mgr).m_resetTimeByMapDifficulty other
      = mgr.m_resetTimeByMapDifficulty other := by
  induction pairs generalizing mgr with
  | nil => rfl
  | cons p pairs ih =>
    rw [List.keys_cons, List.mem_cons, not_or] at hnot
    rw [List.foldl_cons, ih hnot.2, loadPair_other hnot.1]

theorem foldl_loadPair {env : ResetEnv} {now : ℕ} (hnodup : pairs.NodupKeys)
    {mgr : InstanceSaveManager} {pair : MapDiff} {resetTime : UInt32}
    (hmem : ⟨pair, resetTime⟩ ∈ pairs) (hne : resetTime ≠ 0) :
    (pairs.foldl (fun mgr p => loadPair env now inst mgr p.1 p.2)
        mgr).m_resetTimeByMapDifficulty pair
      = some (env.startTime resetTime now (mgr.getResetTimeFor pair)) := by
  induction pairs generalizing mgr with
  | nil => cases hmem
  | cons p pairs ih =>
    rw [List.nodupKeys_cons] at hnodup
    rw [List.foldl_cons]
    rcases List.mem_cons.mp hmem with rfl | hmem
    · rw [foldl_loadPair_other hnodup.1, m_resetTimeByMapDifficulty_loadPair hne,
        Function.update_self]
    · have hother : pair ≠ p.1 := fun heq =>
        hnodup.1 (heq ▸ List.mem_keys_of_mem hmem)
      rw [ih hnodup.2 hmem]
      rw [InstanceSaveManager.getResetTimeFor, loadPair_other hother]
      rfl

theorem resetTimeOf_eq_some {env : ResetEnv} {pair : MapDiff} {resetTime : UInt32} :
    env.resetTimeOf pair = some resetTime ↔
      env.sMapDifficultyMap.lookup pair = some resetTime ∧ resetTime ≠ 0 := by
  unfold ResetEnv.resetTimeOf
  cases env.sMapDifficultyMap.lookup pair with
  | none => simp
  | some r =>
    simp only [Option.ite_none_left_eq_some, Option.some.injEq]
    constructor
    · rintro ⟨hne, rfl⟩
      exact ⟨rfl, hne⟩
    · rintro ⟨rfl, hne⟩
      exact ⟨hne, rfl⟩

theorem getResetTimeFor_loadResetTimes {env : ResetEnv} {table : InstanceTable}
    {respawns : RespawnTable} {reset : List ResetRow} {now : ℕ} {pair : MapDiff}
    {resetTime : UInt32} (hpair : env.resetTimeOf pair = some resetTime) :
    (loadResetTimes env table respawns reset now).mgr.getResetTimeFor pair
      = env.startTime resetTime now ((storedTime env reset pair).getD 0) := by
  obtain ⟨hlookup, hne⟩ := resetTimeOf_eq_some.mp hpair
  have hmem := AList.mem_lookup_iff.mp hlookup
  have hstored := m_resetTimeByMapDifficulty_loadStored reset
    (loadInstances table respawns now ⟨fun _ => none, []⟩).mgr (Option.isSome_of_eq_some hlookup)
  rw [m_resetTimeByMapDifficulty_loadInstances, Option.or_none] at hstored
  simp only [loadResetTimes, InstanceSaveManager.getResetTimeFor]
  rw [foldl_loadPair env.sMapDifficultyMap.nodupKeys hmem hne, Option.getD_some,
    InstanceSaveManager.getResetTimeFor, hstored]

/-! ## 6. Days and periods -/

theorem day_le_period (env : ResetEnv) (resetTime : UInt32) : DAY ≤ env.period resetTime := by
  unfold ResetEnv.period
  split
  · exact le_rfl
  · exact not_lt.mp ‹_›

theorem diff_lt_day {env : ResetEnv} (hhour : env.hour ≤ 23) : env.diff < DAY := by
  simp only [ResetEnv.diff, HOUR, DAY]
  omega

theorem storedTime_mod {env : ResetEnv} (hhour : env.hour ≤ 23) {reset : List ResetRow}
    {pair : MapDiff} {old : ℕ} (h : storedTime env reset pair = some old) :
    old % DAY = env.diff := by
  obtain ⟨row, -, rfl⟩ := Option.map_eq_some_iff.mp h
  have hdiff := diff_lt_day hhour
  simp only [ResetRow.newResetTime, DAY] at *
  omega

theorem lt_getSubsequentResetTime {env : ResetEnv} {pair : MapDiff} {resetTime : UInt32}
    (hpair : env.resetTimeOf pair = some resetTime) (t : ℕ) :
    t < env.getSubsequentResetTime pair t := by
  have hperiod := day_le_period env resetTime
  simp only [ResetEnv.getSubsequentResetTime, hpair, MINUTE, DAY] at *
  omega

theorem today_lt_add_periods {n d period : ℕ} (hperiod : DAY ≤ period) :
    n / DAY * DAY - d < ((n / DAY * DAY - d) / period + 1) * period := by
  rw [Nat.mul_comm (_ + 1)]
  exact Nat.lt_mul_div_succ _ (lt_of_lt_of_le (by decide) hperiod)

section

variable {base x diff now : ℕ}

theorem add_mod_day_iff (hbase : DAY ∣ base) (hdiff : diff < DAY) :
    (base + x + diff) % DAY = diff ↔ DAY ∣ x := by
  simp only [DAY] at *
  omega

theorem add_div_day (hbase : DAY ∣ base) (hdiff : diff < DAY) (hx : DAY ∣ x) :
    (base + x + diff) / DAY * DAY = base + x := by
  simp only [DAY] at *
  omega

theorem le_of_today_lt (hbase : DAY ∣ base) (hx : DAY ∣ x) (h : now / DAY * DAY < base + x) :
    now ≤ base + x + diff := by
  simp only [DAY] at *
  omega

end

variable {env : ResetEnv} {s : LoadState} {now : ℕ} {stored : Option ℕ} {pair : MapDiff}
  {resetTime : UInt32}

theorem startTime_eq (env : ResetEnv) (resetTime : UInt32) (now : ℕ) (stored : Option ℕ)
    (hstored : ∀ old, stored = some old → old % DAY = env.diff) (hdiff : env.diff < DAY) :
    env.startTime resetTime now (stored.getD 0)
      = (if stored.getD 0 = 0 then now / DAY * DAY else stored.getD 0 / DAY * DAY)
        + periodsAdded now (env.period resetTime) stored * env.period resetTime + env.diff := by
  have hperiod := day_le_period env resetTime
  have hfresh : ¬ now / DAY * DAY + env.period resetTime + env.diff < now := by
    simp only [DAY] at *
    omega
  cases stored with
  | none =>
    simp only [ResetEnv.startTime, Option.getD_none, if_true, periodsAdded, if_neg hfresh, one_mul]
  | some old =>
    have hold := hstored old rfl
    simp only [ResetEnv.startTime, Option.getD_some, periodsAdded]
    by_cases hzero : old = 0
    · simp only [if_pos hzero, if_neg hfresh, one_mul]
    · simp only [if_neg hzero]
      split
      · rw [Nat.add_assoc]
      · simp only [DAY] at *
        omega

def baseDay (now : ℕ) (stored : Option ℕ) : ℕ :=
  if stored.getD 0 = 0 then now / DAY * DAY else stored.getD 0 / DAY * DAY

theorem day_dvd_baseDay (now : ℕ) (stored : Option ℕ) : DAY ∣ baseDay now stored := by
  unfold baseDay
  split <;> exact Nat.dvd_mul_left _ _

theorem today_lt_baseDay_add {period : ℕ} (hperiod : DAY ≤ period)
    (h : ∀ old, stored = some old → old ≠ 0 → old < now) :
    now / DAY * DAY < baseDay now stored + periodsAdded now period stored * period := by
  have hpos : 0 < period := lt_of_lt_of_le (by decide) hperiod
  cases stored with
  | none => simpa [baseDay, periodsAdded] using hpos
  | some old =>
    by_cases hz : old = 0
    · simpa [baseDay, periodsAdded, hz] using hpos
    · have hbeyond := today_lt_add_periods (n := now) (d := old / DAY * DAY) hperiod
      simp only [baseDay, periodsAdded, Option.getD_some, if_neg hz, if_pos (h old rfl hz)]
      omega

theorem pairRight_iff (hdiff : env.diff < DAY)
    (hpair : env.resetTimeOf pair = some resetTime)
    (hstored : ∀ old, stored = some old → old % DAY = env.diff)
    (htime : s.mgr.getResetTimeFor pair = env.startTime resetTime now (stored.getD 0)) :
    PairRight env s now stored pair (env.period resetTime) ↔
      PairCondition now (env.period resetTime) stored := by
  have hperiod := day_le_period env resetTime
  have hbase := day_dvd_baseDay now stored
  have heq : s.mgr.getResetTimeFor pair = baseDay now stored
      + periodsAdded now (env.period resetTime) stored * env.period resetTime + env.diff :=
    htime.trans (startTime_eq env resetTime now stored hstored hdiff)
  constructor
  · rintro ⟨-, hhour, hperiods, -⟩
    rw [heq, add_mod_day_iff hbase hdiff] at hhour
    refine ⟨hhour, ?_⟩
    rintro rfl hnow
    obtain ⟨k, -, hk⟩ := hperiods 0 rfl hnow
    rw [heq, add_div_day hbase hdiff hhour, Nat.zero_div, Nat.zero_mul, Nat.zero_add] at hk
    have hsum : now / DAY * DAY + env.period resetTime = k * env.period resetTime := by
      simpa [baseDay, periodsAdded] using hk
    exact (Nat.dvd_add_left (Nat.dvd_refl _)).mp ⟨k, by rw [hsum, Nat.mul_comm]⟩
  · rintro ⟨hdvd, hzero⟩
    refine ⟨?_, ?_, ?_, ?_⟩
    · by_cases hcoming : ∀ old, stored = some old → old ≠ 0 → old < now
      · rw [heq]
        exact le_of_today_lt hbase hdvd (today_lt_baseDay_add hperiod hcoming)
      · push Not at hcoming
        obtain ⟨old, rfl, hne, hle⟩ := hcoming
        simp only [htime, ResetEnv.startTime, Option.getD_some, if_neg hne]
        rwa [if_neg (not_lt.mpr hle)]
    · rw [heq]
      exact (add_mod_day_iff hbase hdiff).mpr hdvd
    · rintro old rfl hlt
      rw [heq, add_div_day hbase hdiff hdvd]
      by_cases hz : old = 0
      · subst hz
        obtain ⟨k, hk⟩ := hzero rfl hlt
        refine ⟨k + 1, Nat.le_add_left _ _, ?_⟩
        simp only [baseDay, periodsAdded, Option.getD_some, if_true, hk]
        ring
      · refine ⟨(now / DAY * DAY - old / DAY * DAY) / env.period resetTime + 1,
          Nat.le_add_left _ _, ?_⟩
        simp only [baseDay, periodsAdded, Option.getD_some, if_neg hz, if_pos hlt]
    · exact lt_getSubsequentResetTime hpair _

/-! ## 7. The start as a whole -/

/-- **The reset times after the start are right** if and only if the tables, the periods and the
clock meet `LoadCondition`. -/
theorem resetTimesRight_iff (env : ResetEnv) (hhour : env.hour ≤ 23) (table : InstanceTable)
    (respawns : RespawnTable) (reset : List ResetRow) (now : ℕ) :
    ResetTimesRight env table respawns reset now ↔
      LoadCondition env table respawns reset now := by
  have hpair : ∀ pair resetTime, env.resetTimeOf pair = some resetTime →
      (PairRight env (loadResetTimes env table respawns reset now) now
          (storedTime env reset pair) pair (env.period resetTime) ↔
        PairCondition now (env.period resetTime) (storedTime env reset pair)) :=
    fun pair resetTime h => pairRight_iff (diff_lt_day hhour) h (fun _ => storedTime_mod hhour)
      (getResetTimeFor_loadResetTimes h)
  constructor
  · intro h
    exact ⟨fun row hrow hne respawn hrespawn hid =>
        (instanceRight_iff hrow hne hrespawn hid).mp (h.instances row hrow hne respawn hrespawn hid),
      fun pair resetTime hp => (hpair pair resetTime hp).mp (h.pairs pair resetTime hp)⟩
  · intro h
    exact ⟨fun row hrow hne respawn hrespawn hid =>
        (instanceRight_iff hrow hne hrespawn hid).mpr
          (h.instances row hrow hne respawn hrespawn hid),
      fun pair resetTime hp => (hpair pair resetTime hp).mpr (h.pairs pair resetTime hp)⟩

/-- One normal instance with a respawn row: it comes out right. -/
theorem firstRespawn_right :
    ResetTimesRight ⟨∅, fun _ => true, UInt32.toNat, 4⟩ ⟨[⟨1, 33, 0, 200000⟩], by decide⟩
      ⟨[⟨300000, 1⟩], by decide⟩ [] 100000 := by
  refine (resetTimesRight_iff ⟨∅, fun _ => true, UInt32.toNat, 4⟩ (by decide) _ _ _ _).mpr
    ⟨?_, fun pair resetTime h => ?_⟩
  · intro row hrow _ respawn hrespawn _
    rw [List.mem_singleton.mp hrow, List.mem_singleton.mp hrespawn]
    exact ⟨.inl ⟨rfl, by decide⟩, fun _ => by decide⟩
  · obtain ⟨hlookup, -⟩ := resetTimeOf_eq_some.mp h
    cases hlookup

/-- **The second instance keeps its old time**: two normal instances with respawn rows, both stored
with another time. -/
theorem secondRespawn_not_right :
    ¬ ResetTimesRight ⟨∅, fun _ => true, UInt32.toNat, 4⟩
      ⟨[⟨1, 33, 0, 200000⟩, ⟨2, 33, 0, 200000⟩], by decide⟩
      ⟨[⟨300000, 1⟩, ⟨300000, 2⟩], by decide⟩ [] 100000 := by
  intro h
  have hcondition := (h.instances ⟨2, 33, 0, 200000⟩ (by decide) (by decide) ⟨300000, 2⟩
    (by decide) rfl).time
  revert hcondition
  decide +kernel

end FunPvp.Instances
