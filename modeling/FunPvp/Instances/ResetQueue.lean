/-
# One pending event for each pair

The queue of the reset manager holds, for each pair of a map and a difficulty with a reset period,
one event without an instance: the next warning, or the reset. `Update` replaces it by the next
one, a cancellation takes away the event of one instance, `ForceGlobalReset` the event of one pair.

Events are compared by their instance id alone, so all events of pairs are equal to a cancellation.
`ForceGlobalReset` cancels twice (a warning of type 1 and a reset of type 4): it takes the first two
events without an instance out of the queue, whatever their pairs. With a single pair the queue
stays as it should (`run_pendingOnce`), with two it does not (`force_two_pairs`).
-/
import FunPvp.Instances.ResetTimes
import FunPvp.Lib.Run

namespace FunPvp.Instances

open Lib

/-! ## 1. The manager at work -/

namespace InstanceSaveManager

variable (env : ResetEnv) (m : InstanceSaveManager)

/-- `ScheduleReset(false, time, event)`: the first equal event of that second, else of the whole
queue. -/
def cancel (time : ℤ) (event : InstResetEvent) : InstanceSaveManager :=
  let queue := m.m_resetTimeQueue
  if queue.any fun e => e.1 = time ∧ e.2.instanceId = event.instanceId then
    { m with
      m_resetTimeQueue := queue.eraseP fun e => e.1 = time ∧ e.2.instanceId = event.instanceId }
  else
    { m with m_resetTimeQueue := queue.eraseP fun e => e.2.instanceId = event.instanceId }

/-- `_ResetOrWarnAll`, as far as the manager's containers are concerned; `SetResetTimeFor` asserts
that the pair has a reset time. -/
def resetOrWarnAll (pair : MapDiff) (warn : Bool) (resetTime : ℕ) : Option InstanceSaveManager :=
  if ¬ env.instanceable pair.1 then some m
  else if ¬ warn then
    let next_reset := env.getSubsequentResetTime pair resetTime
    if next_reset = 0 then some m
    else if (m.m_resetTimeByMapDifficulty pair).isNone then none
    else some ((m.initializeResetTimeFor pair next_reset).schedule ((next_reset : ℤ) - 3600)
      (.new 1 pair.1 pair.2 0))
  else some m

def forceGlobalReset (mapId : UInt16) (difficulty : UInt8) (now : ℕ) :
    Option InstanceSaveManager :=
  match env.getDownscaledMapDifficulty mapId difficulty with
  | none => some m
  | some difficulty =>
    ((m.cancel 0 (.new 1 mapId difficulty 0)).cancel 0 (.new 4 mapId difficulty 0)).resetOrWarnAll
      env (mapId, difficulty) false now

/-- One pass of the loop of `Update`: what is handled is the first event, what is erased afterwards
is what is then first. -/
def updateFront (now : ℕ) : Option InstanceSaveManager :=
  match m.m_resetTimeQueue with
  | [] => some m
  | (t, event) :: rest =>
    if t ≥ now then some m
    else if event.type = 0 then some { m with m_resetTimeQueue := rest }
    else
      let pair := (event.mapid, event.difficulty)
      let resetTime := m.getResetTimeFor pair
      if event.type ≠ 4 then
        (m.resetOrWarnAll env pair true resetTime).map fun m =>
          -- the event is changed in place, a copy of it is inserted
          let event := { event with type := event.type + 1 }
          let m := { m with m_resetTimeQueue := (t, event) :: rest }
          let m := m.schedule ((resetTime : ℤ) - resetTimeDelay (event.type - 1)) event
          { m with m_resetTimeQueue := m.m_resetTimeQueue.tail }
      else
        (m.resetOrWarnAll env pair false resetTime).map fun m =>
          { m with m_resetTimeQueue := m.m_resetTimeQueue.tail }

end InstanceSaveManager

inductive QueueStep
  /-- A pass of the loop of `Update` at the time `now`. -/
  | update (now : ℕ)
  /-- The reset of a normal instance is cancelled. -/
  | cancel (time : ℤ) (mapid : UInt16) (difficulty : UInt8) (instanceid : UInt32)
  | forceGlobalReset (mapId : UInt16) (difficulty : UInt8) (now : ℕ)

def queueStep (env : ResetEnv) : Option InstanceSaveManager → QueueStep →
    Option InstanceSaveManager
  | none, _ => none
  | some m, .update now => m.updateFront env now
  | some m, .cancel time mapid difficulty instanceid =>
    some (m.cancel time (.new 0 mapid difficulty instanceid))
  | some m, .forceGlobalReset mapId difficulty now => m.forceGlobalReset env mapId difficulty now

/-! ## 2. What should hold -/

def InstResetEvent.pair (event : InstResetEvent) : MapDiff := (event.mapid, event.difficulty)

def isGlobal (pair : MapDiff) (e : ℤ × InstResetEvent) : Bool :=
  e.2.type ≠ 0 ∧ e.2.instanceId = 0 ∧ e.2.pair = pair

def HasPeriod (env : ResetEnv) (pair : MapDiff) : Prop := (env.resetTimeOf pair).isSome

/-- **Every pair with a period has one pending event.** -/
def PendingOnce (env : ResetEnv) : Option InstanceSaveManager → Prop
  | none => False
  | some m => ∀ pair, HasPeriod env pair → m.m_resetTimeQueue.countP (isGlobal pair) = 1

/-- A pass of `Update` takes the event it has handled out of the queue, and nothing else; what it
puts in is the next event of the same pair. -/
def Handled (now : ℕ) (queue queue' : ResetTimeQueue) : Prop :=
  match queue with
  | [] => queue' = []
  | (t, event) :: rest =>
    if t ≥ now then queue' = queue
    else if event.type = 0 then queue' = rest
    else ∃ time next, isGlobal event.pair (time, next) = true ∧
      queue' = ResetTimeQueue.insert time next rest

/-- What a step does to the events that are not its own. -/
def Framed (env : ResetEnv) (st : Option InstanceSaveManager) (e : QueueStep) : Prop :=
  match st, queueStep env st e with
  | some m, some m' =>
    match e with
    | .update now => Handled now m.m_resetTimeQueue m'.m_resetTimeQueue
    | .cancel _ _ _ instanceid =>
      m'.m_resetTimeQueue.filter (fun e => e.2.instanceId.toNat ≠ instanceid.toNat)
        = m.m_resetTimeQueue.filter fun e => e.2.instanceId.toNat ≠ instanceid.toNat
    | .forceGlobalReset mapId difficulty _ =>
      let pair := (mapId, (env.getDownscaledMapDifficulty mapId difficulty).getD difficulty)
      m'.m_resetTimeQueue.filter (fun e => ¬ isGlobal pair e)
        = m.m_resetTimeQueue.filter fun e => ¬ isGlobal pair e
  | _, _ => False

/-- The tables and the client's data for which the queue comes out right: the maps of the pairs
with a period are instanceable; a normal instance has an id of 16 bits, not 0, and is of a pair
without one. -/
structure TablesOk (env : ResetEnv) (table : InstanceTable) : Prop where
  instanceable : ∀ pair, HasPeriod env pair → env.instanceable pair.1 = true
  ids : ∀ row ∈ table.rows, row.resettime ≠ 0 → 0 < row.id.toNat ∧ row.id.toNat < 2 ^ 16
  normal : ∀ row ∈ table.rows, row.resettime ≠ 0 → ¬ HasPeriod env (row.map, row.difficulty)

/-- What a step must meet: a global reset is followed by a warning that does not lie before it; the
id of a cancelled instance has 16 bits and is not 0; a pair is reset by force only when no other
pair has a period. -/
def Harmless (env : ResetEnv) : Option InstanceSaveManager → QueueStep → Prop
  | some m, .update now =>
    ∀ t event rest, m.m_resetTimeQueue = (t, event) :: rest → t < now → event.type = 4 →
      t ≤ (env.getSubsequentResetTime event.pair (m.getResetTimeFor event.pair) : ℤ) - 3600
  | _, .cancel _ _ _ instanceid => 0 < instanceid.toNat ∧ instanceid.toNat < 2 ^ 16
  | _, .forceGlobalReset mapId difficulty _ =>
    ∀ pair, HasPeriod env pair → ∀ d, env.getDownscaledMapDifficulty mapId difficulty = some d →
      pair = (mapId, d)
  | none, .update _ => True

/-! ## 3. The queue as a list -/

section

variable {time : ℤ} {event : InstResetEvent} {queue : ResetTimeQueue}

theorem insert_perm : (ResetTimeQueue.insert time event queue).Perm ((time, event) :: queue) := by
  induction queue with
  | nil => exact List.Perm.refl _
  | cons e queue ih =>
    rw [ResetTimeQueue.insert]
    split
    · exact (ih.cons e).trans (List.Perm.swap _ _ _)
    · exact List.Perm.refl _

theorem insert_sorted (h : queue.Pairwise fun a b => a.1 ≤ b.1) :
    (ResetTimeQueue.insert time event queue).Pairwise fun a b => a.1 ≤ b.1 := by
  induction queue with
  | nil => exact List.pairwise_singleton _ _
  | cons e queue ih =>
    rw [List.pairwise_cons] at h
    rw [ResetTimeQueue.insert]
    split
    · rename_i hle
      refine List.pairwise_cons.mpr ⟨fun a ha => ?_, ih h.2⟩
      rcases mem_insert.mp ha with rfl | ha
      · exact hle
      · exact h.1 a ha
    · rename_i hgt
      refine List.pairwise_cons.mpr ⟨fun a ha => ?_, List.pairwise_cons.mpr h⟩
      rcases List.mem_cons.mp ha with rfl | ha
      · omega
      · have := h.1 a ha
        omega

theorem insert_cons_of_le {e : ℤ × InstResetEvent} (h : e.1 ≤ time) :
    ResetTimeQueue.insert time event (e :: queue) = e :: ResetTimeQueue.insert time event queue := by
  rw [ResetTimeQueue.insert, if_pos h]

theorem filter_insert_of_neg {p : ℤ × InstResetEvent → Bool} (h : p (time, event) = false) :
    (ResetTimeQueue.insert time event queue).filter p = queue.filter p := by
  induction queue with
  | nil => simp [ResetTimeQueue.insert, h]
  | cons e queue ih =>
    rw [ResetTimeQueue.insert]
    split
    · rw [List.filter_cons, List.filter_cons, ih]
    · rw [List.filter_cons, h]
      simp

end

/-- **What a cancellation does**: it takes out one event with the same instance id, or there is
none. -/
theorem cancel_cases (m : InstanceSaveManager) (time : ℤ) (event : InstResetEvent) :
    ((∀ e ∈ m.m_resetTimeQueue, e.2.instanceId ≠ event.instanceId) ∧ m.cancel time event = m) ∨
      ∃ l₁ e l₂, m.m_resetTimeQueue = l₁ ++ e :: l₂ ∧ e.2.instanceId = event.instanceId ∧
        m.cancel time event = { m with m_resetTimeQueue := l₁ ++ l₂ } := by
  unfold InstanceSaveManager.cancel
  dsimp only
  split
  · rename_i hany
    obtain ⟨e, he, hp⟩ := List.any_eq_true.mp hany
    obtain ⟨a, l₁, l₂, -, ha, hl, herase⟩ := List.exists_of_eraseP
      (p := fun e : ℤ × InstResetEvent =>
        decide (e.1 = time ∧ e.2.instanceId = event.instanceId)) he hp
    rw [decide_eq_true_eq] at ha
    exact .inr ⟨l₁, a, l₂, hl, ha.2, by rw [herase]⟩
  · by_cases hex : ∃ e ∈ m.m_resetTimeQueue, e.2.instanceId = event.instanceId
    · obtain ⟨e, he, hid⟩ := hex
      obtain ⟨a, l₁, l₂, -, ha, hl, herase⟩ := List.exists_of_eraseP
        (p := fun e : ℤ × InstResetEvent => decide (e.2.instanceId = event.instanceId)) he
        (by simpa using hid)
      exact .inr ⟨l₁, a, l₂, hl, by simpa using ha, by rw [herase]⟩
    · push Not at hex
      refine .inl ⟨hex, ?_⟩
      rw [List.eraseP_of_forall_not (by simpa using hex)]

/-! ## 4. The invariant -/

/-- A pending event of a pair: it waits at its delay before the reset time of the pair. -/
structure GlobalEvent (env : ResetEnv) (m : InstanceSaveManager) (e : ℤ × InstResetEvent) :
    Prop where
  instanceId : e.2.instanceId = 0
  type_le : e.2.type ≤ 4
  period : HasPeriod env e.2.pair
  time : ∃ R : ℕ, m.m_resetTimeByMapDifficulty e.2.pair = some R ∧
    e.1 = (R : ℤ) - resetTimeDelay (e.2.type - 1)

structure QueueInv (env : ResetEnv) (m : InstanceSaveManager) : Prop where
  sorted : m.m_resetTimeQueue.Pairwise fun a b => a.1 ≤ b.1
  single : ∀ e ∈ m.m_resetTimeQueue, e.2.type = 0 → e.2.instanceId ≠ 0
  glob : ∀ e ∈ m.m_resetTimeQueue, e.2.type ≠ 0 → GlobalEvent env m e
  once : ∀ pair, HasPeriod env pair → m.m_resetTimeQueue.countP (isGlobal pair) = 1
  known : ∀ pair, HasPeriod env pair → (m.m_resetTimeByMapDifficulty pair).isSome

section

variable {env : ResetEnv} {m : InstanceSaveManager}

variable {pair : MapDiff} {e : ℤ × InstResetEvent}

theorem isGlobal_iff :
    isGlobal pair e = true ↔ e.2.type ≠ 0 ∧ e.2.instanceId = 0 ∧ e.2.pair = pair := by
  simp [isGlobal]

theorem isGlobal_new {type : ℕ} (h : type ≠ 0) (pair : MapDiff) (time : ℤ) :
    isGlobal pair (time, .new type pair.1 pair.2 0) = true :=
  isGlobal_iff.mpr ⟨h, rfl, rfl⟩

theorem isGlobal_of_type_zero (h : e.2.type = 0) :
    isGlobal pair e = false := by
  simp [isGlobal, h]

theorem GlobalEvent.isGlobal_pair (G : GlobalEvent env m e)
    (htype : e.2.type ≠ 0) : isGlobal e.2.pair e = true :=
  isGlobal_iff.mpr ⟨htype, G.instanceId, rfl⟩

theorem GlobalEvent.isGlobal_iff_pair (G : GlobalEvent env m e)
    (htype : e.2.type ≠ 0) (pair : MapDiff) : isGlobal pair e = true ↔ e.2.pair = pair := by
  simp [isGlobal, htype, G.instanceId]

theorem GlobalEvent.of_reset {m' : InstanceSaveManager} (G : GlobalEvent env m e)
    (h : m'.m_resetTimeByMapDifficulty e.2.pair = m.m_resetTimeByMapDifficulty e.2.pair) :
    GlobalEvent env m' e :=
  ⟨G.instanceId, G.type_le, G.period, by rw [h]; exact G.time⟩

theorem QueueInv.rest_not_global {t : ℤ} {event : InstResetEvent} {rest : ResetTimeQueue}
    (I : QueueInv env m) (hqueue : m.m_resetTimeQueue = (t, event) :: rest)
    (htype : event.type ≠ 0) : ∀ e ∈ rest, isGlobal event.pair e = false := by
  have G := I.glob (t, event) (by rw [hqueue]; exact List.mem_cons_self) htype
  have hone := I.once event.pair G.period
  rw [hqueue, List.countP_cons_of_pos (G.isGlobal_pair htype)] at hone
  have hzero : rest.countP (isGlobal event.pair) = 0 := Nat.succ_injective hone
  intro e he
  simpa using List.countP_eq_zero.mp hzero e he

theorem QueueInv.replace {t time : ℤ} {event next : InstResetEvent} {rest : ResetTimeQueue}
    (I : QueueInv env m) (hqueue : m.m_resetTimeQueue = (t, event) :: rest)
    (htype : event.type ≠ 0) {m' : InstanceSaveManager}
    (hqueue' : m'.m_resetTimeQueue = ResetTimeQueue.insert time next rest)
    (hreset : ∀ pair, pair ≠ event.pair →
      m'.m_resetTimeByMapDifficulty pair = m.m_resetTimeByMapDifficulty pair)
    (hnext : next.type ≠ 0) (hpair : next.pair = event.pair)
    (G : GlobalEvent env m' (time, next)) : QueueInv env m' := by
  have hrest := I.rest_not_global hqueue htype
  have hmem : ∀ e ∈ rest, e ∈ m.m_resetTimeQueue := fun e he => by
    rw [hqueue]
    exact List.mem_cons_of_mem _ he
  have Gevent := I.glob (t, event) (by rw [hqueue]; exact List.mem_cons_self) htype
  have hsorted := I.sorted
  rw [hqueue, List.pairwise_cons] at hsorted
  refine ⟨?_, ?_, ?_, ?_, ?_⟩
  · rw [hqueue']
    exact insert_sorted hsorted.2
  · intro e he hzero
    rw [hqueue'] at he
    rcases mem_insert.mp he with rfl | he
    · exact absurd hzero hnext
    · exact I.single e (hmem e he) hzero
  · intro e he hne
    rw [hqueue'] at he
    rcases mem_insert.mp he with rfl | he
    · exact G
    · have Ge := I.glob e (hmem e he) hne
      refine Ge.of_reset (hreset _ fun heq => ?_)
      have hglobal := (Ge.isGlobal_iff_pair hne event.pair).mpr heq
      rw [hrest e he] at hglobal
      cases hglobal
  · intro pair hperiod
    have hcount := I.once pair hperiod
    rw [hqueue', insert_perm.countP_eq]
    rw [hqueue] at hcount
    have hsame : isGlobal pair (time, next) = isGlobal pair (t, event) := by
      rw [Bool.eq_iff_iff, G.isGlobal_iff_pair hnext, Gevent.isGlobal_iff_pair htype]
      exact ⟨fun h => hpair ▸ h, fun h => hpair.trans h⟩
    rw [List.countP_cons, hsame, ← List.countP_cons]
    exact hcount
  · intro pair hperiod
    by_cases heq : pair = event.pair
    · obtain ⟨R, hR, -⟩ := G.time
      rw [heq, ← hpair, hR]
      rfl
    · rw [hreset pair heq]
      exact I.known pair hperiod

theorem hasPeriod_iff :
    HasPeriod env pair ↔ ∃ resetTime, env.resetTimeOf pair = some resetTime :=
  Option.isSome_iff_exists

theorem getSubsequentResetTime_ne_zero (h : HasPeriod env pair) (t : ℕ) :
    env.getSubsequentResetTime pair t ≠ 0 := by
  obtain ⟨resetTime, hresetTime⟩ := hasPeriod_iff.mp h
  have hlt := lt_getSubsequentResetTime hresetTime t
  omega

/-! ## 5. `Update` -/

theorem resetTimeDelay_anti (k : ℕ) : resetTimeDelay (k + 1) ≤ resetTimeDelay k := by
  rcases k with _ | _ | _ | k <;> simp [resetTimeDelay]

theorem resetOrWarnAll_warn (pair : MapDiff) (resetTime : ℕ) :
    m.resetOrWarnAll env pair true resetTime = some m := by
  unfold InstanceSaveManager.resetOrWarnAll
  split <;> rfl

theorem resetOrWarnAll_reset (m : InstanceSaveManager) {pair : MapDiff} (hinst : env.instanceable pair.1 = true)
    (hperiod : HasPeriod env pair) (hknown : (m.m_resetTimeByMapDifficulty pair).isSome)
    (resetTime : ℕ) :
    m.resetOrWarnAll env pair false resetTime = some
      ((m.initializeResetTimeFor pair (env.getSubsequentResetTime pair resetTime)).schedule
        ((env.getSubsequentResetTime pair resetTime : ℤ) - 3600) (.new 1 pair.1 pair.2 0)) := by
  unfold InstanceSaveManager.resetOrWarnAll
  dsimp only
  rw [if_neg (by simp [hinst]), if_pos (by simp),
    if_neg (getSubsequentResetTime_ne_zero hperiod resetTime),
    if_neg (by rw [Option.isNone_iff_eq_none]; exact Option.isSome_iff_ne_none.mp hknown)]

theorem globalEvent_reset (hperiod : HasPeriod env pair) {m' : InstanceSaveManager} {next : ℕ}
    (hreset : m'.m_resetTimeByMapDifficulty pair = some next) :
    GlobalEvent env m' ((next : ℤ) - 3600, .new 1 pair.1 pair.2 0) where
  instanceId := rfl
  type_le := by simp [InstResetEvent.new]
  period := hperiod
  time := ⟨next, hreset, rfl⟩

section

variable {t : ℤ} {event : InstResetEvent} {rest : ResetTimeQueue} {now : ℕ}

theorem updateFront_single (hqueue : m.m_resetTimeQueue = (t, event) :: rest)
    (hdue : ¬ t ≥ now) (hzero : event.type = 0) :
    m.updateFront env now = some { m with m_resetTimeQueue := rest } := by
  simp only [InstanceSaveManager.updateFront, hqueue, hdue, hzero, if_false, if_true]

theorem updateFront_warning (hqueue : m.m_resetTimeQueue = (t, event) :: rest)
    (hdue : ¬ t ≥ now) (hzero : event.type ≠ 0) (hfour : event.type ≠ 4)
    (hlater : t ≤ (m.getResetTimeFor event.pair : ℤ) - resetTimeDelay event.type) :
    m.updateFront env now = some { m with
      m_resetTimeQueue := ResetTimeQueue.insert
        ((m.getResetTimeFor event.pair : ℤ) - resetTimeDelay event.type)
        { event with type := event.type + 1 } rest } := by
  unfold InstanceSaveManager.updateFront
  simp only [hqueue]
  rw [if_neg hdue, if_neg hzero, if_pos hfour, resetOrWarnAll_warn, Option.map_some]
  simp only [InstanceSaveManager.schedule, Nat.add_sub_cancel]
  rw [insert_cons_of_le hlater, List.tail_cons]
  rfl

theorem updateFront_reset (hqueue : m.m_resetTimeQueue = (t, event) :: rest)
    (hdue : ¬ t ≥ now) (hfour : event.type = 4) (hinst : env.instanceable event.mapid = true)
    (hperiod : HasPeriod env event.pair)
    (hknown : (m.m_resetTimeByMapDifficulty event.pair).isSome)
    (hlater : t ≤ (env.getSubsequentResetTime event.pair (m.getResetTimeFor event.pair) : ℤ)
      - 3600) :
    m.updateFront env now = some { m.initializeResetTimeFor event.pair
        (env.getSubsequentResetTime event.pair (m.getResetTimeFor event.pair)) with
      m_resetTimeQueue := ResetTimeQueue.insert
        ((env.getSubsequentResetTime event.pair (m.getResetTimeFor event.pair) : ℤ) - 3600)
        (.new 1 event.mapid event.difficulty 0) rest } := by
  unfold InstanceSaveManager.updateFront
  simp only [hqueue]
  rw [if_neg hdue, if_neg (by omega), if_neg (not_not.mpr hfour)]
  have hreset := resetOrWarnAll_reset m hinst hperiod hknown (m.getResetTimeFor event.pair)
  rw [show (event.mapid, event.difficulty) = event.pair from rfl, hreset, Option.map_some]
  simp only [InstanceSaveManager.schedule, m_resetTimeQueue_initializeResetTimeFor, hqueue]
  rw [insert_cons_of_le hlater, List.tail_cons]
  rfl

theorem QueueInv.single_handled (I : QueueInv env m)
    (hqueue : m.m_resetTimeQueue = (t, event) :: rest) (hzero : event.type = 0) :
    QueueInv env { m with m_resetTimeQueue := rest } := by
  have hmem : ∀ e ∈ rest, e ∈ m.m_resetTimeQueue := fun e he => by
    rw [hqueue]
    exact List.mem_cons_of_mem _ he
  have hsorted := I.sorted
  rw [hqueue, List.pairwise_cons] at hsorted
  refine ⟨hsorted.2, fun e he => I.single e (hmem e he),
    fun e he hne => (I.glob e (hmem e he) hne).of_reset rfl, fun pair hperiod => ?_, I.known⟩
  have hcount := I.once pair hperiod
  have hnot : isGlobal pair (t, event) = false := isGlobal_of_type_zero hzero
  rwa [hqueue, List.countP_cons_of_neg (by simp [hnot])] at hcount

end

theorem QueueInv.updateFront (I : QueueInv env m)
    (hinst : ∀ pair, HasPeriod env pair → env.instanceable pair.1 = true) (now : ℕ)
    (hharmless : Harmless env (some m) (.update now)) :
    ∃ m', m.updateFront env now = some m' ∧ QueueInv env m' ∧
      Handled now m.m_resetTimeQueue m'.m_resetTimeQueue := by
  unfold Handled
  rcases hqueue : m.m_resetTimeQueue with _ | ⟨⟨t, event⟩, rest⟩
  · exact ⟨m, by simp only [InstanceSaveManager.updateFront, hqueue], I, hqueue⟩
  · dsimp only
    by_cases hlate : t ≥ now
    · exact ⟨m, by simp only [InstanceSaveManager.updateFront, hqueue, if_pos hlate], I,
        by rw [if_pos hlate, hqueue]⟩
    · simp only [hlate, if_false]
      by_cases hzero : event.type = 0
      · simp only [hzero, if_true]
        exact ⟨_, updateFront_single hqueue hlate hzero, I.single_handled hqueue hzero, rfl⟩
      · have G := I.glob (t, event) (by rw [hqueue]; exact List.mem_cons_self) hzero
        obtain ⟨R, hR, ht⟩ := G.time
        have hresetTime : m.getResetTimeFor event.pair = R := by
          rw [InstanceSaveManager.getResetTimeFor, hR, Option.getD_some]
        have hknown := I.known event.pair G.period
        simp only [hzero, if_false]
        by_cases hfour : event.type = 4
        · have hle := hharmless t event rest hqueue (by omega) hfour
          refine ⟨_, updateFront_reset hqueue hlate hfour (hinst _ G.period) G.period hknown hle,
            ?_, _, _, ?_, rfl⟩
          swap
          · exact isGlobal_iff.mpr ⟨Nat.one_ne_zero, rfl, rfl⟩
          refine I.replace hqueue hzero rfl (fun pair hne => ?_) Nat.one_ne_zero rfl
            (globalEvent_reset G.period ?_)
          · exact Function.update_of_ne hne _ _
          · exact Function.update_self _ _ _
        · have hle := G.type_le
          obtain ⟨k, hk⟩ := Nat.exists_eq_add_of_lt (Nat.pos_of_ne_zero hzero)
          have hanti := resetTimeDelay_anti k
          have htype : event.type = k + 1 := by omega
          have hlater : t ≤ (m.getResetTimeFor event.pair : ℤ) - resetTimeDelay event.type := by
            simp only [htype, Nat.add_sub_cancel] at ht
            rw [hresetTime, htype]
            omega
          refine ⟨_, updateFront_warning hqueue hlate hzero hfour hlater, ?_, _, _, ?_, rfl⟩
          swap
          · exact isGlobal_iff.mpr ⟨Nat.succ_ne_zero _, G.instanceId, rfl⟩
          refine I.replace hqueue hzero rfl (fun _ _ => rfl) (Nat.succ_ne_zero _) rfl
            ⟨G.instanceId, ?_, G.period, R, hR, ?_⟩
          · simp only at hle ⊢
            omega
          · simp only [hresetTime, Nat.add_sub_cancel]

/-! ## 6. Cancellations -/

theorem toUInt16_ne_zero {id : UInt32} (hpos : 0 < id.toNat) (hlt : id.toNat < 2 ^ 16) :
    id.toUInt16 ≠ 0 := by
  intro h
  have hzero := congrArg UInt16.toNat h
  rw [UInt32.toNat_toUInt16, Nat.mod_eq_of_lt hlt] at hzero
  exact hpos.ne' hzero

theorem QueueInv.remove (I : QueueInv env m) {l₁ l₂ : ResetTimeQueue} {e : ℤ × InstResetEvent}
    (hqueue : m.m_resetTimeQueue = l₁ ++ e :: l₂) (hzero : e.2.type = 0) :
    QueueInv env { m with m_resetTimeQueue := l₁ ++ l₂ } := by
  have hsub : (l₁ ++ l₂).Sublist m.m_resetTimeQueue := by
    rw [hqueue]
    exact (List.sublist_cons_self e l₂).append_left l₁
  refine ⟨I.sorted.sublist hsub, fun x hx => I.single x (hsub.subset hx),
    fun x hx hne => (I.glob x (hsub.subset hx) hne).of_reset rfl, fun pair hperiod => ?_, I.known⟩
  have hcount := I.once pair hperiod
  rw [hqueue, List.countP_append, List.countP_cons_of_neg (by simp [isGlobal_of_type_zero hzero])]
    at hcount
  rw [List.countP_append]
  exact hcount

/-- **Cancelling the reset of an instance** leaves the events of pairs, and those of other
instances. -/
theorem QueueInv.cancel (I : QueueInv env m) (time : ℤ) (mapid : UInt16) (difficulty : UInt8)
    {id : UInt32} (hpos : 0 < id.toNat) (hlt : id.toNat < 2 ^ 16) :
    QueueInv env (m.cancel time (.new 0 mapid difficulty id)) ∧
      (m.cancel time (.new 0 mapid difficulty id)).m_resetTimeQueue.filter
          (fun e => e.2.instanceId.toNat ≠ id.toNat)
        = m.m_resetTimeQueue.filter fun e => e.2.instanceId.toNat ≠ id.toNat := by
  rcases cancel_cases m time (.new 0 mapid difficulty id) with
    ⟨-, heq⟩ | ⟨l₁, e, l₂, hqueue, hid, heq⟩
  · rw [heq]
    exact ⟨I, rfl⟩
  · have hmem : e ∈ m.m_resetTimeQueue := by
      rw [hqueue]
      exact List.mem_append_right _ List.mem_cons_self
    have hzero : e.2.type = 0 := by
      by_contra hne
      have hglobal := (I.glob e hmem hne).instanceId
      rw [hid] at hglobal
      exact toUInt16_ne_zero hpos hlt hglobal
    have hsame : e.2.instanceId.toNat = id.toNat := by
      rw [hid, toNat_new_instanceId, Nat.mod_eq_of_lt hlt]
    rw [heq]
    refine ⟨I.remove hqueue hzero, ?_⟩
    rw [hqueue, List.filter_append, List.filter_append, List.filter_cons_of_neg (by simpa using hsame)]

/-! ## 7. Forced resets -/

theorem QueueInv.cancel_of_no_period (I : QueueInv env m) (hnone : ∀ pair, ¬ HasPeriod env pair)
    (time : ℤ) (type : ℕ) (mapid : UInt16) (difficulty : UInt8) :
    m.cancel time (.new type mapid difficulty 0) = m := by
  rcases cancel_cases m time (.new type mapid difficulty 0) with
    ⟨-, heq⟩ | ⟨l₁, e, l₂, hqueue, hid, -⟩
  · exact heq
  · have hmem : e ∈ m.m_resetTimeQueue := by
      rw [hqueue]
      exact List.mem_append_right _ List.mem_cons_self
    by_cases hzero : e.2.type = 0
    · exact absurd hid (I.single e hmem hzero)
    · exact absurd (I.glob e hmem hzero).period (hnone _)

theorem QueueInv.cancel_twice (I : QueueInv env m) {pair : MapDiff} (hperiod : HasPeriod env pair)
    (honly : ∀ other, HasPeriod env other → other = pair) :
    ∃ l₁ e l₂, m.m_resetTimeQueue = l₁ ++ e :: l₂ ∧ isGlobal pair e = true ∧
      (∀ x ∈ l₁ ++ l₂, x.2.type = 0) ∧
      (m.cancel 0 (.new 1 pair.1 pair.2 0)).cancel 0 (.new 4 pair.1 pair.2 0)
        = { m with m_resetTimeQueue := l₁ ++ l₂ } := by
  have hglobal : ∀ x ∈ m.m_resetTimeQueue, x.2.type ≠ 0 → isGlobal pair x = true := by
    intro x hx hne
    have G := I.glob x hx hne
    exact (G.isGlobal_iff_pair hne pair).mpr (honly _ G.period)
  have hone := I.once pair hperiod
  rcases cancel_cases m 0 (.new 1 pair.1 pair.2 0) with ⟨hno, -⟩ | ⟨l₁, e, l₂, hqueue, hid, heq⟩
  · -- the pair's own event has no instance
    obtain ⟨x, hx, hp⟩ := List.countP_pos_iff.mp (by omega : 0 < m.m_resetTimeQueue.countP
      (isGlobal pair))
    exact absurd (isGlobal_iff.mp hp).2.1 (hno x hx)
  · have hmem : e ∈ m.m_resetTimeQueue := by
      rw [hqueue]
      exact List.mem_append_right _ List.mem_cons_self
    have he : isGlobal pair e = true :=
      hglobal e hmem fun hzero => I.single e hmem hzero hid
    have hsub : ∀ x ∈ l₁ ++ l₂, x ∈ m.m_resetTimeQueue := by
      intro x hx
      rw [hqueue]
      exact ((List.sublist_cons_self e l₂).append_left l₁).subset hx
    have hrest : ∀ x ∈ l₁ ++ l₂, x.2.type = 0 := by
      intro x hx
      by_contra hne
      have hp := hglobal x (hsub x hx) hne
      rw [hqueue, List.countP_append, List.countP_cons_of_pos he] at hone
      have hzero : (l₁ ++ l₂).countP (isGlobal pair) = 0 := by
        rw [List.countP_append]
        omega
      exact List.countP_eq_zero.mp hzero x hx hp
    refine ⟨l₁, e, l₂, hqueue, he, hrest, ?_⟩
    rw [heq]
    rcases cancel_cases { m with m_resetTimeQueue := l₁ ++ l₂ } 0 (.new 4 pair.1 pair.2 0) with
      ⟨-, heq'⟩ | ⟨k₁, x, k₂, hqueue', hid', -⟩
    · exact heq'
    · have hx : x ∈ l₁ ++ l₂ := by
        rw [show l₁ ++ l₂ = k₁ ++ x :: k₂ from hqueue']
        exact List.mem_append_right _ List.mem_cons_self
      exact absurd hid' (I.single x (hsub x hx) (hrest x hx))

theorem QueueInv.forceGlobalReset (I : QueueInv env m)
    (hinst : ∀ pair, HasPeriod env pair → env.instanceable pair.1 = true) (mapId : UInt16)
    (difficulty : UInt8) (now : ℕ)
    (hharmless : ∀ pair, HasPeriod env pair →
      ∀ d, env.getDownscaledMapDifficulty mapId difficulty = some d → pair = (mapId, d)) :
    ∃ m', m.forceGlobalReset env mapId difficulty now = some m' ∧ QueueInv env m' ∧
      let pair := (mapId, (env.getDownscaledMapDifficulty mapId difficulty).getD difficulty)
      m'.m_resetTimeQueue.filter (fun e => ¬ isGlobal pair e)
        = m.m_resetTimeQueue.filter fun e => ¬ isGlobal pair e := by
  unfold InstanceSaveManager.forceGlobalReset
  cases hdown : env.getDownscaledMapDifficulty mapId difficulty with
  | none => exact ⟨m, rfl, I, rfl⟩
  | some d =>
    have honly : ∀ pair, HasPeriod env pair → pair = (mapId, d) :=
      fun pair hperiod => hharmless pair hperiod d hdown
    simp only [Option.getD_some]
    by_cases hperiod : HasPeriod env (mapId, d)
    · obtain ⟨l₁, e, l₂, hqueue, he, hrest, hcancel⟩ := I.cancel_twice hperiod honly
      have hreset := resetOrWarnAll_reset { m with m_resetTimeQueue := l₁ ++ l₂ }
        (hinst _ hperiod) hperiod (I.known _ hperiod) now
      rw [hcancel, hreset]
      have hnone : ∀ x ∈ l₁ ++ l₂, isGlobal (mapId, d) x = false :=
        fun x hx => isGlobal_of_type_zero (hrest x hx)
      have hsub : (l₁ ++ l₂).Sublist m.m_resetTimeQueue := by
        rw [hqueue]
        exact (List.sublist_cons_self e l₂).append_left l₁
      refine ⟨_, rfl, ⟨?_, ?_, ?_, ?_, ?_⟩, ?_⟩
      · exact insert_sorted (I.sorted.sublist hsub)
      · intro x hx hzero
        rcases mem_insert.mp hx with rfl | hx
        · exact absurd hzero Nat.one_ne_zero
        · exact I.single x (hsub.subset hx) hzero
      · intro x hx hne
        rcases mem_insert.mp hx with rfl | hx
        · exact globalEvent_reset hperiod (Function.update_self _ _ _)
        · exact absurd (hrest x hx) hne
      · intro pair hp
        rw [honly pair hp]
        refine insert_perm.countP_eq _ |>.trans ?_
        have hzero : (l₁ ++ l₂).countP (isGlobal (mapId, d)) = 0 :=
          List.countP_eq_zero.mpr fun x hx => by simp [hnone x hx]
        rw [List.countP_cons_of_pos (isGlobal_new Nat.one_ne_zero (mapId, d) _)]
        exact congrArg (· + 1) hzero
      · intro pair hp
        rw [honly pair hp]
        exact Option.isSome_of_eq_some (Function.update_self _ _ _)
      · refine (filter_insert_of_neg ?_).trans ?_
        · simp [isGlobal, InstResetEvent.new, InstResetEvent.pair]
        · rw [hqueue]
          simp [List.filter_append, he]
    · have hnone : ∀ pair, ¬ HasPeriod env pair := fun pair hp => hperiod (honly pair hp ▸ hp)
      have hzero : env.getSubsequentResetTime (mapId, d) now = 0 := by
        unfold ResetEnv.getSubsequentResetTime
        have hno := hnone (mapId, d)
        unfold HasPeriod at hno
        rw [Option.not_isSome_iff_eq_none.mp hno]
      rw [I.cancel_of_no_period hnone, I.cancel_of_no_period hnone]
      refine ⟨m, ?_, I, rfl⟩
      unfold InstanceSaveManager.resetOrWarnAll
      simp [hzero]

end

/-! ## 8. The queue after the start -/

section

variable {env : ResetEnv} {now : ℕ}

/-- The state of the third loop of `LoadResetTimes` after the pairs `done`. -/
structure LoadInv (env : ResetEnv) (done : List MapDiff) (m : InstanceSaveManager) : Prop where
  sorted : m.m_resetTimeQueue.Pairwise fun a b => a.1 ≤ b.1
  single : ∀ e ∈ m.m_resetTimeQueue, e.2.type = 0 → e.2.instanceId ≠ 0
  glob : ∀ e ∈ m.m_resetTimeQueue, e.2.type ≠ 0 → GlobalEvent env m e ∧ e.2.pair ∈ done
  once : ∀ pair ∈ done, HasPeriod env pair → m.m_resetTimeQueue.countP (isGlobal pair) = 1 ∧
    (m.m_resetTimeByMapDifficulty pair).isSome

theorem scheduleInstances_sorted (now : ℕ) (inst : List InstanceRow) {m : InstanceSaveManager}
    (h : m.m_resetTimeQueue.Pairwise fun a b => a.1 ≤ b.1) :
    (scheduleInstances now inst m).m_resetTimeQueue.Pairwise fun a b => a.1 ≤ b.1 := by
  unfold scheduleInstances
  induction inst generalizing m with
  | nil => exact h
  | cons row inst ih =>
    rw [List.foldl_cons]
    split
    · exact ih (insert_sorted h)
    · exact ih h

theorem loadInv_instances {table : InstanceTable} (ht : TablesOk env table)
    (respawns : RespawnTable) (reset : List ResetRow) (now : ℕ) :
    LoadInv env [] (loadStored env reset
      (loadInstances table respawns now ⟨fun _ => none, []⟩).mgr) := by
  have hmem : ∀ e ∈ (loadInstances table respawns now ⟨fun _ => none, []⟩).mgr.m_resetTimeQueue,
      e.2.type = 0 ∧ e.2.instanceId ≠ 0 := by
    intro e he
    unfold loadInstances at he
    split at he
    · cases he
    · dsimp only at he
      rw [updateResetTimes_eq, mem_scheduleInstances] at he
      obtain he | ⟨row', hrow', -, rfl⟩ := he
      · cases he
      · obtain ⟨row, hrow, rfl⟩ := List.mem_map.mp hrow'
        obtain ⟨hrow, hne⟩ := List.mem_filter.mp hrow
        obtain ⟨hpos, hlt⟩ := ht.ids row hrow (by simpa using hne)
        refine ⟨rfl, ?_⟩
        have hid : (InstResetEvent.new 0 (finalRow respawns row).map
            (finalRow respawns row).difficulty (finalRow respawns row).id).instanceId
              = row.id.toUInt16 := by rw [finalRow_id]; rfl
        rw [hid]
        exact toUInt16_ne_zero hpos hlt
  refine ⟨?_, ?_, ?_, fun _ h => absurd h List.not_mem_nil⟩
  · rw [m_resetTimeQueue_loadStored]
    unfold loadInstances
    split
    · exact List.Pairwise.nil
    · exact scheduleInstances_sorted _ _ List.Pairwise.nil
  · intro e he _
    rw [m_resetTimeQueue_loadStored] at he
    exact (hmem e he).2
  · intro e he hne
    rw [m_resetTimeQueue_loadStored] at he
    exact absurd (hmem e he).1 hne

theorem LoadInv.loadPair {done : List MapDiff} {m : InstanceSaveManager} (L : LoadInv env done m)
    {inst : List InstanceRow} (hinst : ∀ row ∈ inst, ¬ HasPeriod env (row.map, row.difficulty))
    {pair : MapDiff} {resetTime : UInt32} (hlookup : env.sMapDifficultyMap.lookup pair = some resetTime)
    (hnew : pair ∉ done) (now : ℕ) :
    LoadInv env (pair :: done) (loadPair env now inst m pair resetTime) := by
  by_cases hzero : resetTime = 0
  · have hno : ¬ HasPeriod env pair := by
      unfold HasPeriod ResetEnv.resetTimeOf
      simp [hlookup, hzero]
    rw [Instances.loadPair, if_pos hzero]
    refine ⟨L.sorted, L.single, fun e he hne => ?_, fun other hother hperiod => ?_⟩
    · exact ⟨(L.glob e he hne).1, List.mem_cons_of_mem _ (L.glob e he hne).2⟩
    · rcases List.mem_cons.mp hother with rfl | hother
      · exact absurd hperiod hno
      · exact L.once other hother hperiod
  · have hperiod : HasPeriod env pair :=
      hasPeriod_iff.mpr ⟨resetTime, resetTimeOf_eq_some.mpr ⟨hlookup, hzero⟩⟩
    have hnone : (inst.filter fun row => (row.map, row.difficulty) = pair) = [] := by
      rw [List.filter_eq_nil_iff]
      intro row hrow hpair
      rw [decide_eq_true_eq] at hpair
      exact hinst row hrow (hpair ▸ hperiod)
    rw [Instances.loadPair, if_neg hzero]
    dsimp only
    rw [hnone, List.foldl_nil]
    generalize env.startTime resetTime now (m.getResetTimeFor pair) = R
    have htype := firstType_pos R now
    have hle : firstType R now ≤ 4 := by
      unfold firstType
      split_ifs <;> decide
    have hreset : ∀ other, other ≠ pair →
        (m.initializeResetTimeFor pair R).m_resetTimeByMapDifficulty other
          = m.m_resetTimeByMapDifficulty other := fun other hne => Function.update_of_ne hne _ _
    have hown : (m.initializeResetTimeFor pair R).m_resetTimeByMapDifficulty pair = some R :=
      Function.update_self _ _ _
    refine ⟨insert_sorted L.sorted, fun e he htypeZero => ?_, fun e he hne => ?_,
      fun other hother hp => ⟨?_, ?_⟩⟩
    · rcases mem_insert.mp he with rfl | he
      · exact absurd htypeZero htype
      · exact L.single e he htypeZero
    · rcases mem_insert.mp he with rfl | he
      · exact ⟨⟨rfl, hle, hperiod, R, hown, rfl⟩, List.mem_cons_self⟩
      · obtain ⟨G, hdone⟩ := L.glob e he hne
        exact ⟨G.of_reset (hreset _ fun heq => hnew (heq ▸ hdone)), List.mem_cons_of_mem _ hdone⟩
    · refine insert_perm.countP_eq _ |>.trans ?_
      rcases List.mem_cons.mp hother with rfl | hother
      · have hzeroCount : m.m_resetTimeQueue.countP (isGlobal other) = 0 := by
          rw [List.countP_eq_zero]
          intro e he hp
          obtain ⟨hne, -, hpair⟩ := isGlobal_iff.mp hp
          exact hnew (hpair ▸ (L.glob e he hne).2)
        rw [List.countP_cons_of_pos (isGlobal_new htype other _),
          m_resetTimeQueue_initializeResetTimeFor, hzeroCount]
      · have hne : other ≠ pair := fun heq => hnew (heq ▸ hother)
        rw [List.countP_cons_of_neg]
        · exact (L.once other hother hp).1
        · intro hp
          exact hne (isGlobal_iff.mp hp).2.2.symm
    · rcases List.mem_cons.mp hother with rfl | hother
      · exact Option.isSome_of_eq_some hown
      · have hne : other ≠ pair := fun heq => hnew (heq ▸ hother)
        refine (congrArg Option.isSome (hreset other hne)).trans ?_
        exact (L.once other hother hp).2

theorem LoadInv.foldl {inst : List InstanceRow}
    (hinst : ∀ row ∈ inst, ¬ HasPeriod env (row.map, row.difficulty))
    {pairs : List (Sigma fun _ : MapDiff => UInt32)} {done : List MapDiff}
    (hlookup : ∀ p ∈ pairs, env.sMapDifficultyMap.lookup p.1 = some p.2)
    (hnodup : pairs.NodupKeys) (hnew : ∀ p ∈ pairs, p.1 ∉ done) {m : InstanceSaveManager}
    (L : LoadInv env done m) (now : ℕ) :
    LoadInv env (pairs.keys.reverse ++ done)
      (pairs.foldl (fun m p => Instances.loadPair env now inst m p.1 p.2) m) := by
  induction pairs generalizing done m with
  | nil => exact L
  | cons p pairs ih =>
    rw [List.nodupKeys_cons] at hnodup
    have hstep := L.loadPair hinst (hlookup p List.mem_cons_self) (hnew p List.mem_cons_self) now
    have hrest := ih (fun q hq => hlookup q (List.mem_cons_of_mem _ hq)) hnodup.2
      (fun q hq => by
        rw [List.mem_cons, not_or]
        refine ⟨fun heq => hnodup.1 (heq ▸ List.mem_keys_of_mem hq), ?_⟩
        exact hnew q (List.mem_cons_of_mem _ hq)) hstep
    rw [List.foldl_cons, List.keys_cons, List.reverse_cons, List.append_assoc]
    exact hrest

theorem queueInv_loadResetTimes {table : InstanceTable} (ht : TablesOk env table)
    (respawns : RespawnTable) (reset : List ResetRow) (now : ℕ) :
    QueueInv env (loadResetTimes env table respawns reset now).mgr := by
  have hinst : ∀ row ∈ table.rows.filter fun row => row.resettime ≠ 0,
      ¬ HasPeriod env (row.map, row.difficulty) := by
    intro row hrow
    obtain ⟨hrow, hne⟩ := List.mem_filter.mp hrow
    exact ht.normal row hrow (by simpa using hne)
  have L := LoadInv.foldl hinst (fun p hp => AList.mem_lookup_iff.mpr hp)
    env.sMapDifficultyMap.nodupKeys (fun _ _ => List.not_mem_nil)
    (loadInv_instances ht respawns reset now) now
  have hdone : ∀ pair, HasPeriod env pair →
      pair ∈ env.sMapDifficultyMap.entries.keys.reverse ++ [] := by
    intro pair hperiod
    obtain ⟨resetTime, hresetTime⟩ := hasPeriod_iff.mp hperiod
    have hlookup := (resetTimeOf_eq_some.mp hresetTime).1
    rw [List.append_nil, List.mem_reverse]
    exact AList.mem_keys.mp (AList.lookup_isSome.mp (Option.isSome_of_eq_some hlookup))
  exact ⟨L.sorted, L.single, fun e he hne => (L.glob e he hne).1,
    fun pair hp => (L.once pair (hdone pair hp) hp).1,
    fun pair hp => (L.once pair (hdone pair hp) hp).2⟩

end

/-! ## 9. Harmless runs -/

/-- The invariant over a run: no assertion has failed. -/
def RunInv (env : ResetEnv) : Option InstanceSaveManager → Prop
  | none => False
  | some m => QueueInv env m

theorem runInv_step {env : ResetEnv}
    (hinst : ∀ pair, HasPeriod env pair → env.instanceable pair.1 = true)
    (st : Option InstanceSaveManager) (e : QueueStep) (I : RunInv env st)
    (hharmless : Harmless env st e) : RunInv env (queueStep env st e) ∧ Framed env st e := by
  cases st with
  | none => exact I.elim
  | some m =>
    unfold Framed
    cases e with
    | update now =>
      obtain ⟨m', heq, I', hhandled⟩ := QueueInv.updateFront I hinst now hharmless
      simp only [queueStep, heq]
      exact ⟨I', hhandled⟩
    | cancel time mapid difficulty instanceid =>
      exact QueueInv.cancel I time mapid difficulty hharmless.1 hharmless.2
    | forceGlobalReset mapId difficulty now =>
      obtain ⟨m', heq, I', hframe⟩ :=
        QueueInv.forceGlobalReset I hinst mapId difficulty now hharmless
      simp only [queueStep, heq]
      exact ⟨I', hframe⟩

/-- **One pending event for each pair**, in every state of a harmless run from the start of the
server; and no step touches the events of others. -/
theorem run_pendingOnce (env : ResetEnv) (table : InstanceTable) (ht : TablesOk env table)
    (respawns : RespawnTable) (reset : List ResetRow) (now : ℕ) (evs : List QueueStep)
    (hevs : Steps (queueStep env) (Harmless env)
      (some (loadResetTimes env table respawns reset now).mgr) evs) :
    States (queueStep env) (PendingOnce env)
        (some (loadResetTimes env table respawns reset now).mgr) evs ∧
      Steps (queueStep env) (Framed env)
        (some (loadResetTimes env table respawns reset now).mgr) evs := by
  have hstart : RunInv env (some (loadResetTimes env table respawns reset now).mgr) :=
    queueInv_loadResetTimes ht respawns reset now
  have hstep := runInv_step ht.instanceable
  refine ⟨?_, Steps.of_inv (fun st e I h => (hstep st e I h).1)
    (fun st e I h => (hstep st e I h).2) hstart hevs⟩
  refine (States.of_steps (fun st e I h => (hstep st e I h).1) hstart hevs).imp fun st I => ?_
  cases st with
  | none => exact I
  | some m => exact I.once

def oneRaid : ResetEnv :=
  ⟨AList.singleton (533, 0) 604800, fun _ => true, UInt32.toNat, 4⟩

theorem hasPeriod_oneRaid {pair : MapDiff} (h : HasPeriod oneRaid pair) : pair = (533, 0) := by
  obtain ⟨resetTime, hresetTime⟩ := hasPeriod_iff.mp h
  have hmem := AList.lookup_isSome.mp
    (Option.isSome_of_eq_some (resetTimeOf_eq_some.mp hresetTime).1)
  rw [AList.mem_keys] at hmem
  exact List.mem_singleton.mp hmem

/-- A server with one raid: an instance is cancelled, the raid is reset by force. -/
theorem oneRaid_pendingOnce :
    States (queueStep oneRaid) (PendingOnce oneRaid)
        (some (loadResetTimes oneRaid ⟨[⟨7, 33, 0, 2000000⟩], by decide⟩ ⟨[], List.nodup_nil⟩ []
          1000000).mgr) [.cancel 2000000 33 0 7, .forceGlobalReset 533 0 1000000] ∧
      Steps (queueStep oneRaid) (Framed oneRaid)
        (some (loadResetTimes oneRaid ⟨[⟨7, 33, 0, 2000000⟩], by decide⟩ ⟨[], List.nodup_nil⟩ []
          1000000).mgr) [.cancel 2000000 33 0 7, .forceGlobalReset 533 0 1000000] := by
  refine run_pendingOnce oneRaid _ ⟨fun _ _ => rfl, ?_, ?_⟩ _ _ _ _
    ⟨⟨by decide, by decide⟩, fun pair hperiod d hdown => ?_, trivial⟩
  · intro row hrow _
    rw [List.mem_singleton.mp hrow]
    decide
  · intro row hrow _ hperiod
    rw [List.mem_singleton.mp hrow] at hperiod
    exact absurd (hasPeriod_oneRaid hperiod) (by decide)
  · have hd : (0 : UInt8) = d := Option.some.inj hdown
    rw [← hd]
    exact hasPeriod_oneRaid hperiod

def twoRaids : ResetEnv :=
  ⟨(AList.singleton (533, 0) 604800).insert (603, 0) 604800, fun _ => true, UInt32.toNat, 4⟩

/-- **A forced reset of one raid takes the event of the other**: with two raids, the second has no
pending event after the first was reset by force. -/
theorem force_two_pairs :
    ¬ PendingOnce twoRaids (exec (queueStep twoRaids)
      (some (loadResetTimes twoRaids ⟨[], List.nodup_nil⟩ ⟨[], List.nodup_nil⟩ [] 1000000).mgr)
      [.forceGlobalReset 533 0 1000000]) := by
  intro h
  have hone := h (603, 0) (by unfold HasPeriod; decide +kernel)
  revert hone
  decide +kernel

end FunPvp.Instances
