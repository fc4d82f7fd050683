/-
# When game events are checked

`CheckOneGameEvent` says whether an event is on, and `NextCheck` in how many seconds the event
should be looked at again; the server waits one more second, "to be sure event has started/stopped
at next call". An event of the normal kind is on in a window that comes back, after its start and
before its end (`Lib/Recurring.lean`).

The two functions do not agree about the start. There the event is not on, but `NextCheck` counts
the window as begun and returns the time to its end, so that a server which looks at just that
second misses the window. It also misses a window that the end cuts to a single second.
`nextCheck_polls` says that it misses nothing else.
-/
import FunPvp.Lib.Recurring

namespace FunPvp.Events

open FunPvp.Lib

/-! ## 1. The source -/

def MINUTE : UInt32 := 60
def DAY : UInt32 := 86400
def max_ge_check_delay : UInt32 := DAY

inductive GameEventState
  | GAMEEVENT_NORMAL
  | GAMEEVENT_WORLD_INACTIVE
  | GAMEEVENT_WORLD_CONDITIONS
  | GAMEEVENT_WORLD_NEXTPHASE
  | GAMEEVENT_WORLD_FINISHED
  | GAMEEVENT_INTERNAL
deriving DecidableEq

open GameEventState

/-- What is read of an event. Times are in seconds, `occurence` and `length` in minutes. -/
structure GameEventData where
  start : ℤ
  /-- `end`. -/
  endTime : ℤ
  nextstart : ℤ
  occurence : UInt32
  length : UInt32
  state : GameEventState
  prerequisite_events : List UInt16

structure GameEventMgr where
  mGameEvent : UInt16 → GameEventData

namespace GameEventData

/-- How far the event is in its period, at a time that is not before its start. -/
def phase (e : GameEventData) (currenttime : ℤ) : ℤ :=
  (currenttime - e.start) % ((e.occurence * MINUTE).toNat : ℤ)

/-- `length`, in seconds. -/
def window (e : GameEventData) : ℤ := ((e.length * MINUTE).toNat : ℤ)

end GameEventData

namespace GameEventMgr

def checkOneGameEvent (m : GameEventMgr) (entry : UInt16) (currenttime : ℤ) : Bool :=
  let e := m.mGameEvent entry
  match e.state with
  | GAMEEVENT_NORMAL =>
    decide (e.start < currenttime) && decide (currenttime < e.endTime) &&
      decide (e.phase currenttime < e.window)
  | GAMEEVENT_WORLD_CONDITIONS => true
  | GAMEEVENT_WORLD_NEXTPHASE => true
  | GAMEEVENT_WORLD_FINISHED => false
  | GAMEEVENT_INTERNAL => false
  | GAMEEVENT_WORLD_INACTIVE =>
    if e.prerequisite_events.any fun itr =>
        ((m.mGameEvent itr).state ≠ GAMEEVENT_WORLD_NEXTPHASE &&
          (m.mGameEvent itr).state ≠ GAMEEVENT_WORLD_FINISHED) ||
            decide (currenttime < (m.mGameEvent itr).nextstart) then false
    else !e.prerequisite_events.isEmpty

/-- The end of `NextCheck`, for an event that has begun. -/
def delayInEvent (e : GameEventData) (currenttime : ℤ) : UInt32 :=
  let delay :=
    if e.phase currenttime < e.window then UInt32.ofInt (e.window - e.phase currenttime)
    else UInt32.ofInt (((e.occurence * MINUTE).toNat : ℤ) - e.phase currenttime)
  if e.endTime < currenttime + (delay.toNat : ℤ) then UInt32.ofInt (e.endTime - currenttime)
  else delay

def nextCheck (m : GameEventMgr) (entry : UInt16) (currenttime : ℤ) : UInt32 :=
  let e := m.mGameEvent entry
  if (e.state = GAMEEVENT_WORLD_NEXTPHASE ∨ e.state = GAMEEVENT_WORLD_FINISHED) ∧
      currenttime ≤ e.nextstart then
    UInt32.ofInt (e.nextstart - currenttime)
  else if e.state = GAMEEVENT_WORLD_CONDITIONS then
    if e.length ≠ 0 then e.length * 60 else max_ge_check_delay
  else if e.endTime < currenttime then max_ge_check_delay
  else if currenttime < e.start then UInt32.ofInt (e.start - currenttime)
  else delayInEvent e currenttime

/-! ## 2. Looking at an event -/

section Polls

variable (m : GameEventMgr) (entry : UInt16)

/-- At no time before the next check is the event switched, and a server that looks again at most a
second later has seen every switch until then: the event was and is what it was before and is after
it. -/
def PolledAt (t : ℤ) : Prop :=
  (∀ s, t ≤ s → s < t + (m.nextCheck entry t).toNat →
    m.checkOneGameEvent entry s = m.checkOneGameEvent entry t) ∧
  ∀ p s, t < s → s ≤ p → p ≤ t + (m.nextCheck entry t).toNat + 1 →
    m.checkOneGameEvent entry (s - 1) ≠ m.checkOneGameEvent entry s →
    m.checkOneGameEvent entry t = m.checkOneGameEvent entry (s - 1) ∧
      m.checkOneGameEvent entry p = m.checkOneGameEvent entry s

/-- It is not the second in which the event starts, and if the next window has only its first second
left before the end, it is not between the windows. -/
def Unclipped (e : GameEventData) (t : ℤ) : Prop :=
  ¬(t = e.start ∧ e.start + 1 < e.endTime) ∧
    ¬(e.start < t ∧ e.window ≤ e.phase t ∧
      t + (((e.occurence * MINUTE).toNat : ℤ) - e.phase t) + 1 = e.endTime)

instance (e : GameEventData) (t : ℤ) : Decidable (Unclipped e t) :=
  inferInstanceAs (Decidable (_ ∧ _))

end Polls

/-- A normal event, whose times in seconds fit into a `uint32`. -/
structure Normal (e : GameEventData) : Prop where
  state : e.state = GAMEEVENT_NORMAL
  length_pos : 0 < e.length
  length_lt : e.length < e.occurence
  fits : e.occurence.toNat * 60 < 2 ^ 32
  span : e.start < e.endTime

section Normal

variable {m : GameEventMgr} {entry : UInt16} {t : ℤ}

theorem toNat_mul_minute {x : UInt32} (h : x.toNat * 60 < 2 ^ 32) :
    (x * MINUTE).toNat = x.toNat * 60 := by
  rw [UInt32.toNat_mul]
  exact Nat.mod_eq_of_lt h

theorem toNat_ofInt {x : ℤ} (hx : 0 ≤ x) (hlt : x < 2 ^ 32) : ((UInt32.ofInt x).toNat : ℤ) = x := by
  rw [UInt32.ofInt, Int.emod_eq_of_lt hx hlt, UInt32.toNat_ofNat']
  omega

def Normal.recurring {e : GameEventData} (h : Normal e) : Recurring where
  start := e.start
  stop := e.endTime
  period := ((e.occurence * MINUTE).toNat : ℤ)
  window := e.window
  one_lt_window := by
    have hpos := UInt32.lt_iff_toNat_lt.mp h.length_pos
    have hlt := UInt32.lt_iff_toNat_lt.mp h.length_lt
    have hfits := h.fits
    rw [GameEventData.window, toNat_mul_minute (by omega)]
    simp only [UInt32.toNat_zero] at hpos
    omega
  window_lt := by
    have hlt := UInt32.lt_iff_toNat_lt.mp h.length_lt
    have hfits := h.fits
    rw [GameEventData.window, toNat_mul_minute (by omega), toNat_mul_minute hfits]
    omega

theorem Normal.checkOneGameEvent (h : Normal (m.mGameEvent entry)) (t : ℤ) :
    m.checkOneGameEvent entry t ↔ h.recurring.Open t := by
  rw [GameEventMgr.checkOneGameEvent]
  simp only [h.state, Bool.and_eq_true, decide_eq_true_eq, and_assoc]
  rfl

theorem Normal.delay {e : GameEventData} (h : Normal e) (t : ℤ) :
    ((if e.phase t < e.window then UInt32.ofInt (e.window - e.phase t)
      else UInt32.ofInt (((e.occurence * MINUTE).toNat : ℤ) - e.phase t)).toNat : ℤ) =
      h.recurring.delay t := by
  have hphase : e.phase t = h.recurring.phase t := rfl
  have hwindow : e.window = h.recurring.window := rfl
  have hnonneg := h.recurring.phase_nonneg t
  have hlt := h.recurring.phase_lt t
  have hgap := h.recurring.window_lt
  have hperiod : h.recurring.period < 2 ^ 32 := by
    have hbound := UInt32.toNat_lt (e.occurence * MINUTE)
    show ((e.occurence * MINUTE).toNat : ℤ) < 2 ^ 32
    omega
  rw [hphase, hwindow, Recurring.delay]
  split
  · exact toNat_ofInt (by omega) (by omega)
  · exact toNat_ofInt (by show 0 ≤ h.recurring.period - _; omega)
      (by show h.recurring.period - _ < _; omega)

theorem Normal.nextCheck (h : Normal (m.mGameEvent entry)) (ht : t ≤ (m.mGameEvent entry).endTime)
    (hfar : (m.mGameEvent entry).start - t < 2 ^ 32) :
    ((m.nextCheck entry t).toNat : ℤ) = h.recurring.wait t := by
  have hstart : h.recurring.start = (m.mGameEvent entry).start := rfl
  have hstop : h.recurring.stop = (m.mGameEvent entry).endTime := rfl
  rw [GameEventMgr.nextCheck, Recurring.wait, hstart, hstop]
  simp only [h.state, reduceCtorEq, or_self, false_and, if_false, if_neg (not_lt.mpr ht)]
  split
  · exact toNat_ofInt (by omega) hfar
  · have hdelay := h.delay t
    have hbound := UInt32.toNat_lt (if (m.mGameEvent entry).phase t < (m.mGameEvent entry).window
      then UInt32.ofInt ((m.mGameEvent entry).window - (m.mGameEvent entry).phase t)
      else UInt32.ofInt ((((m.mGameEvent entry).occurence * MINUTE).toNat : ℤ) -
        (m.mGameEvent entry).phase t))
    rw [delayInEvent, hdelay]
    split
    · next hcut => exact toNat_ofInt (by omega) (by omega)
    · exact hdelay

theorem Normal.polledAt_iff (h : Normal (m.mGameEvent entry))
    (ht : t ≤ (m.mGameEvent entry).endTime) (hfar : (m.mGameEvent entry).start - t < 2 ^ 32) :
    m.PolledAt entry t ↔ h.recurring.Polls t := by
  have hvalue (s s' : ℤ) : m.checkOneGameEvent entry s = m.checkOneGameEvent entry s' ↔
      (h.recurring.Open s ↔ h.recurring.Open s') := by
    rw [← h.checkOneGameEvent, ← h.checkOneGameEvent, Bool.eq_iff_iff]
  simp only [PolledAt, Recurring.Polls, h.nextCheck ht hfar, hvalue, ne_eq]

end Normal

/-- **Which switches the server sees.**  A normal event is checked again in time from every second
that is not its start or before a window of a single second, and from no other; and a server that
looks again and again in time, only at such seconds, sees every activation and deactivation. -/
theorem nextCheck_polls (m : GameEventMgr) (entry : UInt16) (h : Normal (m.mGameEvent entry)) :
    (∀ t, t ≤ (m.mGameEvent entry).endTime → (m.mGameEvent entry).start - t < 2 ^ 32 →
      (m.PolledAt entry t ↔ Unclipped (m.mGameEvent entry) t)) ∧
    ∀ polls : ℕ → ℤ, (m.mGameEvent entry).start - polls 0 < 2 ^ 32 →
      (∀ k, polls k < polls (k + 1)) →
      (∀ k, polls k ≤ (m.mGameEvent entry).endTime →
        polls (k + 1) ≤ polls k + (m.nextCheck entry (polls k)).toNat + 1) →
      (∀ k, polls k ≤ (m.mGameEvent entry).endTime → Unclipped (m.mGameEvent entry) (polls k)) →
      ∀ s, polls 0 < s → m.checkOneGameEvent entry (s - 1) ≠ m.checkOneGameEvent entry s →
        ∃ k, polls k < s ∧ s ≤ polls (k + 1) ∧
          m.checkOneGameEvent entry (polls k) = m.checkOneGameEvent entry (s - 1) ∧
          m.checkOneGameEvent entry (polls (k + 1)) = m.checkOneGameEvent entry s := by
  have hvalue (s s' : ℤ) : m.checkOneGameEvent entry s = m.checkOneGameEvent entry s' ↔
      (h.recurring.Open s ↔ h.recurring.Open s') := by
    rw [← h.checkOneGameEvent, ← h.checkOneGameEvent, Bool.eq_iff_iff]
  refine ⟨fun t ht hfar => (h.polledAt_iff ht hfar).trans (h.recurring.polls_iff ht), ?_⟩
  intro polls hfar hmono hwait hunclipped s hs hswitch
  have hlater (k : ℕ) : polls 0 ≤ polls k := by
    induction k with
    | zero => exact le_refl _
    | succ k ih => exact ih.trans (hmono k).le
  simp only [hvalue, ne_eq] at hswitch ⊢
  refine h.recurring.exists_poll hmono (fun k hk => ?_) hunclipped hs hswitch
  have hfark := hlater k
  rw [← h.nextCheck hk (by omega)]
  exact hwait k hk

def everyTwoMinutes : GameEventMgr where
  mGameEvent _ :=
    { start := 1000, endTime := 10000, nextstart := 0, occurence := 2, length := 1,
      state := GAMEEVENT_NORMAL, prerequisite_events := [] }

theorem everyTwoMinutes_polls :
    (everyTwoMinutes.PolledAt 1 1001 ↔ Unclipped (everyTwoMinutes.mGameEvent 1) 1001) ∧
      Unclipped (everyTwoMinutes.mGameEvent 1) 1001 := by
  have hnormal : Normal (everyTwoMinutes.mGameEvent 1) :=
    ⟨rfl, by decide, by decide, by decide, by decide⟩
  exact ⟨(nextCheck_polls everyTwoMinutes 1 hnormal).1 1001 (by decide) (by decide), by decide⟩

/-- At its start the event is off and is to be checked in a minute; a second later it is on. -/
theorem everyTwoMinutes_missed :
    everyTwoMinutes.checkOneGameEvent 1 1000 = false ∧
      everyTwoMinutes.nextCheck 1 1000 = 60 ∧
      everyTwoMinutes.checkOneGameEvent 1 1001 = true ∧
      everyTwoMinutes.checkOneGameEvent 1 (1000 + 60 + 1) = false := by
  decide

end GameEventMgr

end FunPvp.Events
