/-
# Windows that come back

Between a start and an end a window opens once in every period: it is `Open` after the start and
before the end, while the phase is less than the length of the window. `wait` is how long somebody
who looks at a time should wait for the next switch: to the start, to the end of the window, or to
the beginning of the next one, but not beyond the end.

The start itself does not count as open although its phase is 0, and the wait from there goes to the
end of the window. `polls_iff` says for which times the wait is right: until then nothing switches,
and a second later the window shows what it has switched to. `exists_poll` is what follows for
somebody who looks again and again.
-/
import Mathlib

namespace FunPvp.Lib

/-- A window that comes back, of more than a second, and with more than a second between two of
them. -/
structure Recurring where
  start : ℤ
  stop : ℤ
  period : ℤ
  window : ℤ
  one_lt_window : 1 < window
  window_lt : window + 1 < period

namespace Recurring

variable (r : Recurring) {t s p i : ℤ}

def phase (t : ℤ) : ℤ := (t - r.start) % r.period

def Open (t : ℤ) : Prop := r.start < t ∧ t < r.stop ∧ r.phase t < r.window

/-- The rest of the window or, between two windows, of the period. -/
def delay (t : ℤ) : ℤ :=
  if r.phase t < r.window then r.window - r.phase t else r.period - r.phase t

/-- How long to wait at a time that is not after the end. -/
def wait (t : ℤ) : ℤ :=
  if t < r.start then r.start - t
  else if r.stop < t + r.delay t then r.stop - t else r.delay t

/-- Nothing switches before the wait is over, and whoever looks again until a second later sees
every switch: the window has been and is now what it is before and after it. -/
def Polls (t : ℤ) : Prop :=
  (∀ s, t ≤ s → s < t + r.wait t → (r.Open s ↔ r.Open t)) ∧
    ∀ p s, t < s → s ≤ p → p ≤ t + r.wait t + 1 → ¬(r.Open (s - 1) ↔ r.Open s) →
      (r.Open t ↔ r.Open (s - 1)) ∧ (r.Open p ↔ r.Open s)

/-- The time is not the start, unless the end is a second later, nor between two windows of which
the second is cut to one second by the end. -/
def Regular (t : ℤ) : Prop :=
  ¬(t = r.start ∧ r.start + 1 < r.stop) ∧
    ¬(r.start < t ∧ r.window ≤ r.phase t ∧ t + (r.period - r.phase t) + 1 = r.stop)

/-! ## 1. Phases -/

theorem phase_nonneg (t : ℤ) : 0 ≤ r.phase t :=
  Int.emod_nonneg _ (by have := r.one_lt_window; have := r.window_lt; omega)

theorem phase_lt (t : ℤ) : r.phase t < r.period :=
  Int.emod_lt_of_pos _ (by have := r.one_lt_window; have := r.window_lt; omega)

theorem phase_start : r.phase r.start = 0 := by
  rw [phase, sub_self, Int.zero_emod]

theorem phase_add (t i : ℤ) : r.phase (t + i) = (r.phase t + i) % r.period := by
  rw [phase, phase, Int.emod_add_emod, add_sub_right_comm]

theorem phase_add_of_lt (hi : 0 ≤ i) (h : r.phase t + i < r.period) :
    r.phase (t + i) = r.phase t + i := by
  have := r.phase_nonneg t
  rw [phase_add, Int.emod_eq_of_lt (by omega) h]

theorem phase_add_period : r.phase (t + (r.period - r.phase t)) = 0 := by
  rw [phase_add, add_sub_cancel, Int.emod_self]

theorem phase_add_period_succ : r.phase (t + (r.period - r.phase t) + 1) = 1 := by
  have := r.one_lt_window
  have := r.window_lt
  rw [phase_add, phase_add_period, zero_add, Int.emod_eq_of_lt (by omega) (by omega)]

theorem delay_le (t : ℤ) : r.phase t + r.delay t ≤ r.period := by
  have := r.window_lt
  rw [delay]
  split <;> omega

theorem open_add_period (hstart : r.start ≤ t) (hstop : t + (r.period - r.phase t) < r.stop) :
    r.Open (t + (r.period - r.phase t)) := by
  have hlt := r.phase_lt t
  have hwindow := r.one_lt_window
  refine ⟨by omega, hstop, ?_⟩
  rw [phase_add_period]
  omega

/-! ## 2. One wait -/

theorem wait_of_start_le (hstart : r.start ≤ t) :
    r.wait t = r.stop - t ∧ r.stop < t + r.delay t ∨
      r.wait t = r.delay t ∧ t + r.delay t ≤ r.stop := by
  rw [wait, if_neg (not_lt.mpr hstart)]
  split
  · next h => exact Or.inl ⟨rfl, h⟩
  · next h => exact Or.inr ⟨rfl, not_lt.mp h⟩

theorem open_iff_of_lt_wait (hregular : r.Regular t) (hts : t ≤ s) (hs : s < t + r.wait t) :
    r.Open s ↔ r.Open t := by
  by_cases hstart : t < r.start
  · rw [wait, if_pos hstart] at hs
    exact iff_of_false (fun h => absurd h.1 (by omega)) (fun h => absurd h.1 (by omega))
  have hwait := r.wait_of_start_le (not_lt.mp hstart)
  have hdelay := r.delay_le t
  obtain ⟨i, rfl⟩ : ∃ i, s = t + i := ⟨s - t, by omega⟩
  have hphase : r.phase (t + i) = r.phase t + i := r.phase_add_of_lt (by omega) (by omega)
  by_cases hopen : r.phase t < r.window
  · have hrest : r.delay t = r.window - r.phase t := if_pos hopen
    by_cases heq : t = r.start
    · -- the end is a second after the start
      have hi : i = 0 := by
        have hstop : ¬r.start + 1 < r.stop := fun h => hregular.1 ⟨heq, h⟩
        omega
      rw [hi, add_zero]
    · exact iff_of_true ⟨by omega, by omega, by omega⟩ ⟨by omega, by omega, hopen⟩
  · exact iff_of_false (fun h => absurd h.2.2 (by omega)) fun h => hopen h.2.2

theorem open_iff_add_wait (hregular : r.Regular t) :
    (r.Open (t + r.wait t) ↔ r.Open t) ∨ (r.Open (t + r.wait t) ↔ r.Open (t + r.wait t + 1)) := by
  by_cases hstart : t < r.start
  · rw [wait, if_pos hstart, add_sub_cancel]
    exact Or.inl (iff_of_false (fun h => absurd h.1 (lt_irrefl _)) fun h => absurd h.1 (by omega))
  rw [not_lt] at hstart
  refine Or.inr ?_
  rcases r.wait_of_start_le hstart with ⟨hwait, -⟩ | ⟨hwait, hstop⟩
  · exact iff_of_false (fun h => absurd h.2.1 (by omega)) fun h => absurd h.2.1 (by omega)
  have hnonneg := r.phase_nonneg t
  have hwindow := r.one_lt_window
  have hlt := r.window_lt
  rw [hwait]
  by_cases hopen : r.phase t < r.window
  · -- the window ends
    have hdelay : r.delay t = r.window - r.phase t := if_pos hopen
    have hend : r.phase (t + r.delay t) = r.window := by
      rw [r.phase_add_of_lt (by omega) (by omega)]
      omega
    have hafter : r.phase (t + (r.delay t + 1)) = r.window + 1 := by
      rw [r.phase_add_of_lt (by omega) (by omega)]
      omega
    rw [← add_assoc] at hafter
    exact iff_of_false (fun h => absurd h.2.2 (by omega)) fun h => absurd h.2.2 (by omega)
  · -- the next window begins
    have hdelay : r.delay t = r.period - r.phase t := if_neg hopen
    rw [hdelay] at hstop ⊢
    have hne : t ≠ r.start := by
      rintro rfl
      rw [phase_start] at hopen
      omega
    have hcut : t + (r.period - r.phase t) + 1 ≠ r.stop := fun h =>
      hregular.2 ⟨by omega, by omega, h⟩
    have hlast := r.phase_lt t
    by_cases hend : t + (r.period - r.phase t) = r.stop
    · exact iff_of_false (fun h => absurd h.2.1 (by omega)) fun h => absurd h.2.1 (by omega)
    · refine iff_of_true (r.open_add_period hstart (by omega)) ⟨by omega, by omega, ?_⟩
      rw [phase_add_period_succ]
      exact hwindow

theorem polls_iff (ht : t ≤ r.stop) : r.Polls t ↔ r.Regular t := by
  have hwindow := r.one_lt_window
  have hlt := r.window_lt
  constructor
  · rintro ⟨hsteady, hcaught⟩
    constructor
    · rintro ⟨rfl, hstop⟩
      have hphase : r.phase (r.start + 1) = 1 := by
        rw [r.phase_add_of_lt (by omega) (by rw [phase_start]; omega), phase_start, zero_add]
      have hwait : 1 < r.wait r.start := by
        have hdelay : r.delay r.start = r.window := by
          rw [delay, phase_start, if_pos (by omega), sub_zero]
        rcases r.wait_of_start_le (le_refl r.start) with ⟨hwait, -⟩ | ⟨hwait, -⟩ <;> omega
      have hopen : r.Open (r.start + 1) := ⟨by omega, hstop, by omega⟩
      exact absurd ((hsteady _ (by omega) (by omega)).mp hopen).1 (lt_irrefl _)
    · rintro ⟨hstart, hgap, hstop⟩
      have hdelay : r.delay t = r.period - r.phase t := if_neg (not_lt.mpr hgap)
      have hwait : r.wait t = r.period - r.phase t := by
        rcases r.wait_of_start_le hstart.le with ⟨hwait, hcut⟩ | ⟨hwait, -⟩ <;> omega
      have hlast := r.phase_lt t
      have hopen := r.open_add_period hstart.le (by omega)
      have hbefore : ¬r.Open (t + (r.period - r.phase t) - 1) := by
        intro h
        have hphase : r.phase (t + (r.period - r.phase t - 1)) = r.period - 1 := by
          rw [r.phase_add_of_lt (by omega) (by omega)]
          omega
        have hclosed := h.2.2
        rw [add_sub_assoc, hphase] at hclosed
        omega
      have hseen := hcaught (t + (r.period - r.phase t) + 1) (t + (r.period - r.phase t)) (by omega)
        (by omega) (by omega) fun h => hbefore (h.mpr hopen)
      exact absurd (hseen.2.mpr hopen).2.1 (by omega)
  · intro hregular
    refine ⟨fun s hts hs => r.open_iff_of_lt_wait hregular hts hs, ?_⟩
    intro p s hts hsp hp hswitch
    have hbefore (s : ℤ) (hts : t ≤ s) (hs : s < t + r.wait t) : r.Open s ↔ r.Open t :=
      r.open_iff_of_lt_wait hregular hts hs
    have hend := r.open_iff_add_wait hregular
    rcases lt_trichotomy s (t + r.wait t) with hs | rfl | hs
    · exact absurd ((hbefore (s - 1) (by omega) (by omega)).trans (hbefore s hts.le hs).symm)
        hswitch
    · have hprev := hbefore (t + r.wait t - 1) (by omega) (by omega)
      refine ⟨hprev.symm, ?_⟩
      rcases (show p = t + r.wait t ∨ p = t + r.wait t + 1 by omega) with rfl | rfl
      · exact Iff.rfl
      · exact (hend.resolve_left fun h => hswitch (hprev.trans h.symm)).symm
    · obtain rfl : s = t + r.wait t + 1 := by omega
      obtain rfl : p = t + r.wait t + 1 := by omega
      rw [add_sub_cancel_right] at hswitch ⊢
      exact ⟨(hend.resolve_right hswitch).symm, Iff.rfl⟩

/-! ## 3. Looking again and again -/

/-- **Somebody who looks again in time sees every switch**, if he never looks at a time that is
waited from wrongly. -/
theorem exists_poll {polls : ℕ → ℤ} (hmono : ∀ k, polls k < polls (k + 1))
    (hwait : ∀ k, polls k ≤ r.stop → polls (k + 1) ≤ polls k + r.wait (polls k) + 1)
    (hregular : ∀ k, polls k ≤ r.stop → r.Regular (polls k)) (hs : polls 0 < s)
    (hswitch : ¬(r.Open (s - 1) ↔ r.Open s)) :
    ∃ k, polls k < s ∧ s ≤ polls (k + 1) ∧ (r.Open (polls k) ↔ r.Open (s - 1)) ∧
      (r.Open (polls (k + 1)) ↔ r.Open s) := by
  have hgrow (k : ℕ) : polls 0 + k ≤ polls k := by
    induction k with
    | zero => simp
    | succ k ih =>
      have := hmono k
      push_cast
      omega
  have hreached : ∃ k, s ≤ polls k := ⟨(s - polls 0).toNat, by
    have := hgrow (s - polls 0).toNat
    omega⟩
  obtain ⟨k, hk⟩ : ∃ k, Nat.find hreached = k + 1 := by
    refine Nat.exists_eq_succ_of_ne_zero fun h => ?_
    have := Nat.find_spec hreached
    rw [h] at this
    omega
  have hbefore : polls k < s := not_le.mp (Nat.find_min hreached (by omega))
  have hafter : s ≤ polls (k + 1) := hk ▸ Nat.find_spec hreached
  refine ⟨k, hbefore, hafter, ?_⟩
  by_cases hstop : polls k ≤ r.stop
  · exact ((r.polls_iff hstop).mpr (hregular k hstop)).2 _ s hbefore hafter (hwait k hstop) hswitch
  · exact absurd (iff_of_false (fun h => absurd h.2.1 (by omega)) fun h => absurd h.2.1 (by omega))
      hswitch

end Recurring

end FunPvp.Lib
