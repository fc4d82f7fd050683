/-
# Half-open boxes and discs

Which boxes `[lo, hi) × [lo', hi')` have a point within a distance of a given one. On each axis the
box is some way off (`gap`); the way is gone exactly where the point lies below the upper end, and
can only be approached where it does not, since that end is not in the box.
-/
import Mathlib

namespace FunPvp.Lib

variable {K : Type*} [Field K] [LinearOrder K] [IsStrictOrderedRing K]

/-- How far `p` is from `[lo, hi)`. -/
def gap (lo hi p : K) : K := if p < lo then lo - p else if p < hi then 0 else p - hi

variable {lo hi lo' hi' p p' q r t : K}

theorem gap_nonneg : 0 ≤ gap lo hi p := by
  unfold gap
  split_ifs with h h'
  · exact (sub_pos.mpr h).le
  · exact le_rfl
  · exact sub_nonneg.mpr (not_lt.mp h')

theorem gap_le_abs (hlo : lo ≤ q) (hhi : q < hi) : gap lo hi p ≤ |q - p| := by
  unfold gap
  split_ifs with h h'
  · exact (sub_le_sub_right hlo p).trans (le_abs_self _)
  · exact abs_nonneg _
  · rw [abs_sub_comm]
    exact (sub_le_sub_left hhi.le p).trans (le_abs_self _)

theorem gap_lt_abs (hhi : q < hi) (h : hi ≤ p) (hle : lo ≤ hi) : gap lo hi p < |q - p| := by
  unfold gap
  rw [if_neg (not_lt.mpr (hle.trans h)), if_neg (not_lt.mpr h), abs_sub_comm]
  exact (sub_lt_sub_left hhi p).trans_le (le_abs_self _)

theorem exists_abs_eq_gap (hne : lo < hi) (h : p < hi) :
    ∃ q, lo ≤ q ∧ q < hi ∧ |q - p| = gap lo hi p := by
  unfold gap
  by_cases hp : p < lo
  · exact ⟨lo, le_rfl, hne, by rw [if_pos hp, abs_of_pos (sub_pos.mpr hp)]⟩
  · exact ⟨p, not_lt.mp hp, h, by rw [if_neg hp, if_pos h, sub_self, abs_zero]⟩

theorem exists_abs_le_gap_add (hne : lo < hi) (ht : 0 < t) :
    ∃ q, lo ≤ q ∧ q < hi ∧ |q - p| ≤ gap lo hi p + t := by
  by_cases h : p < hi
  · obtain ⟨q, hlo, hhi, hq⟩ := exists_abs_eq_gap hne h
    exact ⟨q, hlo, hhi, by rw [hq]; exact le_add_of_nonneg_right ht.le⟩
  · have hp := not_lt.mp h
    refine ⟨max lo (hi - t), le_max_left _ _, max_lt hne (sub_lt_self hi ht), ?_⟩
    have hle : max lo (hi - t) ≤ p := max_le (hne.le.trans hp) ((sub_lt_self hi ht).le.trans hp)
    unfold gap
    rw [if_neg (not_lt.mpr (hne.le.trans hp)), if_neg h, abs_sub_comm,
      abs_of_nonneg (sub_nonneg.mpr hle)]
    have := le_max_right lo (hi - t)
    linarith

/-- The box comes within `r` of the point. -/
def BoxReaches (lo hi lo' hi' p p' r : K) : Prop :=
  gap lo hi p ^ 2 + gap lo' hi' p' ^ 2 < r ^ 2 ∨
    gap lo hi p ^ 2 + gap lo' hi' p' ^ 2 = r ^ 2 ∧ p < hi ∧ p' < hi'

theorem sq_le_sq_of_le_abs {a b : K} (h : a ≤ |b|) (ha : 0 ≤ a) :
    a ^ 2 ≤ b ^ 2 := by
  rw [← sq_abs b]
  exact pow_le_pow_left₀ ha h 2

theorem exists_pos_add_sq_le {a b c : K} (ha : 0 ≤ a) (hb : 0 ≤ b) (h : a ^ 2 + b ^ 2 < c) :
    ∃ t, 0 < t ∧ (a + t) ^ 2 + (b + t) ^ 2 ≤ c := by
  have hpos : 0 < 2 * (a + b) + 2 := by linarith
  refine ⟨min 1 ((c - (a ^ 2 + b ^ 2)) / (2 * (a + b) + 2)), ?_, ?_⟩
  · exact lt_min one_pos (div_pos (sub_pos.mpr h) hpos)
  · set t := min 1 ((c - (a ^ 2 + b ^ 2)) / (2 * (a + b) + 2)) with ht
    have h0 : 0 ≤ t := le_min zero_le_one (div_pos (sub_pos.mpr h) hpos).le
    have h1 : t ≤ 1 := min_le_left _ _
    have hle : t * (2 * (a + b) + 2) ≤ c - (a ^ 2 + b ^ 2) :=
      (le_div_iff₀ hpos).mp (min_le_right _ _)
    nlinarith [mul_le_mul_of_nonneg_left h1 h0]

theorem exists_mem_box_iff (hne : lo < hi) (hne' : lo' < hi') :
    (∃ q q', (lo ≤ q ∧ q < hi) ∧ (lo' ≤ q' ∧ q' < hi') ∧ (q - p) ^ 2 + (q' - p') ^ 2 ≤ r ^ 2) ↔
      BoxReaches lo hi lo' hi' p p' r := by
  constructor
  · rintro ⟨q, q', ⟨hlo, hhi⟩, ⟨hlo', hhi'⟩, hr⟩
    have hx := sq_le_sq_of_le_abs (gap_le_abs (p := p) hlo hhi) gap_nonneg
    have hy := sq_le_sq_of_le_abs (gap_le_abs (p := p') hlo' hhi') gap_nonneg
    rcases (add_le_add hx hy |>.trans hr).lt_or_eq with hlt | heq
    · exact Or.inl hlt
    · refine Or.inr ⟨heq, ?_, ?_⟩
      · by_contra hp
        have hgap := gap_lt_abs (p := p) hhi (not_lt.mp hp) hne.le
        have hsq := pow_lt_pow_left₀ hgap gap_nonneg two_ne_zero
        rw [sq_abs] at hsq
        linarith
      · by_contra hp
        have hgap := gap_lt_abs (p := p') hhi' (not_lt.mp hp) hne'.le
        have hsq := pow_lt_pow_left₀ hgap gap_nonneg two_ne_zero
        rw [sq_abs] at hsq
        linarith
  · rintro (hlt | ⟨heq, hp, hp'⟩)
    · obtain ⟨t, ht, hle⟩ := exists_pos_add_sq_le gap_nonneg gap_nonneg hlt
      obtain ⟨q, hlo, hhi, hq⟩ := exists_abs_le_gap_add (p := p) hne ht
      obtain ⟨q', hlo', hhi', hq'⟩ := exists_abs_le_gap_add (p := p') hne' ht
      refine ⟨q, q', ⟨hlo, hhi⟩, ⟨hlo', hhi'⟩, le_trans (add_le_add ?_ ?_) hle⟩
      · rw [← sq_abs]
        exact pow_le_pow_left₀ (abs_nonneg _) hq 2
      · rw [← sq_abs]
        exact pow_le_pow_left₀ (abs_nonneg _) hq' 2
    · obtain ⟨q, hlo, hhi, hq⟩ := exists_abs_eq_gap hne hp
      obtain ⟨q', hlo', hhi', hq'⟩ := exists_abs_eq_gap hne' hp'
      refine ⟨q, q', ⟨hlo, hhi⟩, ⟨hlo', hhi'⟩, le_of_eq ?_⟩
      rw [← sq_abs (q - p), ← sq_abs (q' - p'), hq, hq', heq]

end FunPvp.Lib
