/-
# The lowest free number

A pool hands out numbers above a floor, each time the lowest one that is not in use. Whoever keeps
a cursor on that number only has to move it: past the number that was handed out, to the next free
one above it, and back to a number that is released below it.

A loop finds the next free number among the natural numbers (`firstFree_lowest`) if there is one
within its rounds (`firstFree_isSome`).
-/
import Mathlib.Order.Bounds.Basic
import Mathlib.Order.Interval.Set.Basic
import Mathlib.Data.Set.Insert
import Mathlib.Order.MinMax

namespace FunPvp.Lib

variable {α : Type*} [LinearOrder α]

/-- `n` is the lowest number above `floor` that is not in use. -/
def LowestFree (floor : α) (used : Set α) (n : α) : Prop := IsLeast {m | floor < m ∧ m ∉ used} n

variable {floor n m x : α} {used : Set α}

theorem LowestFree.notMem (h : LowestFree floor used n) : n ∉ used := h.1.2

theorem LowestFree.floor_lt (h : LowestFree floor used n) : floor < n := h.1.1

theorem LowestFree.le (h : LowestFree floor used n) (hm : floor < m) (hfree : m ∉ used) : n ≤ m :=
  h.2 ⟨hm, hfree⟩

theorem LowestFree.insert_self (h : LowestFree floor used n) (hnext : LowestFree n used m) :
    LowestFree floor (insert n used) m := by
  refine ⟨⟨h.floor_lt.trans hnext.floor_lt, ?_⟩, ?_⟩
  · rintro (hm | hm)
    · exact absurd hm hnext.floor_lt.ne'
    · exact hnext.notMem hm
  · rintro k ⟨hk, hfree⟩
    have hkn : k ≠ n := fun hkn => hfree (Or.inl hkn)
    have hku : k ∉ used := fun hku => hfree (Or.inr hku)
    exact hnext.le (lt_of_le_of_ne (h.le hk hku) hkn.symm) hku

theorem LowestFree.insert_of_ne (h : LowestFree floor used n) (hx : x ≠ n) :
    LowestFree floor (insert x used) n := by
  refine ⟨⟨h.floor_lt, ?_⟩, ?_⟩
  · rintro (hn | hn)
    · exact hx hn.symm
    · exact h.notMem hn
  · rintro k ⟨hk, hfree⟩
    exact h.le hk fun hku => hfree (Or.inr hku)

theorem LowestFree.release (h : LowestFree floor used n) (hx : floor < x) :
    LowestFree floor (used \ {x}) (min n x) := by
  refine ⟨⟨lt_min h.floor_lt hx, ?_⟩, ?_⟩
  · rintro ⟨hu, hne⟩
    rcases min_choice n x with hmin | hmin
    · rw [hmin] at hu
      exact h.notMem hu
    · exact hne hmin
  · rintro k ⟨hk, hfree⟩
    by_cases hkx : k = x
    · exact hkx ▸ min_le_right n x
    · exact (min_le_left n x).trans (h.le hk fun hku => hfree ⟨hku, hkx⟩)

theorem lowestFree_succ {n : ℕ} {used : Set ℕ} (h : ∀ m ∈ used, m ≤ n) :
    LowestFree n used (n + 1) :=
  ⟨⟨n.lt_succ_self, fun hmem => absurd (h _ hmem) (Nat.not_succ_le_self n)⟩, fun _ hm => hm.1⟩

/-! ## The search for it -/

/-- The first free number from `i` on, if it is found within that many rounds. -/
def firstFree (free : ℕ → Bool) : ℕ → ℕ → Option ℕ
  | 0, _ => none
  | rounds + 1, i => if free i then some i else firstFree free rounds (i + 1)

section Search

variable {free : ℕ → Bool} {rounds i j k : ℕ}

theorem firstFree_some (h : firstFree free rounds i = some j) :
    i ≤ j ∧ j < i + rounds ∧ free j = true ∧ ∀ k, i ≤ k → k < j → free k = false := by
  induction rounds generalizing i with
  | zero => cases h
  | succ rounds ih =>
    unfold firstFree at h
    split at h
    · next hfree =>
      obtain rfl := Option.some.inj h
      exact ⟨le_rfl, by omega, hfree, fun k hk hlt => absurd hk (by omega)⟩
    · next hused =>
      obtain ⟨hle, hlt, hfree, hall⟩ := ih h
      refine ⟨by omega, by omega, hfree, fun k hk hkj => ?_⟩
      rcases Nat.eq_or_lt_of_le hk with rfl | hk
      · exact Bool.eq_false_iff.mpr hused
      · exact hall k hk hkj

theorem firstFree_isSome (hi : i ≤ k) (hk : k < i + rounds) (hfree : free k = true) :
    ∃ j, firstFree free rounds i = some j := by
  induction rounds generalizing i with
  | zero => omega
  | succ rounds ih =>
    unfold firstFree
    split
    · exact ⟨i, rfl⟩
    · next hused =>
      have hne : i ≠ k := by
        rintro rfl
        exact hused hfree
      exact ih (by omega) (by omega)

/-- **What the loop finds above the cursor is the lowest free number there.** -/
theorem firstFree_lowest {used : Set ℕ} (hfree : ∀ k, free k = true ↔ k ∉ used)
    (h : firstFree free rounds (i + 1) = some j) : LowestFree i used j := by
  obtain ⟨hle, -, hj, hall⟩ := firstFree_some h
  refine ⟨⟨hle, (hfree j).mp hj⟩, ?_⟩
  rintro k ⟨hk, hku⟩
  by_contra hlt
  have hused := hall k hk (not_le.mp hlt)
  rw [(hfree k).mpr hku] at hused
  cases hused

end Search

end FunPvp.Lib
