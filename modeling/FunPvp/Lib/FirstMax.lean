/-
# The first of the highest

Walking over a list and keeping the best element so far, replaced only by a strictly better one,
ends with the first of those with the highest value (`foldl_keepMax`).
-/
import Mathlib

namespace FunPvp.Lib

variable {α β : Type*} [LinearOrder β] (f : α → β)

/-- The best so far, and the next element. -/
def keepMax : Option α → α → Option α
  | none, a => some a
  | some b, a => if f b < f a then some a else some b

/-- `a` has the highest value of the list, and everybody before it has a lower one. -/
def FirstMax (l : List α) (a : α) : Prop :=
  ∃ l₁ l₂, l = l₁ ++ a :: l₂ ∧ (∀ b ∈ l₁, f b < f a) ∧ ∀ b ∈ l₂, f b ≤ f a

section FirstMax

variable {f} {l : List α} {a b c : α}

theorem FirstMax.mem (h : FirstMax f l a) : a ∈ l := by
  obtain ⟨l₁, l₂, rfl, -, -⟩ := h
  simp

theorem FirstMax.le (h : FirstMax f l a) (hb : b ∈ l) : f b ≤ f a := by
  obtain ⟨l₁, l₂, rfl, hbefore, hafter⟩ := h
  rcases List.mem_append.mp hb with hb | hb
  · exact le_of_lt (hbefore b hb)
  · rcases List.mem_cons.mp hb with rfl | hb
    · exact le_rfl
    · exact hafter b hb

theorem FirstMax.unique (h : FirstMax f l a) (h' : FirstMax f l b) : a = b := by
  obtain ⟨l₁, l₂, hl, hbefore, hafter⟩ := h
  obtain ⟨m₁, m₂, hm, hbefore', hafter'⟩ := h'
  rw [hl] at hm
  rcases List.append_eq_append_iff.mp hm with ⟨k, rfl, hk⟩ | ⟨k, rfl, hk⟩
  · cases k with
    | nil => exact (List.cons.inj hk).1
    | cons x k =>
      obtain ⟨rfl, rfl⟩ := List.cons.inj hk
      have hlt := hbefore' a (by simp)
      have hle := hafter b (by simp)
      exact absurd hlt (not_lt.mpr hle)
  · cases k with
    | nil => exact (List.cons.inj hk).1.symm
    | cons x k =>
      obtain ⟨rfl, rfl⟩ := List.cons.inj hk
      have hlt := hbefore b (by simp)
      have hle := hafter' a (by simp)
      exact absurd hlt (not_lt.mpr hle)

/-- **The first of the highest has a property exactly when every element without it is beaten** by
one that has it: by a higher one, or by one as high and earlier. -/
theorem FirstMax.iff_beaten [DecidableEq α] (h : FirstMax f l a) (P : α → Prop) :
    P a ↔ ∀ b ∈ l, ¬ P b → ∃ c ∈ l, P c ∧ (f b < f c ∨ f b = f c ∧ l.idxOf c < l.idxOf b) := by
  constructor
  · intro ha b hb hnot
    refine ⟨a, h.mem, ha, ?_⟩
    rcases lt_or_eq_of_le (h.le hb) with hlt | heq
    · exact Or.inl hlt
    · refine Or.inr ⟨heq, ?_⟩
      obtain ⟨l₁, l₂, rfl, hbefore, -⟩ := h
      have hb₁ : b ∉ l₁ := fun hmem => (hbefore b hmem).ne heq
      have ha₁ : a ∉ l₁ := fun hmem => lt_irrefl _ (hbefore a hmem)
      have hne : a ≠ b := fun hab => hnot (hab ▸ ha)
      rw [List.idxOf_append_of_notMem ha₁, List.idxOf_append_of_notMem hb₁, List.idxOf_cons_self,
        List.idxOf_cons_ne _ hne]
      omega
  · intro hbeaten
    by_contra ha
    obtain ⟨c, hc, hPc, hlt | ⟨heq, hlt⟩⟩ := hbeaten a h.mem ha
    · exact not_lt.mpr (h.le hc) hlt
    · obtain ⟨l₁, l₂, rfl, hbefore, -⟩ := h
      have ha₁ : a ∉ l₁ := fun hmem => lt_irrefl _ (hbefore a hmem)
      have hc₁ : c ∉ l₁ := fun hmem => (hbefore c hmem).ne heq.symm
      rw [List.idxOf_append_of_notMem ha₁, List.idxOf_append_of_notMem hc₁,
        List.idxOf_cons_self] at hlt
      omega

theorem FirstMax.cons_of_lt (h : FirstMax f (c :: l) a) (hbc : f b < f c) :
    FirstMax f (b :: c :: l) a := by
  have hc := h.le List.mem_cons_self
  obtain ⟨l₁, l₂, hl, hbefore, hafter⟩ := h
  refine ⟨b :: l₁, l₂, by rw [hl]; rfl, fun x hx => ?_, hafter⟩
  rcases List.mem_cons.mp hx with rfl | hx
  · exact lt_of_lt_of_le hbc hc
  · exact hbefore x hx

theorem FirstMax.insert_of_le (h : FirstMax f (b :: l) a) (hcb : f c ≤ f b) :
    FirstMax f (b :: c :: l) a := by
  obtain ⟨l₁, l₂, hl, hbefore, hafter⟩ := h
  cases l₁ with
  | nil =>
    obtain ⟨rfl, rfl⟩ := List.cons.inj hl
    refine ⟨[], c :: l, rfl, by simp, fun x hx => ?_⟩
    rcases List.mem_cons.mp hx with rfl | hx
    · exact hcb
    · exact hafter x hx
  | cons x l₁ =>
    obtain ⟨rfl, rfl⟩ := List.cons.inj hl
    have hb := hbefore b List.mem_cons_self
    refine ⟨b :: c :: l₁, l₂, rfl, fun x hx => ?_, hafter⟩
    rcases List.mem_cons.mp hx with rfl | hx
    · exact hb
    rcases List.mem_cons.mp hx with rfl | hx
    · exact lt_of_le_of_lt hcb hb
    · exact hbefore x (List.mem_cons_of_mem _ hx)

theorem foldl_keepMax_some (l : List α) (b : α) :
    ∃ a, l.foldl (keepMax f) (some b) = some a ∧ FirstMax f (b :: l) a := by
  induction l generalizing b with
  | nil => exact ⟨b, rfl, [], [], rfl, by simp, by simp⟩
  | cons c l ih =>
    rw [List.foldl_cons, keepMax]
    by_cases hlt : f b < f c
    · rw [if_pos hlt]
      obtain ⟨a, heq, hmax⟩ := ih c
      exact ⟨a, heq, hmax.cons_of_lt hlt⟩
    · rw [if_neg hlt]
      obtain ⟨a, heq, hmax⟩ := ih b
      exact ⟨a, heq, hmax.insert_of_le (not_lt.mp hlt)⟩

/-- **The walk ends with the first of the highest**, if there is anybody. -/
theorem foldl_keepMax (l : List α) :
    (l = [] ∧ l.foldl (keepMax f) none = none) ∨
      ∃ a, l.foldl (keepMax f) none = some a ∧ FirstMax f l a := by
  cases l with
  | nil => exact Or.inl ⟨rfl, rfl⟩
  | cons b l => exact Or.inr (foldl_keepMax_some l b)

end FirstMax

end FunPvp.Lib
