/-
# Lists joined by a separator

Words without the separator, joined by it, can be told apart again (`intercalate_inj`), and
counted by the separators (`count_intercalate`). A word without the separator that occurs in the
joined list occurs in one of the words (`infix_intercalate`), though it need not be one of them.
-/
import Mathlib

namespace FunPvp.Lib

variable {α : Type*} {sep : α} {word : List α} {words words' : List (List α)}

theorem infix_append_cons_iff {l₁ l₂ : List α} (hne : word ≠ []) (hsep : sep ∉ word) :
    word <:+: l₁ ++ sep :: l₂ ↔ word <:+: l₁ ∨ word <:+: l₂ := by
  rw [List.infix_append_iff_ne_nil]
  constructor
  · rintro (h | h | ⟨a, b, -, hb, rfl, -, hprefix⟩)
    · exact Or.inl h
    · rcases List.infix_cons_iff.mp h with h | h
      · obtain ⟨x, word, rfl⟩ := List.exists_cons_of_ne_nil hne
        obtain ⟨rfl, -⟩ := List.cons_prefix_cons.mp h
        exact absurd List.mem_cons_self hsep
      · exact Or.inr h
    · obtain ⟨x, b, rfl⟩ := List.exists_cons_of_ne_nil hb
      obtain ⟨rfl, -⟩ := List.cons_prefix_cons.mp hprefix
      exact absurd (List.mem_append_right a List.mem_cons_self) hsep
  · rintro (h | h)
    · exact Or.inl h
    · exact Or.inr (Or.inl (List.infix_cons h))

/-- **A word that occurs in the joined list occurs in one of the words.** -/
theorem infix_intercalate (hne : word ≠ []) (hsep : sep ∉ word) :
    word <:+: [sep].intercalate words ↔ ∃ w ∈ words, word <:+: w := by
  induction words with
  | nil => simp [hne]
  | cons w words ih =>
    cases words with
    | nil => simp
    | cons w' words =>
      rw [List.intercalate_cons_cons, List.append_assoc, List.singleton_append,
        infix_append_cons_iff hne hsep, ih]
      exact (List.exists_mem_cons_iff _ w (w' :: words)).symm

theorem count_intercalate [DecidableEq α] (hne : words ≠ []) (h : ∀ w ∈ words, sep ∉ w) :
    ([sep].intercalate words).count sep + 1 = words.length := by
  induction words with
  | nil => exact absurd rfl hne
  | cons w words ih =>
    have hw : w.count sep = 0 := List.count_eq_zero.mpr (h w List.mem_cons_self)
    cases words with
    | nil => simp [hw]
    | cons w' words =>
      have hrest := ih (List.cons_ne_nil _ _) fun v hv => h v (List.mem_cons_of_mem w hv)
      rw [List.intercalate_cons_cons, List.count_append, List.count_append, hw,
        List.count_singleton_self, List.length_cons, ← hrest]
      omega

/-- **The joined list determines the words**, unless one list is empty and the other is the empty
word alone. -/
theorem intercalate_inj [DecidableEq α] (hne : words ≠ []) (hne' : words' ≠ [])
    (h : ∀ w ∈ words, sep ∉ w) (h' : ∀ w ∈ words', sep ∉ w)
    (heq : [sep].intercalate words = [sep].intercalate words') : words = words' := by
  rw [← List.splitOn_intercalate sep h hne, heq, List.splitOn_intercalate sep h' hne']

end FunPvp.Lib
