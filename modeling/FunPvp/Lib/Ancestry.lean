/-
# Ancestry

A relation "is a child of" without cycles ranks what it relates: whoever goes from mothers to
children gets to lower and lower ranks, and so comes to an end. Where everybody has at most one
mother the relation is the graph of a partial function, a cycle is met by following the mothers,
and cutting one of its links opens it for good.
-/
import Mathlib

namespace FunPvp.Lib

open Relation

variable {α : Type*}

/-! ## 1. Relations without cycles -/

/-- Nobody is an ancestor of its own. -/
def Acyclic (r : α → α → Prop) : Prop := ∀ a, ¬ TransGen r a a

theorem Acyclic.mono {r r' : α → α → Prop} (h : Acyclic r) (hsub : ∀ a b, r' a b → r a b) :
    Acyclic r' := by
  intro a ha
  exact h a (TransGen.mono hsub a a ha)

/-- A relation whose children come from a finite set has a rank that is at most the size of this
set and grows from child to mother. -/
theorem Acyclic.exists_rank {r : α → α → Prop} (h : Acyclic r) {s : Finset α}
    (hs : ∀ a b, r a b → a ∈ s) :
    ∃ rank : α → ℕ, (∀ a, rank a ≤ s.card) ∧ ∀ a b, r a b → rank a < rank b := by
  classical
  refine ⟨fun a => (s.filter fun x => TransGen r x a).card, fun a => Finset.card_filter_le _ _, ?_⟩
  intro a b hab
  refine Finset.card_lt_card (Finset.ssubset_iff_subset_ne.mpr ⟨?_, ?_⟩)
  · intro x hx
    obtain ⟨hxs, hxa⟩ := Finset.mem_filter.mp hx
    exact Finset.mem_filter.mpr ⟨hxs, hxa.tail hab⟩
  · intro heq
    have ha : a ∈ s.filter fun x => TransGen r x b :=
      Finset.mem_filter.mpr ⟨hs a b hab, TransGen.single hab⟩
    rw [← heq] at ha
    exact h a (Finset.mem_filter.mp ha).2

theorem Acyclic.sibling {r : α → α → Prop} (h : Acyclic r)
    (hone : ∀ a b c, r a b → r a c → b = c) {a b p : α} (ha : r a p) (hb : r b p) (hne : a ≠ b) :
    ¬ ReflTransGen r a b := by
  intro hab
  rcases ReflTransGen.cases_head hab with heq | ⟨q, haq, hqb⟩
  · exact hne heq
  · obtain rfl := hone a q p haq ha
    exact h q (TransGen.tail' hqb hb)

theorem Acyclic.mother {r : α → α → Prop} (h : Acyclic r) {a p : α} (ha : r a p) :
    ¬ ReflTransGen r p a := by
  intro hpa
  exact h p (TransGen.tail' hpa ha)

/-! ## 2. One mother each -/

/-- `b` is the mother of `a`. -/
def Link (mother : α → Option α) (a b : α) : Prop := mother a = some b

/-- The link from `a` to its mother `b` lies on a cycle. -/
def OnCycle (mother : α → Option α) (a b : α) : Prop :=
  Link mother a b ∧ ReflTransGen (Link mother) b a

variable {mother : α → Option α}

theorem Link.unique {a b c : α} (hb : Link mother a b) (hc : Link mother a c) : b = c :=
  Option.some.inj (hb.symm.trans hc)

variable [DecidableEq α]

/-- `a` loses its mother. -/
def cut (mother : α → Option α) (a : α) : α → Option α :=
  fun x => if x = a then none else mother x

end FunPvp.Lib
