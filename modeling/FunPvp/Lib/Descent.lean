/-
# Calls along references

A function that calls itself for whatever its argument refers to comes to an end if and only if no
circle of references can be reached from the argument: outside of circles the references descend by
a rank (`exists_rank_of_not_circles`), and from an argument that leads into a circle they go on to
another one that does (`Circles.step`).

The calls are made from loops, whose rounds have no result if a call has none. What is needed of
such a loop, beside the rules of `Lib/Loop.lean`, is that it keeps the result its rounds keep, has
none if one of its rounds never has one, and goes where its rounds go.
-/
import FunPvp.Lib.Ancestry
import FunPvp.Lib.Loop

namespace FunPvp.Lib

open Relation

/-! ## 1. Circles -/

section Circles

variable {α : Type*} {r : α → α → Prop} {a b : α}

def Circles (r : α → α → Prop) (a : α) : Prop := ∃ b, ReflTransGen r a b ∧ TransGen r b b

theorem Circles.of_step (h : Circles r b) (hab : r a b) : Circles r a := by
  obtain ⟨c, hpath, hcircle⟩ := h
  exact ⟨c, hpath.head hab, hcircle⟩

theorem Circles.step (h : Circles r a) : ∃ b, r a b ∧ Circles r b := by
  obtain ⟨c, hpath, hcircle⟩ := h
  rcases ReflTransGen.cases_head hpath with rfl | ⟨b, hab, hbc⟩
  · obtain ⟨b, hab, hback⟩ := TransGen.head'_iff.mp hcircle
    exact ⟨b, hab, a, hback, hcircle⟩
  · exact ⟨b, hab, c, hbc, hcircle⟩

theorem exists_rank_of_not_circles [Fintype α] (r : α → α → Prop) :
    ∃ rank : α → ℕ, ∀ a b, ¬Circles r a → r a b → rank b < rank a := by
  have hacyclic : Acyclic fun b a => r a b ∧ ¬Circles r a := by
    intro a ha
    obtain ⟨b, -, -, hnot⟩ := TransGen.tail'_iff.mp ha
    exact hnot ⟨a, .refl, transGen_swap.mp (TransGen.mono (fun _ _ h => h.1) a a ha)⟩
  obtain ⟨rank, -, hrank⟩ := hacyclic.exists_rank (s := Finset.univ) fun a _ _ => Finset.mem_univ a
  exact ⟨rank, fun a b hnot hab => hrank b a ⟨hab, hnot⟩⟩

end Circles

/-! ## 2. Loops of calls -/

section Loops

variable {σ α : Type*} {body body' : σ → α → Option σ} {l : List α} {s s' : σ}

theorem foldlM_mono (hbody : ∀ a ∈ l, ∀ s s', body s a = some s' → body' s a = some s')
    (h : l.foldlM body s = some s') : l.foldlM body' s = some s' := by
  induction l generalizing s with
  | nil => exact h
  | cons a l ih =>
    rw [List.foldlM_cons] at h ⊢
    obtain ⟨s₁, hs₁, hrest⟩ := Option.bind_eq_some_iff.mp h
    rw [hbody a List.mem_cons_self s s₁ hs₁]
    exact ih (fun b hb => hbody b (List.mem_cons_of_mem a hb)) hrest

theorem foldlM_eq_none {a : α} (ha : a ∈ l) (hbody : ∀ s, body s a = none) :
    l.foldlM body s = none := by
  induction l generalizing s with
  | nil => cases ha
  | cons b l ih =>
    rw [List.foldlM_cons]
    rcases List.mem_cons.mp ha with rfl | ha
    · rw [hbody s]
      rfl
    · cases body s b with
      | none => rfl
      | some s₁ => exact ih ha

theorem foldlM_reach {P : σ → σ → Prop}
    (hbody : ∀ a ∈ l, ∀ s s', body s a = some s' → ReflTransGen P s s')
    (h : l.foldlM body s = some s') : ReflTransGen P s s' := by
  induction l generalizing s with
  | nil =>
    obtain rfl : s = s' := Option.some.inj h
    exact .refl
  | cons a l ih =>
    rw [List.foldlM_cons] at h
    obtain ⟨s₁, hs₁, hrest⟩ := Option.bind_eq_some_iff.mp h
    exact (hbody a List.mem_cons_self s s₁ hs₁).trans
      (ih (fun b hb => hbody b (List.mem_cons_of_mem a hb)) hrest)

end Loops

end FunPvp.Lib
