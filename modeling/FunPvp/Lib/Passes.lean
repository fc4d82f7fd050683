/-
# Searches in passes

A search looks at one thing after another until it has what it wants. As a function into `Except`
it is a chain of passes: each goes on with what it has come to, or ends the whole search, which is
an error.

`Searches C E K m` says that the pass `m` looks at the things of `K`: where what has been looked at
so far stands to the state as `C` says, it does so with `K` added if the search goes on, and if the
search ends it stands to the result as `E` says. Passes are put together by putting their sets
together.

Where it matters what has been looked at before, the things are a row, and `Along L I D ps m` says
that the pass `m` goes along the part `ps` of the row `L`, with what is in front of it looked at.
-/
import Mathlib

namespace FunPvp.Lib

/-! ## 1. Whatever has been looked at -/

section Sets

variable {σ ε κ β : Type*} (C : Set κ → σ → Prop) (E : Set κ → ε → Prop)

/-- The pass `m` looks at `K`. -/
def Searches (K : Set κ) (m : σ → Except ε σ) : Prop :=
  ∀ V s, C V s →
    match m s with
    | .ok s' => C (V ∪ K) s'
    | .error e => E (V ∪ K) e

variable {C E} {K L : Set κ} {m k : σ → Except ε σ}

theorem Searches.congr (h : Searches C E K m) (hk : ∀ s, k s = m s) : Searches C E K k := by
  intro V s hs
  rw [hk]
  exact h V s hs

theorem Searches.of_eq (h : Searches C E K m) (hL : L = K) : Searches C E L m := hL ▸ h

theorem Searches.ok : Searches C E ∅ (fun s => (.ok s : Except ε σ)) := by
  intro V s hs
  rw [Set.union_empty]
  exact hs

theorem Searches.ite {c : Prop} [Decidable c] (h : Searches C E K m) (h' : Searches C E L k) :
    Searches C E (if c then K else L) (fun s => if c then m s else k s) := by
  intro V s hs
  by_cases hc : c
  · simp only [if_pos hc]
    exact h V s hs
  · simp only [if_neg hc]
    exact h' V s hs

theorem Searches.bind (hE : ∀ V K e, E V e → E (V ∪ K) e) (h : Searches C E K m)
    (h' : Searches C E L k) : Searches C E (K ∪ L) (fun s => m s >>= k) := by
  intro V s hs
  have hm := h V s hs
  dsimp only
  rw [← Set.union_assoc]
  cases hms : m s with
  | ok s' =>
    rw [hms] at hm
    exact h' (V ∪ K) s' hm
  | error e =>
    rw [hms] at hm
    exact hE (V ∪ K) L e hm

theorem Searches.foldlM (hE : ∀ V K e, E V e → E (V ∪ K) e) {f : σ → β → Except ε σ}
    {K : β → Set κ} (bs : List β) (h : ∀ b ∈ bs, Searches C E (K b) fun s => f s b) :
    Searches C E {x | ∃ b ∈ bs, x ∈ K b} fun s => bs.foldlM f s := by
  induction bs with
  | nil =>
    refine Searches.ok.of_eq ?_
    ext x
    simp
  | cons b bs ih =>
    have hrest := ih fun b' hb' => h b' (List.mem_cons_of_mem _ hb')
    refine (((h b List.mem_cons_self).bind hE hrest).congr fun s => ?_).of_eq ?_
    · rw [List.foldlM_cons]
    · ext x
      simp

end Sets

/-! ## 2. Along a row -/

section Row

variable {σ ε κ β : Type*} (L : List κ) (I : List κ → σ → Prop) (D : ε → Prop)

/-- The pass `m` goes along `ps`, which is somewhere in the row `L`. -/
def Along (ps : List κ) (m : σ → Except ε σ) : Prop :=
  ∀ pre post s, L = pre ++ (ps ++ post) → I pre s →
    match m s with
    | .ok s' => I (pre ++ ps) s'
    | .error e => D e

variable {L I D} {ps qs : List κ} {m k : σ → Except ε σ}

theorem Along.congr (h : Along L I D ps m) (hk : ∀ s, k s = m s) : Along L I D ps k := by
  intro pre post s hL hs
  rw [hk]
  exact h pre post s hL hs

theorem Along.ok : Along L I D [] (fun s => (.ok s : Except ε σ)) := by
  intro pre post s _ hs
  dsimp only
  rw [List.append_nil]
  exact hs

theorem Along.bind (h : Along L I D ps m) (h' : Along L I D qs k) :
    Along L I D (ps ++ qs) (fun s => m s >>= k) := by
  intro pre post s hL hs
  have hm := h pre (qs ++ post) s (by rw [hL, List.append_assoc ps]) hs
  dsimp only
  cases hms : m s with
  | ok s' =>
    rw [hms] at hm
    rw [← List.append_assoc]
    exact h' (pre ++ ps) post s' (by rw [hL, List.append_assoc, List.append_assoc]) hm
  | error e =>
    rw [hms] at hm
    exact hm

theorem Along.foldlM {f : σ → β → Except ε σ} {K : β → List κ} (bs : List β)
    (h : ∀ b ∈ bs, Along L I D (K b) fun s => f s b) :
    Along L I D (bs.flatMap K) fun s => bs.foldlM f s := by
  induction bs with
  | nil => exact Along.ok
  | cons b bs ih =>
    have hrest := ih fun b' hb' => h b' (List.mem_cons_of_mem _ hb')
    refine ((h b List.mem_cons_self).bind hrest).congr fun s => ?_
    rw [List.foldlM_cons]

theorem Along.row (h : Along L I D L m) {s : σ} (hs : I [] s) :
    match m s with
    | .ok s' => I L s'
    | .error e => D e :=
  h [] [] s (by rw [List.append_nil, List.nil_append]) hs

end Row

end FunPvp.Lib
