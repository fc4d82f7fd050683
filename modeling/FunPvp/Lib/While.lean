/-
# While loops

A loop whose body either goes on with a new state or leaves, with nothing that bounds its rounds.
It is run with fuel, and returns nothing where the fuel runs out. Its rule has both halves: an
invariant and what holds at the exits, and a measure that every round that goes on makes smaller, so
that from some fuel on there is a result, always the same.
-/
import FunPvp.Lib.Loop

namespace FunPvp.Lib

variable {σ τ : Type*}

/-- The loop. The body leaves by an error. -/
def whileLoop (body : σ → Except τ σ) : ℕ → σ → Option τ
  | 0, _ => none
  | fuel + 1, s =>
    match body s with
    | .ok s' => whileLoop body fuel s'
    | .error t => some t

/-- **The rule.**  Where each round keeps the invariant and makes the measure smaller, or leaves
with `Q`, the loop ends, and ends with `Q`. -/
theorem exists_whileLoop {body : σ → Except τ σ} {I : σ → Prop} {Q : τ → Prop} (measure : σ → ℕ)
    (hbody : ∀ s, I s → Outcome (fun s' => I s' ∧ measure s' < measure s) Q (body s)) {s : σ}
    (hs : I s) :
    ∃ t, Q t ∧ ∃ needed, ∀ fuel, needed ≤ fuel → whileLoop body fuel s = some t := by
  induction h : measure s using Nat.strong_induction_on generalizing s with
  | _ n ih =>
    have hround := hbody s hs
    cases hb : body s with
    | error t =>
      rw [hb] at hround
      refine ⟨t, hround, 1, fun fuel hfuel => ?_⟩
      obtain ⟨fuel, rfl⟩ : ∃ k, fuel = k + 1 := ⟨fuel - 1, by omega⟩
      rw [whileLoop, hb]
    | ok s' =>
      rw [hb] at hround
      obtain ⟨hs', hlt⟩ := hround
      obtain ⟨t, ht, needed, hloop⟩ := ih (measure s') (h ▸ hlt) hs' rfl
      refine ⟨t, ht, needed + 1, fun fuel hfuel => ?_⟩
      obtain ⟨fuel, rfl⟩ : ∃ k, fuel = k + 1 := ⟨fuel - 1, by omega⟩
      rw [whileLoop, hb]
      exact hloop fuel (by omega)

/-! ## Results -/

/-- From some fuel on the loop has this result. -/
def Gives (body : σ → Except τ σ) (s : σ) (t : τ) : Prop :=
  ∃ needed, ∀ fuel, needed ≤ fuel → whileLoop body fuel s = some t

theorem whileLoop_eq_none {body : σ → Except τ σ} {s : σ} (h : body s = .ok s) (fuel : ℕ) :
    whileLoop body fuel s = none := by
  induction fuel with
  | zero => rfl
  | succ fuel ih =>
    rw [whileLoop, h]
    exact ih

namespace Gives

variable {body : σ → Except τ σ} {s s' : σ} {t t' : τ}

theorem leave (h : body s = .error t) : Gives body s t := by
  refine ⟨1, fun fuel hfuel => ?_⟩
  obtain ⟨fuel, rfl⟩ : ∃ k, fuel = k + 1 := ⟨fuel - 1, by omega⟩
  rw [whileLoop, h]

theorem next (h : body s = .ok s') (hs' : Gives body s' t) : Gives body s t := by
  obtain ⟨needed, hloop⟩ := hs'
  refine ⟨needed + 1, fun fuel hfuel => ?_⟩
  obtain ⟨fuel, rfl⟩ : ∃ k, fuel = k + 1 := ⟨fuel - 1, by omega⟩
  rw [whileLoop, h]
  exact hloop fuel (by omega)

theorem congr (h : body s = body s') (hs' : Gives body s' t) : Gives body s t := by
  obtain ⟨needed, hloop⟩ := hs'
  refine ⟨needed + 1, fun fuel hfuel => ?_⟩
  obtain ⟨fuel, rfl⟩ : ∃ k, fuel = k + 1 := ⟨fuel - 1, by omega⟩
  have hsame := hloop (fuel + 1) (by omega)
  rw [whileLoop] at hsame ⊢
  rw [h]
  exact hsame

theorem unique (h : Gives body s t) (h' : Gives body s t') : t = t' := by
  obtain ⟨needed, hloop⟩ := h
  obtain ⟨needed', hloop'⟩ := h'
  have hmax := hloop (needed + needed') (by omega)
  rw [hloop' (needed + needed') (by omega)] at hmax
  exact (Option.some.inj hmax).symm

end Gives

end FunPvp.Lib
