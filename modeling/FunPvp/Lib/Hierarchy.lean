/-
# Authority in a hierarchy

Some of `ι` have a rank, and a smaller one is a higher one. One of them may act on those strictly
below himself only, and leaves them strictly below himself or without a rank (`Overrules`).

If everyone acts in this way, then whatever a number of actors do one after the other, who was at
or above all of them at the beginning keeps his rank (`States.keepsRank`): the actors may move each
other, but none of them ever comes to be above where the best of them was.
-/
import FunPvp.Lib.Run

namespace FunPvp.Lib

variable {ι κ : Type*} [Preorder κ]

/-- Between `r` and `r'`, `a` has changed the rank only of who was strictly below him and, if he
still has one, is strictly below the rank `a` had. -/
def Overrules (a : ι) (r r' : ι → Option κ) : Prop :=
  ∀ i, r' i = r i ∨
    ∃ ra ri, r a = some ra ∧ r i = some ri ∧ ra < ri ∧ ∀ ri', r' i = some ri' → ra < ri'

/-- Of the actors in `A` none is above `b`. -/
def NoneAbove (A : Set ι) (b : κ) (r : ι → Option κ) : Prop :=
  ∀ a ∈ A, ∀ ra, r a = some ra → b ≤ ra

section Overrules

variable {a i : ι} {A : Set ι} {b : κ} {r r' : ι → Option κ}

theorem Overrules.refl (a : ι) (r : ι → Option κ) : Overrules a r r := fun _ => Or.inl rfl

theorem Overrules.noneAbove (h : Overrules a r r') (ha : a ∈ A) (hA : NoneAbove A b r) :
    NoneAbove A b r' := by
  intro a' ha' ra' hr'
  rcases h a' with heq | ⟨ra, _, hra, _, _, hbelow⟩
  · exact hA a' ha' ra' (heq ▸ hr')
  · exact le_trans (hA a ha ra hra) (le_of_lt (hbelow ra' hr'))

theorem Overrules.keepsRank (h : Overrules a r r') (ha : a ∈ A) (hA : NoneAbove A b r)
    (hi : r i = some b) : r' i = some b := by
  rcases h i with heq | ⟨ra, ri, hra, hri, hlt, _⟩
  · rw [heq, hi]
  · have hb : ri = b := Option.some.inj (hri.symm.trans hi)
    have hle := hA a ha ra hra
    rw [hb] at hlt
    exact absurd hlt (not_lt_of_ge hle)

end Overrules

/-- **Authority over a run.**  If every event is one actor overruling, who is at or above all those
who act in a run keeps his rank throughout. -/
theorem States.keepsRank {σ ε : Type*} {step : σ → ε → σ} {I : σ → Prop} {actor : ε → ι}
    {rank : σ → ι → Option κ} (hI : ∀ s e, I s → I (step s e))
    (hstep : ∀ s e, I s → Overrules (actor e) (rank s) (rank (step s e))) {s : σ} (hs : I s)
    {evs : List ε} {i : ι} {b : κ} (hi : rank s i = some b)
    (habove : ∀ e ∈ evs, ∀ ra, rank s (actor e) = some ra → b ≤ ra) :
    States step (fun s => rank s i = some b) s evs := by
  let A : Set ι := {a | ∃ e ∈ evs, actor e = a}
  have hA : NoneAbove A b (rank s) := by
    rintro a ⟨e, he, rfl⟩ ra hra
    exact habove e he ra hra
  have hevs : Steps step (fun _ e => actor e ∈ A) s evs :=
    Steps.of_mem fun _ e he => ⟨e, he, rfl⟩
  -- what the actors cannot do depends on all of them staying where they are or sinking
  have hrun := States.of_steps
    (I := fun s => I s ∧ rank s i = some b ∧ NoneAbove A b (rank s)) (by
      rintro s e ⟨hs, hi, hA⟩ he
      have hover := hstep s e hs
      exact ⟨hI s e hs, hover.keepsRank he hA hi, hover.noneAbove he hA⟩) ⟨hs, hi, hA⟩ hevs
  exact hrun.imp fun s hs => hs.2.1

end FunPvp.Lib
