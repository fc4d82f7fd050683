/-
# Loops over lists

A loop over a list whose body either goes on with a new state or leaves, carrying what it leaves
with: `List.foldlM` in the error monad, where an error is an early exit. The rule of such a loop
is its Hoare rule: an invariant of the part walked so far, and what holds at each exit.

A loop that remembers the last element with a property is a fold; what it returns is a match, and
it returns nothing only if there is none.

A loop whose rounds may have no result is `List.foldlM` in `Option`, and so is `List.mapM` for a list
of lookups.
-/
import Mathlib

namespace FunPvp.Lib

universe u

variable {σ τ : Type u} {ε α : Type*}

/-! ## 1. Early exit -/

/-- `Q` holds if the computation goes on, `E` if it leaves. -/
def Outcome (Q : σ → Prop) (E : ε → Prop) : Except ε σ → Prop
  | .ok s => Q s
  | .error e => E e

variable {Q : σ → Prop} {E : ε → Prop} {s : σ} {l : List α}

@[simp] theorem Outcome.ok_iff :
    Outcome Q E (.ok s) ↔ Q s := Iff.rfl

@[simp] theorem Outcome.error_iff {e : ε} :
    Outcome Q E (.error e) ↔ E e := Iff.rfl

theorem Outcome.bind {R : τ → Prop} {r : Except ε σ}
    {k : σ → Except ε τ} (hr : Outcome Q E r) (hk : ∀ s, Q s → Outcome R E (k s)) :
    Outcome R E (r >>= k) := by
  cases r with
  | ok s => exact hk s hr
  | error e => exact hr

theorem Outcome.ok_bind {R : τ → Prop} {k : σ → Except ε τ}
    (hk : Outcome R E (k s)) : Outcome R E (.ok s >>= k) := hk

theorem Outcome.imp {Q R : σ → Prop} {r : Except ε σ} (hr : Outcome Q E r)
    (h : ∀ s, Q s → R s) : Outcome R E r := by
  cases r with
  | ok s => exact h s hr
  | error e => exact hr

/-- **The loop rule.**  `I done s` speaks of the part `done` already walked. -/
theorem Outcome.foldlM {body : σ → α → Except ε σ} {I : List α → σ → Prop} (hs : I [] s)
    (hbody : ∀ done a rest s, l = done ++ a :: rest → I done s →
      Outcome (I (done ++ [a])) E (body s a)) :
    Outcome (I l) E (l.foldlM body s) := by
  suffices h : ∀ done rest s, l = done ++ rest → I done s →
      Outcome (I l) E (rest.foldlM body s) from h [] l s rfl hs
  intro done rest
  induction rest generalizing done with
  | nil =>
    intro s hl hs
    rw [hl, List.append_nil, List.foldlM_nil]
    exact hs
  | cons a rest ih =>
    intro s hl hs
    rw [List.foldlM_cons]
    refine Outcome.bind (hbody done a rest s hl hs) fun s' hs' => ?_
    exact ih (done ++ [a]) s' (by rw [hl, List.append_cons]) hs'

/-! ## 2. Loops that keep the last match -/

theorem foldl_lastMatch {β : Type*} (P : α → Prop) [DecidablePred P] (f : α → β) (l : List α)
    (acc : Option β) :
    (∀ x, l.foldl (fun found j => if P j then some (f j) else found) acc = some x →
        acc = some x ∨ ∃ j ∈ l, P j ∧ f j = x) ∧
      (l.foldl (fun found j => if P j then some (f j) else found) acc = none →
        acc = none ∧ ∀ j ∈ l, ¬ P j) := by
  induction l generalizing acc with
  | nil => exact ⟨fun x h => Or.inl h, fun h => ⟨h, fun j hj => absurd hj List.not_mem_nil⟩⟩
  | cons j l ih =>
    obtain ⟨hsome, hnone⟩ := ih (if P j then some (f j) else acc)
    rw [List.foldl_cons]
    constructor
    · intro x hx
      rcases hsome x hx with hacc | ⟨i, hi, hP, hf⟩
      · split at hacc
        · next hP => exact Or.inr ⟨j, List.mem_cons_self, hP, Option.some.inj hacc⟩
        · exact Or.inl hacc
      · exact Or.inr ⟨i, List.mem_cons_of_mem j hi, hP, hf⟩
    · intro hx
      obtain ⟨hacc, hl⟩ := hnone hx
      split at hacc
      · exact absurd hacc (by simp)
      · next hP =>
        refine ⟨hacc, fun i hi => ?_⟩
        rcases List.mem_cons.mp hi with rfl | hi
        · exact hP
        · exact hl i hi

/-! ## 3. Loops that may have no result -/

theorem exists_foldlM_eq_some {body : σ → α → Option σ} {I : σ → Prop}
    (hs : I s) (hbody : ∀ a ∈ l, ∀ s, I s → ∃ s', body s a = some s' ∧ I s') :
    ∃ s', l.foldlM body s = some s' ∧ I s' := by
  induction l generalizing s with
  | nil => exact ⟨s, rfl, hs⟩
  | cons a l ih =>
    obtain ⟨s₁, hs₁, hI⟩ := hbody a List.mem_cons_self s hs
    obtain ⟨s', hs', hI'⟩ := ih hI fun b hb => hbody b (List.mem_cons_of_mem _ hb)
    exact ⟨s', by rw [List.foldlM_cons, hs₁]; exact hs', hI'⟩

theorem mapM_eq_some_iff {β : Type*} {f : α → Option β} {l' : List β} :
    l.mapM f = some l' ↔ l.map f = l'.map some := by
  induction l generalizing l' with
  | nil => cases l' <;> simp
  | cons a l ih =>
    rw [List.mapM_cons, List.map_cons]
    cases h : f a with
    | none => cases l' <;> simp
    | some b =>
      cases l' with
      | nil => cases hl : l.mapM f <;> simp
      | cons c l' =>
        have hrest := @ih l'
        cases hl : l.mapM f with
        | none => simp_all
        | some bs => simp_all

theorem exists_mapM_eq_some {β : Type*} {f : α → Option β}
    (h : ∀ a ∈ l, ∃ b, f a = some b) : ∃ l', l.mapM f = some l' := by
  induction l with
  | nil => exact ⟨[], rfl⟩
  | cons a l ih =>
    obtain ⟨b, hb⟩ := h a List.mem_cons_self
    obtain ⟨l', hl'⟩ := ih fun c hc => h c (List.mem_cons_of_mem _ hc)
    exact ⟨b :: l', by rw [List.mapM_cons, hb, hl']; rfl⟩

end FunPvp.Lib
