/-
# Runs of a deterministic machine

A machine is a function `step : σ → ε → σ`; everything it cannot decide by itself (what the
environment answers, which object an operation is about) is part of the event `ε`. A run is a
list of events.

`Steps P` says that every step of a run is taken in a state, and on an event, for which `P`
holds; `States Q` says that `Q` holds in every state the run passes through. Both are proved by
one induction, from what a single step preserves.
-/
import Mathlib

namespace FunPvp.Lib

variable {σ ε : Type*} (step : σ → ε → σ)

def exec (s : σ) (evs : List ε) : σ := evs.foldl step s

/-- `P` holds at every step of the run. -/
def Steps (P : σ → ε → Prop) : σ → List ε → Prop
  | _, [] => True
  | s, e :: evs => P s e ∧ Steps P (step s e) evs

/-- `Q` holds in every state of the run, the first and the last included. -/
def States (Q : σ → Prop) : σ → List ε → Prop
  | s, [] => Q s
  | s, e :: evs => Q s ∧ States Q (step s e) evs

@[simp] theorem exec_nil (s : σ) : exec step s [] = s := rfl

@[simp] theorem exec_cons (s : σ) (e : ε) (evs : List ε) :
    exec step s (e :: evs) = exec step (step s e) evs := rfl

theorem exec_append (s : σ) (evs evs' : List ε) :
    exec step s (evs ++ evs') = exec step (exec step s evs) evs' :=
  List.foldl_append

/-- What the steps of a run weigh together. -/
def tally (w : σ → ε → ℕ) : σ → List ε → ℕ
  | _, [] => 0
  | s, e :: evs => w s e + tally w (step s e) evs

/-- What the steps of a run put on record, in order. -/
def trace {β : Type*} (f : σ → ε → List β) : σ → List ε → List β
  | _, [] => []
  | s, e :: evs => f s e ++ trace f (step s e) evs

variable {step} {I : σ → Prop} {P C : σ → ε → Prop} {Q : σ → Prop}

theorem States.exec {s : σ} {evs : List ε} (h : States step Q s evs) :
    Q (exec step s evs) := by
  induction evs generalizing s with
  | nil => exact h
  | cons e evs ih => exact ih h.2

theorem Steps.append_iff {s : σ} {evs evs' : List ε} :
    Steps step P s (evs ++ evs') ↔
      Steps step P s evs ∧ Steps step P (exec step s evs) evs' := by
  induction evs generalizing s with
  | nil => simp [Steps]
  | cons e evs ih =>
    simp only [List.cons_append, Steps, ih, exec_cons, and_assoc]

/-- **The invariant rule.**  If a step under the condition `C` keeps `I`, every run whose
steps meet `C` stays inside it. -/
theorem States.of_steps (hstep : ∀ s e, I s → C s e → I (step s e)) {s : σ} {evs : List ε}
    (hs : I s) (hC : Steps step C s evs) : States step I s evs := by
  induction evs generalizing s with
  | nil => exact hs
  | cons e evs ih => exact ⟨hs, ih (hstep s e hs hC.1) hC.2⟩

theorem Steps.of_inv (hstep : ∀ s e, I s → C s e → I (step s e))
    (h : ∀ s e, I s → C s e → P s e) {s : σ} {evs : List ε} (hs : I s)
    (hC : Steps step C s evs) : Steps step P s evs := by
  induction evs generalizing s with
  | nil => exact trivial
  | cons e evs ih => exact ⟨h s e hs hC.1, ih (hstep s e hs hC.1) hC.2⟩

/-- **The exact rule.**  If from the invariant a step keeps it under the condition `C`, and leaves
`Q` otherwise, a run stays inside `Q` exactly when its steps meet `C`. -/
theorem States.iff_steps (hQ : ∀ s, I s → Q s) (hstep : ∀ s e, I s → C s e → I (step s e))
    (hbreak : ∀ s e, I s → ¬ C s e → ¬ Q (step s e)) {s : σ} (hs : I s) (evs : List ε) :
    States step Q s evs ↔ Steps step C s evs := by
  induction evs generalizing s with
  | nil => exact iff_of_true (hQ s hs) trivial
  | cons e evs ih =>
    by_cases hC : C s e
    · exact and_congr (iff_of_true (hQ s hs) hC) (ih (hstep s e hs hC))
    · refine iff_of_false (fun h => hbreak s e hs hC ?_) (fun h => hC h.1)
      cases evs with
      | nil => exact h.2
      | cons e' evs => exact h.2.1

theorem States.imp (h : ∀ s, I s → Q s) {s : σ} {evs : List ε} (hI : States step I s evs) :
    States step Q s evs := by
  induction evs generalizing s with
  | nil => exact h s hI
  | cons e evs ih => exact ⟨h s hI.1, ih hI.2⟩

theorem Steps.and {s : σ} {evs : List ε} (hP : Steps step P s evs) (hC : Steps step C s evs) :
    Steps step (fun s e => P s e ∧ C s e) s evs := by
  induction evs generalizing s with
  | nil => exact trivial
  | cons e evs ih => exact ⟨⟨hP.1, hC.1⟩, ih hP.2 hC.2⟩

theorem Steps.imp (h : ∀ s e, P s e → C s e) {s : σ} {evs : List ε} (hP : Steps step P s evs) :
    Steps step C s evs := by
  induction evs generalizing s with
  | nil => exact trivial
  | cons e evs ih => exact ⟨h s e hP.1, ih hP.2⟩

/-- **The tally rule.**  If a step under the condition `C` takes what holds of `k` to what holds of
`k` and its weight, a run whose steps meet `C` takes it to what holds of `k` and its tally. -/
theorem exec_tally (step : σ → ε → σ) {w : σ → ε → ℕ} {J : ℕ → σ → Prop}
    (hstep : ∀ k s e, J k s → C s e → J (k + w s e) (step s e)) {k : ℕ} {s : σ} (hs : J k s)
    {evs : List ε} (hC : Steps step C s evs) :
    J (k + tally step w s evs) (exec step s evs) := by
  induction evs generalizing k s with
  | nil => exact hs
  | cons e evs ih =>
    have hrest := ih (hstep k s e hs hC.1) hC.2
    rw [Nat.add_assoc] at hrest
    exact hrest

/-- **The trace rule.**  If a step under the condition `C` takes what holds of the record `H` to
what holds of `H` and its own entries, a run whose steps meet `C` takes it to what holds of `H` and
its trace. -/
theorem exec_trace {β : Type*} (step : σ → ε → σ) {f : σ → ε → List β} {J : List β → σ → Prop}
    (hstep : ∀ H s e, J H s → C s e → J (H ++ f s e) (step s e)) {H : List β} {s : σ} (hs : J H s)
    {evs : List ε} (hC : Steps step C s evs) :
    J (H ++ trace step f s evs) (exec step s evs) := by
  induction evs generalizing H s with
  | nil => simpa [trace] using hs
  | cons e evs ih =>
    have hrest := ih (hstep H s e hs hC.1) hC.2
    rw [List.append_assoc] at hrest
    exact hrest

theorem Steps.of_mem {s : σ} {evs : List ε} (h : ∀ s, ∀ e ∈ evs, C s e) : Steps step C s evs := by
  induction evs generalizing s with
  | nil => exact trivial
  | cons e evs ih =>
    exact ⟨h s e List.mem_cons_self, ih fun s e' he' => h s e' (List.mem_cons_of_mem _ he')⟩

theorem Steps.of_forall (h : ∀ s e, C s e) {s : σ} (evs : List ε) : Steps step C s evs :=
  Steps.of_mem fun s e _ => h s e

/-- Inside an invariant of all steps, two step properties that agree there hold of the same
runs. -/
theorem Steps.congr (hstep : ∀ s e, I s → I (step s e))
    (h : ∀ s e, I s → (P s e ↔ C s e)) {s : σ} (hs : I s) (evs : List ε) :
    Steps step P s evs ↔ Steps step C s evs := by
  induction evs generalizing s with
  | nil => exact Iff.rfl
  | cons e evs ih => exact and_congr (h s e hs) (ih (hstep s e hs))

/-- Inside an invariant that steps under the condition keep, a step property that agrees there with
the condition holds of the same runs, for runs whose steps all meet `D`. -/
theorem Steps.iff_of_inv {D : σ → ε → Prop} (hstep : ∀ s e, I s → D s e → C s e → I (step s e))
    (h : ∀ s e, I s → D s e → (P s e ↔ C s e)) {s : σ} (hs : I s) {evs : List ε}
    (hD : Steps step D s evs) : Steps step P s evs ↔ Steps step C s evs := by
  induction evs generalizing s with
  | nil => exact Iff.rfl
  | cons e evs ih =>
    refine (and_congr_left' (h s e hs hD.1)).trans (and_congr_right fun hC => ?_)
    exact ih (hstep s e hs hD.1 hC) hD.2

/-- Whether the steps of a given run meet a condition can be computed. -/
instance Steps.decidable (step : σ → ε → σ) (P : σ → ε → Prop) [∀ s e, Decidable (P s e)] :
    ∀ s evs, Decidable (Steps step P s evs)
  | _, [] => isTrue trivial
  | s, e :: evs =>
    have := Steps.decidable step P (step s e) evs
    inferInstanceAs (Decidable (P s e ∧ Steps step P (step s e) evs))

end FunPvp.Lib
