/-
# Readers that look one value ahead

A reader takes values from the front of a list and leaves the rest, or stops with an error. Nothing
but what it takes and the value that comes next decides what a reader does, for the readers here:
put anything else behind, beginning with the same value, and it does the same. Readers made of such
readers are such readers.
-/
import Mathlib

namespace FunPvp.Lib

variable {τ ε α β : Type}

/-! ## 1. Readers -/

/-- A reader takes values from the front of a list. -/
abbrev Reader (τ ε : Type) := StateT (List τ) (Except ε)

namespace Reader

variable {f : Reader τ ε α} {g : α → Reader τ ε β}

theorem bind_ok {s r : List τ} {v : α} (h : f s = .ok (v, r)) : (f >>= g) s = g v r := by
  change (f s >>= fun p => g p.1 p.2) = _
  rw [h]
  rfl

theorem bind_error {s : List τ} {e : ε} (h : f s = .error e) : (f >>= g) s = .error e := by
  change (f s >>= fun p => g p.1 p.2) = _
  rw [h]
  rfl

theorem ok_of_bind {s rest : List τ} {w : β}
    (h : (f >>= g) s = .ok (w, rest)) : ∃ v r, f s = .ok (v, r) ∧ g v r = .ok (w, rest) := by
  cases hf : f s with
  | error e =>
    rw [bind_error hf] at h
    simp at h
  | ok p =>
    rw [bind_ok hf] at h
    exact ⟨p.1, p.2, rfl, h⟩

theorem error_of_bind {s : List τ} {e : ε} (h : (f >>= g) s = .error e) :
    f s = .error e ∨ ∃ v r, f s = .ok (v, r) ∧ g v r = .error e := by
  cases hf : f s with
  | error e' =>
    rw [bind_error hf] at h
    obtain rfl : e' = e := by simpa using h
    exact Or.inl rfl
  | ok p =>
    rw [bind_ok hf] at h
    exact Or.inr ⟨p.1, p.2, rfl, h⟩

/-- A reader that must have taken a number of values that `p` allows. -/
def measured (f : Reader τ ε α) (p : ℕ → Prop) [DecidablePred p] (e : ε) : Reader τ ε α := fun s =>
  match f s with
  | .ok (v, rest) => if p (s.length - rest.length) then .ok (v, rest) else .error e
  | .error e => .error e

theorem measured_ok {p : ℕ → Prop} [DecidablePred p] {e : ε} {s rest : List τ} {v : α} :
    f.measured p e s = .ok (v, rest) ↔ f s = .ok (v, rest) ∧ p (s.length - rest.length) := by
  rw [measured]
  cases f s with
  | error e => simp
  | ok q =>
    obtain ⟨w, r⟩ := q
    by_cases hp : p (s.length - r.length)
    · simp only [if_pos hp, Except.ok.injEq, Prod.mk.injEq]
      exact ⟨fun ⟨hv, hr⟩ => ⟨⟨hv, hr⟩, hr ▸ hp⟩, fun h => h.1⟩
    · simp only [if_neg hp, Except.ok.injEq, Prod.mk.injEq, reduceCtorEq, false_iff]
      rintro ⟨⟨-, rfl⟩, hp'⟩
      exact hp hp'

end Reader

/-! ## 2. One value ahead -/

/-- **One value ahead.**  What is taken has `P`, and decides with the next value what is done. -/
def LooksAhead (P : τ → Prop) (f : Reader τ ε α) : Prop :=
  ∀ s v rest, f s = .ok (v, rest) → ∃ used, s = used ++ rest ∧ (∀ b ∈ used, P b) ∧
    ∀ rest', rest'.head? = rest.head? → f (used ++ rest') = .ok (v, rest')

namespace LooksAhead

variable {P : τ → Prop}

theorem pure (v : α) : LooksAhead P (Pure.pure v : Reader τ ε α) := by
  intro s w rest h
  obtain ⟨rfl, rfl⟩ : v = w ∧ s = rest := by
    have h' : (Except.ok (v, s) : Except ε _) = .ok (w, rest) := h
    simpa using h'
  exact ⟨[], rfl, by simp, fun rest' _ => rfl⟩

theorem throw (e : ε) : LooksAhead P (throw e : Reader τ ε α) := by
  intro s w rest h
  have h' : (Except.error e : Except ε (α × List τ)) = .ok (w, rest) := h
  simp at h'

/-- The front of a list that does not end there, or goes on with the same value, has the same head
value. -/
theorem head?_append {used rest rest' : List τ} (h : rest'.head? = rest.head?) :
    (used ++ rest').head? = (used ++ rest).head? := by
  cases used with
  | nil => exact h
  | cons b used => rfl

theorem bind {f : Reader τ ε α} {g : α → Reader τ ε β} (hf : LooksAhead P f)
    (hg : ∀ v, LooksAhead P (g v)) : LooksAhead P (f >>= g) := by
  intro s w rest h
  obtain ⟨v, r, hfs, hgr⟩ := Reader.ok_of_bind h
  obtain ⟨used, hs, hused, hf'⟩ := hf s v r hfs
  obtain ⟨used', hr, hused', hg'⟩ := hg v r w rest hgr
  refine ⟨used ++ used', by rw [hs, hr, List.append_assoc], ?_, fun rest' hhead => ?_⟩
  · intro b hb
    rcases List.mem_append.1 hb with hb | hb
    · exact hused b hb
    · exact hused' b hb
  · have hnext : (used' ++ rest').head? = r.head? := by
      rw [hr]
      exact head?_append hhead
    rw [List.append_assoc, Reader.bind_ok (hf' _ hnext)]
    exact hg' rest' hhead

theorem ite {c : Prop} [Decidable c] {f g : Reader τ ε α} (hf : LooksAhead P f)
    (hg : LooksAhead P g) : LooksAhead P (if c then f else g) := by
  split
  · exact hf
  · exact hg

theorem measured {f : Reader τ ε α} (hf : LooksAhead P f) (p : ℕ → Prop) [DecidablePred p] (e : ε) :
    LooksAhead P (f.measured p e) := by
  intro s v rest h
  obtain ⟨hfs, hp⟩ := Reader.measured_ok.1 h
  obtain ⟨used, hs, hused, hf'⟩ := hf s v rest hfs
  refine ⟨used, hs, hused, fun rest' hhead => Reader.measured_ok.2 ⟨hf' rest' hhead, ?_⟩⟩
  have hlength : (used ++ rest').length - rest'.length = s.length - rest.length := by
    rw [hs]
    simp
  rw [hlength]
  exact hp

end LooksAhead

/-! ## 3. How readers stop -/

/-- Where the reader stops, it stops with an error in `Q`. -/
def StopsWith (Q : ε → Prop) (f : Reader τ ε α) : Prop := ∀ s e, f s = .error e → Q e

namespace StopsWith

variable {Q : ε → Prop}

theorem pure (v : α) : StopsWith Q (Pure.pure v : Reader τ ε α) := by
  intro s e h
  have h' : (Except.ok (v, s) : Except ε _) = .error e := h
  simp at h'

theorem throw {e : ε} (he : Q e) : StopsWith Q (throw e : Reader τ ε α) := by
  intro s e' h
  obtain rfl : e = e' := by
    have h' : (Except.error e : Except ε (α × List τ)) = .error e' := h
    simpa using h'
  exact he

variable {f : Reader τ ε α}

theorem bind {g : α → Reader τ ε β} (hf : StopsWith Q f)
    (hg : ∀ v, StopsWith Q (g v)) : StopsWith Q (f >>= g) := by
  intro s e h
  rcases Reader.error_of_bind h with h | ⟨v, r, -, h⟩
  · exact hf s e h
  · exact hg v r e h

theorem measured (hf : StopsWith Q f) (p : ℕ → Prop) [DecidablePred p] {e : ε}
    (he : Q e) : StopsWith Q (f.measured p e) := by
  intro s e' h
  rw [Reader.measured] at h
  cases hfs : f s with
  | error e'' =>
    obtain rfl : e'' = e' := by simpa [hfs] using h
    exact hf s e'' hfs
  | ok q =>
    simp only [hfs] at h
    split at h
    · simp at h
    · obtain rfl : e = e' := by simpa using h
      exact he

theorem ite {c : Prop} [Decidable c] {f g : Reader τ ε α} (hf : StopsWith Q f)
    (hg : StopsWith Q g) : StopsWith Q (if c then f else g) := by
  split
  · exact hf
  · exact hg

theorem imp {Q' : ε → Prop} (hf : StopsWith Q f) (h : ∀ e, Q e → Q' e) :
    StopsWith Q' f :=
  fun s e hs => h e (hf s e hs)

end StopsWith

/-! ## 4. The longest front with a property -/

variable {p : τ → Bool}

theorem takeWhile_append_of_head {used rest : List τ} (hused : ∀ b ∈ used, p b)
    (hrest : ∀ b ∈ rest.head?, p b = false) : (used ++ rest).takeWhile p = used := by
  have hnone : rest.takeWhile p = [] := by
    cases rest with
    | nil => rfl
    | cons b rest => rw [List.takeWhile_cons_of_neg (by simp [hrest b rfl])]
  rw [List.takeWhile_append_of_pos hused, hnone, List.append_nil]

theorem dropWhile_append_of_head {used rest : List τ} (hused : ∀ b ∈ used, p b)
    (hrest : ∀ b ∈ rest.head?, p b = false) : (used ++ rest).dropWhile p = rest := by
  have hall : rest.dropWhile p = rest := by
    cases rest with
    | nil => rfl
    | cons b rest => rw [List.dropWhile_cons_of_neg (by simp [hrest b rfl])]
  rw [List.dropWhile_append_of_pos hused, hall]

theorem of_mem_head?_dropWhile {s : List τ} {b : τ} (hb : b ∈ (s.dropWhile p).head?) :
    p b = false := by
  cases hs : s.dropWhile p with
  | nil =>
    rw [hs] at hb
    simp at hb
  | cons c rest =>
    rw [hs] at hb
    obtain rfl : c = b := by simpa using hb
    have hne : s.dropWhile p ≠ [] := by rw [hs]; simp
    have hhead := List.head_dropWhile_not p hne
    simpa [hs] using hhead

end FunPvp.Lib
