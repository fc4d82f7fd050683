/-
# Framing a stream

A decoder looks at the data it has, from the front (the HEAD), and says what to do: wait for
more, take a frame of some length, stop for good, or drop what is there. Draining repeats this
until it waits or stops.

The stream arrives in chunks, and every chunk is drained together with what was left of the
ones before. If the verdict on a head does not change when more data follows (`Stable`), the
chunks do not matter: whatever the cuts, the decoder ends as it would on the whole stream
(`Drains.feeds`). A decoder may be stable only on some heads, so everything here is about heads
for which a property `P` holds.
-/
import Mathlib

namespace FunPvp.Lib

variable {σ α : Type*}

/-! ## 1. Draining -/

/-- What a decoder makes of the data at the front. -/
inductive Verdict (σ : Type*)
  | more
  /-- A frame of `n` elements, and the state after it. -/
  | frame (n : ℕ) (s : σ)
  | stop (s : σ)
  | drop

/-- Where draining ends: the state, the data left, and whether the decoder is still live. -/
structure Drained (σ α : Type*) where
  state : σ
  rest : List α
  live : Bool

variable (next : σ → List α → Verdict σ) (P : σ → List α → Prop)

/-- The heads that draining comes to. -/
inductive ReachesHead : σ → List α → σ → List α → Prop
  | refl (s : σ) (xs : List α) : ReachesHead s xs s xs
  | step {s s' t : σ} {xs ys : List α} {n : ℕ} : next s xs = .frame n s' →
      ReachesHead s' (xs.drop n) t ys → ReachesHead s xs t ys

/-- `P` holds of every head that draining comes to. -/
def AllHeads (s : σ) (xs : List α) : Prop := ∀ t ys, ReachesHead next s xs t ys → P t ys

/-- Draining ends in `d`, and `P` holds of every head on the way. -/
inductive Drains : σ → List α → Drained σ α → Prop
  | more {s : σ} {xs : List α} : P s xs → next s xs = .more → Drains s xs ⟨s, xs, true⟩
  | stop {s s' : σ} {xs : List α} : P s xs → next s xs = .stop s' → Drains s xs ⟨s', [], false⟩
  | drop {s : σ} {xs : List α} : P s xs → next s xs = .drop → Drains s xs ⟨s, [], true⟩
  | frame {s s' : σ} {xs : List α} {n : ℕ} {d : Drained σ α} : P s xs →
      next s xs = .frame n s' → Drains s' (xs.drop n) d → Drains s xs d

/-- A frame is not empty, and it has arrived. -/
def Progress : Prop :=
  ∀ s xs n s', P s xs → next s xs = .frame n s' → 0 < n ∧ n ≤ xs.length

/-- **Data that follows does not change a verdict**, nor that the head is one of `P`. -/
structure Stable : Prop where
  verdict : ∀ s xs ys, P s xs → next s xs ≠ .more → next s (xs ++ ys) = next s xs
  head : ∀ s xs ys, P s xs → next s xs ≠ .more → P s (xs ++ ys)
  noDrop : ∀ s xs, P s xs → next s xs ≠ .drop

variable {next P} {Q : σ → List α → Prop}

theorem AllHeads.head {s : σ} {xs : List α} (h : AllHeads next P s xs) : P s xs :=
  h s xs (.refl s xs)

theorem AllHeads.frame {s s' : σ} {xs : List α} {n : ℕ} (h : AllHeads next P s xs)
    (hn : next s xs = .frame n s') : AllHeads next P s' (xs.drop n) :=
  fun t ys hr => h t ys (.step hn hr)

theorem AllHeads.drains (hp : Progress next P) :
    ∀ {s : σ} {xs : List α}, AllHeads next P s xs → ∃ d, Drains next P s xs d := by
  intro s xs
  induction hlen : xs.length using Nat.strong_induction_on generalizing s xs with
  | _ len ih =>
    intro h
    cases hn : next s xs with
    | more => exact ⟨_, .more h.head hn⟩
    | stop s' => exact ⟨_, .stop h.head hn⟩
    | drop => exact ⟨_, .drop h.head hn⟩
    | frame n s' =>
      obtain ⟨hpos, hle⟩ := hp s xs n s' h.head hn
      have hshort : (xs.drop n).length < len := by rw [List.length_drop]; omega
      obtain ⟨d, hd⟩ := ih _ hshort rfl (h.frame hn)
      exact ⟨d, .frame h.head hn hd⟩

theorem Drains.allHeads {s : σ} {xs : List α} {d : Drained σ α} (h : Drains next P s xs d) :
    AllHeads next P s xs := by
  induction h with
  | more hP hn | stop hP hn | drop hP hn =>
    intro t ys hr
    cases hr with
    | refl => exact hP
    | step hn' _ => exact absurd (hn.symm.trans hn') (by simp)
  | frame hP hn _ ih =>
    intro t ys hr
    cases hr with
    | refl => exact hP
    | step hn' hr =>
      obtain ⟨rfl, rfl⟩ := Verdict.frame.inj (hn.symm.trans hn')
      exact ih t ys hr

/-- **More data**: draining goes on where it was waiting, and a decoder that has stopped has
stopped. -/
theorem Drains.append (hs : Stable next P) (hp : Progress next P) {s : σ} {xs : List α}
    {d : Drained σ α} (h : Drains next P s xs d) (ys : List α) :
    (d.live = false → Drains next P s (xs ++ ys) d) ∧
      ∀ d', d.live = true → Drains next P d.state (d.rest ++ ys) d' →
        Drains next P s (xs ++ ys) d' := by
  induction h with
  | more hP hn => exact ⟨fun hl => absurd hl (by simp), fun d' _ hd' => hd'⟩
  | @stop s s' xs hP hn =>
    have hne : next s xs ≠ .more := by rw [hn]; simp
    refine ⟨fun _ => ?_, fun _ hl => absurd hl (by simp)⟩
    exact .stop (hs.head _ _ ys hP hne) ((hs.verdict _ _ ys hP hne).trans hn)
  | drop hP hn => exact absurd hn (hs.noDrop _ _ hP)
  | @frame s s' xs n d hP hn _ ih =>
    obtain ⟨-, hle⟩ := hp _ _ _ _ hP hn
    have hne : next s xs ≠ .more := by rw [hn]; simp
    have hn' := (hs.verdict _ _ ys hP hne).trans hn
    have hP' := hs.head _ _ ys hP hne
    have hdrop : (xs ++ ys).drop n = xs.drop n ++ ys := List.drop_append_of_le_length hle
    refine ⟨fun hl => ?_, fun d' hl hd' => ?_⟩
    · exact .frame hP' hn' (hdrop ▸ ih.1 hl)
    · exact .frame hP' hn' (hdrop ▸ ih.2 d' hl hd')

/-! ## 2. Draining as a function -/

/-- Draining, with fuel for the frames; what is dropped is gone. -/
def drain (next : σ → List α → Verdict σ) : ℕ → σ → List α → Drained σ α
  | 0, s, xs => ⟨s, xs, true⟩
  | fuel + 1, s, xs =>
    match next s xs with
    | .more => ⟨s, xs, true⟩
    | .stop s' => ⟨s', [], false⟩
    | .drop => ⟨s, [], true⟩
    | .frame n s' => drain next fuel s' (xs.drop n)

/-- **The function finds what the relation says**, with one unit of fuel for each element. -/
theorem Drains.eq_drain (hp : Progress next P) {s : σ} {xs : List α} {d : Drained σ α}
    (h : Drains next P s xs d) : ∀ {fuel : ℕ}, xs.length < fuel → drain next fuel s xs = d := by
  induction h with
  | more hP hn =>
    intro fuel hfuel
    obtain ⟨fuel, rfl⟩ := Nat.exists_eq_add_of_lt hfuel
    simp only [drain, hn]
  | stop hP hn =>
    intro fuel hfuel
    obtain ⟨fuel, rfl⟩ := Nat.exists_eq_add_of_lt hfuel
    simp only [drain, hn]
  | drop hP hn =>
    intro fuel hfuel
    obtain ⟨fuel, rfl⟩ := Nat.exists_eq_add_of_lt hfuel
    simp only [drain, hn]
  | frame hP hn _ ih =>
    intro fuel hfuel
    obtain ⟨fuel, rfl⟩ := Nat.exists_eq_add_of_lt hfuel
    obtain ⟨hpos, hle⟩ := hp _ _ _ _ hP hn
    simp only [drain, hn]
    refine ih ?_
    rw [List.length_drop]
    omega

/-! ## 3. Chunks -/

/-- Chunk after chunk, each with what was left before it. Once the decoder has stopped, chunks are
skipped. -/
inductive Feeds (next : σ → List α → Verdict σ) (P : σ → List α → Prop) :
    Drained σ α → List (List α) → Drained σ α → Prop
  | nil (d : Drained σ α) : Feeds next P d [] d
  | skip {d d' : Drained σ α} {c : List α} {chunks : List (List α)} : d.live = false →
      Feeds next P d chunks d' → Feeds next P d (c :: chunks) d'
  | chunk {d d' d'' : Drained σ α} {c : List α} {chunks : List (List α)} : d.live = true →
      Drains next P d.state (d.rest ++ c) d' → Feeds next P d' chunks d'' →
      Feeds next P d (c :: chunks) d''

theorem Drains.feeds (hs : Stable next P) (hp : Progress next P) {s : σ} {xs : List α}
    {d d' : Drained σ α} {chunks : List (List α)} (h : Drains next P s xs d)
    (hf : Feeds next P d chunks d') : Drains next P s (xs ++ chunks.flatten) d' := by
  induction hf generalizing xs with
  | nil d => simpa using h
  | @skip d d' c chunks hl _ ih =>
    rw [List.flatten_cons, ← List.append_assoc]
    exact ih ((h.append hs hp c).1 hl)
  | @chunk d d' d'' c chunks hl hd _ ih =>
    rw [List.flatten_cons, ← List.append_assoc]
    exact ih ((h.append hs hp c).2 d' hl hd)

end FunPvp.Lib
