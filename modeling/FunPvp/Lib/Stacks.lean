/-
# Slots that hold stacks

A family of slots, each empty or holding a stack of one kind. `stock` counts what there is of a
kind over all slots; `Capped` says that no stack is empty or above the limit of its kind.

To store an amount one first books room: a list of slots, none twice, with how many go into each
(`Fits`). Storing then goes through the list one slot at a time (`Stores`), onto the stack that is
there or as a new one. If the booking fits, storing it adds its sum to the stock of its kind and
nothing else, and the slots stay capped.
-/
import Mathlib

namespace FunPvp.Lib

theorem sum_update_add {ι β : Type*} [DecidableEq ι] {t : Finset ι} {i : ι} (hi : i ∈ t) (w : β → ℕ)
    (f : ι → β) (x : β) :
    ∑ j ∈ t, w (Function.update f i x j) + w (f i) = ∑ j ∈ t, w (f j) + w x := by
  have hcomp : (fun j => w (Function.update f i x j)) =
      Function.update (fun j => w (f j)) i (w x) := by
    funext j
    exact Function.apply_update (fun _ => w) f i x j
  have hnew : ∑ j ∈ t, w (Function.update f i x j) = w x + ∑ j ∈ t \ {i}, w (f j) := by
    rw [hcomp, Finset.sum_update_of_mem hi]
  have hold : ∑ j ∈ t, w (f j) = w (f i) + ∑ j ∈ t \ {i}, w (f j) := by
    rw [← Finset.sum_update_of_mem hi]
    exact congrArg (fun g : ι → ℕ => ∑ j ∈ t, g j) (Function.update_eq_self i _).symm
  rw [hnew, hold]
  omega

/-- How a slot's content is counted: its kind, how many there are, and how many there may be. -/
structure Stacking (α κ : Type*) where
  kind : α → κ
  count : α → ℕ
  cap : κ → ℕ

namespace Stacking

variable {ι α κ : Type*} (S : Stacking α κ)

/-! ## 1. What is counted -/

def amount [DecidableEq κ] (k : κ) : Option α → ℕ
  | none => 0
  | some a => if S.kind a = k then S.count a else 0

/-- How much of a kind there is in all slots. -/
def stock [DecidableEq κ] [Fintype ι] (b : ι → Option α) (k : κ) : ℕ := ∑ i, S.amount k (b i)

/-- No stack is empty or above its limit. -/
def Capped (b : ι → Option α) : Prop :=
  ∀ i a, b i = some a → 0 < S.count a ∧ S.count a ≤ S.cap (S.kind a)

/-- There is room for `n` more of the kind. -/
def Room (k : κ) (n : ℕ) : Option α → Prop
  | none => 0 < n ∧ n ≤ S.cap k
  | some a => S.kind a = k ∧ 0 < n ∧ S.count a + n ≤ S.cap k

/-- A booking: no slot is booked twice, and each has the room booked in it. -/
structure Fits (b : ι → Option α) (k : κ) (vec : List (ι × ℕ)) : Prop where
  nodup : (vec.map Prod.fst).Nodup
  room : ∀ p ∈ vec, S.Room k p.2 (b p.1)

/-- An amount is stored slot by slot: each slot booked then holds a stack of the kind, of what was
there and what has come. -/
inductive Stores [DecidableEq ι] [DecidableEq κ] (k : κ) :
    (ι → Option α) → List (ι × ℕ) → (ι → Option α) → Prop
  | nil {b} : Stores k b [] b
  | cons {b b' i n vec a} : S.kind a = k → S.count a = S.amount k (b i) + n →
      Stores k (Function.update b i (some a)) vec b' → Stores k b ((i, n) :: vec) b'

variable {S} {b b' : ι → Option α} {i j : ι} {k e : κ} {a : α} {n : ℕ} {vec : List (ι × ℕ)}

/-! ## 2. Room -/

theorem Room.pos {x : Option α} (h : S.Room k n x) : 0 < n := by
  cases x with
  | none => exact h.1
  | some a => exact h.2.1

theorem Room.of_some {a a' : α} (h : S.Room k n (some a)) (hkind : S.kind a' = S.kind a)
    (hcount : S.count a' ≤ S.count a) : S.Room k n (some a') :=
  ⟨hkind.trans h.1, h.2.1, (Nat.add_le_add_right hcount n).trans h.2.2⟩

theorem Fits.nil : S.Fits b k [] where
  nodup := List.nodup_nil
  room := by
    intro p hp
    exact absurd hp List.not_mem_nil

theorem Fits.concat (h : S.Fits b k vec) (hi : i ∉ vec.map Prod.fst) (hroom : S.Room k n (b i)) :
    S.Fits b k (vec ++ [(i, n)]) where
  nodup := by
    rw [List.map_append]
    exact h.nodup.append (List.nodup_singleton i) (List.disjoint_singleton.mpr hi)
  room := by
    intro p hp
    rcases List.mem_append.mp hp with hp | hp
    · exact h.room p hp
    · rw [List.mem_singleton.mp hp]
      exact hroom

theorem Fits.congr (h : S.Fits b k vec)
    (hb : ∀ p ∈ vec, S.Room k p.2 (b p.1) → S.Room k p.2 (b' p.1)) : S.Fits b' k vec where
  nodup := h.nodup
  room := fun p hp => hb p hp (h.room p hp)

theorem Fits.not_mem_tail (h : S.Fits b k ((i, n) :: vec)) : i ∉ vec.map Prod.fst :=
  (List.nodup_cons.mp h.nodup).1

variable [DecidableEq ι]

theorem Fits.tail (h : S.Fits b k ((i, n) :: vec)) :
    S.Fits (Function.update b i (some a)) k vec where
  nodup := (List.nodup_cons.mp h.nodup).2
  room := by
    intro p hp
    have hne : p.1 ≠ i := by
      intro hpi
      exact h.not_mem_tail (List.mem_map.mpr ⟨p, hp, hpi⟩)
    rw [Function.update_of_ne hne]
    exact h.room p (List.mem_cons_of_mem _ hp)

theorem Capped.update_some (h : S.Capped b) (hpos : 0 < S.count a)
    (hcap : S.count a ≤ S.cap (S.kind a)) : S.Capped (Function.update b i (some a)) := by
  intro j a' hj
  by_cases hji : j = i
  · subst hji
    rw [Function.update_self, Option.some.injEq] at hj
    subst hj
    exact ⟨hpos, hcap⟩
  · rw [Function.update_of_ne hji] at hj
    exact h j a' hj

theorem Capped.update_none (h : S.Capped b) : S.Capped (Function.update b i none) := by
  intro j a hj
  by_cases hji : j = i
  · subst hji
    rw [Function.update_self] at hj
    exact absurd hj (by simp)
  · rw [Function.update_of_ne hji] at hj
    exact h j a hj

/-! ## 3. Stock -/

variable [DecidableEq κ]

@[simp] theorem amount_none (k : κ) : S.amount k none = 0 := rfl

theorem amount_some_self (h : S.kind a = k) : S.amount k (some a) = S.count a := if_pos h

theorem amount_some_ne (h : S.kind a ≠ k) : S.amount k (some a) = 0 := if_neg h

theorem Room.le_cap {x : Option α} (h : S.Room k n x) : S.amount k x + n ≤ S.cap k := by
  cases x with
  | none =>
    rw [amount_none, Nat.zero_add]
    exact h.2
  | some a =>
    rw [amount_some_self h.1]
    exact h.2.2

theorem Room.amount_ne {x : Option α} (h : S.Room k n x) (he : k ≠ e) : S.amount e x = 0 := by
  cases x with
  | none => rfl
  | some a =>
    refine amount_some_ne ?_
    rw [h.1]
    exact he

theorem stock_update [Fintype ι] (x : Option α) :
    S.stock (Function.update b i x) e + S.amount e (b i) = S.stock b e + S.amount e x :=
  sum_update_add (Finset.mem_univ i) (S.amount e) b x

/-! ## 4. Storing -/

theorem Stores.capped (h : S.Stores k b vec b') (hfit : S.Fits b k vec) (hcap : S.Capped b) :
    S.Capped b' := by
  induction h with
  | nil => exact hcap
  | @cons b b' i n vec a hkind hcount hrest ih =>
    have hroom := hfit.room (i, n) List.mem_cons_self
    refine ih hfit.tail (hcap.update_some ?_ ?_)
    · have := hroom.pos
      omega
    · rw [hcount, hkind]
      exact hroom.le_cap

/-! ## 5. The stock of some slots -/

/-- How much of a kind there is in some of the slots. -/
def stockOn (S : Stacking α κ) (t : Finset ι) (b : ι → Option α) (k : κ) : ℕ :=
  ∑ i ∈ t, S.amount k (b i)

theorem stockOn_update {t : Finset ι} (hi : i ∈ t) (x : Option α) :
    S.stockOn t (Function.update b i x) e + S.amount e (b i) = S.stockOn t b e + S.amount e x :=
  sum_update_add hi (S.amount e) b x

/-- **Storing a booking that fits adds its sum to the stock of its kind, and nothing to the
stock of another.** -/
theorem Stores.stockOn {t : Finset ι} (h : S.Stores k b vec b') (hfit : S.Fits b k vec)
    (hvec : ∀ p ∈ vec, p.1 ∈ t) :
    S.stockOn t b' e = S.stockOn t b e + if k = e then (vec.map Prod.snd).sum else 0 := by
  induction h with
  | nil => simp
  | @cons b b' i n vec a hkind hcount hrest ih =>
    have hi : i ∈ t := hvec (i, n) List.mem_cons_self
    have hupd := stockOn_update (S := S) (b := b) (e := e) hi (some a)
    rw [ih hfit.tail fun p hp => hvec p (List.mem_cons_of_mem _ hp)]
    by_cases he : k = e
    · subst he
      rw [amount_some_self hkind] at hupd
      simp only [if_true, List.map_cons, List.sum_cons]
      omega
    · rw [amount_some_ne (hkind.trans_ne he),
        (hfit.room (i, n) List.mem_cons_self).amount_ne he] at hupd
      simp only [if_neg he]
      omega

theorem Stores.stock [Fintype ι] (h : S.Stores k b vec b') (hfit : S.Fits b k vec) :
    S.stock b' e = S.stock b e + if k = e then (vec.map Prod.snd).sum else 0 :=
  h.stockOn hfit fun p _ => Finset.mem_univ p.1

end Stacking

end FunPvp.Lib
