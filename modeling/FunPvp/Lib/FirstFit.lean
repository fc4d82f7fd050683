/-
# First-fit scans

A scan walks a list with a running total. An item that is no candidate is passed over; a
candidate is taken if it still fits under the cap; and after each candidate the scan may stop,
depending on whether the candidate was taken and on the total.

`Reaches` says that the scan comes to an item while there is room for it. That is how a scan
takes an item, so a selection that is extended by a second scan stays free of duplicates exactly
when the second scan reaches nothing the selection has.

`keepFitting` is first fit for a property of the whole selection: an item is kept if the selection
has the property with it.
-/
import Mathlib

namespace FunPvp.Lib

/-- What a scan looks at, how much room there is, and when it stops. -/
structure Scan (α : Type*) where
  size : α → ℕ
  cand : α → Bool
  cap : ℕ
  /-- Was the candidate taken, and what is the total now? -/
  stop : Bool → ℕ → Bool

namespace Scan

variable {α : Type*} (r : Scan α)

/-- The items a scan takes, in order, when it starts with the total `c`. -/
def taken : ℕ → List α → List α
  | _, [] => []
  | c, x :: l =>
    if r.cand x then
      if c + r.size x ≤ r.cap then
        x :: if r.stop true (c + r.size x) then [] else taken (c + r.size x) l
      else if r.stop false c then [] else taken c l
    else taken c l

/-- Where the scan is when it ends: at the item it stopped at, or behind the last one. -/
def rest : ℕ → List α → List α
  | _, [] => []
  | c, x :: l =>
    if r.cand x then
      if c + r.size x ≤ r.cap then
        if r.stop true (c + r.size x) then x :: l else rest (c + r.size x) l
      else if r.stop false c then x :: l else rest c l
    else rest c l

def total (l : List α) : ℕ := (l.map r.size).sum

@[simp] theorem total_nil : r.total [] = 0 := rfl

@[simp] theorem total_cons (x : α) (l : List α) : r.total (x :: l) = r.size x + r.total l := by
  simp [total]

/-- The scan comes to the item `g` while there is room for it. -/
inductive Reaches : ℕ → List α → α → Prop
  | here {c g l} : r.cand g = true → c + r.size g ≤ r.cap → Reaches c (g :: l) g
  | pass {c x l g} : r.cand x = false → Reaches c l g → Reaches c (x :: l) g
  | take {c x l g} : r.cand x = true → c + r.size x ≤ r.cap →
      r.stop true (c + r.size x) = false → Reaches (c + r.size x) l g → Reaches c (x :: l) g
  | leave {c x l g} : r.cand x = true → ¬ c + r.size x ≤ r.cap → r.stop false c = false →
      Reaches c l g → Reaches c (x :: l) g

variable {r}

theorem taken_sublist (c : ℕ) (l : List α) : (r.taken c l).Sublist l := by
  induction l generalizing c with
  | nil => exact List.Sublist.refl _
  | cons x l ih =>
    unfold taken
    split
    · split
      · refine List.Sublist.cons_cons x ?_
        split
        · exact List.nil_sublist _
        · exact ih _
      · split
        · exact List.nil_sublist _
        · exact (ih c).cons x
    · exact (ih c).cons x

theorem rest_suffix (c : ℕ) (l : List α) : r.rest c l <:+ l := by
  induction l generalizing c with
  | nil => exact List.suffix_refl _
  | cons x l ih =>
    unfold rest
    split
    · split
      · split
        · exact List.suffix_refl _
        · exact (ih _).trans (List.suffix_cons x l)
      · split
        · exact List.suffix_refl _
        · exact (ih c).trans (List.suffix_cons x l)
    · exact (ih c).trans (List.suffix_cons x l)

theorem mem_taken_iff {c : ℕ} {l : List α} {g : α} : g ∈ r.taken c l ↔ r.Reaches c l g := by
  constructor
  · intro h
    induction l generalizing c with
    | nil => exact absurd h List.not_mem_nil
    | cons x l ih =>
      unfold taken at h
      split at h
      · next hcand =>
        split at h
        · next hfits =>
          rcases List.mem_cons.mp h with rfl | h
          · exact .here hcand hfits
          · split at h
            · exact absurd h List.not_mem_nil
            · next hstop => exact .take hcand hfits (Bool.eq_false_iff.mpr hstop) (ih h)
        · next hfits =>
          split at h
          · exact absurd h List.not_mem_nil
          · next hstop => exact .leave hcand hfits (Bool.eq_false_iff.mpr hstop) (ih h)
      · next hcand => exact .pass (Bool.eq_false_iff.mpr hcand) (ih h)
  · intro h
    induction h with
    | here hcand hfits => simp [taken, hcand, hfits]
    | pass hcand _ ih => simpa [taken, hcand] using ih
    | take hcand hfits hstop _ ih => simp [taken, hcand, hfits, hstop, ih]
    | leave hcand hfits hstop _ ih => simpa [taken, hcand, hfits, hstop] using ih

theorem Reaches.cand {c : ℕ} {l : List α} {g : α} (h : r.Reaches c l g) : r.cand g = true := by
  induction h with
  | here hcand _ => exact hcand
  | pass _ _ ih => exact ih
  | take _ _ _ _ ih => exact ih
  | leave _ _ _ _ ih => exact ih

theorem total_taken_le {c : ℕ} (hc : c ≤ r.cap) (l : List α) :
    c + r.total (r.taken c l) ≤ r.cap := by
  induction l generalizing c with
  | nil => simpa [taken] using hc
  | cons x l ih =>
    unfold taken
    split
    · split
      · next hfits =>
        rw [total_cons]
        split
        · simpa using hfits
        · have := ih hfits
          omega
      · split
        · simpa using hc
        · exact ih hc
    · exact ih hc

end Scan

/-! ## Selections with a property -/

section KeepFitting

variable {α : Type*} (P : List α → Prop)

open Classical in
/-- The selection that starts with `kept` and takes each item with which it has the property. -/
noncomputable def keepFitting : List α → List α → List α
  | kept, [] => kept
  | kept, x :: l => if P (kept ++ [x]) then keepFitting (kept ++ [x]) l else keepFitting kept l

variable {P} {kept l : List α} {x : α}

@[simp] theorem keepFitting_nil : keepFitting P kept [] = kept := rfl

theorem keepFitting_of_pos (h : P (kept ++ [x])) :
    keepFitting P kept (x :: l) = keepFitting P (kept ++ [x]) l := if_pos h

theorem keepFitting_of_neg (h : ¬ P (kept ++ [x])) :
    keepFitting P kept (x :: l) = keepFitting P kept l := if_neg h

theorem keepFitting_eq_self (h : ∀ x ∈ l, ¬ P (kept ++ [x])) : keepFitting P kept l = kept := by
  induction l with
  | nil => rfl
  | cons x l ih =>
    rw [keepFitting_of_neg (h x List.mem_cons_self)]
    exact ih fun y hy => h y (List.mem_cons_of_mem x hy)

end KeepFitting

end FunPvp.Lib
