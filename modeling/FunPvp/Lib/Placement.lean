/-
# Items in a family of lists

A family of lists over an index type holds every item at most once: no list holds it twice, and
no two lists hold it. Taking an item out, putting a new one in at either end, and moving one
from a list to another keep that; what matters of each operation afterwards is where the items
are, so each has one lemma that says so.
-/
import Mathlib

namespace FunPvp.Lib

variable {ι α : Type*}

/-- Every item has at most one place. -/
structure Placed (lists : ι → List α) : Prop where
  nodup : ∀ i, (lists i).Nodup
  unique : ∀ {i j : ι} {a : α}, a ∈ lists i → a ∈ lists j → i = j

def Listed (lists : ι → List α) (a : α) : Prop := ∃ i, a ∈ lists i

/-- The end at which a list is added to. -/
inductive ListEnd
  | front | back
deriving DecidableEq

/-- `push_front` and `push_back`. -/
def ListEnd.push (e : ListEnd) (a : α) (l : List α) : List α :=
  match e with
  | .front => a :: l
  | .back => l ++ [a]

@[simp] theorem ListEnd.mem_push {e : ListEnd} {a x : α} {l : List α} :
    x ∈ e.push a l ↔ x = a ∨ x ∈ l := by
  cases e with
  | front => exact List.mem_cons
  | back => simp [ListEnd.push, or_comm]

theorem ListEnd.nodup_push {e : ListEnd} {a : α} {l : List α} (h : l.Nodup) (ha : a ∉ l) :
    (e.push a l).Nodup := by
  cases e with
  | front => exact List.nodup_cons.mpr ⟨ha, h⟩
  | back => exact h.append (List.nodup_singleton a) (List.disjoint_singleton.mpr ha)

theorem ListEnd.filter_push {e : ListEnd} {a : α} {p : α → Bool} (hp : p a = false) (l : List α) :
    (e.push a l).filter p = l.filter p := by
  cases e with
  | front => exact List.filter_cons_of_neg (by simp [hp])
  | back => simp [ListEnd.push, hp]

variable [DecidableEq ι] {lists : ι → List α} {i j : ι} {a x : α} {e : ListEnd}

/-! ## 1. Putting in -/

/-- The item is added to one of the lists. -/
def putIn (e : ListEnd) (lists : ι → List α) (i : ι) (a : α) : ι → List α :=
  Function.update lists i (e.push a (lists i))

theorem mem_putIn : x ∈ putIn e lists i a j ↔ (x = a ∧ j = i) ∨ x ∈ lists j := by
  by_cases hj : j = i
  · subst hj
    simp [putIn]
  · simp [putIn, hj]

theorem listed_putIn : Listed (putIn e lists i a) x ↔ x = a ∨ Listed lists x := by
  simp only [Listed, mem_putIn]
  constructor
  · rintro ⟨j, ⟨hx, -⟩ | hx⟩
    · exact Or.inl hx
    · exact Or.inr ⟨j, hx⟩
  · rintro (hx | ⟨j, hx⟩)
    · exact ⟨i, Or.inl ⟨hx, rfl⟩⟩
    · exact ⟨j, Or.inr hx⟩

theorem Placed.putIn (h : Placed lists) (ha : ¬ Listed lists a) : Placed (putIn e lists i a) where
  nodup := by
    intro j
    by_cases hj : j = i
    · subst hj
      rw [FunPvp.Lib.putIn, Function.update_self]
      exact ListEnd.nodup_push (h.nodup j) fun hm => ha ⟨j, hm⟩
    · rw [FunPvp.Lib.putIn, Function.update_of_ne hj]
      exact h.nodup j
  unique := by
    intro j k x hj hk
    rw [mem_putIn] at hj hk
    rcases hj with ⟨rfl, rfl⟩ | hj
    · rcases hk with ⟨-, rfl⟩ | hk
      · rfl
      · exact absurd ⟨k, hk⟩ ha
    · rcases hk with ⟨rfl, rfl⟩ | hk
      · exact absurd ⟨j, hj⟩ ha
      · exact h.unique hj hk

/-! ## 2. Taking out -/

variable [DecidableEq α]

/-- The item is erased from one of the lists. -/
def takeOut (lists : ι → List α) (i : ι) (a : α) : ι → List α :=
  Function.update lists i ((lists i).erase a)

theorem takeOut_subset (hx : x ∈ takeOut lists i a j) : x ∈ lists j := by
  by_cases hj : j = i
  · subst hj
    rw [takeOut, Function.update_self] at hx
    exact List.mem_of_mem_erase hx
  · rwa [takeOut, Function.update_of_ne hj] at hx

theorem mem_takeOut (h : Placed lists) (ha : a ∈ lists i) :
    x ∈ takeOut lists i a j ↔ x ≠ a ∧ x ∈ lists j := by
  by_cases hj : j = i
  · subst hj
    rw [takeOut, Function.update_self, (h.nodup j).mem_erase_iff]
  · rw [takeOut, Function.update_of_ne hj]
    refine ⟨fun hx => ⟨?_, hx⟩, fun hx => hx.2⟩
    rintro rfl
    exact hj (h.unique hx ha)

theorem listed_takeOut (h : Placed lists) (ha : a ∈ lists i) :
    Listed (takeOut lists i a) x ↔ x ≠ a ∧ Listed lists x := by
  simp only [Listed, mem_takeOut h ha]
  exact ⟨fun ⟨j, hne, hx⟩ => ⟨hne, j, hx⟩, fun ⟨hne, j, hx⟩ => ⟨j, hne, hx⟩⟩

theorem Placed.takeOut (h : Placed lists) : Placed (takeOut lists i a) where
  nodup := by
    intro j
    by_cases hj : j = i
    · subst hj
      rw [FunPvp.Lib.takeOut, Function.update_self]
      exact (h.nodup j).erase a
    · rw [FunPvp.Lib.takeOut, Function.update_of_ne hj]
      exact h.nodup j
  unique := fun hi hj => h.unique (takeOut_subset hi) (takeOut_subset hj)

/-! ## 3. Moving -/

/-- The item is added to the list `dst` and erased from the list `src`. -/
def moveTo (e : ListEnd) (lists : ι → List α) (src dst : ι) (a : α) : ι → List α :=
  takeOut (putIn e lists dst a) src a

variable {src dst : ι}

theorem moveTo_eq (hne : src ≠ dst) :
    moveTo e lists src dst a = putIn e (takeOut lists src a) dst a := by
  unfold moveTo putIn takeOut
  rw [Function.update_of_ne hne, Function.update_of_ne hne.symm, Function.update_comm hne]

/-- **Where the items are after a move**: the item at its new place, the others where they
were. -/
theorem mem_moveTo (h : Placed lists) (hne : src ≠ dst) (ha : a ∈ lists src) :
    x ∈ moveTo e lists src dst a j ↔ (x = a ∧ j = dst) ∨ (x ≠ a ∧ x ∈ lists j) := by
  rw [moveTo_eq hne, mem_putIn, mem_takeOut h ha]

theorem Placed.moveTo (h : Placed lists) (hne : src ≠ dst) (ha : a ∈ lists src) :
    Placed (moveTo e lists src dst a) := by
  rw [moveTo_eq hne]
  refine h.takeOut.putIn fun hl => ?_
  exact ((listed_takeOut h ha).mp hl).1 rfl

theorem listed_moveTo (h : Placed lists) (hne : src ≠ dst) (ha : a ∈ lists src) :
    Listed (moveTo e lists src dst a) x ↔ Listed lists x := by
  rw [moveTo_eq hne, listed_putIn, listed_takeOut h ha]
  constructor
  · rintro (rfl | hx)
    · exact ⟨src, ha⟩
    · exact hx.2
  · intro hx
    by_cases hxa : x = a
    · exact Or.inl hxa
    · exact Or.inr ⟨hxa, hx⟩

theorem perm_moveTo (hne : src ≠ dst) (ha : a ∈ lists src) :
    (moveTo e lists src dst a src ++ moveTo e lists src dst a dst).Perm
      (lists src ++ lists dst) := by
  have hsrc : moveTo e lists src dst a src = (lists src).erase a := by
    rw [moveTo_eq hne, putIn, Function.update_of_ne hne, takeOut, Function.update_self]
  have hdst : moveTo e lists src dst a dst = e.push a (lists dst) := by
    rw [moveTo_eq hne, putIn, Function.update_self, takeOut, Function.update_of_ne hne.symm]
  have hpush : (e.push a (lists dst)).Perm (a :: lists dst) := by
    cases e with
    | front => exact List.Perm.refl _
    | back => exact List.perm_append_singleton a (lists dst)
  rw [hsrc, hdst]
  calc ((lists src).erase a ++ e.push a (lists dst)).Perm
        ((lists src).erase a ++ a :: lists dst) := hpush.append_left _
    List.Perm _ (a :: ((lists src).erase a ++ lists dst)) := List.perm_middle
    List.Perm _ (lists src ++ lists dst) := (List.perm_cons_erase ha).symm.append_right _

/-! ## 4. The order of the others -/

theorem filter_erase_of_neg {p : α → Bool} (hp : p a = false) (l : List α) :
    (l.erase a).filter p = l.filter p := by
  rw [← List.erase_filter, List.erase_of_not_mem]
  simp [List.mem_filter, hp]

theorem filter_moveTo {p : α → Bool} (hp : p a = false) (j : ι) :
    (moveTo e lists src dst a j).filter p = (lists j).filter p := by
  have hput : (putIn e lists dst a j).filter p = (lists j).filter p := by
    by_cases hj : j = dst
    · subst hj
      rw [putIn, Function.update_self, ListEnd.filter_push hp]
    · rw [putIn, Function.update_of_ne hj]
  unfold moveTo takeOut
  by_cases hj : j = src
  · subst hj
    rw [Function.update_self, filter_erase_of_neg hp, hput]
  · rw [Function.update_of_ne hj, hput]

end FunPvp.Lib
