/-
# Ordered sets

An ordered set over a linear order is the strictly ascending list of its elements; the order is
a field, so a list that is out of order or holds an element twice is not one. It is what a
container that iterates in key order (a search tree) looks like from outside.
-/
import Mathlib

namespace FunPvp.Lib

/-- The elements, in ascending order. -/
@[ext] structure OrderedSet (α : Type*) [LinearOrder α] where
  elems : List α
  sorted : elems.Pairwise (· < ·)
deriving DecidableEq

namespace OrderedSet

variable {α : Type*} [LinearOrder α]

def empty : OrderedSet α := ⟨[], List.Pairwise.nil⟩

def singleton (x : α) : OrderedSet α := ⟨[x], List.pairwise_singleton _ x⟩

def size (s : OrderedSet α) : ℕ := s.elems.length

/-! ## 1. Insertion and removal -/

/-- Insertion into the list of a set; an element that is there stays where it is. -/
def insertElems (x : α) : List α → List α
  | [] => [x]
  | y :: l => if x < y then x :: y :: l else if x = y then y :: l else y :: insertElems x l

variable {x z : α} {l : List α} {s : OrderedSet α}

theorem mem_insertElems (l : List α) : z ∈ insertElems x l ↔ z = x ∨ z ∈ l := by
  induction l with
  | nil => simp [insertElems]
  | cons y l ih =>
    unfold insertElems
    split
    · simp
    · split
      · next h => subst h; simp
      · simp only [List.mem_cons, ih]; tauto

theorem pairwise_insertElems {x : α} (h : l.Pairwise (· < ·)) :
    (insertElems x l).Pairwise (· < ·) := by
  induction l with
  | nil => exact List.pairwise_singleton _ _
  | cons y l ih =>
    obtain ⟨hy, hl⟩ := List.pairwise_cons.mp h
    unfold insertElems
    split
    · next hlt =>
      refine List.pairwise_cons.mpr ⟨fun z hz => ?_, h⟩
      rcases List.mem_cons.mp hz with rfl | hz
      · exact hlt
      · exact lt_trans hlt (hy z hz)
    · next hge =>
      split
      · exact h
      · next hne =>
        refine List.pairwise_cons.mpr ⟨fun z hz => ?_, ih hl⟩
        rcases (mem_insertElems l).mp hz with rfl | hz
        · exact lt_of_le_of_ne (not_lt.mp hge) (Ne.symm hne)
        · exact hy z hz

def insert (s : OrderedSet α) (x : α) : OrderedSet α :=
  ⟨insertElems x s.elems, pairwise_insertElems s.sorted⟩

def erase (s : OrderedSet α) (x : α) : OrderedSet α :=
  ⟨s.elems.erase x, s.sorted.sublist List.erase_sublist⟩

/-! ## 2. Membership -/

instance : Membership α (OrderedSet α) := ⟨fun s x => x ∈ s.elems⟩

instance (s : OrderedSet α) (x : α) : Decidable (x ∈ s) :=
  inferInstanceAs (Decidable (x ∈ s.elems))

theorem mem_def {x : α} : x ∈ s ↔ x ∈ s.elems := Iff.rfl

@[simp] theorem mem_insert : z ∈ s.insert x ↔ z = x ∨ z ∈ s :=
  mem_insertElems s.elems

theorem mem_of_mem_erase (h : z ∈ s.erase x) : z ∈ s :=
  List.mem_of_mem_erase h

theorem head_mem {x : α} (hs : s.elems = x :: l) : x ∈ s := by
  rw [mem_def, hs]; exact List.mem_cons_self

theorem head_le (hs : s.elems = x :: l) (hz : z ∈ s) : x ≤ z := by
  have hp := s.sorted
  rw [hs] at hp
  rw [mem_def, hs] at hz
  rcases List.mem_cons.mp hz with rfl | hz
  · exact le_refl _
  · exact le_of_lt ((List.pairwise_cons.mp hp).1 z hz)

theorem nodup (s : OrderedSet α) : s.elems.Nodup := s.sorted.imp fun h => ne_of_lt h

@[simp] theorem mem_erase : z ∈ s.erase x ↔ z ≠ x ∧ z ∈ s :=
  s.nodup.mem_erase_iff

@[simp] theorem not_mem_empty (x : α) : x ∉ (empty : OrderedSet α) := List.not_mem_nil

/-! ## 3. Size -/

theorem size_insert_le (s : OrderedSet α) (x : α) : (s.insert x).size ≤ s.size + 1 := by
  have hsub : (s.insert x).elems ⊆ x :: s.elems := fun z hz =>
    List.mem_cons.mpr (mem_insert.mp hz)
  simpa [size] using (s.insert x).nodup.length_le_of_subset hsub

theorem size_erase_of_mem {x : α} (h : x ∈ s) :
    (s.erase x).size = s.size - 1 := List.length_erase_of_mem h

theorem size_ne_zero {x : α} (h : x ∈ s) : s.size ≠ 0 :=
  (List.length_pos_of_mem h).ne'

end OrderedSet

end FunPvp.Lib
