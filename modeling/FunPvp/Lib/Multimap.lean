/-
# Multimaps

A multimap is a list in the order of a key; a new entry goes behind all those whose key is not
greater. `putAll` puts the entries of one list into another, first to last.
-/
import Mathlib

namespace FunPvp.Lib

variable {α β κ κ' : Type*} [LinearOrder κ] [LinearOrder κ']

/-- The list with `x` at the upper bound of its key. -/
def put (key : α → κ) (x : α) (l : List α) : List α :=
  l.orderedInsert (fun a b => key a < key b) x

/-- The list with all of `xs` put into it. -/
def putAll (key : α → κ) (xs l : List α) : List α :=
  xs.foldl (fun acc x => put key x acc) l

def Ordered (key : α → κ) (l : List α) : Prop := l.Pairwise fun a b => key a ≤ key b

variable {key : α → κ} {key' : β → κ'} {x y : α} {xs l : List α}

theorem perm_put (key : α → κ) (x : α) (l : List α) : (put key x l).Perm (x :: l) :=
  List.perm_orderedInsert _ x l

@[simp] theorem mem_put : y ∈ put key x l ↔ y = x ∨ y ∈ l :=
  List.mem_orderedInsert _

theorem perm_putAll (key : α → κ) (xs l : List α) : (putAll key xs l).Perm (xs ++ l) := by
  induction xs generalizing l with
  | nil => exact .refl l
  | cons x xs ih =>
    have hput : (xs ++ put key x l).Perm (xs ++ x :: l) := (perm_put key x l).append_left xs
    exact ((ih _).trans hput).trans List.perm_middle

@[simp] theorem mem_putAll : y ∈ putAll key xs l ↔ y ∈ xs ∨ y ∈ l := by
  rw [(perm_putAll key xs l).mem_iff, List.mem_append]

theorem Ordered.put (h : Ordered key l) (x : α) : Ordered key (put key x l) := by
  induction l with
  | nil => exact List.pairwise_singleton _ x
  | cons a l ih =>
    obtain ⟨ha, hl⟩ := List.pairwise_cons.mp h
    rw [Lib.put, List.orderedInsert_cons]
    split
    · next hlt =>
      refine List.pairwise_cons.mpr ⟨fun b hb => ?_, h⟩
      rcases List.mem_cons.mp hb with rfl | hb
      · exact hlt.le
      · exact hlt.le.trans (ha b hb)
    · next hle =>
      refine List.pairwise_cons.mpr ⟨fun b hb => ?_, ih hl⟩
      rcases mem_put.mp hb with rfl | hb
      · exact not_lt.mp hle
      · exact ha b hb

theorem Ordered.putAll (h : Ordered key l) (xs : List α) : Ordered key (putAll key xs l) := by
  induction xs generalizing l with
  | nil => exact h
  | cons x xs ih => exact ih (h.put x)

/-- What the keys of two multimaps have to do with each other so that one is an image of the
other. -/
def KeyIso (key : α → κ) (key' : β → κ') (f : α → β) (s : Set α) : Prop :=
  ∀ a ∈ s, ∀ b ∈ s, (key a < key b ↔ key' (f a) < key' (f b))

theorem map_put {f : α → β} {s : Set α} (h : KeyIso key key' f s) (hx : x ∈ s)
    (hl : ∀ a ∈ l, a ∈ s) : (put key x l).map f = put key' (f x) (l.map f) :=
  List.map_orderedInsert _ _ f l x (fun a ha => h a (hl a ha) x hx)
    fun a ha => h x hx a (hl a ha)

theorem map_putAll {f : α → β} {s : Set α} (h : KeyIso key key' f s) (hxs : ∀ a ∈ xs, a ∈ s)
    (hl : ∀ a ∈ l, a ∈ s) : (putAll key xs l).map f = putAll key' (xs.map f) (l.map f) := by
  induction xs generalizing l with
  | nil => rfl
  | cons x xs ih =>
    obtain ⟨hx, hxs⟩ := List.forall_mem_cons.mp hxs
    have hput : ∀ a ∈ put key x l, a ∈ s := by
      intro a ha
      rcases mem_put.mp ha with rfl | ha
      · exact hx
      · exact hl a ha
    have hrest := ih hxs hput
    rw [map_put h hx hl] at hrest
    exact hrest

end FunPvp.Lib
