/-
# Taking turns

A list of different elements is gone round: `inTurn l cur` is the list in the order in which it
comes to the turn of each after `cur`, himself last, and the list as it is if `cur` is not on it.
Picking the first with a given property from it, again and again, picks the elements with the
property in one cyclic order (`pick_eq`), so nobody is picked twice before all have been
(`pick_fair`).
-/
import Mathlib

namespace FunPvp.Lib

variable {α : Type*} [DecidableEq α]

/-- The list from behind `cur` on, and round to it. -/
def inTurn (l : List α) (cur : α) : List α := l.rotate (if cur ∈ l then l.idxOf cur + 1 else 0)

/-- Nobody is picked twice before everybody has been. There may be steps at which nobody is. -/
def Fair (members : List α) (pick : ℕ → Option α) : Prop :=
  ∀ i k x, i < k → pick i = some x → pick k = some x →
    ∀ y ∈ members, ∃ m, i ≤ m ∧ m < k ∧ pick m = some y

section InTurn

variable {l a b u v : List α} {cur y : α} {p : α → Bool}

theorem inTurn_of_notMem (h : cur ∉ l) : inTurn l cur = l := by
  rw [inTurn, if_neg h, List.rotate_zero]

theorem inTurn_split (h : y ∉ u) : inTurn (u ++ y :: v) y = v ++ u ++ [y] := by
  have hidx : (u ++ y :: v).idxOf y = u.length := by
    rw [List.idxOf_append_of_notMem h, List.idxOf_cons_self, Nat.add_zero]
  have hmem : y ∈ u ++ y :: v := List.mem_append_right u List.mem_cons_self
  have hcons : u ++ y :: v = (u ++ [y]) ++ v := by rw [List.append_assoc]; rfl
  have hlength : u.length + 1 = (u ++ [y]).length := by rw [List.length_append]; rfl
  rw [inTurn, if_pos hmem, hidx, hcons, hlength, List.rotate_append_length_eq, List.append_assoc]

theorem inTurn_perm (l : List α) (cur : α) : (inTurn l cur).Perm l := List.rotate_perm l _

/-- **After somebody's turn come those who came after him before**, and then those who came before
him. -/
theorem inTurn_step (hl : l.Nodup) (h : inTurn l cur = a ++ y :: b) :
    inTurn l y = b ++ a ++ [y] := by
  obtain ⟨n, hn⟩ : ∃ n, l.rotate n = a ++ y :: b := ⟨_, h⟩
  obtain ⟨s, t, rfl, hst⟩ : ∃ s t, l = s ++ t ∧ t ++ s = a ++ y :: b := by
    refine ⟨l.take (n % l.length), l.drop (n % l.length), (List.take_append_drop _ l).symm, ?_⟩
    rw [← hn, List.rotate_eq_drop_append_take_mod]
  have hsplit (u v : List α) (heq : s ++ t = u ++ y :: v) : inTurn (s ++ t) y = v ++ u ++ [y] := by
    rw [heq] at hl ⊢
    have hnot := (List.nodup_cons.mp (List.nodup_middle.mp hl)).1
    exact inTurn_split fun hmem => hnot (List.mem_append_left v hmem)
  rcases List.append_eq_append_iff.mp hst with ⟨a', rfl, rfl⟩ | ⟨t', rfl, ht⟩
  · -- he is in the part that is gone over second
    rw [hsplit a' (b ++ t) (by simp)]
    simp
  · cases t' with
    | nil =>
      obtain rfl : s = y :: b := ht.symm
      rw [hsplit [] (b ++ a) (by simp)]
      simp
    | cons z t'' =>
      obtain ⟨rfl, rfl⟩ := List.cons.inj ht
      rw [hsplit (s ++ a) t'' (by simp)]
      simp

theorem filter_inTurn_step (hl : l.Nodup) (h : (inTurn l cur).filter p = y :: v) :
    (inTurn l y).filter p = v ++ [y] := by
  obtain ⟨a, b, hab, ha, hy, hb⟩ := List.filter_eq_cons_iff.mp h
  have hnone : a.filter p = [] := List.filter_eq_nil_iff.mpr ha
  rw [inTurn_step hl hab, List.filter_append, List.filter_append, hb, hnone, List.append_nil,
    List.filter_singleton, hy]
  rfl

variable {c : ℕ → α} {picks : ℕ → Prop} [DecidablePred picks]

/-- **The picks go round**: each is the next in one list of those with the property. -/
theorem pick_eq (hl : l.Nodup) (hkeep : ∀ n, ¬picks n → c (n + 1) = c n)
    (hpick : ∀ n x, picks n → (inTurn l (c n)).find? p = some x → c (n + 1) = x)
    (hsome : (inTurn l (c 0)).filter p ≠ []) (n : ℕ) :
    (inTurn l (c n)).filter p = ((inTurn l (c 0)).filter p).rotate (Nat.count picks n) ∧
      (picks n → ((inTurn l (c 0)).filter p)[Nat.count picks n %
        ((inTurn l (c 0)).filter p).length]? = some (c (n + 1))) := by
  have hhead (n : ℕ) (hn : picks n)
      (h : (inTurn l (c n)).filter p = ((inTurn l (c 0)).filter p).rotate (Nat.count picks n)) :
      ∃ v, ((inTurn l (c 0)).filter p).rotate (Nat.count picks n) = c (n + 1) :: v := by
    cases hrotate : ((inTurn l (c 0)).filter p).rotate (Nat.count picks n) with
    | nil => exact absurd (List.rotate_eq_nil_iff.mp hrotate) hsome
    | cons x v =>
      have hfind : (inTurn l (c n)).find? p = some x := by
        rw [← List.head?_filter, h, hrotate]
        rfl
      exact ⟨v, by rw [hpick n x hn hfind]⟩
  have hrotated :
      (inTurn l (c n)).filter p = ((inTurn l (c 0)).filter p).rotate (Nat.count picks n) := by
    induction n with
    | zero => rw [Nat.count_zero, List.rotate_zero]
    | succ n ih =>
      rw [Nat.count_succ]
      by_cases hn : picks n
      · obtain ⟨v, hv⟩ := hhead n hn ih
        rw [if_pos hn, ← List.rotate_rotate, hv, filter_inTurn_step hl (ih.trans hv),
          List.rotate_cons_succ, List.rotate_zero]
      · rw [if_neg hn, hkeep n hn, Nat.add_zero]
        exact ih
  refine ⟨hrotated, fun hn => ?_⟩
  obtain ⟨v, hv⟩ := hhead n hn hrotated
  have hlt := Nat.mod_lt (Nat.count picks n) (List.length_pos_of_ne_nil hsome)
  rw [← List.head?_rotate hlt, List.rotate_mod, hv]
  rfl

theorem exists_count_eq {q k : ℕ} (h : q < Nat.count picks k) :
    ∃ m < k, picks m ∧ Nat.count picks m = q := by
  induction k with
  | zero => cases h
  | succ k ih =>
    by_cases hq : q < Nat.count picks k
    · obtain ⟨m, hm, hpicks⟩ := ih hq
      exact ⟨m, Nat.lt_succ_of_lt hm, hpicks⟩
    · rw [Nat.count_succ] at h
      by_cases hk : picks k
      · rw [if_pos hk] at h
        exact ⟨k, Nat.lt_succ_self k, hk, by omega⟩
      · rw [if_neg hk] at h
        exact absurd h hq

theorem exists_mod_eq {n i k j : ℕ} (hj : j < n) (h : n ≤ k - i) :
    ∃ q, i ≤ q ∧ q < k ∧ q % n = j := by
  have hdiv := Nat.div_add_mod i n
  have hlast := Nat.mod_lt i (Nat.zero_lt_of_lt hj)
  by_cases hle : i % n ≤ j
  · refine ⟨n * (i / n) + j, by omega, by omega, ?_⟩
    rw [Nat.mul_add_mod, Nat.mod_eq_of_lt hj]
  · have hnext : n * (i / n + 1) = n * (i / n) + n := Nat.mul_succ n (i / n)
    refine ⟨n * (i / n + 1) + j, by omega, by omega, ?_⟩
    rw [Nat.mul_add_mod, Nat.mod_eq_of_lt hj]

theorem pick_fair (hl : l.Nodup) (hkeep : ∀ n, ¬picks n → c (n + 1) = c n)
    (hpick : ∀ n x, picks n → (inTurn l (c n)).find? p = some x → c (n + 1) = x) :
    Fair (l.filter p) fun n => if picks n then some (c (n + 1)) else none := by
  intro i k x hik hi hk y hy
  obtain ⟨hpi, hxi⟩ := Option.ite_none_right_eq_some.mp hi
  obtain ⟨hpk, hxk⟩ := Option.ite_none_right_eq_some.mp hk
  have hperm : ((inTurn l (c 0)).filter p).Perm (l.filter p) := (inTurn_perm l (c 0)).filter p
  have hround := pick_eq hl hkeep hpick fun hnil => by
    rw [hnil] at hperm
    rw [List.nil_perm.mp hperm] at hy
    cases hy
  have hnodup : ((inTurn l (c 0)).filter p).Nodup := hperm.nodup_iff.mpr (hl.filter p)
  obtain ⟨j, hj, rfl⟩ := List.mem_iff_getElem.mp (hperm.mem_iff.mpr hy)
  generalize (inTurn l (c 0)).filter p = e at hround hnodup hj
  -- the two picks are a whole round apart
  have hmod : Nat.count picks i % e.length = Nat.count picks k % e.length := by
    refine (List.getElem?_inj (Nat.mod_lt _ (Nat.zero_lt_of_lt hj)) hnodup).mp ?_
    rw [(hround i).2 hpi, (hround k).2 hpk, hxi, hxk]
  have hlt : Nat.count picks i < Nat.count picks k := Nat.count_strict_mono hpi hik
  have hfar : e.length ≤ Nat.count picks k - Nat.count picks i :=
    Nat.le_of_dvd (Nat.sub_pos_of_lt hlt) ((Nat.modEq_iff_dvd' hlt.le).mp hmod)
  obtain ⟨q, hiq, hqk, hq⟩ := exists_mod_eq hj hfar
  obtain ⟨m, hmk, hm, rfl⟩ := exists_count_eq hqk
  refine ⟨m, ?_, hmk, ?_⟩
  · by_contra hmi
    exact absurd (Nat.count_strict_mono hm (Nat.lt_of_not_le hmi)) (Nat.not_lt.mpr hiq)
  · have hpicked := (hround m).2 hm
    rw [hq, List.getElem?_eq_getElem hj] at hpicked
    exact (if_pos hm).trans hpicked.symm

end InTurn

end FunPvp.Lib
