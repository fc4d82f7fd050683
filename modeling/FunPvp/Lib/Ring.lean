/-
# The window of a history, numbered round a ring

A log of at most `n` records numbers its events `0, 1, .., n - 1, 0, 1, ..` and keeps the last
`n` of them. `ring n H` is what it holds after the history `H`: each live event with its number,
oldest first.

The numbers of the live events differ, and the number of the next event is free as long as the
window is not full and is that of the oldest event once it is. So a store that replaces by number
and a queue that drops its head lose the same event.
-/
import Mathlib

namespace FunPvp.Lib

variable {α : Type*} {n : ℕ} {H : List α}

/-- Every event of a history with its number. -/
def numbered (n : ℕ) (H : List α) : List (ℕ × α) := H.zipIdx.map fun p => (p.2 % n, p.1)

/-- The last `n` events of a history with their numbers. -/
def ring (n : ℕ) (H : List α) : List (ℕ × α) := (numbered n H).rtake n

@[simp] theorem length_numbered : (numbered n H).length = H.length := by simp [numbered]

theorem numbered_concat (a : α) :
    numbered n (H ++ [a]) = numbered n H ++ [(H.length % n, a)] := by
  simp [numbered, List.zipIdx_append]

theorem map_snd_numbered : (numbered n H).map Prod.snd = H := by
  simp [numbered, Function.comp_def]

theorem map_fst_numbered : (numbered n H).map Prod.fst = (List.range H.length).map (· % n) := by
  have hcomp : Prod.fst ∘ (fun p : α × ℕ => (p.2 % n, p.1)) = (· % n) ∘ Prod.snd := rfl
  rw [numbered, List.map_map, hcomp, ← List.map_map, List.zipIdx_map_snd, List.range_eq_range']

@[simp] theorem ring_nil : ring n ([] : List α) = [] := by simp [ring, numbered, List.rtake]

@[simp] theorem length_ring : (ring n H).length = min n H.length := by
  simp only [ring, List.rtake, List.length_drop, length_numbered]
  omega

theorem map_snd_ring : (ring n H).map Prod.snd = H.rtake n := by
  simp only [ring, List.rtake, List.map_drop, map_snd_numbered, length_numbered]

theorem map_fst_ring :
    (ring n H).map Prod.fst
      = (List.range' (H.length - n) (H.length - (H.length - n))).map (· % n) := by
  simp only [ring, List.rtake, List.map_drop, map_fst_numbered, length_numbered]
  rw [← List.map_drop, List.range_eq_range', List.drop_range']
  simp

theorem ring_concat_of_lt (h : H.length < n) (a : α) :
    ring n (H ++ [a]) = ring n H ++ [(H.length % n, a)] := by
  have h1 : H.length + 1 - n = 0 := by omega
  have h0 : H.length - n = 0 := by omega
  simp [ring, List.rtake, numbered_concat, h0, h1]

theorem ring_concat_of_le (hn : 1 ≤ n) (h : n ≤ H.length) (a : α) :
    ring n (H ++ [a]) = (ring n H).tail ++ [(H.length % n, a)] := by
  have h1 : (numbered n H ++ [(H.length % n, a)]).length - n = H.length - n + 1 := by
    simp only [List.length_append, length_numbered, List.length_singleton]
    omega
  have h2 : H.length - n + 1 ≤ (numbered n H).length := by
    rw [length_numbered]
    omega
  rw [ring, numbered_concat, List.rtake, h1, List.drop_append_of_le_length h2]
  simp only [ring, List.rtake, length_numbered, List.tail_drop]

theorem nodup_ring (hn : 1 ≤ n) : ((ring n H).map Prod.fst).Nodup := by
  rw [map_fst_ring]
  refine List.Nodup.map_on ?_ List.nodup_range'
  intro x hx y hy hxy
  rw [List.mem_range'_1] at hx hy
  refine Nat.ModEq.eq_of_abs_lt (m := n) hxy ?_
  rw [abs_lt]
  omega

theorem isChain_ring :
    ((ring n H).map Prod.fst).IsChain fun x y => y = (x + 1) % n := by
  rw [map_fst_ring, List.isChain_iff_getElem]
  intro i hi
  simp [← Nat.add_assoc]

theorem next_not_mem_ring (h : H.length < n) :
    H.length % n ∉ (ring n H).map Prod.fst := by
  rw [map_fst_ring, List.mem_map]
  rintro ⟨x, hx, hxn⟩
  rw [List.mem_range'_1] at hx
  rw [Nat.mod_eq_of_lt h, Nat.mod_eq_of_lt (by omega)] at hxn
  omega

theorem exists_ring_eq_cons (hn : 1 ≤ n) (h : n ≤ H.length) :
    ∃ a, ring n H = (H.length % n, a) :: (ring n H).tail := by
  have hlen : (ring n H).length = n := by rw [length_ring]; omega
  obtain ⟨p, ps, hp⟩ := List.exists_cons_of_length_pos (l := ring n H) (by omega)
  have hfst : ((ring n H).map Prod.fst).head? = some (H.length % n) := by
    rw [map_fst_ring, show H.length - (H.length - n) = (n - 1) + 1 by omega,
      List.range'_succ, List.map_cons, List.head?_cons]
    rw [show H.length % n = (H.length - n + n) % n by rw [Nat.sub_add_cancel h],
      Nat.add_mod_right]
  rw [hp] at hfst
  obtain ⟨k, a⟩ := p
  simp only [List.map_cons, List.head?_cons, Option.some.injEq] at hfst
  exact ⟨a, by rw [hp, List.tail_cons, hfst]⟩

theorem getLast?_ring (hn : 1 ≤ n) (a : α) :
    ((ring n (H ++ [a])).map Prod.fst).getLast? = some (H.length % n) := by
  rcases Nat.lt_or_ge H.length n with h | h
  · simp [ring_concat_of_lt h]
  · simp [ring_concat_of_le hn h]

/-! ## An array that is written round -/

/-- The array `slots`, which is written next at `i`, holds `window`, oldest first. -/
structure Round (slots : List α) (i : ℕ) (window : List α) : Prop where
  lt : i < slots.length
  window_eq : slots.drop i ++ slots.take i = window

namespace Round

variable {slots window : List α} {i : ℕ} {a : α}

theorem perm (h : Round slots i window) : slots.Perm window := by
  have hsplit : (slots.take i ++ slots.drop i).Perm window := by
    rw [← h.window_eq]
    exact List.perm_append_comm
  rwa [List.take_append_drop] at hsplit

theorem length_eq (h : Round slots i window) : window.length = slots.length :=
  h.perm.length_eq.symm

theorem getElem?_last (h : Round slots i window) :
    slots[slots.length - 1]? = window[slots.length - 1 - i]? := by
  have hi := h.lt
  rw [← h.window_eq, List.getElem?_append_left, List.getElem?_drop]
  · congr 1
    omega
  · rw [List.length_drop]
    omega

theorem write (h : Round slots i window) :
    slots[i]? = window.head? ∧
      Round (slots.set i a) ((i + 1) % slots.length) (window.tail ++ [a]) := by
  obtain ⟨hi, rfl⟩ := h
  obtain ⟨front, x, back, rfl, rfl⟩ : ∃ front x back, slots = front ++ x :: back ∧
      front.length = i :=
    ⟨_, slots[i], _, by rw [List.getElem_cons_drop, List.take_append_drop],
      List.length_take_of_le hi.le⟩
  have hdrop : (front ++ x :: back).drop front.length = x :: back := List.drop_left
  have htake : (front ++ x :: back).take front.length = front := List.take_left
  have hset : (front ++ x :: back).set front.length a = front ++ a :: back := by simp
  rw [hdrop, htake, hset]
  refine ⟨by simp, ?_, ?_⟩
  · rw [List.length_append, List.length_append, List.length_cons, List.length_cons]
    exact Nat.mod_lt _ (by omega)
  · cases back with
    | nil =>
      have hmod : (front.length + 1) % (front ++ [x]).length = 0 := by simp
      rw [hmod]
      simp
    | cons y back =>
      have hmod : (front.length + 1) % (front ++ x :: y :: back).length = (front ++ [a]).length := by
        simp only [List.length_append, List.length_cons, List.length_nil]
        exact Nat.mod_eq_of_lt (by omega)
      rw [hmod, show front ++ a :: y :: back = (front ++ [a]) ++ y :: back by simp,
        List.drop_left, List.take_left]
      simp

end Round

end FunPvp.Lib
