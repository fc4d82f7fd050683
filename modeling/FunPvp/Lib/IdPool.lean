/-
# Pools of recycled numbers

A pool hands out numbers from a list of released ones, and beyond the highest number so far when
that list is empty; the highest number comes down when it is released itself. Numbers are smaller
than `w` and wrap there.

`Sound` relates a pool to the numbers that are in use: they are distinct, positive, up to the
highest, and none of them is on the list. It is kept by taking a number while there are any, and by
releasing a number that is spare; releasing any other one destroys it sooner or later.
-/
import Mathlib

namespace FunPvp.Lib

/-- The released numbers, the next one first, and the highest number. -/
structure IdPool where
  free : List ℕ
  top : ℕ
deriving DecidableEq

namespace IdPool

variable (w : ℕ)

def take (p : IdPool) : ℕ × IdPool :=
  match p.free with
  | [] => ((p.top + 1) % w, ⟨[], (p.top + 1) % w⟩)
  | x :: free => (x, ⟨free, p.top⟩)

def release (p : IdPool) (x : ℕ) : IdPool :=
  if x = p.top then ⟨p.free, (p.top + (w - 1)) % w⟩ else ⟨p.free ++ [x], p.top⟩

/-- There are `n` more numbers. -/
def Room (n : ℕ) (p : IdPool) : Prop := p.top + (n - p.free.length) < w

instance (n : ℕ) (p : IdPool) : Decidable (Room w n p) := inferInstanceAs (Decidable (_ < _))

/-- The numbers in use and the free ones are distinct, positive and up to the highest. -/
structure Sound (live : List ℕ) (p : IdPool) : Prop where
  nodup : (live ++ p.free).Nodup
  pos : ∀ x ∈ live ++ p.free, 0 < x
  le_top : ∀ x ∈ live ++ p.free, x ≤ p.top
  top_lt : p.top < w

/-- A number that has been handed out, and is neither in use nor free. -/
def Spare (live : List ℕ) (p : IdPool) (x : ℕ) : Prop :=
  0 < x ∧ x ≤ p.top ∧ x ∉ live ∧ x ∉ p.free

variable {w} {live live' : List ℕ} {p : IdPool} {x n : ℕ}

theorem Sound.perm (h : Sound w live p) (hl : live.Perm live') : Sound w live' p := by
  have hp : (live ++ p.free).Perm (live' ++ p.free) := hl.append_right _
  exact ⟨hp.nodup_iff.mp h.nodup, fun x hx => h.pos x (hp.mem_iff.mpr hx),
    fun x hx => h.le_top x (hp.mem_iff.mpr hx), h.top_lt⟩

theorem Sound.leak (h : Sound w (x :: live) p) : Sound w live p :=
  ⟨(List.nodup_cons.mp h.nodup).2, fun y hy => h.pos y (List.mem_cons_of_mem _ hy),
    fun y hy => h.le_top y (List.mem_cons_of_mem _ hy), h.top_lt⟩

theorem Sound.spare (h : Sound w (x :: live) p) : Spare live p x := by
  have hx : x ∉ live ++ p.free := (List.nodup_cons.mp h.nodup).1
  refine ⟨h.pos x List.mem_cons_self, h.le_top x List.mem_cons_self, ?_, ?_⟩
  · exact fun hmem => hx (List.mem_append_left _ hmem)
  · exact fun hmem => hx (List.mem_append_right _ hmem)

theorem Sound.release (h : Sound w live p) (hx : Spare live p x) :
    Sound w live (p.release w x) := by
  obtain ⟨hpos, hle, hlive, hfree⟩ := hx
  have hw := h.top_lt
  unfold IdPool.release
  split
  · next heq =>
    have htop : (p.top + (w - 1)) % w = p.top - 1 := by
      have hsum : p.top + (w - 1) = (p.top - 1) + w := by omega
      rw [hsum, Nat.add_mod_right, Nat.mod_eq_of_lt (by omega)]
    refine ⟨h.nodup, h.pos, fun y hy => ?_, ?_⟩
    · have hy' := h.le_top y hy
      have hne : y ≠ p.top := by
        rintro rfl
        rw [heq] at hlive hfree
        exact (List.mem_append.mp hy).elim hlive hfree
      show y ≤ (p.top + (w - 1)) % w
      omega
    · show (p.top + (w - 1)) % w < w
      omega
  · have hmem : ∀ y, y ∈ live ++ (p.free ++ [x]) ↔ y ∈ live ++ p.free ∨ y = x := by
      intro y
      simp [or_assoc]
    refine ⟨?_, fun y hy => ?_, fun y hy => ?_, hw⟩
    · show (live ++ (p.free ++ [x])).Nodup
      rw [← List.append_assoc]
      refine (List.perm_append_singleton x _).nodup_iff.mpr (List.nodup_cons.mpr ⟨?_, h.nodup⟩)
      exact fun hx => (List.mem_append.mp hx).elim hlive hfree
    · rcases (hmem y).mp hy with hy | rfl
      · exact h.pos y hy
      · exact hpos
    · rcases (hmem y).mp hy with hy | rfl
      · exact h.le_top y hy
      · exact hle

theorem Sound.releaseAll {dead : List ℕ} (h : Sound w (dead ++ live) p) :
    Sound w live (dead.foldl (IdPool.release w) p) := by
  induction dead generalizing p with
  | nil => exact h
  | cons x dead ih => exact ih (h.leak.release h.spare)

theorem Sound.take (h : Sound w live p) (hroom : Room w (n + 1) p) :
    Sound w ((p.take w).1 :: live) (p.take w).2 := by
  obtain ⟨free, top⟩ := p
  cases free with
  | nil =>
    have hlt : top + 1 < w := by
      have := hroom
      simp only [Room, List.length_nil] at this
      omega
    have hmod : (top + 1) % w = top + 1 := Nat.mod_eq_of_lt hlt
    have hle : ∀ y ∈ live, y ≤ top := fun y hy => h.le_top y (List.mem_append_left _ hy)
    simp only [IdPool.take, hmod]
    refine ⟨?_, fun y hy => ?_, fun y hy => ?_, hlt⟩
    · refine List.nodup_cons.mpr ⟨fun hmem => ?_, h.nodup⟩
      have hmem' : top + 1 ∈ live := by simpa using hmem
      have := hle _ hmem'
      omega
    · rcases List.mem_cons.mp hy with rfl | hy
      · omega
      · exact h.pos y hy
    · rcases List.mem_cons.mp hy with rfl | hy
      · exact le_refl _
      · exact (h.le_top y hy).trans (Nat.le_succ top)
  | cons x free =>
    have hp : (live ++ x :: free).Perm ((x :: live) ++ free) := List.perm_middle
    exact ⟨hp.nodup_iff.mp h.nodup, fun y hy => h.pos y (hp.mem_iff.mpr hy),
      fun y hy => h.le_top y (hp.mem_iff.mpr hy), h.top_lt⟩

theorem Room.take (h : Room w (n + 1) p) : Room w n (p.take w).2 := by
  obtain ⟨free, top⟩ := p
  cases free with
  | nil =>
    simp only [Room, List.length_nil] at h
    simp only [Room, IdPool.take, List.length_nil]
    rw [Nat.mod_eq_of_lt (by omega)]
    omega
  | cons x free =>
    simp only [Room, List.length_cons] at h
    simp only [Room, IdPool.take]
    omega

/-- The pool of a set of numbers: the ones missing below the highest are free. -/
def ofList (live : List ℕ) : IdPool where
  free := (List.range' 1 (live.foldl max 0 - 1)).filter fun x => x ∉ live
  top := live.foldl max 0

theorem le_foldl_max {x : ℕ} (l : List ℕ) (hx : x ∈ l) (n : ℕ) : x ≤ l.foldl max n := by
  have hle : ∀ (l : List ℕ) n, n ≤ l.foldl max n := by
    intro l
    induction l with
    | nil => exact fun n => le_refl n
    | cons y l ih => exact fun n => (le_max_left n y).trans (ih _)
  induction l generalizing n with
  | nil => exact absurd hx List.not_mem_nil
  | cons y l ih =>
    rcases List.mem_cons.mp hx with rfl | hx
    · exact (le_max_right n x).trans (hle l _)
    · exact ih hx _

theorem sound_ofList (hnodup : live.Nodup) (hpos : ∀ x ∈ live, 0 < x) (hlt : ∀ x ∈ live, x < w)
    (hw : 0 < w) : Sound w live (ofList live) := by
  have hfree : ∀ x ∈ (ofList live).free, 0 < x ∧ x < live.foldl max 0 ∧ x ∉ live := by
    intro x hx
    obtain ⟨hx, hnot⟩ := List.mem_filter.mp hx
    rw [List.mem_range'_1] at hx
    exact ⟨by omega, by omega, by simpa using hnot⟩
  refine ⟨List.nodup_append.mpr ⟨hnodup, (List.nodup_range' 1).filter _, ?_⟩, ?_, ?_, ?_⟩
  · rintro x hx _ hy rfl
    exact (hfree x hy).2.2 hx
  · intro x hx
    exact (List.mem_append.mp hx).elim (hpos x) fun hx => (hfree x hx).1
  · intro x hx
    exact (List.mem_append.mp hx).elim (fun hx => le_foldl_max live hx 0)
      fun hx => (hfree x hx).2.1.le
  · have hall : ∀ (l : List ℕ) n, n < w → (∀ x ∈ l, x < w) → l.foldl max n < w := by
      intro l
      induction l with
      | nil => exact fun n hn _ => hn
      | cons y l ih =>
        intro n hn hl
        exact ih _ (max_lt hn (hl y List.mem_cons_self))
          fun x hx => hl x (List.mem_cons_of_mem _ hx)
    exact hall live 0 hw hlt

end IdPool

end FunPvp.Lib
