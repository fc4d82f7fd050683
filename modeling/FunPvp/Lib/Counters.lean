/-
# Eight-bit counters

A counter is changed where a list is, and so agrees modulo 256 with the number of elements of a
kind whatever the length of the list (`Counts`), and exactly as long as there are fewer than 256 of
them (`Counts.toNat_eq`). An array of counters does this for all classes of a key at once
(`CountsBy`). A list without repetitions that is only known by its members is counted by what it
gains and loses (`length_of_gain`, `length_of_loss`).
-/
import Mathlib

namespace FunPvp.Lib

variable {α κ : Type*}

/-! ## 1. One counter -/

/-- `n` counts the elements of `l` with `p`, modulo its width. -/
def Counts (p : α → Bool) (l : List α) (n : UInt8) : Prop := n = UInt8.ofNat (l.countP p)

section Counts

variable {p : α → Bool} {l l' l₁ l₂ : List α} {n : UInt8} {a b : α}

theorem Counts.nil : Counts p [] 0 := rfl

theorem Counts.perm (h : Counts p l n) (hl : l.Perm l') : Counts p l' n := by
  rw [Counts, h, hl.countP_eq]

theorem Counts.cons (h : Counts p l n) (ha : p a = true) : Counts p (a :: l) (n + 1) := by
  rw [Counts, List.countP_cons_of_pos ha, UInt8.ofNat_add, h]
  rfl

theorem Counts.cons_of_neg (h : Counts p l n) (ha : p a = false) : Counts p (a :: l) n := by
  rw [Counts, List.countP_cons_of_neg (by simp [ha]), h]

theorem Counts.tail (h : Counts p (a :: l) n) (ha : p a = true) : Counts p l (n - 1) := by
  rw [Counts, List.countP_cons_of_pos ha, UInt8.ofNat_add] at h
  rw [Counts, h]
  simp

theorem Counts.tail_of_neg (h : Counts p (a :: l) n) (ha : p a = false) : Counts p l n := by
  rw [Counts, List.countP_cons_of_neg (by simp [ha])] at h
  exact h

theorem Counts.remove (h : Counts p (l₁ ++ a :: l₂) n) (ha : p a = true) :
    Counts p (l₁ ++ l₂) (n - 1) := (h.perm List.perm_middle).tail ha

theorem Counts.remove_of_neg (h : Counts p (l₁ ++ a :: l₂) n) (ha : p a = false) :
    Counts p (l₁ ++ l₂) n := (h.perm List.perm_middle).tail_of_neg ha

theorem Counts.replace (h : Counts p (l₁ ++ a :: l₂) n) (ha : p a = false) (hb : p b = true) :
    Counts p (l₁ ++ b :: l₂) (n + 1) := ((h.remove_of_neg ha).cons hb).perm List.perm_middle.symm

theorem Counts.replace_of_eq (h : Counts p (l₁ ++ a :: l₂) n) (hab : p b = p a) :
    Counts p (l₁ ++ b :: l₂) n := by
  rw [Counts, h]
  simp only [List.countP_append, List.countP_cons, hab]

theorem Counts.toNat_eq (h : Counts p l n) (hlt : l.countP p < 256) : n.toNat = l.countP p := by
  rw [h, UInt8.toNat_ofNat']
  exact Nat.mod_eq_of_lt hlt

end Counts

/-- A counter, when an element that was counted or not is counted or not from now on. -/
def adjust (n : UInt8) (old new : Bool) : UInt8 :=
  let n := if old then n - 1 else n
  if new then n + 1 else n

@[simp] theorem adjust_self (n : UInt8) (b : Bool) : adjust n b b = n := by
  cases b with
  | true => exact sub_add_cancel n 1
  | false => rfl

section Adjust

variable {p q : α → Bool} {l : List α} {n : UInt8} {a : α}

theorem countP_add_of_differ (hl : l.Nodup) (ha : a ∈ l) (h : ∀ b ∈ l, b ≠ a → p b = q b) :
    l.countP q + (p a).toNat = l.countP p + (q a).toNat := by
  obtain ⟨l₁, l₂, rfl⟩ := List.append_of_mem ha
  obtain ⟨-, ha₂, hdisjoint⟩ := List.nodup_append.mp hl
  have h₁ : l₁.countP p = l₁.countP q := List.countP_congr fun b hb => by
    rw [h b (List.mem_append_left _ hb) fun hba => hdisjoint b hb a List.mem_cons_self hba]
  have h₂ : l₂.countP p = l₂.countP q := List.countP_congr fun b hb => by
    rw [h b (List.mem_append_right _ (List.mem_cons_of_mem a hb)) fun hba =>
      (List.nodup_cons.mp ha₂).1 (hba ▸ hb)]
  rw [List.countP_append, List.countP_append, List.countP_cons, List.countP_cons, h₁, h₂]
  cases p a <;> cases q a <;> simp <;> omega

theorem Counts.adjust (hn : Counts p l n) (hl : l.Nodup) (ha : a ∈ l)
    (h : ∀ b ∈ l, b ≠ a → p b = q b) : Counts q l (adjust n (p a) (q a)) := by
  have hcount := congrArg UInt8.ofNat (countP_add_of_differ hl ha h)
  rw [UInt8.ofNat_add, UInt8.ofNat_add, ← hn] at hcount
  rw [Counts]
  unfold Lib.adjust
  cases hp : p a <;> cases hq : q a <;> simp [hp, hq] at hcount ⊢
  · exact hcount.symm
  · exact hcount.symm
  · rw [← hcount]
    simp
  · exact hcount.symm

end Adjust

/-! ## 2. An array of counters -/

variable [DecidableEq κ]

/-- `++c[k]`. -/
def bump (c : κ → UInt8) (k : κ) : κ → UInt8 := Function.update c k (c k + 1)

/-- `--c[k]`. -/
def drop (c : κ → UInt8) (k : κ) : κ → UInt8 := Function.update c k (c k - 1)

/-- `c` counts the elements of `l` by their keys, modulo its width. -/
def CountsBy (key : α → κ) (l : List α) (c : κ → UInt8) : Prop :=
  ∀ k, Counts (fun a => key a = k) l (c k)

section CountsBy

variable {key : α → κ} {l l' : List α} {c : κ → UInt8}

theorem CountsBy.nil : CountsBy key [] fun _ => 0 := fun _ => Counts.nil

theorem CountsBy.perm (h : CountsBy key l c) (hl : l.Perm l') : CountsBy key l' c :=
  fun k => (h k).perm hl

theorem CountsBy.cons (h : CountsBy key l c) (a : α) : CountsBy key (a :: l) (bump c (key a)) := by
  intro k
  rcases eq_or_ne k (key a) with rfl | hk
  · rw [bump, Function.update_self]
    exact (h (key a)).cons (by simp)
  · rw [bump, Function.update_of_ne hk]
    exact (h k).cons_of_neg (by simp [hk.symm])

theorem CountsBy.tail {a : α} (h : CountsBy key (a :: l) c) :
    CountsBy key l (drop c (key a)) := by
  intro k
  rcases eq_or_ne k (key a) with rfl | hk
  · rw [drop, Function.update_self]
    exact (h (key a)).tail (by simp)
  · rw [drop, Function.update_of_ne hk]
    exact (h k).tail_of_neg (by simp [hk.symm])

theorem CountsBy.foldl (key : α → κ) (l : List α) :
    CountsBy key l (l.foldl (fun c a => bump c (key a)) fun _ => 0) := by
  have hall : ∀ (l seen : List α) (c : κ → UInt8), CountsBy key seen c →
      CountsBy key (l.reverse ++ seen) (l.foldl (fun c a => bump c (key a)) c) := by
    intro l
    induction l with
    | nil => exact fun seen c h => h
    | cons a l ih =>
      intro seen c h
      have hrest := ih (a :: seen) (bump c (key a)) (h.cons a)
      rwa [List.reverse_cons, List.append_assoc]
  have hl := hall l [] _ CountsBy.nil
  rw [List.append_nil] at hl
  exact hl.perm l.reverse_perm

end CountsBy

/-! ## 3. Lists without repetitions -/

section Nodup

variable {l l' new : List α} {a : α}

theorem length_of_gain (hl : l.Nodup) (hl' : l'.Nodup) (hnew : new.Nodup)
    (hdisjoint : ∀ a ∈ new, a ∉ l) (hmem : ∀ a, a ∈ l' ↔ a ∈ l ∨ a ∈ new) :
    l'.length = l.length + new.length := by
  have happend : (l ++ new).Nodup := by
    refine List.nodup_append.mpr ⟨hl, hnew, ?_⟩
    rintro a ha _ hb rfl
    exact hdisjoint a hb ha
  rw [← List.length_append]
  refine ((List.perm_ext_iff_of_nodup hl' happend).mpr fun a => ?_).length_eq
  rw [hmem, List.mem_append]

theorem length_of_loss (hl : l.Nodup) (hl' : l'.Nodup) (ha : a ∈ l)
    (hmem : ∀ b, b ∈ l' ↔ b ∈ l ∧ b ≠ a) : l.length = l'.length + 1 := by
  refine length_of_gain hl' hl (List.nodup_singleton a) (fun b hb => ?_) fun b => ?_
  · rw [List.mem_singleton.mp hb, hmem]
    exact fun h => h.2 rfl
  · rw [hmem, List.mem_singleton]
    constructor
    · intro hb
      by_cases hba : b = a
      · exact Or.inr hba
      · exact Or.inl ⟨hb, hba⟩
    · rintro (⟨hb, -⟩ | rfl)
      · exact hb
      · exact ha

theorem length_of_same (hl : l.Nodup) (hl' : l'.Nodup) (hmem : ∀ a, a ∈ l' ↔ a ∈ l) :
    l'.length = l.length :=
  ((List.perm_ext_iff_of_nodup hl' hl).mpr hmem).length_eq

end Nodup

end FunPvp.Lib
