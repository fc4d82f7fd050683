/-
# What becomes of the generators

The invariant of the master, while hooks are running and functions are interrupted: it is said of
the master and of what is still to be executed. Every generator that was made is in one place: in a
slot, on the list of expired ones, in the hands of a statement, or deleted. The slot of `_top` may
be empty while its generator is being replaced, and the top generator may still have to be
initialised while there is a statement left that will see to it.
-/
import FunPvp.Lib.Loop
import FunPvp.Lib.Run
import FunPvp.Movement.MotionMaster

namespace FunPvp.Movement

open FunPvp.Lib MotionMaster

/-! ## 1. What a stack of statements holds -/

/-- Whether the statement has a generator in its hands, or an index of the list of expired ones. -/
def Statement.content : Statement → Bool
  | .directDelete (.made _) => true
  | .deletes _ => true
  | .store _ _ => true
  | .expireFrom _ => true
  | _ => false

/-- How often the statement has the generator in its hands. -/
def Statement.held (g : MovementGenerator) : Statement → ℕ
  | .directDelete curr => if curr = g then 1 else 0
  | .deletes curr => if curr = g then 1 else 0
  | .store m _ => if m = g then 1 else 0
  | _ => 0

def heldIn (code : List Statement) (g : MovementGenerator) : ℕ := (code.map (Statement.held g)).sum

def cursor : List Statement → ℕ
  | [] => 0
  | .expireFrom i :: _ => i
  | _ :: rest => cursor rest

/-- Whether the statement belongs to an `UpdateMotion` that has not looked at the list of expired
generators, or is at it. -/
def Statement.isUpdate : Statement → Bool
  | .running _ .Update => true
  | .updated _ => true
  | .expireList => true
  | .expireFrom _ => true
  | _ => false

/-- Whether somebody will see to the top generator before a slot is marked as initialised.
`UpdateMotion` does if there is a list of expired generators. -/
def settles (pending : Bool) : List Statement → Bool
  | [] => false
  | .markTop :: _ => false
  | .directClean _ :: _ => true
  | .afterExpire _ :: _ => true
  | .clearAll :: _ => true
  | statement :: rest =>
    bif statement.isUpdate then pending || settles pending rest else settles pending rest

/-- Whether the master is in an `Update`, or just out of it. -/
def updating : List Statement → Bool
  | .running _ .Update :: _ => true
  | .updated _ :: _ => true
  | .running _ _ :: rest => updating rest
  | .directDelete _ :: rest => updating rest
  | .deletes _ :: rest => updating rest
  | .store _ _ :: rest => updating rest
  | _ => false

/-- What may stand above what on the stack: a generator that is deleted has no other hook running,
and the loop over the expired generators no `UpdateMotion` above it. -/
def Above (a b : Statement) : Prop :=
  (∀ g k, a = .deletes g → b ≠ .running g k) ∧ (a.isUpdate = true → ∀ i, b ≠ .expireFrom i)

section Code

variable {code code' : List Statement}

@[simp] theorem held_directDelete (curr g : MovementGenerator) :
    Statement.held g (.directDelete curr) = if curr = g then 1 else 0 := rfl

@[simp] theorem held_deletes (curr g : MovementGenerator) :
    Statement.held g (.deletes curr) = if curr = g then 1 else 0 := rfl

@[simp] theorem held_store (m g : MovementGenerator) (slot : MovementSlot) :
    Statement.held g (.store m slot) = if m = g then 1 else 0 := rfl

theorem heldIn_cons (statement : Statement) (code : List Statement) (g : MovementGenerator) :
    heldIn (statement :: code) g = statement.held g + heldIn code g := by
  simp [heldIn]

@[simp] theorem held_of_content {statement : Statement} (h : statement.content = false) (n : ℕ) :
    statement.held (.made n) = 0 := by
  cases statement with
  | directDelete curr =>
    cases curr with
    | si_idleMovement => rfl
    | made id => exact absurd h (by simp [Statement.content])
  | deletes curr => exact absurd h (by simp [Statement.content])
  | store m slot => exact absurd h (by simp [Statement.content])
  | _ => rfl

theorem heldIn_filter (code : List Statement) (n : ℕ) :
    heldIn (code.filter Statement.content) (.made n) = heldIn code (.made n) := by
  induction code with
  | nil => rfl
  | cons statement code ih =>
    by_cases hc : statement.content = true
    · rw [List.filter_cons_of_pos hc, heldIn_cons, heldIn_cons, ih]
    · rw [List.filter_cons_of_neg hc, heldIn_cons, ih, held_of_content (by simpa using hc),
        Nat.zero_add]

theorem cursor_filter (code : List Statement) :
    cursor (code.filter Statement.content) = cursor code := by
  induction code with
  | nil => rfl
  | cons statement code ih =>
    by_cases hc : statement.content = true
    · rw [List.filter_cons_of_pos hc]
      cases statement <;> first | rfl | exact ih
    · rw [List.filter_cons_of_neg hc, ih]
      cases statement <;> first | rfl | exact absurd rfl hc

theorem mem_of_content (h : code'.filter Statement.content = code.filter Statement.content)
    {statement : Statement} (hc : statement.content = true) :
    statement ∈ code' ↔ statement ∈ code := by
  have hfilter : ∀ l : List Statement, statement ∈ l ↔ statement ∈ l.filter Statement.content :=
    fun l => by rw [List.mem_filter, and_iff_left hc]
  rw [hfilter code', h, ← hfilter code]

theorem count_of_content (h : code'.filter Statement.content = code.filter Statement.content)
    {statement : Statement} (hc : statement.content = true) :
    code'.count statement = code.count statement := by
  rw [← List.count_filter hc, h, List.count_filter hc]

theorem exists_isUpdate_of_updating : updating code = true → ∃ st ∈ code, st.isUpdate = true := by
  induction code with
  | nil => exact nofun
  | cons statement code ih =>
    intro h
    by_cases hup : statement.isUpdate = true
    · exact ⟨statement, List.mem_cons_self, hup⟩
    · have hrest : updating code = true := by
        cases statement with
        | running g k => cases k <;> first | exact h | exact absurd rfl hup
        | directDelete | deletes | store => exact h
        | updated => exact absurd rfl hup
        | _ => exact absurd h nofun
      obtain ⟨st, hst, hst'⟩ := ih hrest
      exact ⟨st, List.mem_cons_of_mem _ hst, hst'⟩

theorem settles_of_updating : updating code = true → settles true code = true := by
  induction code with
  | nil => exact nofun
  | cons statement code ih =>
    intro h
    cases statement with
    | running g k => cases k <;> first | exact ih h | rfl
    | directDelete | deletes | store => exact ih h
    | updated => rfl
    | _ => exact absurd h nofun

end Code

/-! ## 2. The invariant -/

def MotionMaster.occupied (s : MotionMaster) (g : MovementGenerator) : ℕ :=
  (if s.impl 0 = some g then 1 else 0) + (if s.impl 1 = some g then 1 else 0) +
    if s.impl 2 = some g then 1 else 0

/-- The expired generators that are still to be deleted. -/
def MotionMaster.expired (s : MotionMaster) (code : List Statement) : List MovementGenerator :=
  (s.expList.getD []).drop (cursor code)

def MotionMaster.places (s : MotionMaster) (code : List Statement) (g : MovementGenerator) : ℕ :=
  s.occupied g + (s.expired code).count g + heldIn code g + s.deleted.count g

/-- `Initialize` of the generator was called. -/
def MotionMaster.Started (s : MotionMaster) (code : List Statement) (g : MovementGenerator) :
    Prop :=
  s.initialized g = true ∨ .running g .Initialize ∈ code

/-- **The invariant**, of the master and of what it has still to execute. -/
structure Inv (s : MotionMaster) (code : List Statement) : Prop where
  bounds : -1 ≤ s.top ∧ s.top ≤ 2
  within : ∀ i g, s.impl i = some g → 0 ≤ i ∧ i ≤ s.top
  /-- The top slot is empty only while its generator is being replaced. -/
  topHole : s.impl s.top = none → s.top < 0 ∨ ∃ m slot, .store m slot ∈ code ∧ slot.index = s.top
  idleSlot : s.impl 0 = none → .clearAll ∈ code ∨ ∃ m, .store m .MOTION_SLOT_IDLE ∈ code
  ready : ∀ i g, s.impl i = some g → s.needInit i = false → s.Started code g
  topReady : ∀ g, s.impl s.top = some g →
    s.Started code g ∨ settles s.expList.isSome code = true
  /-- The generator that all units share is in the idle slot only, and is never deleted. -/
  shared : ∀ i, s.impl i = some .si_idleMovement → i = 0
  sharedStore : ∀ slot, .store .si_idleMovement slot ∈ code → slot = .MOTION_SLOT_IDLE
  sharedDeleted : .si_idleMovement ∉ s.deleted ∧ .deletes .si_idleMovement ∉ code
  /-- Every other one is in one place. -/
  places : ∀ n, s.places code (.made n) = if n < s.created then 1 else 0
  finalized : ∀ n, s.finalized.count (.made n) =
    s.deleted.count (.made n) + code.count (.deletes (.made n))
  alive : ∀ g k, .running g k ∈ code → g ∉ s.deleted
  above : code.Pairwise Above
  expires : ∀ i, .expireFrom i ∈ code → ∃ list, s.expList = some list ∧ i ≤ list.length
  pending : s.expList.isSome = true → ∃ st ∈ code, st.isUpdate = true

/-- What holds while `MMCF_UPDATE` is set. -/
def FlagSound (s : MotionMaster) (code : List Statement) : Prop :=
  s.update = true → updating code = true ∧ (s.top < 0 ∨ s.impl s.top ≠ none)

section Invariant

variable {s : MotionMaster} {code code' : List Statement} {g m : MovementGenerator}

theorem MotionMaster.Started.cons {statement : Statement} (h : s.Started code g) :
    s.Started (statement :: code) g :=
  h.imp id (List.mem_cons_of_mem _)

theorem Inv.occupied_pos (h : Inv s code) {i : ℤ} (hi : s.impl i = some g) :
    0 < s.occupied g := by
  obtain ⟨hlow, hhigh⟩ := h.within i g hi
  have htop := h.bounds.2
  have hcases : i = 0 ∨ i = 1 ∨ i = 2 := by omega
  unfold occupied
  rcases hcases with rfl | rfl | rfl
  · rw [if_pos hi]; omega
  · rw [if_pos hi]; omega
  · rw [if_pos hi]; omega

theorem Inv.places_le (h : Inv s code) (n : ℕ) : s.places code (.made n) ≤ 1 := by
  rw [h.places n]
  split
  · exact le_rfl
  · exact Nat.zero_le 1

theorem Inv.not_deleted (h : Inv s code) {i : ℤ} (hi : s.impl i = some g) : g ∉ s.deleted := by
  intro hmem
  cases g with
  | si_idleMovement => exact h.sharedDeleted.1 hmem
  | made n =>
    have hocc := h.occupied_pos hi
    have hle := h.places_le n
    have hcount := List.count_pos_iff.mpr hmem
    unfold MotionMaster.places at hle
    omega

theorem Inv.held_alone (h : Inv s code) {n : ℕ} (hheld : 0 < heldIn code (.made n)) :
    (∀ i, s.impl i ≠ some (.made n)) ∧ .made n ∉ s.deleted := by
  have hle := h.places_le n
  unfold MotionMaster.places at hle
  constructor
  · intro i hi
    have hocc := h.occupied_pos hi
    omega
  · intro hmem
    have hcount := List.count_pos_iff.mpr hmem
    omega

theorem heldIn_pos {statement : Statement} (hmem : statement ∈ code) (n : ℕ)
    (hheld : statement.held (.made n) = 1) : 0 < heldIn code (.made n) := by
  have hle := List.single_le_sum (fun x _ => Nat.zero_le x) _
    (List.mem_map_of_mem (f := Statement.held (.made n)) hmem)
  unfold heldIn
  omega

theorem Inv.recode (h : Inv s code)
    (hcontent : code'.filter Statement.content = code.filter Statement.content)
    (hinit : ∀ g, .running g .Initialize ∈ code → s.Started code' g)
    (hidle : .clearAll ∈ code →
      .clearAll ∈ code' ∨ s.impl 0 ≠ none ∨ ∃ m, .store m .MOTION_SLOT_IDLE ∈ code')
    (halive : ∀ g k, .running g k ∈ code' → .running g k ∈ code ∨ g ∉ s.deleted)
    (habove : code'.Pairwise Above)
    (hready : ∀ g, s.impl s.top = some g → s.Started code' g ∨
      settles s.expList.isSome code' = true)
    (hpending : s.expList.isSome = true → ∃ st ∈ code', st.isUpdate = true) :
    Inv s code' := by
  have hstarted : ∀ g, s.Started code g → s.Started code' g := fun g hg => hg.elim Or.inl (hinit g)
  refine ⟨h.bounds, h.within, fun hnone => ?_, fun hnone => ?_,
    fun i g hi hneed => hstarted g (h.ready i g hi hneed), hready, h.shared, fun slot hmem => ?_,
    ⟨h.sharedDeleted.1, fun hmem => ?_⟩, fun n => ?_, fun n => ?_, fun g k hmem => ?_, habove,
    fun i hmem => ?_, hpending⟩
  · refine (h.topHole hnone).imp id ?_
    rintro ⟨m, slot, hmem, hslot⟩
    exact ⟨m, slot, (mem_of_content hcontent rfl).mpr hmem, hslot⟩
  · rcases h.idleSlot hnone with hclear | ⟨m, hmem⟩
    · exact (hidle hclear).imp id fun hstored => hstored.resolve_left (not_not.mpr hnone)
    · exact Or.inr ⟨m, (mem_of_content hcontent rfl).mpr hmem⟩
  · exact h.sharedStore slot ((mem_of_content hcontent rfl).mp hmem)
  · exact h.sharedDeleted.2 ((mem_of_content hcontent rfl).mp hmem)
  · rw [← h.places n]
    unfold MotionMaster.places expired
    rw [← heldIn_filter code', ← cursor_filter code', hcontent, heldIn_filter, cursor_filter]
  · rw [h.finalized n, count_of_content hcontent rfl]
  · exact (halive g k hmem).elim (h.alive g k) id
  · exact h.expires i ((mem_of_content hcontent rfl).mp hmem)

end Invariant

/-! ## 3. Slots -/

section Slots

variable {s : MotionMaster} {code : List Statement} {g m curr : MovementGenerator}

theorem highest_bounds (impl : ℤ → Option MovementGenerator) (n : ℕ) :
    -1 ≤ highest impl n ∧ highest impl n < n := by
  induction n with
  | zero => exact ⟨le_rfl, by simp [highest]⟩
  | succ n ih =>
    unfold highest
    split
    · constructor
      · omega
      · omega
    · constructor
      · exact ih.1
      · omega

theorem highest_occupied (impl : ℤ → Option MovementGenerator) (n : ℕ)
    (hnone : impl (highest impl n) = none) : highest impl n < 0 := by
  induction n with
  | zero => simp [highest]
  | succ n ih =>
    unfold highest at hnone ⊢
    split
    · next hsome =>
      rw [if_pos hsome] at hnone
      rw [hnone] at hsome
      exact absurd hsome (by simp)
    · next hfree =>
      rw [if_neg hfree] at hnone
      exact ih hnone

theorem le_highest (impl : ℤ → Option MovementGenerator) (n : ℕ) {i : ℤ} (hi : i < n)
    (hsome : impl i ≠ none) (h0 : 0 ≤ i) : i ≤ highest impl n := by
  induction n with
  | zero => omega
  | succ n ih =>
    unfold highest
    split
    · omega
    · next hfree =>
      have hne : i ≠ n := by
        rintro rfl
        exact hfree (Option.isSome_iff_ne_none.mpr hsome)
      exact ih (by omega)

theorem occupied_setSlot_none {i : ℤ} (hi : 0 ≤ i ∧ i ≤ 2) (hcurr : s.impl i = some curr) :
    (s.setSlot i none).occupied g + (if curr = g then 1 else 0) = s.occupied g := by
  have hcases : i = 0 ∨ i = 1 ∨ i = 2 := by omega
  unfold occupied setSlot
  rcases hcases with rfl | rfl | rfl
  · simp [hcurr]; omega
  · simp [hcurr]; omega
  · simp [hcurr]

theorem occupied_setSlot_some {i : ℤ} (hi : 0 ≤ i ∧ i ≤ 2) (hfree : s.impl i ≠ some g) :
    (s.setSlot i (some m)).occupied g = s.occupied g + if m = g then 1 else 0 := by
  have hcases : i = 0 ∨ i = 1 ∨ i = 2 := by omega
  unfold occupied setSlot
  rcases hcases with rfl | rfl | rfl
  · simp [hfree]; omega
  · simp [hfree]; omega
  · simp [hfree]

theorem MovementSlot.index_bounds (slot : MovementSlot) : 0 ≤ slot.index ∧ slot.index ≤ 2 := by
  cases slot <;> decide

theorem MovementSlot.index_eq_zero {slot : MovementSlot} (h : slot.index = 0) :
    slot = .MOTION_SLOT_IDLE := by
  cases slot with
  | MOTION_SLOT_IDLE => rfl
  | MOTION_SLOT_ACTIVE | MOTION_SLOT_CONTROLLED => exact absurd h (by decide)

theorem Inv.lowerTop (h : Inv s code) (hsettles : settles s.expList.isSome code = true) :
    Inv s.lowerTop code := by
  obtain ⟨hlow, hhigh⟩ := h.bounds
  have hsize : (s.size.toNat : ℤ) = s.top + 1 := by unfold size; omega
  obtain ⟨hlow', hlt⟩ := highest_bounds s.impl s.size.toNat
  refine ⟨⟨hlow', ?_⟩, fun i g hi => ?_, fun hnone => ?_, h.idleSlot, h.ready,
    fun g _ => Or.inr hsettles, h.shared, h.sharedStore, h.sharedDeleted, h.places, h.finalized,
    h.alive, h.above, h.expires, h.pending⟩
  · change highest s.impl s.size.toNat ≤ 2
    omega
  · obtain ⟨h0, htop⟩ := h.within i g hi
    refine ⟨h0, le_highest s.impl _ (by omega) ?_ h0⟩
    rw [show s.impl i = some g from hi]
    exact nofun
  · exact Or.inl (highest_occupied s.impl _ hnone)

theorem Inv.carried (st : Statement) (h : Inv s code)
    (hst : (∃ g, st = .directDelete g) ∨ ∃ m slot, st = .store m slot) :
    (.si_idleMovement ∉ s.deleted ∧ .deletes .si_idleMovement ∉ st :: code) ∧
      (∀ n, s.finalized.count (.made n) =
        s.deleted.count (.made n) + (st :: code).count (.deletes (.made n))) ∧
      (∀ g k, .running g k ∈ st :: code → g ∉ s.deleted) ∧ (st :: code).Pairwise Above ∧
      (∀ i, .expireFrom i ∈ st :: code → ∃ list, s.expList = some list ∧ i ≤ list.length) ∧
      (s.expList.isSome = true → ∃ x ∈ st :: code, x.isUpdate = true) := by
  have hdeletes : ∀ g, .deletes g ≠ st := by
    rintro g rfl
    simp at hst
  have hrunning : ∀ g k, .running g k ≠ st := by
    rintro g k rfl
    simp at hst
  have hexpire : ∀ i, .expireFrom i ≠ st := by
    rintro i rfl
    simp at hst
  refine ⟨⟨h.sharedDeleted.1, fun hmem => ?_⟩, fun n => ?_, fun g k hmem => ?_, ?_,
    fun i hmem => ?_, fun hsome => ?_⟩
  · exact h.sharedDeleted.2 ((List.mem_cons.mp hmem).resolve_left (hdeletes _))
  · rw [List.count_cons_of_ne (hdeletes _).symm]
    exact h.finalized n
  · exact h.alive g k ((List.mem_cons.mp hmem).resolve_left (hrunning g k))
  · refine List.pairwise_cons.mpr ⟨fun b _ => ?_, h.above⟩
    rcases hst with ⟨g, rfl⟩ | ⟨m, slot, rfl⟩
    · exact ⟨nofun, nofun⟩
    · exact ⟨nofun, nofun⟩
  · exact h.expires i ((List.mem_cons.mp hmem).resolve_left (hexpire i))
  · exact (h.pending hsome).imp fun x hx => hx.imp_left (List.mem_cons_of_mem _)

theorem impl_of_setSlot_none {i j : ℤ} (hi : (s.setSlot j none).impl i = some g) :
    s.impl i = some g := by
  by_cases hne : i = j
  · subst hne
    exact absurd ((Function.update_self ..).symm.trans hi) nofun
  · exact (Function.update_of_ne hne ..).symm.trans hi

theorem pop_eq (h0 : 0 ≤ s.top) : s.pop = (s.setSlot s.top none).lowerTop := by
  have hempty : s.empty = false := by simp [MotionMaster.empty, h0]
  unfold MotionMaster.pop
  rw [hempty]
  rfl

theorem Inv.pop (h : Inv s code) (h0 : 0 ≤ s.top) (hcurr : s.impl s.top = some curr)
    (hsettles : settles s.expList.isSome code = true) (hidle : 0 < s.top ∨ .clearAll ∈ code) :
    Inv s.pop (.directDelete curr :: code) := by
  obtain ⟨hlow, hhigh⟩ := h.bounds
  have hsize : (s.size.toNat : ℤ) = s.top + 1 := by unfold size; omega
  rw [pop_eq h0]
  obtain ⟨hlow', hlt⟩ := highest_bounds (s.setSlot s.top none).impl s.size.toNat
  have hold : ∀ i g, (s.setSlot s.top none).impl i = some g → s.impl i = some g :=
    fun _ _ => impl_of_setSlot_none
  obtain ⟨hdeleted, hfinalized, halive, habove, hexpires, hpending⟩ :=
    h.carried (.directDelete curr) (Or.inl ⟨curr, rfl⟩)
  refine ⟨⟨hlow', ?_⟩, fun i g hi => ?_, fun hnone => ?_, fun hnone => ?_, fun i g hi hneed => ?_,
    fun g _ => Or.inr hsettles, fun i hi => h.shared i (hold i _ hi), fun slot hmem => ?_,
    hdeleted, fun n => ?_, hfinalized, halive, habove, hexpires, hpending⟩
  · change highest (s.setSlot s.top none).impl s.size.toNat ≤ 2
    omega
  · obtain ⟨hi0, htop⟩ := h.within i g (hold i g hi)
    refine ⟨hi0, le_highest _ _ (show i < (s.size.toNat : ℤ) by omega) ?_ hi0⟩
    rw [show (s.setSlot s.top none).impl i = some g from hi]
    exact nofun
  · exact Or.inl (highest_occupied _ _ hnone)
  · rcases hidle with hpos | hclear
    · have hzero : s.impl 0 = none := (Function.update_of_ne (ne_of_lt hpos) ..).symm.trans hnone
      refine (h.idleSlot hzero).imp (List.mem_cons_of_mem _) ?_
      rintro ⟨m, hmem⟩
      exact ⟨m, List.mem_cons_of_mem _ hmem⟩
    · exact Or.inl (List.mem_cons_of_mem _ hclear)
  · exact (h.ready i g (hold i g hi) hneed).cons
  · exact h.sharedStore slot ((List.mem_cons.mp hmem).resolve_left nofun)
  · have hocc := occupied_setSlot_none (s := s) (g := .made n) ⟨h0, hhigh⟩ hcurr
    have hplaces := h.places n
    change (s.setSlot s.top none).occupied (.made n) + (s.expired code).count (.made n) +
      heldIn (.directDelete curr :: code) (.made n) + s.deleted.count (.made n) =
        if n < s.created then 1 else 0
    rw [heldIn_cons, held_directDelete, ← hplaces]
    unfold MotionMaster.places
    omega

theorem pop_eq_lowerTop (h0 : 0 ≤ s.top) (hnone : s.impl s.top = none) : s.pop = s.lowerTop := by
  have hset : s.setSlot s.top none = s := by
    unfold setSlot
    rw [← hnone, Function.update_eq_self]
  rw [pop_eq h0, hset]

end Slots

/-! ## 4. `Mutate` -/

section Mutate

variable {s : MotionMaster} {code : List Statement} {g m curr : MovementGenerator}
  {slot : MovementSlot}

theorem Inv.made (h : Inv s code) (slot : MovementSlot) :
    Inv { s with created := s.created + 1 } (.store (.made s.created) slot :: code) := by
  obtain ⟨hdeleted, hfinalized, halive, habove, hexpires, hpending⟩ :=
    h.carried _ (Or.inr ⟨.made s.created, slot, rfl⟩)
  refine ⟨h.bounds, h.within, fun hnone => ?_, fun hnone => ?_,
    fun i g hi hneed => (h.ready i g hi hneed).cons,
    fun g hg => (h.topReady g hg).imp Started.cons id, h.shared, fun slot hmem => ?_,
    hdeleted, fun n => ?_, hfinalized, halive, habove, hexpires, hpending⟩
  · refine (h.topHole hnone).imp id ?_
    rintro ⟨m, slot', hmem, hslot⟩
    exact ⟨m, slot', List.mem_cons_of_mem _ hmem, hslot⟩
  · refine (h.idleSlot hnone).imp (List.mem_cons_of_mem _) ?_
    rintro ⟨m, hmem⟩
    exact ⟨m, List.mem_cons_of_mem _ hmem⟩
  · exact h.sharedStore slot ((List.mem_cons.mp hmem).resolve_left (by simp))
  · have hplaces := h.places n
    change s.occupied (.made n) + (s.expired code).count (.made n) +
      heldIn (.store (.made s.created) slot :: code) (.made n) + s.deleted.count (.made n) =
        if n < s.created + 1 then 1 else 0
    rw [heldIn_cons, held_store]
    unfold MotionMaster.places at hplaces
    by_cases hn : n = s.created
    · subst hn
      rw [if_neg (lt_irrefl _)] at hplaces
      rw [if_pos rfl, if_pos (Nat.lt_succ_self _)]
      omega
    · have hne : ¬ MovementGenerator.made s.created = .made n := by
        intro heq
        exact hn (MovementGenerator.made.inj heq).symm
      rw [if_neg hne]
      split at hplaces
      · rw [if_pos (by omega)]
        omega
      · rw [if_neg (by omega)]
        omega

theorem Inv.idle (h : Inv s code) :
    Inv s (.store .si_idleMovement .MOTION_SLOT_IDLE :: code) := by
  obtain ⟨hdeleted, hfinalized, halive, habove, hexpires, hpending⟩ :=
    h.carried _ (Or.inr ⟨.si_idleMovement, .MOTION_SLOT_IDLE, rfl⟩)
  refine ⟨h.bounds, h.within, fun hnone => ?_, fun hnone => ?_,
    fun i g hi hneed => (h.ready i g hi hneed).cons,
    fun g hg => (h.topReady g hg).imp Started.cons id, h.shared, fun slot hmem => ?_,
    hdeleted, fun n => ?_, hfinalized, halive, habove, hexpires, hpending⟩
  · refine (h.topHole hnone).imp id ?_
    rintro ⟨m, slot', hmem, hslot⟩
    exact ⟨m, slot', List.mem_cons_of_mem _ hmem, hslot⟩
  · exact Or.inr ⟨_, List.mem_cons_self⟩
  · rcases List.mem_cons.mp hmem with heq | hmem
    · exact (Statement.store.inj heq).2
    · exact h.sharedStore slot hmem
  · rw [← h.places n]
    unfold MotionMaster.places
    rw [heldIn_cons, held_store, if_neg nofun, Nat.zero_add]
    rfl

theorem Inv.replace (h : Inv s (.store m slot :: code)) (hcurr : s.impl slot.index = some curr) :
    Inv (s.setSlot slot.index none) (.directDelete curr :: .store m slot :: code) := by
  have hold : ∀ i g, (s.setSlot slot.index none).impl i = some g → s.impl i = some g :=
    fun _ _ => impl_of_setSlot_none
  obtain ⟨hdeleted, hfinalized, halive, habove, hexpires, hpending⟩ :=
    h.carried _ (Or.inl ⟨curr, rfl⟩)
  refine ⟨h.bounds, fun i g hi => h.within i g (hold i g hi), fun hnone => ?_, fun hnone => ?_,
    fun i g hi hneed => (h.ready i g (hold i g hi) hneed).cons,
    fun g hg => (h.topReady g (hold _ g hg)).imp Started.cons id,
    fun i hi => h.shared i (hold i _ hi), fun slot' hmem => ?_,
    hdeleted, fun n => ?_, hfinalized, halive, habove, hexpires, hpending⟩
  · by_cases hne : s.top = slot.index
    · exact Or.inr ⟨m, slot, by simp, hne.symm⟩
    · refine (h.topHole ((Function.update_of_ne hne ..).symm.trans hnone)).imp id ?_
      rintro ⟨m', slot', hmem, hslot⟩
      exact ⟨m', slot', List.mem_cons_of_mem _ hmem, hslot⟩
  · by_cases hne : (0 : ℤ) = slot.index
    · exact Or.inr ⟨m, by rw [MovementSlot.index_eq_zero hne.symm]; simp⟩
    · have hzero : s.impl 0 = none := (Function.update_of_ne hne ..).symm.trans hnone
      refine (h.idleSlot hzero).imp (List.mem_cons_of_mem _) ?_
      rintro ⟨m', hmem⟩
      exact ⟨m', List.mem_cons_of_mem _ hmem⟩
  · exact h.sharedStore slot' ((List.mem_cons.mp hmem).resolve_left nofun)
  · have hocc := occupied_setSlot_none (s := s) (g := .made n) slot.index_bounds hcurr
    have hplaces := h.places n
    change (s.setSlot slot.index none).occupied (.made n) +
      (s.expired (.store m slot :: code)).count (.made n) +
      heldIn (.directDelete curr :: .store m slot :: code) (.made n) +
        s.deleted.count (.made n) = if n < s.created then 1 else 0
    rw [heldIn_cons, held_directDelete, ← hplaces]
    unfold MotionMaster.places
    omega

theorem settles_mono (h : settles false code = true) : settles true code = true := by
  induction code with
  | nil => exact absurd h nofun
  | cons statement code ih =>
    cases statement with
    | running g k => cases k <;> first | exact ih h | rfl
    | directDelete | deletes | store | clearReset => exact ih h
    | markTop => exact absurd h nofun
    | _ => rfl

theorem settles_true (b : Bool) (h : settles b code = true) : settles true code = true := by
  cases b with
  | false => exact settles_mono h
  | true => exact h

theorem cursor_le (h : ∀ i, .expireFrom i ∈ code → ∃ list, s.expList = some list ∧
    i ≤ list.length) : cursor code ≤ (s.expList.getD []).length := by
  by_cases hmem : .expireFrom (cursor code) ∈ code
  · obtain ⟨list, hlist, hle⟩ := h _ hmem
    rw [hlist]
    exact hle
  · suffices hzero : cursor code = 0 by rw [hzero]; exact Nat.zero_le _
    clear h
    induction code with
    | nil => rfl
    | cons statement code ih =>
      cases statement with
      | expireFrom i => exact absurd List.mem_cons_self hmem
      | _ => exact ih fun h => hmem (List.mem_cons_of_mem _ h)

theorem Inv.delayedDelete (h : Inv s (.directDelete curr :: code))
    (hup : ∃ st ∈ code, st.isUpdate = true) : Inv (s.delayedDelete curr) code := by
  have hdrop : ∀ {st}, st ≠ .directDelete curr → st ∈ .directDelete curr :: code → st ∈ code :=
    fun hne hmem => (List.mem_cons.mp hmem).resolve_left hne
  have hstarted : ∀ g, s.Started (.directDelete curr :: code) g → s.Started code g :=
    fun g hg => hg.imp id (hdrop nofun)
  cases curr with
  | si_idleMovement =>
    refine h.recode rfl (fun g hmem => Or.inr (hdrop nofun hmem)) (fun hmem => Or.inl ?_)
      (fun g k hmem => Or.inl (List.mem_cons_of_mem _ hmem)) (List.pairwise_cons.mp h.above).2
      (fun g hg => (h.topReady g hg).imp (hstarted g) id) fun _ => hup
    exact hdrop nofun hmem
  | made n =>
    have hexpList : (s.delayedDelete (.made n)).expList =
        some (s.expList.getD [] ++ [.made n]) := rfl
    have hcursor : cursor code ≤ (s.expList.getD []).length :=
      cursor_le fun i hmem => h.expires i (List.mem_cons_of_mem _ hmem)
    refine ⟨h.bounds, h.within, fun hnone => ?_, fun hnone => ?_,
      fun i g hi hneed => hstarted g (h.ready i g hi hneed), fun g hg => ?_, h.shared,
      fun slot hmem => h.sharedStore slot (List.mem_cons_of_mem _ hmem),
      ⟨h.sharedDeleted.1, fun hmem => h.sharedDeleted.2 (List.mem_cons_of_mem _ hmem)⟩,
      fun n' => ?_, fun n' => ?_, fun g k hmem => h.alive g k (List.mem_cons_of_mem _ hmem),
      (List.pairwise_cons.mp h.above).2, fun i hmem => ?_, fun _ => hup⟩
    · refine (h.topHole hnone).imp id ?_
      rintro ⟨m, slot, hmem, hslot⟩
      exact ⟨m, slot, hdrop nofun hmem, hslot⟩
    · refine (h.idleSlot hnone).imp (hdrop nofun) ?_
      rintro ⟨m, hmem⟩
      exact ⟨m, hdrop nofun hmem⟩
    · exact (h.topReady g hg).imp (hstarted g) (settles_true _)
    · have hplaces := h.places n'
      change s.occupied (.made n') + ((s.delayedDelete (.made n)).expired code).count (.made n') +
        heldIn code (.made n') + s.deleted.count (.made n') = if n' < s.created then 1 else 0
      have hlist : (s.delayedDelete (.made n)).expired code = s.expired code ++ [.made n] := by
        unfold MotionMaster.expired
        rw [hexpList, Option.getD_some, List.drop_append_of_le_length hcursor]
      rw [hlist, List.count_append, List.count_singleton, ← hplaces]
      unfold MotionMaster.places
      rw [heldIn_cons, held_directDelete]
      have hexpired : s.expired (.directDelete (.made n) :: code) = s.expired code := rfl
      rw [hexpired]
      by_cases heq : MovementGenerator.made n = .made n'
      · rw [if_pos heq, if_pos (by simpa using heq)]
        omega
      · rw [if_neg heq, if_neg (by simpa using heq)]
        omega
    · have hne : Statement.directDelete (.made n) ≠ .deletes (.made n') := nofun
      refine (h.finalized n').trans ?_
      rw [List.count_cons_of_ne hne]
      rfl
    · obtain ⟨list, hlist, hle⟩ := h.expires i (List.mem_cons_of_mem _ hmem)
      refine ⟨_, hexpList, ?_⟩
      rw [hlist, Option.getD_some, List.length_append]
      omega

def MotionMaster.put (s : MotionMaster) (m : MovementGenerator) (slot : MovementSlot) (b : Bool) :
    MotionMaster :=
  { s.setSlot slot.index (some m) with
    initialized := Function.update s.initialized m false }.setNeedInit slot.index b

theorem Inv.put (h : Inv s (.store m slot :: code)) (hle : slot.index ≤ s.top)
    (hfree : ∀ n, s.impl slot.index ≠ some (.made n)) (b : Bool) (pre : List Statement)
    (hpre : pre = [] ∧ b = true ∧ slot.index < s.top ∨ pre = [.running m .Initialize]) :
    Inv (s.put m slot b) (pre ++ code) := by
  have hup : ∀ {st}, st ∈ code → st ∈ pre ++ code := List.mem_append_right pre
  have hmem_pre : ∀ {st}, st ∈ pre → st = .running m .Initialize := by
    intro st hst
    rcases hpre with ⟨rfl, -, -⟩ | rfl
    · exact absurd hst List.not_mem_nil
    · exact List.mem_singleton.mp hst
  have hdown : ∀ {st}, st ≠ .running m .Initialize → st ∈ pre ++ code → st ∈ code :=
    fun hne hmem => (List.mem_append.mp hmem).resolve_left fun hst => hne (hmem_pre hst)
  have hdrop : ∀ {st}, st ≠ .store m slot → st ∈ .store m slot :: code → st ∈ pre ++ code :=
    fun hne hmem => hup ((List.mem_cons.mp hmem).resolve_left hne)
  have hshared : m = .si_idleMovement → slot.index = 0 := by
    rintro rfl
    rw [h.sharedStore slot List.mem_cons_self]
    rfl
  have hnot : m ∉ s.deleted := by
    cases m with
    | si_idleMovement => exact h.sharedDeleted.1
    | made n => exact (h.held_alone (heldIn_pos List.mem_cons_self n (if_pos rfl))).2
  have himpl : ∀ i, (s.put m slot b).impl i = if i = slot.index then some m else s.impl i :=
    fun i => Function.update_apply ..
  have hinit : ∀ g, g ≠ m → s.Started (.store m slot :: code) g →
      (s.put m slot b).Started (pre ++ code) g := by
    rintro g hne (hg | hg)
    · exact Or.inl ((Function.update_of_ne hne ..).trans hg)
    · exact Or.inr (hdrop nofun hg)
  have hother : ∀ i g, i ≠ slot.index → s.impl i = some g → g ≠ m := by
    rintro i g hne hi rfl
    cases g with
    | si_idleMovement => exact hne ((h.shared i hi).trans (hshared rfl).symm)
    | made n =>
      refine (h.held_alone ?_).1 i hi
      exact heldIn_pos List.mem_cons_self n (if_pos rfl)
  have hsettles : settles s.expList.isSome (pre ++ code) = settles s.expList.isSome code := by
    rcases hpre with ⟨rfl, -, -⟩ | rfl
    · rfl
    · rfl
  have hfilter : (pre ++ code).filter Statement.content = code.filter Statement.content := by
    rcases hpre with ⟨rfl, -, -⟩ | rfl
    · rfl
    · rfl
  refine ⟨h.bounds, fun i g hi => ?_, fun hnone => ?_, fun hnone => ?_, fun i g hi hneed => ?_,
    fun g hg => ?_, fun i hi => ?_, fun slot' hmem => ?_, ⟨h.sharedDeleted.1, fun hmem => ?_⟩,
    fun n => ?_, fun n => ?_, fun g k hmem => ?_, ?_, fun i hmem => ?_, fun hsome => ?_⟩
  · rw [himpl] at hi
    split at hi
    · next hslot =>
      rw [hslot]
      exact ⟨slot.index_bounds.1, hle⟩
    · exact h.within i g hi
  · change (s.put m slot b).impl s.top = none at hnone
    rw [himpl] at hnone
    split at hnone
    · exact absurd hnone nofun
    · next hslot =>
      refine (h.topHole hnone).imp id ?_
      rintro ⟨m', slot', hmem, hindex⟩
      refine ⟨m', slot', hdrop ?_ hmem, hindex⟩
      intro heq
      exact hslot (by rw [← hindex, (Statement.store.inj heq).2])
  · rw [himpl] at hnone
    split at hnone
    · exact absurd hnone nofun
    · next hslot =>
      refine (h.idleSlot hnone).imp (hdrop nofun) ?_
      rintro ⟨m', hmem⟩
      refine ⟨m', hdrop ?_ hmem⟩
      intro heq
      exact hslot (by rw [← (Statement.store.inj heq).2]; rfl)
  · rw [himpl] at hi
    by_cases hslot : i = slot.index
    · rw [if_pos hslot] at hi
      obtain rfl := Option.some.inj hi
      rcases hpre with ⟨-, rfl, -⟩ | rfl
      · subst hslot
        exact absurd ((Function.update_self ..).symm.trans hneed) nofun
      · exact Or.inr List.mem_cons_self
    · rw [if_neg hslot] at hi
      refine hinit g (hother i g hslot hi) (h.ready i g hi ?_)
      exact (Function.update_of_ne hslot ..).symm.trans hneed
  · change (s.put m slot b).impl s.top = some g at hg
    rw [himpl] at hg
    change (s.put m slot b).Started (pre ++ code) g ∨ settles s.expList.isSome (pre ++ code) = true
    rw [hsettles]
    by_cases hslot : s.top = slot.index
    · rw [if_pos hslot] at hg
      obtain rfl := Option.some.inj hg
      rcases hpre with ⟨-, -, hlt⟩ | rfl
      · exact absurd hslot (ne_of_gt hlt)
      · exact Or.inl (Or.inr List.mem_cons_self)
    · rw [if_neg hslot] at hg
      exact (h.topReady g hg).imp (hinit g (hother _ g hslot hg)) id
  · rw [himpl] at hi
    split at hi
    · next hslot => rw [hslot, hshared (Option.some.inj hi)]
    · exact h.shared i hi
  · exact h.sharedStore slot' (List.mem_cons_of_mem _ (hdown nofun hmem))
  · exact h.sharedDeleted.2 (List.mem_cons_of_mem _ (hdown nofun hmem))
  · have hocc := occupied_setSlot_some (s := s) (m := m) slot.index_bounds (hfree n)
    have hplaces := h.places n
    change (s.setSlot slot.index (some m)).occupied (.made n) +
      (s.expired (pre ++ code)).count (.made n) + heldIn (pre ++ code) (.made n) +
        s.deleted.count (.made n) = if n < s.created then 1 else 0
    have hexpired : s.expired (pre ++ code) = s.expired (.store m slot :: code) := by
      unfold MotionMaster.expired
      rw [← cursor_filter (pre ++ code), hfilter, cursor_filter]
      rfl
    rw [← heldIn_filter (pre ++ code), hfilter, heldIn_filter, hexpired, hocc, ← hplaces]
    unfold MotionMaster.places
    rw [heldIn_cons, held_store]
    omega
  · have hne : Statement.store m slot ≠ .deletes (.made n) := nofun
    refine (h.finalized n).trans ?_
    rw [count_of_content hfilter rfl, List.count_cons_of_ne hne]
    rfl
  · rcases List.mem_append.mp hmem with hst | hst
    · obtain ⟨rfl, -⟩ := Statement.running.inj (hmem_pre hst)
      exact hnot
    · exact h.alive g k (List.mem_cons_of_mem _ hst)
  · have hrest := (List.pairwise_cons.mp h.above).2
    rcases hpre with ⟨rfl, -, -⟩ | rfl
    · exact hrest
    · exact List.pairwise_cons.mpr ⟨fun b _ => ⟨nofun, nofun⟩, hrest⟩
  · exact h.expires i (List.mem_cons_of_mem _ (hdown nofun hmem))
  · obtain ⟨st, hst, hst'⟩ := h.pending hsome
    refine ⟨st, hdrop ?_ hst, hst'⟩
    rintro rfl
    exact absurd hst' nofun

theorem Inv.store (h : Inv s (.store m slot :: code)) (hle : slot.index ≤ s.top)
    (hfree : ∀ n, s.impl slot.index ≠ some (.made n)) :
    ∃ s' pre, s.store m slot = .ok (s', pre) ∧ Inv s' (pre ++ code) ∧
      s'.top = s.top ∧ s'.update = s.update ∧
      s'.impl = Function.update s.impl slot.index (some m) ∧
      updating (pre ++ code) = updating code := by
  have hnot : m ∉ s.deleted := by
    cases m with
    | si_idleMovement => exact h.sharedDeleted.1
    | made n => exact (h.held_alone (heldIn_pos List.mem_cons_self n (if_pos rfl))).2
  by_cases htop : s.top > slot.index
  · have hput := h.put hle hfree true [] (Or.inl ⟨rfl, rfl, htop⟩)
    exact ⟨_, [], if_pos htop, hput, rfl, rfl, rfl, rfl⟩
  · have hput := h.put hle hfree false [.running m .Initialize] (Or.inr rfl)
    refine ⟨s.put m slot false, [.running m .Initialize], ?_, hput, rfl, rfl, rfl, rfl⟩
    refine (if_neg htop).trans ?_
    exact (if_neg hnot).trans ((if_neg (by simp)).trans (if_neg (by simp)))

theorem Inv.raise (h : Inv s (.store m slot :: code)) (hlt : s.top < slot.index) :
    Inv { s with top := slot.index } (.store m slot :: code) := by
  obtain ⟨h0, h2⟩ := slot.index_bounds
  have hnone : s.impl slot.index = none := by
    cases hcurr : s.impl slot.index with
    | none => rfl
    | some curr =>
      have hle := (h.within _ _ hcurr).2
      omega
  refine ⟨⟨?_, h2⟩, fun i g hi => ?_, fun _ => Or.inr ⟨m, slot, List.mem_cons_self, rfl⟩,
    h.idleSlot, h.ready, fun g hg => absurd (hnone.symm.trans hg) nofun, h.shared, h.sharedStore,
    h.sharedDeleted, h.places, h.finalized, h.alive, h.above, h.expires, h.pending⟩
  · change -1 ≤ slot.index
    omega
  · obtain ⟨hlow, hhigh⟩ := h.within i g hi
    refine ⟨hlow, ?_⟩
    change i ≤ slot.index
    omega

@[simp] theorem delayedDelete_top (s : MotionMaster) : (s.delayedDelete curr).top = s.top := by
  cases curr <;> rfl

@[simp] theorem delayedDelete_impl (s : MotionMaster) : (s.delayedDelete curr).impl = s.impl := by
  cases curr <;> rfl

@[simp] theorem delayedDelete_update (s : MotionMaster) :
    (s.delayedDelete curr).update = s.update := by
  cases curr <;> rfl

/-- The result of a function: its master and statements, on top of those below, are sound. -/
def Yields (r : Except Fault (MotionMaster × List Statement)) (code : List Statement) : Prop :=
  ∃ s pre, r = .ok (s, pre) ∧ Inv s (pre ++ code) ∧ FlagSound s (pre ++ code)

theorem Inv.mutate (h : Inv s (.store m slot :: code)) (hflag : FlagSound s code) :
    Yields (s.mutate m slot) code := by
  have hstored : ∀ {s₁ : MotionMaster}, Inv s₁ (.store m slot :: code) →
      slot.index ≤ s₁.top → s₁.impl slot.index = none → s₁.update = s.update →
      (s₁.top = slot.index ∨ s₁.top = s.top ∧ s₁.impl = s.impl) →
      Yields (s₁.store m slot) code := by
    intro s₁ hinv hle hnone hupdate hsame
    obtain ⟨s', pre, hok, hinv', htop', hupdate', himpl', hupdating⟩ :=
      hinv.store hle fun n hn => absurd (hnone.symm.trans hn) nofun
    refine ⟨s', pre, hok, hinv', fun hset => ?_⟩
    obtain ⟨hup, hocc⟩ := hflag (by rw [← hupdate, ← hupdate', hset])
    refine ⟨hupdating.trans hup, ?_⟩
    rw [himpl', htop', Function.update_apply]
    split
    · exact Or.inr nofun
    · next hne =>
      obtain ⟨htop, himpl⟩ := hsame.resolve_left hne
      rw [htop, himpl]
      exact hocc
  unfold MotionMaster.mutate
  split
  · next curr hcurr =>
    have hrep := h.replace hcurr
    have hnone : (s.setSlot slot.index none).impl slot.index = none := Function.update_self ..
    dsimp only
    split
    · next hdelayed =>
      obtain ⟨htop, hset⟩ := hdelayed
      have hup := exists_isUpdate_of_updating (hflag hset).1
      have hdel := hrep.delayedDelete (hup.imp fun st hst => hst.imp_left (List.mem_cons_of_mem _))
      refine hstored hdel ?_ ?_ ?_ (Or.inl ?_)
      · rw [delayedDelete_top]
        exact htop.ge
      · rw [delayedDelete_impl]
        exact hnone
      · rw [delayedDelete_update]
        rfl
      · rw [delayedDelete_top]
        exact htop
    · next hdirect =>
      refine ⟨_, _, rfl, hrep, fun hset => ?_⟩
      obtain ⟨hup, hocc⟩ := hflag hset
      have hne : s.top ≠ slot.index := fun htop => hdirect ⟨htop, hset⟩
      refine ⟨hup, hocc.imp id fun htop => ?_⟩
      rw [show (s.setSlot slot.index none).impl (s.setSlot slot.index none).top = s.impl s.top from
        Function.update_of_ne hne ..]
      exact htop
  · next hnone =>
    split
    · next hlt => exact hstored (h.raise hlt) le_rfl hnone rfl (Or.inl rfl)
    · next hge => exact hstored h (not_lt.mp hge) hnone rfl (Or.inr ⟨rfl, rfl⟩)

theorem Inv.mutateNew (h : Inv s code) (hflag : FlagSound s code) (slot : MovementSlot) :
    Yields (s.mutateNew slot) code :=
  (h.made slot).mutate hflag

theorem Inv.moveIdle (h : Inv s code) (hflag : FlagSound s code) : Yields s.moveIdle code := by
  unfold MotionMaster.moveIdle
  split
  · exact h.idle.mutate hflag
  · exact ⟨s, [], rfl, h, hflag⟩

end Mutate

/-! ## 5. The calls -/

section Calls

variable {s : MotionMaster} {code : List Statement} {g : MovementGenerator} {st : Statement}

theorem above_of_not_isUpdate (hcontent : st.content = false) (hup : st.isUpdate = false)
    (b : Statement) : Above st b := by
  refine ⟨fun g k hst => ?_, fun hst => absurd (hup.symm.trans hst) nofun⟩
  rw [hst] at hcontent
  exact absurd hcontent nofun

theorem settles_cons {pending : Bool} (hmark : st ≠ .markTop)
    (h : settles pending code = true) : settles pending (st :: code) = true := by
  cases st with
  | markTop => exact absurd rfl hmark
  | directClean | afterExpire | clearAll => rfl
  | running g k =>
    cases k with
    | Update => exact (congrArg (pending || ·) h).trans (Bool.or_true pending)
    | Initialize | Reset | Finalize => exact h
  | updated | expireList | expireFrom =>
    exact (congrArg (pending || ·) h).trans (Bool.or_true pending)
  | directDelete | deletes | store | clearReset => exact h

theorem Inv.push (h : Inv s code) (hcontent : st.content = false) (hmark : st ≠ .markTop)
    (halive : ∀ g k, st = .running g k → g ∉ s.deleted)
    (habove : st.isUpdate = true → ∀ i, .expireFrom i ∉ code) : Inv s (st :: code) := by
  refine h.recode (List.filter_cons_of_neg (by rw [hcontent]; exact nofun))
    (fun g hmem => Or.inr (List.mem_cons_of_mem _ hmem))
    (fun hmem => Or.inl (List.mem_cons_of_mem _ hmem)) (fun g k hmem => ?_)
    (List.pairwise_cons.mpr ⟨fun b hb => ⟨?_, ?_⟩, h.above⟩)
    (fun g hg => (h.topReady g hg).imp Started.cons (settles_cons hmark)) fun hsome => ?_
  · exact (List.mem_cons.mp hmem).symm.imp id fun heq => halive g k heq.symm
  · rintro g k rfl
    exact absurd hcontent nofun
  · rintro hup i rfl
    exact habove hup i hb
  · obtain ⟨st', hst, hup⟩ := h.pending hsome
    exact ⟨st', List.mem_cons_of_mem _ hst, hup⟩

theorem Inv.drop (h : Inv s (st :: code)) (hcontent : st.content = false)
    (hinit : ∀ g, st = .running g .Initialize → s.initialized g = true)
    (hidle : st = .clearAll → s.impl 0 ≠ none)
    (hready : ∀ g, s.impl s.top = some g →
      s.Started code g ∨ settles s.expList.isSome code = true)
    (hpending : s.expList.isSome = true → ∃ st' ∈ code, st'.isUpdate = true) : Inv s code := by
  refine h.recode (List.filter_cons_of_neg (by rw [hcontent]; exact nofun)).symm
    (fun g hmem => ?_) (fun hmem => ?_) (fun g k hmem => Or.inl (List.mem_cons_of_mem _ hmem))
    (List.pairwise_cons.mp h.above).2 hready hpending
  · exact (List.mem_cons.mp hmem).elim (fun heq => Or.inl (hinit g heq.symm)) Or.inr
  · exact (List.mem_cons.mp hmem).elim (fun heq => Or.inr (Or.inl (hidle heq.symm))) Or.inl

theorem Inv.setFlags (h : Inv s code) (update reset : Bool) :
    Inv { s with update := update, reset := reset } code :=
  ⟨h.bounds, h.within, h.topHole, h.idleSlot, h.ready, h.topReady, h.shared, h.sharedStore,
    h.sharedDeleted, h.places, h.finalized, h.alive, h.above, h.expires, h.pending⟩

theorem flagSound_of_not_update (h : s.update = false) : FlagSound s code :=
  fun hset => absurd (h.symm.trans hset) nofun

theorem Inv.popDelayed {curr : MovementGenerator} (h : Inv s code)
    (hup : updating code = true) (h0 : 0 < s.top) (hcurr : s.impl s.top = some curr) :
    Inv (s.pop.delayedDelete curr) code := by
  have hpush : Inv s (.afterExpire false :: code) := h.push rfl nofun nofun nofun
  have hpop := hpush.pop h0.le hcurr rfl (Or.inl h0)
  have hup' := exists_isUpdate_of_updating hup
  have hdel := hpop.delayedDelete (hup'.imp fun st hst => hst.imp_left (List.mem_cons_of_mem _))
  have hmade : ∃ n, curr = .made n := by
    cases curr with
    | si_idleMovement => exact absurd (h.shared _ hcurr) (ne_of_gt h0)
    | made n => exact ⟨n, rfl⟩
  obtain ⟨n, rfl⟩ := hmade
  exact hdel.drop rfl nofun nofun (fun g _ => Or.inr (settles_of_updating hup)) fun _ => hup'

theorem pop_occupied (h0 : 0 ≤ s.top) : s.pop.top < 0 ∨ s.pop.impl s.pop.top ≠ none := by
  rw [pop_eq h0]
  by_cases hnone : (s.setSlot s.top none).lowerTop.impl (s.setSlot s.top none).lowerTop.top = none
  · exact Or.inl (highest_occupied _ _ hnone)
  · exact Or.inr hnone

@[simp] theorem pop_update (s : MotionMaster) : s.pop.update = s.update := by
  unfold MotionMaster.pop
  split
  · rfl
  · rfl

theorem lowerTop_of_occupied (hlow : -1 ≤ s.top) (hocc : s.top < 0 ∨ s.impl s.top ≠ none) :
    s.lowerTop = s := by
  have htop : highest s.impl s.size.toNat = s.top := by
    rcases hocc with hneg | hsome
    · have hsize : s.size.toNat = 0 := by unfold size; omega
      rw [hsize, highest]
      omega
    · by_cases h0 : 0 ≤ s.top
      · have hsize : s.size.toNat = s.top.toNat + 1 := by unfold size; omega
        have hcast : ((s.top.toNat : ℕ) : ℤ) = s.top := Int.toNat_of_nonneg h0
        rw [hsize, highest, hcast, if_pos (Option.isSome_iff_ne_none.mpr hsome)]
      · have hsize : s.size.toNat = 0 := by unfold size; omega
        rw [hsize, highest]
        omega
  unfold MotionMaster.lowerTop
  rw [htop]

theorem Inv.delayedClean (h : Inv s code) (hup : updating code = true)
    (hocc : s.top < 0 ∨ s.impl s.top ≠ none) :
    Inv s.delayedClean code ∧
      (s.delayedClean.top < 0 ∨ s.delayedClean.impl s.delayedClean.top ≠ none) := by
  suffices hloop : ∀ n (s : MotionMaster), Inv s code → (s.top < 0 ∨ s.impl s.top ≠ none) →
      Inv (delayedCleanLoop n s) code ∧ ((delayedCleanLoop n s).top < 0 ∨
        (delayedCleanLoop n s).impl (delayedCleanLoop n s).top ≠ none) from hloop _ s h hocc
  intro n
  induction n with
  | zero => exact fun s h hocc => ⟨h, hocc⟩
  | succ n ih =>
    intro s h hocc
    unfold delayedCleanLoop
    split
    · next hsize =>
      have h0 : 0 < s.top := by unfold size at hsize; omega
      split
      · next curr hcurr =>
        refine ih _ (h.popDelayed hup h0 hcurr) ?_
        rw [delayedDelete_top, delayedDelete_impl]
        exact pop_occupied h0.le
      · next hnone => exact absurd hnone (hocc.resolve_left (by omega))
    · exact ⟨h, hocc⟩

theorem Inv.clear (h : Inv s code) (hflag : FlagSound s code) (reset : Bool) :
    Yields (s.clear reset) code := by
  unfold MotionMaster.clear
  split
  · next hset =>
    obtain ⟨hup, hocc⟩ := hflag hset
    obtain ⟨hinv, hocc'⟩ := (h.setFlags s.update reset).delayedClean hup hocc
    exact ⟨_, [], rfl, hinv, fun _ => ⟨hup, hocc'⟩⟩
  · next hclear =>
    refine ⟨_, _, rfl, ?_, flagSound_of_not_update (Bool.not_eq_true _ ▸ hclear)⟩
    exact h.push rfl nofun nofun nofun

theorem Inv.delayedExpire (h : Inv s code) (hflag : FlagSound s code) (hset : s.update = true) :
    Yields s.delayedExpire code := by
  obtain ⟨hup, hocc⟩ := hflag hset
  unfold MotionMaster.delayedExpire
  split
  · next hsize =>
    have h0 : 0 < s.top := by unfold size at hsize; omega
    split
    · next hnone => exact absurd hnone (hocc.resolve_left (by omega))
    · next curr hcurr =>
      have hpop := h.popDelayed hup h0 hcurr
      have hocc' : (s.pop.delayedDelete curr).top < 0 ∨
          (s.pop.delayedDelete curr).impl (s.pop.delayedDelete curr).top ≠ none := by
        rw [delayedDelete_top, delayedDelete_impl]
        exact pop_occupied h0.le
      rw [lowerTop_of_occupied hpop.bounds.1 hocc']
      exact ⟨_, [], rfl, hpop, fun _ => ⟨hup, hocc'⟩⟩
  · rw [lowerTop_of_occupied h.bounds.1 hocc]
    exact ⟨_, [], rfl, h, hflag⟩

theorem Inv.directExpire (h : Inv s code) (hset : s.update = false) (reset : Bool)
    (hthere : 0 < s.top → s.impl s.top ≠ none) : Yields (s.directExpire reset) code := by
  have hpush : Inv s (.afterExpire reset :: code) := h.push rfl nofun nofun nofun
  unfold MotionMaster.directExpire
  split
  · next hsize =>
    have h0 : 0 < s.top := by unfold size at hsize; omega
    split
    · next hnone => exact absurd hnone (hthere h0)
    · next curr hcurr =>
      refine ⟨_, _, rfl, hpush.pop h0.le hcurr rfl (Or.inl h0), ?_⟩
      exact flagSound_of_not_update ((pop_update s).trans hset)
  · exact ⟨_, _, rfl, hpush, flagSound_of_not_update hset⟩

theorem Inv.movementExpired (h : Inv s code) (hflag : FlagSound s code) (reset : Bool)
    (hthere : 0 < s.top → s.impl s.top ≠ none) : Yields (s.movementExpired reset) code := by
  unfold MotionMaster.movementExpired
  split
  · next hset => exact (h.setFlags s.update reset).delayedExpire hflag hset
  · next hclear => exact h.directExpire (Bool.eq_false_iff.mpr hclear) reset hthere

theorem Inv.updateMotion (h : Inv s code) (hflag : FlagSound s code) (rooted : Bool)
    (hgen : rooted = false → ∃ g, s.impl s.top = some g ∧ s.initialized g = true)
    (hexpire : rooted = false → ∀ i, .expireFrom i ∉ code) :
    Yields (s.updateMotion rooted) code := by
  unfold MotionMaster.updateMotion
  cases rooted with
  | true => exact ⟨s, [], rfl, h, hflag⟩
  | false =>
    obtain ⟨g, hg, hinit⟩ := hgen rfl
    have h0 := (h.within _ g hg).1
    have hempty : s.empty = false := by simp [MotionMaster.empty, h0]
    have hnot := h.not_deleted hg
    have hset : Inv { s with update := true } code := h.setFlags true s.reset
    have hpush : Inv { s with update := true } (.running g .Update :: code) :=
      hset.push rfl nofun (fun g' k heq => (Statement.running.inj heq).1 ▸ hnot)
        fun _ => hexpire rfl
    refine ⟨_, [.running g .Update], ?_, hpush, fun _ => ⟨rfl, Or.inr ?_⟩⟩
    · rw [if_neg (by simp), hempty, if_neg (by simp)]
      unfold enter topGenerator
      rw [hg]
      exact (if_neg hnot).trans ((if_neg (by simp [hinit])).trans (if_neg (by simp)))
    · change s.impl s.top ≠ none
      rw [hg]
      exact nofun

end Calls

/-! ## 6. The statements -/

section Statements

variable {s : MotionMaster} {code : List Statement} {curr : MovementGenerator} {st : Statement}

theorem FlagSound.off (hflag : FlagSound s code) (h : updating code = false) :
    s.update = false :=
  Bool.eq_false_iff.mpr fun hset => absurd (h.symm.trans (hflag hset).1) nofun

theorem enter_eq_ok {g : MovementGenerator} {k : Hook} (hnot : g ∉ s.deleted)
    (hk : k = .Initialize ∨ k = .Reset) (rest : List Statement) :
    s.enter (some g) k rest = .ok (s, .running g k :: rest) := by
  unfold enter
  rcases hk with rfl | rfl
  · exact (if_neg hnot).trans ((if_neg (by simp)).trans (if_neg (by simp)))
  · exact (if_neg hnot).trans ((if_neg (by simp)).trans (if_neg (by simp)))

/-- The end of `DirectClean`, `DirectExpire` and `UpdateMotion`: the top generator is initialised,
or reset, or left alone. -/
theorem Inv.settle {b : Bool} (rest : List Statement)
    (h : Inv s (.afterExpire b :: (rest ++ code))) (h0 : 0 ≤ s.top) (reset : Bool)
    (hthere : s.needInitTop = true ∨ reset = true → s.impl s.top ≠ none)
    (hset : s.update = false)
    (hrest : s.expList.isSome = true → ∃ st ∈ rest ++ code, st.isUpdate = true) :
    Yields (s.settle reset rest) code := by
  have hempty : s.empty = false := by simp [MotionMaster.empty, h0]
  have hpending : ∀ pre : List Statement, s.expList.isSome = true →
      ∃ st ∈ pre ++ (rest ++ code), st.isUpdate = true := fun pre hsome =>
    (hrest hsome).imp fun st hst => hst.imp_left (List.mem_append_right pre)
  have hdrop : ∀ {st}, st ≠ .afterExpire b → st ∈ .afterExpire b :: (rest ++ code) →
      st ∈ rest ++ code := fun hne hmem => (List.mem_cons.mp hmem).resolve_left hne
  have habove := (List.pairwise_cons.mp h.above).2
  unfold MotionMaster.settle
  split
  · next hneed =>
    obtain ⟨g, hg⟩ := Option.ne_none_iff_exists'.mp (hthere (Or.inl hneed))
    have hnot := h.not_deleted hg
    refine ⟨s, .running g .Initialize :: .markTop :: rest, ?_, ?_, flagSound_of_not_update hset⟩
    · unfold initTop topGenerator
      rw [hg]
      exact enter_eq_ok hnot (Or.inl rfl) _
    · refine h.recode rfl (fun g' hmem => Or.inr ?_) (fun hmem => Or.inl ?_) (fun g' k hmem => ?_)
        ?_ (fun g' hg' => Or.inl (Or.inr ?_)) (hpending [.running g .Initialize, .markTop])
      · exact List.mem_cons_of_mem _ (List.mem_cons_of_mem _ (hdrop nofun hmem))
      · exact List.mem_cons_of_mem _ (List.mem_cons_of_mem _ (hdrop nofun hmem))
      · rcases List.mem_cons.mp hmem with heq | hmem
        · exact Or.inr ((Statement.running.inj heq).1 ▸ hnot)
        · exact Or.inl (List.mem_cons_of_mem _ ((List.mem_cons.mp hmem).resolve_left nofun))
      · refine List.pairwise_cons.mpr ⟨fun b _ => above_of_not_isUpdate rfl rfl b, ?_⟩
        exact List.pairwise_cons.mpr ⟨fun b _ => above_of_not_isUpdate rfl rfl b, habove⟩
      · rw [Option.some.inj (hg.symm.trans hg')]
        exact List.mem_cons_self
  · next hneed =>
    have hready : ∀ g, s.impl s.top = some g → s.Started (rest ++ code) g := by
      intro g hg
      have hoff : s.needInit s.top = false := by
        simpa [needInitTop, hempty] using hneed
      exact (h.ready _ g hg hoff).imp id (hdrop nofun)
    have hinv : Inv s (rest ++ code) :=
      h.drop rfl nofun nofun (fun g hg => Or.inl (hready g hg)) hrest
    split
    · next hreset =>
      obtain ⟨g, hg⟩ := Option.ne_none_iff_exists'.mp (hthere (Or.inr hreset))
      have hnot := h.not_deleted hg
      refine ⟨s, .running g .Reset :: rest, ?_, ?_, flagSound_of_not_update hset⟩
      · unfold topGenerator
        rw [hg]
        exact enter_eq_ok hnot (Or.inr rfl) _
      · exact hinv.push rfl nofun (fun g' k heq => (Statement.running.inj heq).1 ▸ hnot) nofun
    · exact ⟨s, rest, rfl, hinv, flagSound_of_not_update hset⟩

theorem Inv.pendingTail (h : Inv s (st :: code)) (hst : st.isUpdate = false)
    (hsome : s.expList.isSome = true) : ∃ st' ∈ code, st'.isUpdate = true := by
  obtain ⟨st', hmem, hup⟩ := h.pending hsome
  rcases List.mem_cons.mp hmem with rfl | hmem
  · exact absurd (hst.symm.trans hup) nofun
  · exact ⟨st', hmem, hup⟩

theorem Inv.directDelete (h : Inv s (.directDelete curr :: code))
    (hflag : FlagSound s (.directDelete curr :: code))
    (hidle : ∀ k, curr ≠ .si_idleMovement → .running curr k ∉ code) :
    Yields (s.directDelete curr) code := by
  have hdrop : ∀ {st}, st ≠ .directDelete curr → st ∈ .directDelete curr :: code → st ∈ code :=
    fun hne hmem => (List.mem_cons.mp hmem).resolve_left hne
  cases curr with
  | si_idleMovement =>
    refine ⟨s, [], rfl, ?_, hflag⟩
    exact h.drop rfl nofun nofun (fun g hg => (h.topReady g hg).imp (Or.imp id (hdrop nofun)) id)
      (h.pendingTail rfl)
  | made n =>
    have hnot : .made n ∉ s.deleted :=
      (h.held_alone (heldIn_pos List.mem_cons_self n (if_pos rfl))).2
    have hmono : ∀ {st}, st ≠ .directDelete (.made n) → st ∈ .directDelete (.made n) :: code →
        st ∈ .running (.made n) .Finalize :: .deletes (.made n) :: code :=
      fun hne hmem => List.mem_cons_of_mem _ (List.mem_cons_of_mem _ (hdrop hne hmem))
    have hback : ∀ {st}, st ≠ .running (.made n) .Finalize → st ≠ .deletes (.made n) →
        st ∈ .running (.made n) .Finalize :: .deletes (.made n) :: code →
        st ∈ .directDelete (.made n) :: code := fun hne hne' hmem =>
      List.mem_cons_of_mem _ ((List.mem_cons.mp ((List.mem_cons.mp hmem).resolve_left hne)).resolve_left
        hne')
    refine ⟨{ s with finalized := .made n :: s.finalized },
      [.running (.made n) .Finalize, .deletes (.made n)], ?_, ?_, hflag⟩
    · unfold MotionMaster.directDelete
      rw [if_neg (by simp [isStatic])]
      exact (if_neg hnot).trans ((if_neg (by simp)).trans (if_pos rfl))
    · refine ⟨h.bounds, h.within, fun hnone => ?_, fun hnone => ?_, fun i g hi hneed => ?_,
        fun g hg => ?_, h.shared, fun slot hmem => h.sharedStore slot (hback nofun nofun hmem),
        ⟨h.sharedDeleted.1, fun hmem => h.sharedDeleted.2 (hback nofun nofun hmem)⟩,
        fun n' => ?_, fun n' => ?_, fun g k hmem => ?_, ?_,
        fun i hmem => h.expires i (hback nofun nofun hmem), fun hsome => ?_⟩
      · refine (h.topHole hnone).imp id ?_
        rintro ⟨m, slot, hmem, hslot⟩
        exact ⟨m, slot, hmono nofun hmem, hslot⟩
      · refine (h.idleSlot hnone).imp (hmono nofun) ?_
        rintro ⟨m, hmem⟩
        exact ⟨m, hmono nofun hmem⟩
      · exact (h.ready i g hi hneed).imp id (hmono nofun)
      · exact (h.topReady g hg).imp (Or.imp id (hmono nofun)) id
      · have hplaces := h.places n'
        unfold MotionMaster.places at hplaces ⊢
        rw [heldIn_cons, held_directDelete] at hplaces
        rw [List.cons_append, List.singleton_append, heldIn_cons, heldIn_cons, held_deletes,
          ← hplaces]
        change s.occupied (.made n') + (s.expired code).count (.made n') + (0 + _) + _ =
          s.occupied (.made n') + (s.expired code).count (.made n') + _ + _
        rw [Nat.zero_add]
      · have hne : Statement.running (.made n) .Finalize ≠ .deletes (.made n') := nofun
        have hne' : Statement.directDelete (.made n) ≠ .deletes (.made n') := nofun
        have hfin := h.finalized n'
        rw [List.count_cons_of_ne hne'] at hfin
        change (MovementGenerator.made n :: s.finalized).count (.made n') =
          s.deleted.count (.made n') +
            (.running (.made n) .Finalize :: .deletes (.made n) :: code).count (.deletes (.made n'))
        rw [List.count_cons_of_ne hne, List.count_cons, List.count_cons, hfin, Nat.add_assoc]
        simp
      · rcases List.mem_cons.mp hmem with heq | hmem
        · exact (Statement.running.inj heq).1 ▸ hnot
        · exact h.alive g k (List.mem_cons_of_mem _ ((List.mem_cons.mp hmem).resolve_left nofun))
      · refine List.pairwise_cons.mpr ⟨fun b _ => above_of_not_isUpdate rfl rfl b, ?_⟩
        refine List.pairwise_cons.mpr ⟨fun b hb => ⟨?_, nofun⟩, (List.pairwise_cons.mp h.above).2⟩
        rintro g k heq rfl
        obtain rfl := Statement.deletes.inj heq
        exact hidle k nofun hb
      · exact (h.pendingTail rfl hsome).imp fun st hst =>
          hst.imp_left fun hmem => List.mem_cons_of_mem _ (List.mem_cons_of_mem _ hmem)

theorem Inv.deletes (h : Inv s (.deletes curr :: code)) :
    curr ∉ s.deleted ∧ Inv { s with deleted := curr :: s.deleted } code := by
  have hdrop : ∀ {st}, st ≠ .deletes curr → st ∈ .deletes curr :: code → st ∈ code :=
    fun hne hmem => (List.mem_cons.mp hmem).resolve_left hne
  cases curr with
  | si_idleMovement => exact absurd List.mem_cons_self h.sharedDeleted.2
  | made n =>
    have hnot : .made n ∉ s.deleted :=
      (h.held_alone (heldIn_pos List.mem_cons_self n (if_pos rfl))).2
    refine ⟨hnot, h.bounds, h.within, fun hnone => ?_, fun hnone => ?_, fun i g hi hneed => ?_,
      fun g hg => ?_, h.shared,
      fun slot hmem => h.sharedStore slot (List.mem_cons_of_mem _ hmem), ⟨?_, fun hmem => ?_⟩,
      fun n' => ?_, fun n' => ?_, fun g k hmem => ?_, (List.pairwise_cons.mp h.above).2,
      fun i hmem => h.expires i (List.mem_cons_of_mem _ hmem), h.pendingTail rfl⟩
    · refine (h.topHole hnone).imp id ?_
      rintro ⟨m, slot, hmem, hslot⟩
      exact ⟨m, slot, hdrop nofun hmem, hslot⟩
    · refine (h.idleSlot hnone).imp (hdrop nofun) ?_
      rintro ⟨m, hmem⟩
      exact ⟨m, hdrop nofun hmem⟩
    · exact (h.ready i g hi hneed).imp id (hdrop nofun)
    · exact (h.topReady g hg).imp (Or.imp id (hdrop nofun)) id
    · exact fun hmem => h.sharedDeleted.1 ((List.mem_cons.mp hmem).resolve_left nofun)
    · exact h.sharedDeleted.2 (List.mem_cons_of_mem _ hmem)
    · have hplaces := h.places n'
      change s.occupied (.made n') + (s.expired code).count (.made n') + heldIn code (.made n') +
        (MovementGenerator.made n :: s.deleted).count (.made n') = if n' < s.created then 1 else 0
      rw [← hplaces]
      unfold MotionMaster.places
      rw [heldIn_cons, held_deletes, List.count_cons]
      change _ = s.occupied (.made n') + (s.expired code).count (.made n') + _ + _
      simp only [beq_iff_eq]
      omega
    · have hfin := h.finalized n'
      change s.finalized.count (.made n') =
        (MovementGenerator.made n :: s.deleted).count (.made n') + code.count (.deletes (.made n'))
      rw [hfin, List.count_cons, List.count_cons]
      simp only [beq_iff_eq, Statement.deletes.injEq]
      omega
    · intro hmem'
      rcases List.mem_cons.mp hmem' with rfl | hmem'
      · exact (List.pairwise_cons.mp h.above).1 _ hmem |>.1 _ k rfl rfl
      · exact h.alive g k (List.mem_cons_of_mem _ hmem) hmem'

theorem Inv.markTop (h : Inv s (.markTop :: code)) : Inv (s.setNeedInit s.top false) code := by
  have hdrop : ∀ {st}, st ≠ .markTop → st ∈ .markTop :: code → st ∈ code :=
    fun hne hmem => (List.mem_cons.mp hmem).resolve_left hne
  have htop : ∀ g, s.impl s.top = some g → s.Started code g := fun g hg =>
    ((h.topReady g hg).resolve_right nofun).imp id (hdrop nofun)
  have hrest : Inv s code :=
    h.drop rfl nofun nofun (fun g hg => Or.inl (htop g hg)) (h.pendingTail rfl)
  refine ⟨hrest.bounds, hrest.within, hrest.topHole, hrest.idleSlot, fun i g hi hneed => ?_,
    hrest.topReady, hrest.shared, hrest.sharedStore, hrest.sharedDeleted, hrest.places,
    hrest.finalized, hrest.alive, hrest.above, hrest.expires, hrest.pending⟩
  by_cases hne : i = s.top
  · rw [hne] at hi
    exact htop g hi
  · exact hrest.ready i g hi ((Function.update_of_ne hne ..).symm.trans hneed)

theorem Inv.swap {st' : Statement} (h : Inv s (st :: code)) (hst : st.content = false)
    (hst' : st'.content = false) (hinit : ∀ g, st ≠ .running g .Initialize)
    (hrunning : ∀ g k, st' ≠ .running g k) (hidle : st ≠ .clearAll)
    (habove : st'.isUpdate = true → ∀ i, .expireFrom i ∉ code)
    (hready : settles s.expList.isSome (st :: code) = true →
      settles s.expList.isSome (st' :: code) = true)
    (hpending : st.isUpdate = true → s.expList.isSome = true →
      ∃ st'' ∈ st' :: code, st''.isUpdate = true) : Inv s (st' :: code) := by
  have hmono : ∀ {x}, x ≠ st → x ∈ st :: code → x ∈ st' :: code := fun hne hmem =>
    List.mem_cons_of_mem _ ((List.mem_cons.mp hmem).resolve_left hne)
  refine h.recode ?_ (fun g hmem => Or.inr (hmono (hinit g).symm hmem))
    (fun hmem => Or.inl (hmono hidle.symm hmem)) (fun g k hmem => Or.inl ?_)
    (List.pairwise_cons.mpr ⟨fun b hb => ⟨?_, ?_⟩, (List.pairwise_cons.mp h.above).2⟩)
    (fun g hg => (h.topReady g hg).imp (Or.imp id (hmono (hinit g).symm)) hready) fun hsome => ?_
  · rw [List.filter_cons_of_neg (by rw [hst']; exact nofun),
      List.filter_cons_of_neg (by rw [hst]; exact nofun)]
  · exact List.mem_cons_of_mem _ ((List.mem_cons.mp hmem).resolve_left (hrunning g k).symm)
  · rintro g k rfl
    exact absurd hst' nofun
  · rintro hup i rfl
    exact habove hup i hb
  · by_cases hup : st.isUpdate = true
    · exact hpending hup hsome
    · obtain ⟨x, hx, hx'⟩ := h.pendingTail (Bool.eq_false_iff.mpr hup) hsome
      exact ⟨x, List.mem_cons_of_mem _ hx, hx'⟩

theorem yields_of_drop (h : Inv s (st :: code)) (hflag : FlagSound s code)
    (hcontent : st.content = false) (hinit : ∀ g, st = .running g .Initialize → s.initialized g = true)
    (hidle : st = .clearAll → s.impl 0 ≠ none) (hup : st.isUpdate = false)
    (hready : ∀ g, s.impl s.top = some g →
      s.Started code g ∨ settles s.expList.isSome code = true) : Yields (.ok (s, [])) code :=
  ⟨s, [], rfl, h.drop hcontent hinit hidle hready (h.pendingTail hup), hflag⟩

theorem Inv.popDirect (h : Inv s (st :: code)) (h0 : 0 ≤ s.top)
    (hsettles : settles s.expList.isSome (st :: code) = true)
    (hidle : 0 < s.top ∨ .clearAll ∈ st :: code) (hset : s.update = false) :
    Yields (.ok (s.pop, directDeletes s.topGenerator ++ [st])) code := by
  refine ⟨_, _, rfl, ?_, flagSound_of_not_update ((pop_update s).trans hset)⟩
  cases hcurr : s.topGenerator with
  | none =>
    rw [pop_eq_lowerTop h0 hcurr]
    exact h.lowerTop hsettles
  | some curr => exact h.pop h0 hcurr hsettles hidle

theorem Inv.directClean {reset : Bool} (h : Inv s (.directClean reset :: code))
    (hset : s.update = false) (own : Bool)
    (hthere : s.size ≤ 1 → s.needInitTop = true ∨ reset = true → 0 ≤ s.top →
      s.impl s.top ≠ none) : Yields (s.execute own (.directClean reset)) code := by
  unfold execute
  dsimp only
  split
  · next hsize =>
    have h0 : 0 < s.top := by unfold size at hsize; omega
    exact h.popDirect h0.le rfl (Or.inl h0) hset
  · next hsize =>
    split
    · next hempty =>
      have hneg : s.top < 0 := by simpa [MotionMaster.empty] using hempty
      refine yields_of_drop h (flagSound_of_not_update hset) rfl nofun nofun rfl fun g hg => ?_
      exact absurd (h.within _ g hg).1 (by omega)
    · next hempty =>
      have h0 : 0 ≤ s.top := by simpa [MotionMaster.empty] using hempty
      have hswap : Inv s (.afterExpire reset :: code) :=
        h.swap rfl rfl nofun nofun nofun nofun (fun _ => rfl) nofun
      exact hswap.settle [] h0 reset (fun hneed => hthere (not_lt.mp hsize) hneed h0) hset
        (h.pendingTail rfl)

theorem Inv.afterExpire {reset : Bool} (h : Inv s (.afterExpire reset :: code))
    (hset : s.update = false) (own : Bool) :
    Yields (s.execute own (.afterExpire reset)) code := by
  have hlower := h.lowerTop rfl
  unfold execute
  dsimp only
  split
  · next hempty =>
    refine ⟨_, _, rfl, ?_, flagSound_of_not_update hset⟩
    exact hlower.swap rfl rfl nofun nofun nofun nofun (fun _ => rfl) nofun
  · next hempty =>
    have h0 : 0 ≤ s.lowerTop.top := by simpa [MotionMaster.empty] using hempty
    refine hlower.settle [] h0 reset (fun _ hnone => ?_) hset (h.pendingTail rfl)
    exact absurd (highest_occupied _ _ hnone) (not_lt.mpr h0)

theorem Inv.default {m : MovementGenerator}
    (h : Inv s (.store m .MOTION_SLOT_IDLE :: .clearAll :: code)) (hneg : s.top < 0) :
    Inv s (.store m .MOTION_SLOT_IDLE :: code) := by
  have hdrop : ∀ {x}, x ≠ .clearAll → x ∈ .store m .MOTION_SLOT_IDLE :: .clearAll :: code →
      x ∈ .store m .MOTION_SLOT_IDLE :: code := by
    intro x hne hmem
    rcases List.mem_cons.mp hmem with rfl | hmem
    · exact List.mem_cons_self
    · exact List.mem_cons_of_mem _ ((List.mem_cons.mp hmem).resolve_left hne)
  obtain ⟨hhead, hrest⟩ := List.pairwise_cons.mp h.above
  refine h.recode rfl (fun g hmem => Or.inr (hdrop nofun hmem))
    (fun _ => Or.inr (Or.inr ⟨m, List.mem_cons_self⟩)) (fun g k hmem => Or.inl ?_)
    (List.pairwise_cons.mpr ⟨fun b hb => hhead b (List.mem_cons_of_mem _ hb),
      (List.pairwise_cons.mp hrest).2⟩) (fun g hg => absurd (h.within _ g hg).1 (by omega))
    fun hsome => ?_
  · exact List.mem_cons_of_mem _ (List.mem_cons_of_mem _
      ((List.mem_cons.mp hmem).resolve_left nofun))
  · obtain ⟨st, hst, hup⟩ := h.pending hsome
    refine ⟨st, hdrop ?_ hst, hup⟩
    rintro rfl
    exact absurd hup nofun

theorem Inv.clearAll (h : Inv s (.clearAll :: code)) (hset : s.update = false) (own : Bool) :
    Yields (s.execute own .clearAll) code := by
  unfold execute
  dsimp only
  split
  · next hempty =>
    have hneg : s.top < 0 := by simpa [MotionMaster.empty] using hempty
    unfold initDefault
    split
    · exact ((h.made .MOTION_SLOT_IDLE).default hneg).mutate (flagSound_of_not_update hset)
    · exact (h.idle.default hneg).mutate (flagSound_of_not_update hset)
  · next hempty =>
    have h0 : 0 ≤ s.top := by simpa [MotionMaster.empty] using hempty
    exact h.popDirect h0 rfl (Or.inr List.mem_cons_self) hset

theorem Inv.updated {result : Bool} (h : Inv s (.updated result :: code)) (own : Bool)
    (hthere : result = false → 0 < s.top → s.impl s.top ≠ none) :
    Yields (s.execute own (.updated result)) code := by
  have hexpire : ∀ i, .expireFrom i ∉ code := fun i hmem =>
    ((List.pairwise_cons.mp h.above).1 _ hmem).2 rfl i rfl
  have hswap : Inv { s with update := false } (.expireList :: code) := by
    have hset : Inv { s with update := false } (.updated result :: code) := h.setFlags false s.reset
    exact hset.swap rfl rfl nofun nofun nofun (fun _ => hexpire) id
      fun _ _ => ⟨_, List.mem_cons_self, rfl⟩
  cases result with
  | true => exact ⟨_, _, rfl, hswap, flagSound_of_not_update rfl⟩
  | false =>
    obtain ⟨s', pre, hok, hinv, hflag⟩ := hswap.movementExpired (flagSound_of_not_update rfl) true
      (hthere rfl)
    refine ⟨s', pre ++ [.expireList], ?_, ?_, ?_⟩
    · unfold execute
      dsimp only
      rw [if_neg (by simp), hok]
      rfl
    · rw [List.append_assoc]
      exact hinv
    · rw [List.append_assoc]
      exact hflag

theorem cursor_eq_zero (h : ∀ i, .expireFrom i ∉ code) : cursor code = 0 := by
  induction code with
  | nil => rfl
  | cons statement code ih =>
    cases statement with
    | expireFrom i => exact absurd List.mem_cons_self (h i)
    | _ => exact ih fun i hmem => h i (List.mem_cons_of_mem _ hmem)

theorem Inv.expireFrom_notMem (h : Inv s (st :: code)) (hup : st.isUpdate = true) (i : ℕ) :
    .expireFrom i ∉ code :=
  fun hmem => ((List.pairwise_cons.mp h.above).1 _ hmem).2 hup i rfl

/-- The loop over the expired generators is entered, goes on, or is left: `front` takes the place of
the statement on top. -/
theorem Inv.turn (h : Inv s (st :: code)) (list : Option (List MovementGenerator))
    (front : List Statement) (hup : st.isUpdate = true)
    (hfront : ∀ x ∈ front, (∀ m slot, x ≠ .store m slot) ∧ (∀ g, x ≠ .deletes g) ∧
      (∀ g k, x ≠ .running g k) ∧ ∀ i, x = .expireFrom i → ∃ l, list = some l ∧ i ≤ l.length)
    (habove : (front ++ code).Pairwise Above)
    (hplaces : ∀ n, (({ s with expList := list } : MotionMaster).expired (front ++ code)).count
        (.made n) + heldIn (front ++ code) (.made n) =
      (s.expired (st :: code)).count (.made n) + heldIn code (.made n))
    (hready : settles list.isSome (front ++ code) = true)
    (hpending : list.isSome = true → ∃ st' ∈ front ++ code, st'.isUpdate = true) :
    Inv { s with expList := list } (front ++ code) := by
  have hcode : ∀ {x}, x ∈ code → x ∈ front ++ code := List.mem_append_right front
  have hdrop : ∀ {x : Statement}, x.isUpdate = false → x ∈ st :: code → x ∈ front ++ code := by
    intro x hx hmem
    rcases List.mem_cons.mp hmem with rfl | hmem
    · exact absurd (hx.symm.trans hup) nofun
    · exact hcode hmem
  have hback : ∀ {x}, x ∈ front ++ code → x ∉ front → x ∈ st :: code := fun hmem hnot =>
    List.mem_cons_of_mem _ ((List.mem_append.mp hmem).resolve_left hnot)
  have hheld : ∀ n, st.held (.made n) = 0 := by
    intro n
    cases st <;> first | rfl | exact absurd hup nofun
  refine ⟨h.bounds, h.within, fun hnone => ?_, fun hnone => ?_, fun i g hi hneed => ?_,
    fun g _ => Or.inr hready, h.shared, fun slot hmem => ?_, ⟨h.sharedDeleted.1, fun hmem => ?_⟩,
    fun n => ?_, fun n => ?_, fun g k hmem => ?_, habove, fun i hmem => ?_, hpending⟩
  · refine (h.topHole hnone).imp id ?_
    rintro ⟨m, slot, hmem, hslot⟩
    exact ⟨m, slot, hdrop rfl hmem, hslot⟩
  · refine (h.idleSlot hnone).imp (hdrop rfl) ?_
    rintro ⟨m, hmem⟩
    exact ⟨m, hdrop rfl hmem⟩
  · exact (h.ready i g hi hneed).imp id (hdrop rfl)
  · exact h.sharedStore slot (hback hmem fun hf => (hfront _ hf).1 _ _ rfl)
  · exact h.sharedDeleted.2 (hback hmem fun hf => (hfront _ hf).2.1 _ rfl)
  · have hold := h.places n
    have hnew := hplaces n
    unfold MotionMaster.places at hold ⊢
    rw [heldIn_cons, hheld, Nat.zero_add] at hold
    rw [← hold]
    change s.occupied (.made n) + _ + _ + s.deleted.count (.made n) = _
    omega
  · have hne : st ≠ .deletes (.made n) := by
      rintro rfl
      exact absurd hup nofun
    have hzero : front.count (.deletes (.made n)) = 0 :=
      List.count_eq_zero_of_not_mem fun hf => (hfront _ hf).2.1 _ rfl
    refine (h.finalized n).trans ?_
    rw [List.count_cons_of_ne hne, List.count_append, hzero, Nat.zero_add]
  · exact h.alive g k (hback hmem fun hf => (hfront _ hf).2.2.1 _ _ rfl)
  · rcases List.mem_append.mp hmem with hf | hf
    · exact (hfront _ hf).2.2.2 i rfl
    · exact absurd hf (h.expireFrom_notMem hup i)

theorem Inv.expireList (h : Inv s (.expireList :: code)) (hset : s.update = false) (own : Bool) :
    Yields (s.execute own .expireList) code := by
  have hcursor : cursor code = 0 := cursor_eq_zero (h.expireFrom_notMem rfl)
  unfold execute
  dsimp only
  split
  · next hnone =>
    refine ⟨s, [], rfl, ?_, flagSound_of_not_update hset⟩
    refine h.drop rfl nofun nofun (fun g hg => ?_) (by rw [hnone]; exact nofun)
    refine (h.topReady g hg).imp ?_ ?_
    · exact Or.imp id fun hmem => (List.mem_cons.mp hmem).resolve_left nofun
    · rw [hnone]
      exact id
  · next list hlist =>
    refine ⟨s, _, rfl, ?_, flagSound_of_not_update hset⟩
    refine h.turn s.expList [.expireFrom 0] rfl (fun x hx => ?_)
      (List.pairwise_cons.mpr ⟨fun b hb => ⟨nofun, fun _ i heq => ?_⟩,
        (List.pairwise_cons.mp h.above).2⟩) (fun n => ?_) ?_ fun _ => ⟨_, List.mem_cons_self, rfl⟩
    · obtain rfl := List.mem_singleton.mp hx
      refine ⟨nofun, nofun, nofun, fun i heq => ⟨list, hlist, ?_⟩⟩
      rw [← Statement.expireFrom.inj heq]
      exact Nat.zero_le _
    · exact h.expireFrom_notMem rfl i (heq ▸ hb)
    · change ((s.expList.getD []).drop 0).count (.made n) + (0 + heldIn code (.made n)) =
        ((s.expList.getD []).drop (cursor code)).count (.made n) + _
      rw [hcursor, Nat.zero_add]
    · rw [hlist]
      rfl

theorem Inv.expireFrom {i : ℕ} (h : Inv s (.expireFrom i :: code)) (hset : s.update = false)
    (own : Bool)
    (hthere : (∀ list, s.expList = some list → list.length ≤ i) →
      s.needInitTop = true ∨ s.reset = true → 0 ≤ s.top → s.impl s.top ≠ none) :
    Yields (s.execute own (.expireFrom i)) code := by
  obtain ⟨list, hlist, hle⟩ := h.expires i List.mem_cons_self
  have hrest := (List.pairwise_cons.mp h.above).2
  have hexpired : s.expired (.expireFrom i :: code) = list.drop i := by
    unfold MotionMaster.expired cursor
    rw [hlist]
    rfl
  unfold execute
  rw [hlist]
  dsimp only
  split
  · next mg hmg =>
    obtain ⟨hlt, rfl⟩ := List.getElem?_eq_some_iff.mp hmg
    refine ⟨s, _, rfl, ?_, flagSound_of_not_update hset⟩
    refine h.turn s.expList [.directDelete list[i], .expireFrom (i + 1)] rfl
      (fun x hx => ?_) (List.pairwise_cons.mpr ⟨fun b hb => ⟨nofun, nofun⟩,
        List.pairwise_cons.mpr ⟨fun b hb => ⟨nofun, fun _ j heq => ?_⟩, hrest⟩⟩)
      (fun n => ?_) ?_ fun _ => ⟨.expireFrom (i + 1), by simp, rfl⟩
    · rcases List.mem_cons.mp hx with rfl | hx
      · exact ⟨nofun, nofun, nofun, nofun⟩
      · obtain rfl := List.mem_singleton.mp hx
        refine ⟨nofun, nofun, nofun, fun j heq => ⟨list, hlist, ?_⟩⟩
        rw [← Statement.expireFrom.inj heq]
        omega
    · exact h.expireFrom_notMem rfl j (heq ▸ hb)
    · change ((s.expList.getD []).drop (i + 1)).count (.made n) +
        heldIn (.directDelete list[i] :: .expireFrom (i + 1) :: code) (.made n) = _
      rw [hexpired, hlist, Option.getD_some, heldIn_cons, heldIn_cons, held_directDelete,
        List.drop_eq_getElem_cons hlt, List.count_cons]
      change _ + (_ + (0 + heldIn code (.made n))) = _
      simp only [beq_iff_eq]
      omega
    · rw [hlist]
      rfl
  · next hnone =>
    have hlen : list.length ≤ i := List.getElem?_eq_none_iff.mp hnone
    have hturn : Inv { s with expList := none } (.afterExpire s.reset :: .clearReset :: code) := by
      refine h.turn none [.afterExpire s.reset, .clearReset] rfl
        (fun x hx => ?_) (List.pairwise_cons.mpr ⟨fun b hb => ⟨nofun, nofun⟩,
          List.pairwise_cons.mpr ⟨fun b hb => ⟨nofun, nofun⟩, hrest⟩⟩)
        (fun n => ?_) rfl nofun
      · rcases List.mem_cons.mp hx with rfl | hx
        · exact ⟨nofun, nofun, nofun, nofun⟩
        · obtain rfl := List.mem_singleton.mp hx
          exact ⟨nofun, nofun, nofun, nofun⟩
      · rw [hexpired, List.drop_eq_nil_of_le hlen]
        change ([].drop _).count _ + (0 + (0 + heldIn code (.made n))) = _
        simp
    split
    · next hempty =>
      refine ⟨_, _, rfl, ?_, flagSound_of_not_update hset⟩
      exact hturn.swap rfl rfl nofun nofun nofun nofun (fun _ => rfl) nofun
    · next hempty =>
      have h0 : 0 ≤ s.top := by simpa [MotionMaster.empty] using hempty
      refine hturn.settle [.clearReset] h0 s.reset (fun hneed => hthere (fun l hl => ?_) hneed h0) hset nofun
      rw [← Option.some.inj (hlist.symm.trans hl)]
      exact hlen

end Statements

/-! ## 7. What may go wrong -/

def Statement.isHookOf (g : MovementGenerator) : Statement → Bool
  | .running g' _ => decide (g' = g)
  | _ => false

/-- Whether the statement is the loop over the expired generators. -/
def Statement.isExpiring : Statement → Bool
  | .expireFrom _ => true
  | _ => false

/-- Where the top generator is initialised or reset, there is one. -/
def MotionMaster.TopThere (s : MotionMaster) (reset : Bool) : Prop :=
  s.needInitTop = true ∨ reset = true → 0 ≤ s.top → s.topGenerator ≠ none

/-- Where a generator above the idle slot expires, there is one. -/
def MotionMaster.ExpiresThere (s : MotionMaster) : Prop := 0 < s.top → s.topGenerator ≠ none

instance (s : MotionMaster) (reset : Bool) : Decidable (s.TopThere reset) :=
  inferInstanceAs (Decidable (_ → _))

instance (s : MotionMaster) : Decidable s.ExpiresThere := inferInstanceAs (Decidable (_ → _))

/-- What a statement needs, so that it does no harm. -/
def Statement.Fits (s : MotionMaster) (rest : List Statement) : Statement → Prop
  -- the `Finalize` of what is replaced has put nothing in the slot, and left `_top` above it
  | .store _ slot => (∀ g ∈ s.impl slot.index, isStatic (some g) = true) ∧ slot.index ≤ s.top
  -- no hook of the generator is running
  | .directDelete curr =>
    isStatic (some curr) = true ∨ ∀ statement ∈ rest, statement.isHookOf curr = false
  | .directClean reset => s.size ≤ 1 → s.TopThere reset
  | .updated result => result = false → s.ExpiresThere
  | .expireFrom i => (∀ list ∈ s.expList, list.length ≤ i) → s.TopThere s.reset
  | _ => True

def Call.Fits (s : MotionMaster) (code : List Statement) : Call → Prop
  | .movementExpired _ => s.ExpiresThere
  -- the top generator is initialised, and the expired ones are not being deleted
  | .updateMotion rooted => rooted = true ∨
      s.topGenerator ≠ none ∧ s.needInitTop = false ∧
        (∀ g ∈ s.topGenerator, .running g .Initialize ∉ code) ∧
        ∀ statement ∈ code, statement.isExpiring = false
  | _ => True

instance (s : MotionMaster) (rest : List Statement) :
    (statement : Statement) → Decidable (statement.Fits s rest)
  | .store _ _ => inferInstanceAs (Decidable (_ ∧ _))
  | .directDelete _ => inferInstanceAs (Decidable (_ ∨ _))
  | .directClean _ => inferInstanceAs (Decidable (_ → _))
  | .updated _ => inferInstanceAs (Decidable (_ → _))
  | .expireFrom _ => inferInstanceAs (Decidable (_ → _))
  | .running _ _ => isTrue trivial
  | .deletes _ => isTrue trivial
  | .markTop => isTrue trivial
  | .afterExpire _ => isTrue trivial
  | .clearAll => isTrue trivial
  | .expireList => isTrue trivial
  | .clearReset => isTrue trivial

instance (s : MotionMaster) (code : List Statement) : (call : Call) → Decidable (call.Fits s code)
  | .movementExpired _ => inferInstanceAs (Decidable s.ExpiresThere)
  | .updateMotion _ => inferInstanceAs (Decidable (_ ∨ _))
  | .mutate _ => isTrue trivial
  | .clear _ => isTrue trivial
  | .moveIdle => isTrue trivial

/-- **A step that does no harm.** -/
def Harmless (c : Machine) : Input → Prop
  | .go _ =>
    match c.code with
    | [] => True
    | statement :: rest => statement.Fits c.master rest
  | .call call => c.code = [] ∨ call.Fits c.master c.code
  | .returns _ => True

instance (c : Machine) : (input : Input) → Decidable (Harmless c input)
  | .go _ => by
    unfold Harmless
    dsimp only
    split <;> infer_instance
  | .call _ => inferInstanceAs (Decidable (_ ∨ _))
  | .returns _ => isTrue trivial

/-- A step of a run that does no harm. -/
def HarmlessStep (r : Except Fault Machine) (input : Input) : Prop :=
  match r with
  | .ok c => Harmless c input
  | .error _ => True

instance (r : Except Fault Machine) (input : Input) : Decidable (HarmlessStep r input) :=
  match r with
  | .ok c => inferInstanceAs (Decidable (Harmless c input))
  | .error _ => isTrue trivial

/-- **What should hold of the generators**, while no function is running. -/
structure GeneratorsGood (s : MotionMaster) : Prop where
  idleSlot : s.impl MovementSlot.MOTION_SLOT_IDLE.index ≠ none
  top : s.impl s.top ≠ none ∧
    ∀ slot : MovementSlot, s.top < slot.index → s.impl slot.index = none
  /-- A generator is in one slot, or it was finalised and deleted once. -/
  lives : ∀ n < s.created,
    (∃! slot : MovementSlot, s.impl slot.index = some (.made n)) ∧
        s.finalized.count (.made n) = 0 ∧ s.deleted.count (.made n) = 0 ∨
      (∀ slot : MovementSlot, s.impl slot.index ≠ some (.made n)) ∧
        s.finalized.count (.made n) = 1 ∧ s.deleted.count (.made n) = 1

/-- It is said of the states in which nothing is left to do. -/
def RestsGood (c : Machine) : Prop := c.code = [] → GeneratorsGood c.master

/-! ## 8. Runs -/

section Runs

variable {s : MotionMaster} {code : List Statement} {c : Machine} {g : MovementGenerator}

theorem existsUnique_of_occupied (hone : s.occupied g = 1) :
    ∃! slot : MovementSlot, s.impl slot.index = some g := by
  unfold occupied at hone
  by_cases h0 : s.impl 0 = some g
  · refine ⟨.MOTION_SLOT_IDLE, h0, fun slot hslot => ?_⟩
    cases slot with
    | MOTION_SLOT_IDLE => rfl
    | MOTION_SLOT_ACTIVE => rw [if_pos h0, if_pos (c := s.impl 1 = _) hslot] at hone; omega
    | MOTION_SLOT_CONTROLLED => rw [if_pos h0, if_pos (c := s.impl 2 = _) hslot] at hone; omega
  · by_cases h1 : s.impl 1 = some g
    · refine ⟨.MOTION_SLOT_ACTIVE, h1, fun slot hslot => ?_⟩
      cases slot with
      | MOTION_SLOT_IDLE => exact absurd hslot h0
      | MOTION_SLOT_ACTIVE => rfl
      | MOTION_SLOT_CONTROLLED => rw [if_pos h1, if_pos (c := s.impl 2 = _) hslot] at hone; omega
    · have h2 : s.impl 2 = some g := by
        by_contra h2
        rw [if_neg h0, if_neg h1, if_neg h2] at hone
        omega
      refine ⟨.MOTION_SLOT_CONTROLLED, h2, fun slot hslot => ?_⟩
      cases slot with
      | MOTION_SLOT_IDLE => exact absurd hslot h0
      | MOTION_SLOT_ACTIVE => exact absurd hslot h1
      | MOTION_SLOT_CONTROLLED => rfl

theorem Inv.good (h : Inv s []) : GeneratorsGood s := by
  have hidle : s.impl 0 ≠ none := by
    intro hnone
    rcases h.idleSlot hnone with hmem | ⟨m, hmem⟩
    · exact absurd hmem List.not_mem_nil
    · exact absurd hmem List.not_mem_nil
  obtain ⟨g, hg⟩ := Option.ne_none_iff_exists'.mp hidle
  have h0 := (h.within 0 g hg).2
  refine ⟨hidle, ⟨fun hnone => ?_, fun slot hslot => ?_⟩, fun n hn => ?_⟩
  · rcases h.topHole hnone with hneg | ⟨m, slot, hmem, -⟩
    · omega
    · exact absurd hmem List.not_mem_nil
  · by_contra hsome
    obtain ⟨g', hg'⟩ := Option.ne_none_iff_exists'.mp hsome
    have hle := (h.within _ g' hg').2
    omega
  · have hnone : s.expList = none := by
      by_contra hsome
      obtain ⟨st, hst, -⟩ := h.pending (Option.isSome_iff_ne_none.mpr hsome)
      exact absurd hst List.not_mem_nil
    have hplaces := h.places n
    have hexpired : s.expired [] = [] := by
      unfold MotionMaster.expired
      rw [hnone]
      rfl
    unfold MotionMaster.places at hplaces
    rw [hexpired, if_pos hn] at hplaces
    change s.occupied (.made n) + 0 + 0 + s.deleted.count (.made n) = 1 at hplaces
    have hfin := h.finalized n
    rw [List.count_nil, Nat.add_zero] at hfin
    by_cases hzero : s.occupied (.made n) = 0
    · refine Or.inr ⟨fun slot hslot => ?_, by omega, by omega⟩
      have hpos := h.occupied_pos hslot
      omega
    · exact Or.inl ⟨existsUnique_of_occupied (by omega), by omega, by omega⟩

theorem Inv.perform (h : Inv s code) (hflag : FlagSound s code) (call : Call)
    (hfit : code = [] ∨ call.Fits s code) : Yields (call.perform s) code := by
  cases call with
  | mutate slot => exact h.mutateNew hflag slot
  | clear reset => exact h.clear hflag reset
  | moveIdle => exact h.moveIdle hflag
  | movementExpired reset =>
    refine h.movementExpired hflag reset fun hpos => ?_
    rcases hfit with rfl | hfit
    · exact h.good.top.1
    · exact hfit hpos
  | updateMotion rooted =>
    refine h.updateMotion hflag rooted (fun hroot => ?_) fun hroot i hmem => ?_
    · rcases hfit with rfl | hfit
      · obtain ⟨g, hg⟩ := Option.ne_none_iff_exists'.mp h.good.top.1
        refine ⟨g, hg, ?_⟩
        exact ((h.topReady g hg).resolve_right nofun).resolve_right List.not_mem_nil
      · obtain ⟨hthere, hneed, hrunning, -⟩ := hfit.resolve_left (by rw [hroot]; exact nofun)
        obtain ⟨g, hg⟩ := Option.ne_none_iff_exists'.mp hthere
        have h0 := (h.within _ g hg).1
        have hempty : s.empty = false := by simp [MotionMaster.empty, h0]
        have hoff : s.needInit s.top = false := by simpa [needInitTop, hempty] using hneed
        exact ⟨g, hg, (h.ready _ g hg hoff).resolve_right (hrunning g hg)⟩
    · rcases hfit with rfl | hfit
      · exact absurd hmem List.not_mem_nil
      · obtain ⟨-, -, -, hexpire⟩ := hfit.resolve_left (by rw [hroot]; exact nofun)
        exact absurd (hexpire _ hmem) nofun

theorem Inv.execute {st : Statement} (h : Inv s (st :: code)) (hflag : FlagSound s (st :: code))
    (own : Bool) (hfit : st.Fits s code) : Yields (s.execute own st) code := by
  cases st with
  | running g k => exact ⟨s, [.running g k], rfl, h, hflag⟩
  | directDelete curr =>
    refine h.directDelete hflag fun k hne hmem => ?_
    rcases hfit with hstatic | hrunning
    · exact hne (Option.some.inj (of_decide_eq_true hstatic))
    · exact absurd (hrunning _ hmem) (by simp [Statement.isHookOf])
  | deletes curr =>
    obtain ⟨hnot, hinv⟩ := h.deletes
    exact ⟨_, [], if_neg hnot, hinv, hflag⟩
  | store m slot =>
    obtain ⟨hfree, hle⟩ := hfit
    obtain ⟨s', pre, hok, hinv, htop, hupdate, himpl, hupdating⟩ := h.store hle fun n hn =>
      absurd (hfree _ hn) (by simp [isStatic])
    refine ⟨s', pre, hok, hinv, fun hset => ?_⟩
    obtain ⟨hup, hocc⟩ := hflag (hupdate ▸ hset)
    refine ⟨hupdating.trans hup, ?_⟩
    rw [himpl, htop, Function.update_apply]
    split
    · exact Or.inr nofun
    · exact hocc
  | markTop =>
    exact ⟨_, [], rfl, h.markTop, flagSound_of_not_update (hflag.off rfl)⟩
  | directClean reset => exact h.directClean (hflag.off rfl) own hfit
  | afterExpire reset => exact h.afterExpire (hflag.off rfl) own
  | clearAll => exact h.clearAll (hflag.off rfl) own
  | updated result => exact h.updated own hfit
  | expireList => exact h.expireList (hflag.off rfl) own
  | expireFrom i => exact h.expireFrom (hflag.off rfl) own hfit
  | clearReset =>
    have hrest : Inv s code := by
      have hstarted : ∀ g, s.Started (.clearReset :: code) g → s.Started code g := by
        rintro g (hg | hmem)
        · exact Or.inl hg
        · exact Or.inr ((List.mem_cons.mp hmem).resolve_left nofun)
      exact h.drop rfl nofun nofun (fun g hg => (h.topReady g hg).imp (hstarted g) id)
        (h.pendingTail rfl)
    exact ⟨_, [], rfl, hrest.setFlags s.update false, flagSound_of_not_update (hflag.off rfl)⟩

theorem Inv.leave {k : Hook} (h : Inv s (.running g k :: code))
    (hflag : FlagSound s (.running g k :: code)) (result : Bool) :
    Inv (s.leave g k result).1 ((s.leave g k result).2 ++ code) ∧
      FlagSound (s.leave g k result).1 ((s.leave g k result).2 ++ code) := by
  have hdrop : ∀ {x}, x ≠ .running g k → x ∈ .running g k :: code → x ∈ code :=
    fun hne hmem => (List.mem_cons.mp hmem).resolve_left hne
  have hready : k ≠ .Initialize → k ≠ .Update → ∀ g', s.impl s.top = some g' →
      s.Started code g' ∨ settles s.expList.isSome code = true := by
    intro hk hk' g' hg'
    refine (h.topReady g' hg').imp (Or.imp id (hdrop ?_)) ?_
    · rintro heq
      exact hk (Statement.running.inj heq).2.symm
    · cases k with
      | Update => exact absurd rfl hk'
      | Initialize | Reset | Finalize => exact id
  cases k with
  | Reset | Finalize =>
    refine ⟨?_, hflag⟩
    exact h.drop rfl nofun nofun (hready nofun nofun) (h.pendingTail rfl)
  | Update =>
    refine ⟨?_, fun hset => ⟨rfl, (hflag hset).2⟩⟩
    exact h.swap rfl rfl nofun nofun nofun (fun _ => h.expireFrom_notMem rfl) id
      fun _ _ => ⟨_, List.mem_cons_self, rfl⟩
  | Initialize =>
    refine ⟨?_, hflag⟩
    have hinit : Inv (s.leave g .Initialize result).1 (.running g .Initialize :: code) := by
      have hmono : ∀ g' code', s.Started code' g' →
          (s.leave g .Initialize result).1.Started code' g' := by
        rintro g' code' (hg' | hg')
        · refine Or.inl ?_
          by_cases hne : g' = g
          · rw [hne]
            exact Function.update_self ..
          · exact (Function.update_of_ne hne ..).trans hg'
        · exact Or.inr hg'
      exact ⟨h.bounds, h.within, h.topHole, h.idleSlot,
        fun i g' hi hneed => hmono _ _ (h.ready i g' hi hneed),
        fun g' hg' => (h.topReady g' hg').imp (hmono _ _) id, h.shared, h.sharedStore,
        h.sharedDeleted, h.places, h.finalized, h.alive, h.above, h.expires, h.pending⟩
    have hself : (s.leave g .Initialize result).1.initialized g = true := Function.update_self ..
    refine hinit.drop rfl (fun g' heq => ?_) nofun (fun g' hg' => ?_) (h.pendingTail rfl)
    · rw [← (Statement.running.inj heq).1]
      exact hself
    · refine (hinit.topReady g' hg').imp ?_ id
      rintro (hg' | hmem)
      · exact Or.inl hg'
      · rcases List.mem_cons.mp hmem with heq | hmem
        · rw [(Statement.running.inj heq).1]
          exact Or.inl hself
        · exact Or.inr hmem

/-- What holds of the machine in every state. -/
def Sound (c : Machine) : Prop := Inv c.master c.code ∧ FlagSound c.master c.code

theorem Yields.bind {r : Except Fault (MotionMaster × List Statement)} (h : Yields r code) :
    Outcome Sound (fun _ => False) (do
      let (s, pre) ← r
      .ok (⟨s, pre ++ code⟩ : Machine)) := by
  obtain ⟨s', pre, rfl, hinv, hflag⟩ := h
  exact ⟨hinv, hflag⟩

theorem Sound.step (h : Sound c) (input : Input) (hfit : Harmless c input) :
    Outcome Sound (fun _ => False) (c.step input) := by
  obtain ⟨s, code⟩ := c
  obtain ⟨hinv, hflag⟩ := h
  cases code with
  | nil =>
    cases input with
    | go own => exact ⟨hinv, hflag⟩
    | returns result => exact ⟨hinv, hflag⟩
    | call call =>
      obtain ⟨s', pre, hok, hinv', hflag'⟩ := hinv.perform hflag call hfit
      rw [List.append_nil] at hinv' hflag'
      unfold Machine.step
      dsimp only
      rw [hok]
      exact ⟨hinv', hflag'⟩
  | cons st rest =>
    cases input with
    | go own =>
      have hyields := (hinv.execute hflag own hfit).bind
      cases st <;> exact hyields
    | call call =>
      cases st with
      | running g k =>
        have hnot := hinv.alive g k List.mem_cons_self
        have hyields := (hinv.perform hflag call (hfit.resolve_left nofun |> Or.inr)).bind
        unfold Machine.step
        dsimp only
        rw [if_neg hnot]
        exact hyields
      | _ => exact ⟨hinv, hflag⟩
    | returns result =>
      cases st with
      | running g k =>
        have hnot := hinv.alive g k List.mem_cons_self
        unfold Machine.step
        dsimp only
        rw [if_neg hnot]
        exact hinv.leave hflag result
      | _ => exact ⟨hinv, hflag⟩

theorem sound_initial : Sound Machine.initial := by
  refine ⟨⟨⟨le_rfl, by decide⟩, nofun, fun _ => Or.inl (by decide),
    fun _ => Or.inl (List.mem_singleton.mpr rfl), nofun, nofun, nofun, fun slot hmem => ?_,
    ⟨List.not_mem_nil, fun hmem => ?_⟩, fun n => rfl, fun n => rfl, fun g k hmem => ?_,
    List.pairwise_singleton _ _, fun i hmem => ?_, nofun⟩, nofun⟩
  · exact absurd (List.mem_singleton.mp hmem) nofun
  · exact absurd (List.mem_singleton.mp hmem) nofun
  · exact absurd (List.mem_singleton.mp hmem) nofun
  · exact absurd (List.mem_singleton.mp hmem) nofun

/-- **The generators of a master.**  In a run whose steps do no harm there is no fault, so that no
generator is updated before it is initialised, or used after it was deleted; and whenever no
function is running, the idle slot has a generator, `_top` is the highest slot that has one, and
every generator is in a slot, or was finalised and deleted once. -/
theorem generators_good (inputs : List Input)
    (hsteps : Steps step HarmlessStep (.ok .initial) inputs) :
    States step (Outcome RestsGood fun _ => False) (.ok .initial) inputs := by
  have hsound : States step (Outcome Sound fun _ => False) (.ok .initial) inputs := by
    refine States.of_steps (fun r input hr hfit => ?_) sound_initial hsteps
    cases r with
    | ok c => exact Sound.step hr input hfit
    | error fault => exact hr
  refine hsound.imp fun r hr => hr.imp fun c hc hrest => ?_
  have hinv := hc.1
  rw [hrest] at hinv
  exact hinv.good

/-- A point is reached while a random movement is the default: the top generator expires, and what
its `Finalize` starts is there afterwards. -/
def pointReached : List Input :=
  [.go true, .returns true, .call (.mutate .MOTION_SLOT_ACTIVE), .returns true,
    .call (.updateMotion false), .returns false, .go true, .go true,
    .call (.mutate .MOTION_SLOT_ACTIVE), .returns true, .returns true, .go true, .go true,
    .returns true, .go true]

/-- The example meets the condition. -/
theorem pointReached_good :
    States step (Outcome RestsGood fun _ => False) (.ok .initial) pointReached :=
  generators_good pointReached (by decide +kernel)

/-- A creature that runs for assistance is made to chase: the `Finalize` of the movement that is
replaced puts another into its slot. -/
def assistanceBroken : List Input :=
  [.go false, .returns true, .call (.mutate .MOTION_SLOT_ACTIVE), .returns true,
    .call (.mutate .MOTION_SLOT_ACTIVE), .go false, .call (.mutate .MOTION_SLOT_ACTIVE),
    .returns true, .returns true, .go false, .go false, .returns true]

/-- **What `Finalize` puts into the slot of its own generator is lost**: it is in no slot, and is
never finalised. -/
theorem assistance_leaks :
    ¬ States step (Outcome RestsGood fun _ => False) (.ok .initial) assistanceBroken := by
  intro h
  have hlost : ∃ c, exec step (.ok .initial) assistanceBroken = .ok c ∧ c.code = [] ∧
      c.master.created = 3 ∧ c.master.finalized = [.made 0] ∧
      c.master.impl 0 = some .si_idleMovement ∧ c.master.impl 1 = some (.made 1) ∧
      c.master.impl 2 = none := ⟨_, rfl, rfl, rfl, rfl, rfl, rfl, rfl⟩
  obtain ⟨c, hrun, hcode, hcreated, hfinalized, h0, h1, h2⟩ := hlost
  have hlast := h.exec
  rw [hrun] at hlast
  rcases (hlast hcode).lives 2 (by rw [hcreated]; decide) with ⟨⟨slot, hslot, -⟩, -⟩ | ⟨-, hone, -⟩
  · cases slot with
    | MOTION_SLOT_IDLE => exact absurd (h0.symm.trans hslot) (by decide)
    | MOTION_SLOT_ACTIVE => exact absurd (h1.symm.trans hslot) (by decide)
    | MOTION_SLOT_CONTROLLED => exact absurd (h2.symm.trans hslot) (by decide)
  · rw [hfinalized] at hone
    exact absurd hone (by decide)

end Runs

end FunPvp.Movement
