/-
# Storage ids of groups

A group is stored in the database under an id of its own, which another group may get when it is
disbanded. `GroupMgr` keeps the groups in a vector indexed by these ids, and a cursor on the next
id.

The ids are `uint32`, and the check for an overflow comes too late: it compares the id with the
cursor, which has been moved before the search. And nothing keeps a table from having a group with
id 0, which moves the cursor to 0 when it is disbanded. `run_storageIdsLowest` says that everything
goes right short of that.
-/
import FunPvp.Lib.LowestFree
import FunPvp.Lib.Run

namespace FunPvp.Groups

open FunPvp.Lib

/-! ## 1. The source -/

/-- The address of a `Group`. -/
abbrev GroupPtr := ℕ

/-- The part of `GroupMgr` about storage ids. `stopNow` is set by `World::StopNow`. -/
structure GroupMgr where
  nextGroupDbStoreId : UInt32
  /-- A `std::vector<Group*>`, with `none` for `NULL`. -/
  groupDbStore : List (Option GroupPtr)
  stopNow : Bool

namespace GroupMgr

def start : GroupMgr where
  nextGroupDbStoreId := 1
  groupDbStore := []
  stopNow := false

/-- The condition in the loop of `GenerateNewGroupDbStoreId`. -/
def isFree (m : GroupMgr) (i : ℕ) : Bool :=
  (i < m.groupDbStore.length && m.groupDbStore[i]? == some none) || m.groupDbStore.length ≤ i

/-- The cursor after the loop: `++NextGroupDbStoreId`, and then the free id if there is one below
`0xFFFFFFFF`. -/
def nextFree (m : GroupMgr) : UInt32 :=
  let i := m.nextGroupDbStoreId + 1
  match firstFree m.isFree (0xFFFFFFFF - i.toNat) i.toNat with
  | none => i
  | some i => UInt32.ofNat i

def generateNewGroupDbStoreId (m : GroupMgr) : UInt32 × GroupMgr :=
  let newStorageId := m.nextGroupDbStoreId
  let next := m.nextFree
  (newStorageId,
    { m with nextGroupDbStoreId := next, stopNow := m.stopNow || newStorageId == next })

/-- `GroupDbStore[storageId] = group`; `none` for an index past the end, where the write is
undefined. -/
def setGroup (m : GroupMgr) (storageId : UInt32) (group : Option GroupPtr) : Option GroupMgr :=
  if storageId.toNat < m.groupDbStore.length then
    some { m with groupDbStore := m.groupDbStore.set storageId.toNat group }
  else none

def allocate (m : GroupMgr) (storageId : UInt32) : GroupMgr :=
  if UInt32.ofNat m.groupDbStore.length ≤ storageId then
    let size := (storageId + 1).toNat
    { m with
      groupDbStore := m.groupDbStore.take size ++
        List.replicate (size - m.groupDbStore.length) none }
  else m

def registerGroupDbStoreId (m : GroupMgr) (storageId : UInt32) (group : GroupPtr) :
    Option GroupMgr :=
  (m.allocate storageId).setGroup storageId (some group)

def freeGroupDbStoreId (m : GroupMgr) (storageId : UInt32) : Option GroupMgr :=
  { m with
    nextGroupDbStoreId :=
      if storageId < m.nextGroupDbStoreId then storageId else m.nextGroupDbStoreId
    }.setGroup storageId none

def getGroupByDbStoreId (m : GroupMgr) (storageId : UInt32) : Option GroupPtr :=
  if storageId.toNat < m.groupDbStore.length then m.groupDbStore[storageId.toNat]?.join else none

/-- The end of a round of the loop of `LoadGroups`. -/
def loadGroup (m : GroupMgr) (storageId : UInt32) (group : GroupPtr) : Option GroupMgr :=
  (m.registerGroupDbStoreId storageId group).map fun m =>
    { m with
      nextGroupDbStoreId :=
        if storageId = m.nextGroupDbStoreId then m.nextGroupDbStoreId + 1
        else m.nextGroupDbStoreId }

end GroupMgr

/-! ## 2. Runs -/

/-- The manager, and the groups that are alive: `m_dbStoreId` of each. Addresses from `allocated`
on have not been used. -/
structure Storage where
  mgr : GroupMgr
  dbStoreId : GroupPtr → Option UInt32
  allocated : ℕ

inductive StorageEvent
  | create
  | disband (group : GroupPtr)

namespace Storage

def start : Storage := ⟨.start, fun _ => none, 0⟩

def withGroup (s : Storage) (mgr : GroupMgr) (storageId : UInt32) : Storage where
  mgr
  dbStoreId := Function.update s.dbStoreId s.allocated (some storageId)
  allocated := s.allocated + 1

def loadRow (s : Storage) (storageId : UInt32) : Option Storage :=
  (s.mgr.loadGroup storageId s.allocated).map (s.withGroup · storageId)

/-- `LoadGroups`, for the ids of the stored groups. -/
def load (rows : List UInt32) : Option Storage := rows.foldlM loadRow start

/-- `Group::Create`. -/
def create (s : Storage) : Option Storage :=
  let (storageId, mgr) := s.mgr.generateNewGroupDbStoreId
  (mgr.registerGroupDbStoreId storageId s.allocated).map (s.withGroup · storageId)

def disband (s : Storage) (group : GroupPtr) (storageId : UInt32) : Option Storage :=
  (s.mgr.freeGroupDbStoreId storageId).map fun mgr =>
    { s with mgr, dbStoreId := Function.update s.dbStoreId group none }

/-- After an access outside of the vector nothing is said any more. -/
def step : Option Storage → StorageEvent → Option Storage
  | none, _ => none
  | some s, .create => s.create
  | some s, .disband group =>
    match s.dbStoreId group with
    | none => some s
    | some storageId => s.disband group storageId

def ids (s : Storage) : Set ℕ := {n | ∃ group id, s.dbStoreId group = some id ∧ id.toNat = n}

/-- **The lookup is exact**: it finds the group that is alive and has the id, if there is one. -/
def Exact (s : Storage) : Prop :=
  ∀ storageId group,
    s.mgr.getGroupByDbStoreId storageId = some group ↔ s.dbStoreId group = some storageId

/-- A group that is created gets the lowest id, from 1 on, that no group has. -/
def GeneratesLowest (st : Option Storage) (e : StorageEvent) : Prop :=
  ∀ s, st = some s → e = .create →
    LowestFree 0 s.ids (s.mgr.generateNewGroupDbStoreId).1.toNat

/-- **What the ids are for**, from the loading on. -/
def IdsLowest (rows : List UInt32) (evs : List StorageEvent) : Prop :=
  States step (fun st => ∃ s, st = some s ∧ s.Exact) (load rows) evs ∧
    Steps step GeneratesLowest (load rows) evs

/-- There is another free id between the cursor and `0xFFFFFFFF`. -/
def AnotherFree (s : Storage) : Prop :=
  ∃ n, s.mgr.nextGroupDbStoreId.toNat < n ∧ n < 0xFFFFFFFF ∧ n ∉ s.ids

/-- When an event goes right: an id is generated while there is another one, or it is the last one
but one; and the group that is disbanded does not have id 0. -/
def Granted (st : Option Storage) (e : StorageEvent) : Prop :=
  ∀ s, st = some s →
    match e with
    | .create => s.AnotherFree ∨ s.mgr.nextGroupDbStoreId = 0xFFFFFFFE
    | .disband group => s.dbStoreId group ≠ some 0

end Storage

/-! ## 3. The vector -/

namespace GroupMgr

variable {m m' : GroupMgr} {storageId : UInt32} {group : GroupPtr} {i : ℕ}

theorem setGroup_of_lt (h : storageId.toNat < m.groupDbStore.length) (entry : Option GroupPtr) :
    m.setGroup storageId entry =
      some { m with groupDbStore := m.groupDbStore.set storageId.toNat entry } := if_pos h

theorem freeGroupDbStoreId_of_lt (h : storageId.toNat < m.groupDbStore.length) :
    m.freeGroupDbStoreId storageId =
      some
        { m with
          nextGroupDbStoreId :=
            if storageId < m.nextGroupDbStoreId then storageId else m.nextGroupDbStoreId
          groupDbStore := m.groupDbStore.set storageId.toNat none } := if_pos h

theorem allocate_spec (hsize : m.groupDbStore.length < 2 ^ 32)
    (hid : storageId.toNat < 0xFFFFFFFF) :
    storageId.toNat < (m.allocate storageId).groupDbStore.length ∧
    (m.allocate storageId).groupDbStore.length < 2 ^ 32 ∧
    (m.allocate storageId).nextGroupDbStoreId = m.nextGroupDbStoreId ∧
    ∀ (i : ℕ) (group : GroupPtr),
      (m.allocate storageId).groupDbStore[i]? = some (some group) ↔
        m.groupDbStore[i]? = some (some group) := by
  have hsucc : (storageId + 1).toNat = storageId.toNat + 1 := by
    rw [UInt32.toNat_add]
    exact Nat.mod_eq_of_lt (by simp; omega)
  have hcast : UInt32.ofNat m.groupDbStore.length ≤ storageId ↔
      m.groupDbStore.length ≤ storageId.toNat := by
    rw [UInt32.le_iff_toNat_le, UInt32.toNat_ofNat', Nat.mod_eq_of_lt hsize]
  unfold allocate
  split
  · next hle =>
    rw [hcast] at hle
    have htake : m.groupDbStore.take (storageId + 1).toNat = m.groupDbStore :=
      List.take_of_length_le (by omega)
    have hlength : (m.groupDbStore ++ List.replicate
        ((storageId + 1).toNat - m.groupDbStore.length) (none : Option GroupPtr)).length =
          storageId.toNat + 1 := by
      rw [List.length_append, List.length_replicate]
      omega
    dsimp only
    rw [htake, hlength]
    refine ⟨by omega, by omega, rfl, fun i group => ?_⟩
    rw [List.getElem?_append]
    split
    · exact Iff.rfl
    · next hi =>
      rw [List.getElem?_eq_none (not_lt.mp hi), List.getElem?_replicate]
      split <;> simp
  · next hlt =>
    rw [hcast] at hlt
    exact ⟨not_le.mp hlt, hsize, rfl, fun _ _ => Iff.rfl⟩

theorem registerGroupDbStoreId_spec (hsize : m.groupDbStore.length < 2 ^ 32)
    (hid : storageId.toNat < 0xFFFFFFFF) (group : GroupPtr) :
    ∃ m', m.registerGroupDbStoreId storageId group = some m' ∧
      m'.nextGroupDbStoreId = m.nextGroupDbStoreId ∧ m'.groupDbStore.length < 2 ^ 32 ∧
      ∀ (i : ℕ) (other : GroupPtr), m'.groupDbStore[i]? = some (some other) ↔
        if i = storageId.toNat then other = group
        else m.groupDbStore[i]? = some (some other) := by
  obtain ⟨hlt, hlength, hnext, hstore⟩ := @allocate_spec m storageId hsize hid
  refine ⟨_, setGroup_of_lt hlt (some group), hnext, by rwa [List.length_set], fun i other => ?_⟩
  dsimp only
  rw [List.getElem?_set]
  by_cases hi : storageId.toNat = i
  · rw [if_pos hi, if_pos hi.symm, if_pos (by omega)]
    simp [eq_comm]
  · rw [if_neg hi, if_neg fun h => hi h.symm]
    exact hstore i other

theorem getGroupByDbStoreId_eq_some :
    m.getGroupByDbStoreId storageId = some group ↔
      m.groupDbStore[storageId.toNat]? = some (some group) := by
  unfold getGroupByDbStoreId
  split
  · exact Option.join_eq_some_iff
  · next h =>
    rw [List.getElem?_eq_none (not_lt.mp h)]
    simp

theorem isFree_iff : m.isFree i = true ↔ ∀ group, m.groupDbStore[i]? ≠ some (some group) := by
  unfold isFree
  by_cases hi : i < m.groupDbStore.length
  · rw [List.getElem?_eq_getElem hi]
    cases m.groupDbStore[i] with
    | none => simp [hi]
    | some other => simp [hi]
  · simp [hi, not_lt.mp hi]

end GroupMgr

/-! ## 4. Every event keeps the cursor on the lowest free id -/

namespace Storage

variable {s s' : Storage} {mgr : GroupMgr} {storageId : UInt32} {group : GroupPtr}

/-- The vector has the live groups under their ids, and the cursor is on the lowest free id. -/
structure Sound (s : Storage) : Prop where
  lowest : LowestFree 0 s.ids s.mgr.nextGroupDbStoreId.toNat
  store : ∀ (i : ℕ) (group : GroupPtr), s.mgr.groupDbStore[i]? = some (some group) ↔
    ∃ id, s.dbStoreId group = some id ∧ id.toNat = i
  size : s.mgr.groupDbStore.length < 2 ^ 32
  fresh : ∀ group, s.allocated ≤ group → s.dbStoreId group = none

theorem start_sound : start.Sound where
  lowest := by
    refine ⟨⟨by decide, ?_⟩, fun m hm => hm.1⟩
    rintro ⟨group, id, h, -⟩
    cases h
  store := fun i group => by simp [start, GroupMgr.start]
  size := by decide
  fresh := fun _ _ => rfl

theorem Sound.exact (h : s.Sound) : s.Exact := by
  intro storageId group
  rw [GroupMgr.getGroupByDbStoreId_eq_some, h.store]
  constructor
  · rintro ⟨id, hid, heq⟩
    rw [hid, UInt32.toNat_inj.mp heq]
  · exact fun hid => ⟨storageId, hid, rfl⟩

theorem Sound.isFree_iff (h : s.Sound) (i : ℕ) : s.mgr.isFree i = true ↔ i ∉ s.ids := by
  rw [GroupMgr.isFree_iff]
  constructor
  · rintro hfree ⟨group, hid⟩
    exact hfree group ((h.store i group).mpr hid)
  · intro hid group hstore
    exact hid ⟨group, (h.store i group).mp hstore⟩

theorem Sound.dbStoreId_allocated (h : s.Sound) : s.dbStoreId s.allocated = none :=
  h.fresh _ le_rfl

theorem Sound.ids_withGroup (h : s.Sound) (mgr : GroupMgr) (storageId : UInt32) :
    (s.withGroup mgr storageId).ids = insert storageId.toNat s.ids := by
  ext n
  constructor
  · rintro ⟨group, id, hid, rfl⟩
    by_cases hgroup : group = s.allocated
    · subst hgroup
      have hself : (s.withGroup mgr storageId).dbStoreId s.allocated = some storageId :=
        Function.update_self _ _ _
      rw [hself] at hid
      exact Or.inl (congrArg UInt32.toNat (Option.some.inj hid).symm)
    · exact Or.inr ⟨group, id, (Function.update_of_ne hgroup _ _).symm.trans hid, rfl⟩
  · rintro (rfl | ⟨group, id, hid, rfl⟩)
    · exact ⟨s.allocated, storageId, Function.update_self .., rfl⟩
    · have hgroup : group ≠ s.allocated := by
        rintro rfl
        rw [h.dbStoreId_allocated] at hid
        cases hid
      exact ⟨group, id, (Function.update_of_ne hgroup _ _).trans hid, rfl⟩

theorem Sound.withGroup (h : s.Sound) (hfree : storageId.toNat ∉ s.ids)
    (hsize : mgr.groupDbStore.length < 2 ^ 32)
    (hstore : ∀ (i : ℕ) (other : GroupPtr), mgr.groupDbStore[i]? = some (some other) ↔
      if i = storageId.toNat then other = s.allocated
      else s.mgr.groupDbStore[i]? = some (some other))
    (hlowest : LowestFree 0 (insert storageId.toNat s.ids) mgr.nextGroupDbStoreId.toNat) :
    (s.withGroup mgr storageId).Sound where
  lowest := by rw [h.ids_withGroup]; exact hlowest
  store := by
    intro i group
    change mgr.groupDbStore[i]? = _ ↔ ∃ id, Function.update s.dbStoreId s.allocated _ group = _ ∧ _
    rw [hstore, Function.update_apply]
    by_cases hgroup : group = s.allocated
    · rw [if_pos hgroup]
      split
      · next hi => simp [hgroup, hi]
      · next hi =>
        rw [hgroup, h.store]
        simp [h.dbStoreId_allocated, Ne.symm hi]
    · rw [if_neg hgroup]
      split
      · next hi =>
        refine iff_of_false hgroup ?_
        rintro ⟨id, hid, rfl⟩
        exact hfree ⟨group, id, hid, hi⟩
      · exact h.store i group
  size := hsize
  fresh := by
    intro group hgroup
    have hlt : s.allocated < group := hgroup
    exact (Function.update_of_ne hlt.ne' _ _).trans (h.fresh group hlt.le)

theorem Sound.nextFree_lowest (h : s.Sound)
    (hfree : s.AnotherFree ∨ s.mgr.nextGroupDbStoreId = 0xFFFFFFFE) :
    LowestFree s.mgr.nextGroupDbStoreId.toNat s.ids s.mgr.nextFree.toNat := by
  rcases hfree with ⟨n, hn, hlast, hnfree⟩ | hlast
  · have hsucc : (s.mgr.nextGroupDbStoreId + 1).toNat = s.mgr.nextGroupDbStoreId.toNat + 1 := by
      rw [UInt32.toNat_add]
      exact Nat.mod_eq_of_lt (by simp; omega)
    obtain ⟨k, hk⟩ : ∃ k, firstFree s.mgr.isFree
        (0xFFFFFFFF - (s.mgr.nextGroupDbStoreId + 1).toNat)
        (s.mgr.nextGroupDbStoreId + 1).toNat = some k :=
      firstFree_isSome (by omega) (by omega) ((h.isFree_iff n).mpr hnfree)
    have hlt := (firstFree_some hk).2.1
    have hnext : s.mgr.nextFree.toNat = k := by
      simp only [GroupMgr.nextFree, hk, UInt32.toNat_ofNat']
      exact Nat.mod_eq_of_lt (by omega)
    rw [hnext]
    rw [hsucc] at hk
    exact firstFree_lowest h.isFree_iff hk
  · -- the loop is not entered, and no group has the last id
    have hnext : s.mgr.nextFree = 0xFFFFFFFF := by
      rw [GroupMgr.nextFree, hlast]
      rfl
    rw [hnext, hlast]
    refine ⟨⟨by decide, ?_⟩, fun m hm => hm.1⟩
    rintro ⟨group, id, hid, heq⟩
    have hstore := (h.store _ group).mpr ⟨id, hid, heq⟩
    have hsize := h.size
    have := (List.getElem?_eq_some_iff.mp hstore).1
    have hval : (0xFFFFFFFF : UInt32).toNat = 4294967295 := rfl
    omega

theorem Sound.create (h : s.Sound)
    (hfree : s.AnotherFree ∨ s.mgr.nextGroupDbStoreId = 0xFFFFFFFE) :
    ∃ s', s.create = some s' ∧ s'.Sound := by
  have hid : s.mgr.nextGroupDbStoreId.toNat < 0xFFFFFFFF := by
    rcases hfree with ⟨n, hn, hlast, -⟩ | hlast
    · omega
    · rw [hlast]
      decide
  obtain ⟨m', hm', hnext, hsize, hstore⟩ := GroupMgr.registerGroupDbStoreId_spec
    (m := (s.mgr.generateNewGroupDbStoreId).2) h.size hid s.allocated
  refine ⟨_, congrArg (Option.map (s.withGroup · s.mgr.nextGroupDbStoreId)) hm', ?_⟩
  refine h.withGroup h.lowest.notMem hsize hstore ?_
  rw [hnext]
  exact h.lowest.insert_self (h.nextFree_lowest hfree)

theorem Sound.disband (h : s.Sound) (hgroup : s.dbStoreId group = some storageId)
    (hpos : storageId ≠ 0) : ∃ s', s.disband group storageId = some s' ∧ s'.Sound := by
  have hlive := (h.store storageId.toNat group).mpr ⟨storageId, hgroup, rfl⟩
  have hlt : storageId.toNat < s.mgr.groupDbStore.length :=
    (List.getElem?_eq_some_iff.mp hlive).1
  -- nobody else has the id
  have hunique (other : GroupPtr) (id : UInt32) (hother : s.dbStoreId other = some id)
      (heq : id.toNat = storageId.toNat) : other = group := by
    have hstore := (h.store storageId.toNat other).mpr ⟨id, hother, heq⟩
    rw [hlive] at hstore
    exact (Option.some.inj (Option.some.inj hstore)).symm
  have hids : {n | ∃ other id, Function.update s.dbStoreId group none other = some id ∧
      id.toNat = n} = s.ids \ {storageId.toNat} := by
    ext n
    constructor
    · rintro ⟨other, id, hid, rfl⟩
      rw [Function.update_apply] at hid
      split at hid
      · cases hid
      · next hne => exact ⟨⟨other, id, hid, rfl⟩, fun heq => hne (hunique other id hid heq)⟩
    · rintro ⟨⟨other, id, hid, rfl⟩, hne⟩
      have hother : other ≠ group := by
        rintro rfl
        rw [hgroup] at hid
        exact hne (congrArg UInt32.toNat (Option.some.inj hid).symm)
      exact ⟨other, id, (Function.update_of_ne hother _ _).trans hid, rfl⟩
  refine ⟨_, by rw [Storage.disband, GroupMgr.freeGroupDbStoreId_of_lt hlt]; rfl, ?_⟩
  refine ⟨?_, fun i other => ?_, by simpa using h.size, fun other hother => ?_⟩
  · have hzero : 0 < storageId.toNat :=
      Nat.pos_of_ne_zero fun h0 => hpos (UInt32.toNat_inj.mp (by simpa using h0))
    have hcursor : (if storageId < s.mgr.nextGroupDbStoreId then storageId
        else s.mgr.nextGroupDbStoreId).toNat =
          min s.mgr.nextGroupDbStoreId.toNat storageId.toNat := by
      simp only [UInt32.lt_iff_toNat_lt]
      split <;> omega
    have hrelease := h.lowest.release hzero
    rw [← hcursor, ← hids] at hrelease
    exact hrelease
  · change (s.mgr.groupDbStore.set _ none)[i]? = _ ↔
      ∃ id, Function.update s.dbStoreId group none other = _ ∧ _
    rw [List.getElem?_set, Function.update_apply]
    by_cases hi : storageId.toNat = i
    · rw [if_pos hi, if_pos (by omega)]
      refine iff_of_false (by simp) ?_
      rintro ⟨id, hid, heq⟩
      split at hid
      · cases hid
      · next hne => exact hne (hunique other id hid (heq.trans hi.symm))
    · rw [if_neg hi, h.store]
      split
      · next hother =>
        subst hother
        refine iff_of_false ?_ (by simp)
        rintro ⟨id, hid, rfl⟩
        rw [hgroup] at hid
        exact hi (congrArg UInt32.toNat (Option.some.inj hid))
      · exact Iff.rfl
  · change Function.update s.dbStoreId group none other = none
    rw [Function.update_apply]
    split
    · rfl
    · exact h.fresh other hother

theorem Sound.step (h : s.Sound) {e : StorageEvent} (he : Granted (some s) e) :
    ∃ s', step (some s) e = some s' ∧ s'.Sound := by
  cases e with
  | create => exact h.create (he s rfl)
  | disband group =>
    have hne : s.dbStoreId group ≠ some 0 := he s rfl
    cases hgroup : s.dbStoreId group with
    | none => exact ⟨s, by rw [Storage.step, hgroup], h⟩
    | some storageId =>
      obtain ⟨s', hs', hsound⟩ := h.disband hgroup fun h0 => hne (by rw [hgroup, h0])
      exact ⟨s', by rw [Storage.step, hgroup]; exact hs', hsound⟩

/-! ## 5. Loading -/

/-- The rows that are still to come lie above all that have been loaded. -/
structure Loading (s : Storage) (rows : List UInt32) : Prop where
  sound : s.Sound
  above : ∀ id ∈ rows, ∀ n ∈ s.ids, n < id.toNat
  sorted : rows.Pairwise (· < ·)
  bounded : ∀ id ∈ rows, id ≠ 0xFFFFFFFF

theorem Loading.row {rows : List UInt32} (h : Loading s (storageId :: rows)) :
    ∃ s', s.loadRow storageId = some s' ∧ Loading s' rows := by
  have hid : storageId.toNat < 0xFFFFFFFF := by
    have hne := h.bounded storageId List.mem_cons_self
    rw [Ne, ← UInt32.toNat_inj] at hne
    have hval : (0xFFFFFFFF : UInt32).toNat = 4294967295 := rfl
    have := storageId.toNat_lt
    omega
  have habove := h.above storageId List.mem_cons_self
  have hfree : storageId.toNat ∉ s.ids := fun hmem => lt_irrefl _ (habove _ hmem)
  obtain ⟨hsorted, hrows⟩ := List.pairwise_cons.mp h.sorted
  obtain ⟨m', hm', hnext, hsize, hstore⟩ :=
    GroupMgr.registerGroupDbStoreId_spec h.sound.size hid s.allocated
  have hload : s.mgr.loadGroup storageId s.allocated = some
      { m' with
        nextGroupDbStoreId :=
          if storageId = m'.nextGroupDbStoreId then m'.nextGroupDbStoreId + 1
          else m'.nextGroupDbStoreId } := by
    rw [GroupMgr.loadGroup, hm']
    rfl
  refine ⟨_, congrArg (Option.map (s.withGroup · storageId)) hload, ?_, fun id hmem n hn => ?_,
    hrows, fun id hmem => h.bounded id (List.mem_cons_of_mem _ hmem)⟩
  · refine h.sound.withGroup hfree hsize hstore ?_
    dsimp only
    split
    · next heq =>
      -- the rows ascend, so nothing is in use above this one
      have hsucc : (m'.nextGroupDbStoreId + 1).toNat = storageId.toNat + 1 := by
        rw [← heq, UInt32.toNat_add]
        exact Nat.mod_eq_of_lt (by simp; omega)
      have hlowest := h.sound.lowest
      rw [← hnext, ← heq] at hlowest
      rw [hsucc]
      exact hlowest.insert_self (lowestFree_succ fun n hn => (habove n hn).le)
    · next hne =>
      rw [hnext] at hne ⊢
      exact h.sound.lowest.insert_of_ne fun heq => hne (UInt32.toNat_inj.mp heq)
  · rw [h.sound.ids_withGroup] at hn
    rcases hn with rfl | hn
    · exact UInt32.lt_iff_toNat_lt.mp (hsorted id hmem)
    · exact h.above id (List.mem_cons_of_mem _ hmem) n hn

theorem Loading.rest {rows : List UInt32} (h : Loading s rows) :
    ∃ s', rows.foldlM loadRow s = some s' ∧ s'.Sound := by
  induction rows generalizing s with
  | nil => exact ⟨s, rfl, h.sound⟩
  | cons storageId rows ih =>
    obtain ⟨s₁, hs₁, h₁⟩ := h.row
    obtain ⟨s', hs', hsound⟩ := ih h₁
    exact ⟨s', by rw [List.foldlM_cons, hs₁]; exact hs', hsound⟩

theorem load_sound {rows : List UInt32} (hsorted : rows.Pairwise (· < ·))
    (hbounded : ∀ id ∈ rows, id ≠ 0xFFFFFFFF) : ∃ s, load rows = some s ∧ s.Sound := by
  refine Loading.rest ⟨start_sound, fun id _ n hn => ?_, hsorted, hbounded⟩
  obtain ⟨group, id', h, -⟩ := hn
  cases h

/-! ## 6. Every run -/

/-- **In every run from a table without the last id, whose events go right**, the lookup is exact
in every state, and every group that is created gets the lowest id that is free. -/
theorem run_storageIdsLowest {rows : List UInt32} (hsorted : rows.Pairwise (· < ·))
    (hbounded : ∀ id ∈ rows, id ≠ 0xFFFFFFFF) {evs : List StorageEvent}
    (h : Steps step Granted (load rows) evs) : IdsLowest rows evs := by
  let I (st : Option Storage) : Prop := ∃ s, st = some s ∧ s.Sound
  have hstep : ∀ st e, I st → Granted st e → I (step st e) := by
    rintro st e ⟨s, rfl, hs⟩ he
    exact hs.step he
  have hload : I (load rows) := load_sound hsorted hbounded
  refine ⟨(States.of_steps hstep hload h).imp ?_, Steps.of_inv hstep ?_ hload h⟩
  · rintro st ⟨s, rfl, hs⟩
    exact ⟨s, rfl, hs.exact⟩
  · rintro st e ⟨s, rfl, hs⟩ - s' heq rfl
    obtain rfl := Option.some.inj heq
    exact hs.lowest

/-- A stored group has id 2, and another is created. -/
theorem gap_idsLowest : IdsLowest [2] [.create] := by
  have hsorted : [(2 : UInt32)].Pairwise (· < ·) := List.pairwise_singleton _ _
  have hbounded : ∀ id ∈ [(2 : UInt32)], id ≠ 0xFFFFFFFF :=
    List.forall_mem_singleton.mpr (by decide)
  refine run_storageIdsLowest hsorted hbounded ⟨fun s hs => Or.inl ⟨3, ?_, by decide, ?_⟩, trivial⟩
  · have hnext : (load [2]).map (fun s => s.mgr.nextGroupDbStoreId) = some 1 := by decide +kernel
    rw [hs] at hnext
    have heq : s.mgr.nextGroupDbStoreId = 1 := Option.some.inj hnext
    rw [heq]
    decide
  · have hlength : (load [2]).map (fun s => s.mgr.groupDbStore.length) = some 3 := by
      decide +kernel
    obtain ⟨s', hs', hsound⟩ := load_sound hsorted hbounded
    obtain rfl := Option.some.inj (hs.symm.trans hs')
    rw [hs] at hlength
    rintro ⟨group, hid⟩
    have hlt := (List.getElem?_eq_some_iff.mp ((hsound.store 3 group).mpr hid)).1
    have heq : s.mgr.groupDbStore.length = 3 := Option.some.inj hlength
    omega

/-- A stored group with id 0 that is disbanded takes the cursor with it, and the next group gets
id 0; and a stored group with the last id is written past the end of an empty vector. -/
theorem zero_generated : ¬ IdsLowest [0] [.disband 0, .create] ∧ ¬ IdsLowest [0xFFFFFFFF] [] := by
  constructor
  · rintro ⟨-, -, hlowest, -⟩
    have hzero : (step (load [0]) (.disband 0)).map
        (fun s => (s.mgr.generateNewGroupDbStoreId).1) = some 0 := by decide +kernel
    obtain ⟨s, hs, hid⟩ := Option.map_eq_some_iff.mp hzero
    have hpos := (hlowest s hs rfl).floor_lt
    rw [hid] at hpos
    exact absurd hpos (by decide)
  · rintro ⟨⟨s, hs, -⟩, -⟩
    have hnone : (load [0xFFFFFFFF]).isNone = true := by decide +kernel
    rw [hs] at hnone
    cases hnone

end Storage

end FunPvp.Groups
