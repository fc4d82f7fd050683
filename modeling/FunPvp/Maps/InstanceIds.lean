/-
# Instance ids

`MapManager` keeps a `std::vector<bool>` of the instance ids in use and a cursor on the next id.

Its sizes are computed by `id / 32 * 32 + (id % 32 > 0 ? 32 : 0)`, so for a multiple of 32 the
vector ends right before the index it was sized for. Such an id is written past the end of the
vector when it is the database's highest id, or when the vector fills its capacity at run time.
`run_idsLowest` says that in all other runs every index is within the vector, and every id that is
generated is the lowest one, from 1 on, that is not in use.
-/
import FunPvp.Lib.LowestFree
import FunPvp.Lib.Run

namespace FunPvp.Maps

open FunPvp.Lib

/-! ## 1. The vector -/

/-- `MapManager::InstanceIds`, a `std::vector<bool>`: what it holds and for how many it has
allocated. -/
structure InstanceIds where
  bits : List Bool
  capacity : ℕ
  fits : bits.length ≤ capacity

namespace InstanceIds

def size (v : InstanceIds) : ℕ := v.bits.length

/-- A default-constructed vector, with what the library allocates for it. -/
def empty (capacity : ℕ) : InstanceIds := ⟨[], capacity, Nat.zero_le _⟩

/-- `resize(n)`. Beyond the capacity the library allocates anew, for `n` or more: `growth` is what
it chooses. -/
def resize (v : InstanceIds) (n growth : ℕ) : InstanceIds where
  bits := v.bits.take n ++ List.replicate (n - v.size) false
  capacity := if n ≤ v.capacity then v.capacity else max n growth
  fits := by
    have hlen : (v.bits.take n ++ List.replicate (n - v.size) false).length = n := by
      simp [size]; omega
    rw [hlen]
    split <;> omega

/-- `v[i] = b`; `none` for an index past the end, where the write is undefined. -/
def set (v : InstanceIds) (i : ℕ) (b : Bool) : Option InstanceIds :=
  if i < v.size then some ⟨v.bits.set i b, v.capacity, by simpa using v.fits⟩ else none

def inUse (v : InstanceIds) : Set ℕ := {i | v.bits[i]? = some true}

variable {v : InstanceIds} {i : ℕ}

theorem mem_inUse : i ∈ v.inUse ↔ v.bits[i]? = some true := Iff.rfl

instance (v : InstanceIds) (i : ℕ) : Decidable (i ∈ v.inUse) := decidable_of_iff _ mem_inUse.symm

theorem lt_size_of_mem (h : i ∈ v.inUse) : i < v.size :=
  (List.getElem?_eq_some_iff.mp h).1

@[simp] theorem inUse_empty (capacity : ℕ) : (empty capacity).inUse = ∅ := by
  ext i
  simp [inUse, empty]

@[simp] theorem size_resize (v : InstanceIds) (n growth : ℕ) : (v.resize n growth).size = n := by
  simp [size, resize]
  omega

theorem inUse_resize {n : ℕ} (h : v.size ≤ n) (growth : ℕ) :
    (v.resize n growth).inUse = v.inUse := by
  have htake : v.bits.take n = v.bits := List.take_of_length_le h
  ext i
  simp only [inUse, resize, htake, Set.mem_ofPred_eq, List.getElem?_append, List.getElem?_replicate]
  split
  · exact Iff.rfl
  · next hi =>
    rw [List.getElem?_eq_none (not_lt.mp hi)]
    split <;> simp

theorem set_of_lt (h : i < v.size) (b : Bool) :
    ∃ w, v.set i b = some w ∧ w.size = v.size ∧ w.bits = v.bits.set i b := by
  refine ⟨_, if_pos h, ?_, rfl⟩
  simp [size]

theorem inUse_set_true {v w : InstanceIds} (h : i < v.size)
    (hw : w.bits = v.bits.set i true) : w.inUse = insert i v.inUse := by
  ext k
  simp only [inUse, hw, Set.mem_ofPred_eq, Set.mem_insert_iff, List.getElem?_set]
  by_cases hk : i = k
  · subst hk
    simpa [size] using h
  · simp [hk, Ne.symm hk]

theorem inUse_set_false {v w : InstanceIds} (hw : w.bits = v.bits.set i false) :
    w.inUse = v.inUse \ {i} := by
  ext k
  simp only [inUse, hw, Set.mem_ofPred_eq, Set.mem_sdiff, Set.mem_singleton_iff, List.getElem?_set]
  by_cases hk : i = k
  · subst hk
    simp
  · simp [hk, Ne.symm hk]

end InstanceIds

/-! ## 2. The source -/

def wordSize (id : UInt32) : UInt32 := id / 32 * 32 + if id % 32 > 0 then 32 else 0

/-- The part of `MapManager` about ids. `stopNow` is set by `World::StopNow`. -/
structure MapManager where
  instanceIds : InstanceIds
  nextInstanceId : UInt32
  stopNow : Bool

namespace MapManager

def initInstanceIds (vector : InstanceIds) (maxId : Option UInt32) (growth : ℕ) : MapManager where
  nextInstanceId := 1
  instanceIds :=
    match maxId with
    | none => vector
    | some maxId => vector.resize (wordSize maxId).toNat growth
  stopNow := false

def registerInstanceId (m : MapManager) (instanceId : UInt32) : Option MapManager :=
  (m.instanceIds.set instanceId.toNat true).map fun v => { m with instanceIds := v }

/-- One row of the first query of `LoadResetTimes`. -/
def loadInstance (m : MapManager) (instanceId : UInt32) : Option MapManager :=
  { m with
    nextInstanceId :=
      if m.nextInstanceId = instanceId then instanceId + 1 else m.nextInstanceId
    }.registerInstanceId instanceId

def loadResetTimes (m : MapManager) (rows : List UInt32) : Option MapManager :=
  rows.foldlM loadInstance m

/-- The loop of `GenerateInstanceId`, from `i` on; it ends at `0xFFFFFFFF`, which is `rounds`
away. -/
def searchFree (v : InstanceIds) : ℕ → ℕ → Option ℕ
  | 0, _ => none
  | rounds + 1, i =>
    if (i < v.size ∧ v.bits[i]? ≠ some true) ∨ v.size ≤ i then some i
    else searchFree v rounds (i + 1)

/-- The cursor after the loop: `++_nextInstanceId`, and then the free id if there is one. -/
def nextFree (v : InstanceIds) (newInstanceId : UInt32) : UInt32 :=
  let start := newInstanceId + 1
  match searchFree v (0xFFFFFFFF - start.toNat) start.toNat with
  | none => start
  | some i => UInt32.ofNat i

def allocate (v : InstanceIds) (newInstanceId : UInt32) (growth : ℕ) : InstanceIds :=
  if UInt32.ofNat v.size ≤ newInstanceId then
    if v.size < v.capacity then v.resize v.capacity growth
    else v.resize (wordSize newInstanceId).toNat growth
  else v

def generateInstanceId (m : MapManager) (growth : ℕ) : Option (UInt32 × MapManager) :=
  let newInstanceId := m.nextInstanceId
  let next := nextFree m.instanceIds newInstanceId
  ((allocate m.instanceIds newInstanceId growth).set newInstanceId.toNat true).map fun v =>
    (newInstanceId, ⟨v, next, m.stopNow || newInstanceId == next⟩)

def freeInstanceId (m : MapManager) (instanceId : UInt32) : Option MapManager :=
  (m.instanceIds.set instanceId.toNat false).map fun v =>
    { m with
      nextInstanceId :=
        if instanceId < m.nextInstanceId then instanceId else m.nextInstanceId
      instanceIds := v }

end MapManager

/-! ## 3. Runs -/

/-- The manager, and the ids that belong to an instance. -/
structure Allocation where
  manager : MapManager
  live : Finset ℕ

/-- What is asked of the manager once the server runs; `growth` is the library's choice of a
capacity if the vector has to grow. -/
inductive IdRequest
  | generate (growth : ℕ)
  | free (instanceId : UInt32)

namespace Allocation

/-- `InstanceSaveManager::LoadInstances`. -/
def load (capacity : ℕ) (maxId : Option UInt32) (growth : ℕ) (rows : List UInt32) :
    Option Allocation :=
  ((MapManager.initInstanceIds (.empty capacity) maxId growth).loadResetTimes rows).map
    fun m => ⟨m, (rows.map UInt32.toNat).toFinset⟩

/-- One request; after an access outside of the vector nothing is said any more. -/
def step : Option Allocation → IdRequest → Option Allocation
  | none, _ => none
  | some a, .generate growth =>
    (a.manager.generateInstanceId growth).map fun r => ⟨r.2, insert r.1.toNat a.live⟩
  | some a, .free instanceId =>
    (a.manager.freeInstanceId instanceId).map fun m => ⟨m, a.live.erase instanceId.toNat⟩

/-- The bits are those of the live ids, and the cursor is on the lowest free id. -/
structure Sound (a : Allocation) : Prop where
  inUse_eq : a.manager.instanceIds.inUse = a.live
  lowest : LowestFree 0 (a.live : Set ℕ) a.manager.nextInstanceId.toNat

/-- A request to generate an id gets the lowest one, from 1 on, that is not in use. -/
def GeneratesLowest (st : Option Allocation) (e : IdRequest) : Prop :=
  ∀ a growth, st = some a → e = .generate growth → ∃ id m,
    a.manager.generateInstanceId growth = some (id, m) ∧ LowestFree 0 (a.live : Set ℕ) id.toNat

/-- **What the ids are for**: no access is outside of the vector, at load or later, and every
generated id is the lowest one that is not in use. -/
def IdsLowest (capacity : ℕ) (maxId : Option UInt32) (growth : ℕ) (rows : List UInt32)
    (reqs : List IdRequest) : Prop :=
  States step (fun st => st ≠ none) (load capacity maxId growth rows) reqs ∧
    Steps step GeneratesLowest (load capacity maxId growth rows) reqs

end Allocation

/-! ## 4. Growing the vector -/

theorem toNat_wordSize (id : UInt32) :
    (wordSize id).toNat =
      if id.toNat % 32 = 0 then id.toNat else (id.toNat / 32 * 32 + 32) % 2 ^ 32 := by
  have hid := id.toNat_lt
  have hpos : id % 32 > 0 ↔ id.toNat % 32 ≠ 0 := by
    rw [gt_iff_lt, UInt32.lt_iff_toNat_lt]
    simp [Nat.pos_iff_ne_zero]
  by_cases h : id.toNat % 32 = 0
  · rw [wordSize, if_neg (by simpa [hpos] using h), if_pos h]
    simp
    omega
  · rw [wordSize, if_pos (by simpa [hpos] using h), if_neg h]
    simp

theorem lt_wordSize_iff (id : UInt32) :
    id.toNat < (wordSize id).toNat ↔ id.toNat % 32 ≠ 0 ∧ id.toNat < 0xFFFFFFE0 := by
  have hid := id.toNat_lt
  rw [toNat_wordSize]
  split <;> omega

/-- There is room for the id: it is within the vector, or the vector has allocated for it, or the
vector is full and the id is neither a multiple of 32 nor among the last. -/
def RoomFor (v : InstanceIds) (id : ℕ) : Prop :=
  id < v.size % 2 ^ 32 ∨ (v.size < v.capacity ∧ id < v.capacity) ∨
    (v.size = v.capacity ∧ v.size ≤ id ∧ id % 32 ≠ 0 ∧ id < 0xFFFFFFE0)

open MapManager

variable {v : InstanceIds} {id : UInt32}

theorem allocate_of_room (h : RoomFor v id.toNat) (growth : ℕ) :
    id.toNat < (allocate v id growth).size ∧ v.size ≤ (allocate v id growth).size := by
  have hcast : UInt32.ofNat v.size ≤ id ↔ v.size % 2 ^ 32 ≤ id.toNat := by
    rw [UInt32.le_iff_toNat_le]
    simp
  have hfits : v.size ≤ v.capacity := v.fits
  unfold allocate
  split
  · next hle =>
    rw [hcast] at hle
    split
    · next hlt =>
      rw [InstanceIds.size_resize]
      rcases h with h | h | h <;> omega
    · next hge =>
      rw [InstanceIds.size_resize]
      rcases h with h | h | ⟨-, hsize, hmod, hlast⟩
      · omega
      · omega
      · have := (lt_wordSize_iff id).mpr ⟨hmod, hlast⟩
        omega
  · next hlt =>
    rw [hcast] at hlt
    have := Nat.mod_le v.size (2 ^ 32)
    omega

theorem inUse_allocate {growth : ℕ}
    (h : v.size ≤ (allocate v id growth).size) : (allocate v id growth).inUse = v.inUse := by
  unfold allocate at h ⊢
  split at h
  · next hle =>
    rw [if_pos hle]
    split at h
    · next hlt =>
      rw [if_pos hlt]
      rw [InstanceIds.size_resize] at h
      exact InstanceIds.inUse_resize h growth
    · next hge =>
      rw [if_neg hge]
      rw [InstanceIds.size_resize] at h
      exact InstanceIds.inUse_resize h growth
  · next hlt => rw [if_neg hlt]

/-! ## 5. The search -/

theorem searchFree_some {rounds i n : ℕ} (h : searchFree v rounds i = some n) :
    n < i + rounds ∧ i ≤ n ∧ n ∉ v.inUse ∧ ∀ k, i ≤ k → k < n → k ∈ v.inUse := by
  induction rounds generalizing i with
  | zero => simp [searchFree] at h
  | succ rounds ih =>
    unfold searchFree at h
    split at h
    · next hfree =>
      obtain rfl := Option.some.inj h
      refine ⟨by omega, le_refl i, ?_, fun k hk hlt => absurd hk (by omega)⟩
      rcases hfree with ⟨-, hbit⟩ | hsize
      · exact hbit
      · exact fun hmem => absurd (InstanceIds.lt_size_of_mem hmem) (by omega)
    · next hused =>
      obtain ⟨hn, hin, hfree, hall⟩ := ih h
      refine ⟨by omega, by omega, hfree, fun k hk hlt => ?_⟩
      rcases Nat.eq_or_lt_of_le hk with rfl | hk
      · simp only [not_or, not_and, not_not, not_le] at hused
        exact hused.1 hused.2
      · exact hall k hk hlt

theorem searchFree_isSome {rounds i n : ℕ} (hi : i ≤ n) (hn : n < i + rounds)
    (hfree : n ∉ v.inUse) : ∃ k, searchFree v rounds i = some k := by
  induction rounds generalizing i with
  | zero => omega
  | succ rounds ih =>
    unfold searchFree
    split
    · exact ⟨i, rfl⟩
    · next hused =>
      have hne : i ≠ n := by
        rintro rfl
        exact hused (by_cases (fun hlt : i < v.size => Or.inl ⟨hlt, hfree⟩)
          fun hge => Or.inr (not_lt.mp hge))
      exact ih (by omega) (by omega)

/-- There is another free id above the cursor, below the end of the loop. -/
def AnotherFree (v : InstanceIds) (id : ℕ) : Prop :=
  ∃ n, id < n ∧ n < 0xFFFFFFFF ∧ n ∉ v.inUse

theorem nextFree_lowest (h : AnotherFree v id.toNat) :
    LowestFree id.toNat v.inUse (nextFree v id).toNat := by
  obtain ⟨n, hid, hn, hfree⟩ := h
  have hstart : (id + 1).toNat = id.toNat + 1 := by
    rw [UInt32.toNat_add]
    exact Nat.mod_eq_of_lt (by simp; omega)
  obtain ⟨k, hk⟩ : ∃ k, searchFree v (0xFFFFFFFF - (id + 1).toNat) (id + 1).toNat = some k :=
    searchFree_isSome (n := n) (by omega) (by omega) hfree
  obtain ⟨hlt, hle, hkfree, hall⟩ := searchFree_some hk
  have hnext : (nextFree v id).toNat = k := by
    simp only [nextFree, hk, UInt32.toNat_ofNat']
    exact Nat.mod_eq_of_lt (by omega)
  rw [hnext]
  refine ⟨⟨by omega, hkfree⟩, ?_⟩
  rintro m ⟨hm, hmfree⟩
  by_contra hmk
  exact hmfree (hall m (by omega) (by omega))

/-! ## 6. Every request keeps the cursor on the lowest free id -/

namespace Allocation

/-- What a request needs: to generate an id, another free id and room for this one; an id that
is freed is live, and not 0. -/
def Granted (st : Option Allocation) (e : IdRequest) : Prop :=
  ∀ a, st = some a →
    match e with
    | .generate _ =>
      AnotherFree a.manager.instanceIds a.manager.nextInstanceId.toNat ∧
        RoomFor a.manager.instanceIds a.manager.nextInstanceId.toNat
    | .free instanceId => instanceId.toNat ∈ a.live ∧ instanceId ≠ 0

theorem generateInstanceId_eq {m : MapManager} (growth : ℕ)
    (hroom : RoomFor m.instanceIds m.nextInstanceId.toNat) :
    ∃ m', m.generateInstanceId growth = some (m.nextInstanceId, m') ∧
      m'.instanceIds.inUse = insert m.nextInstanceId.toNat m.instanceIds.inUse ∧
      m'.nextInstanceId = nextFree m.instanceIds m.nextInstanceId := by
  obtain ⟨hlt, hle⟩ := allocate_of_room hroom growth
  obtain ⟨w, hw, -, hbits⟩ := InstanceIds.set_of_lt hlt true
  refine ⟨_, by simp only [generateInstanceId, hw, Option.map_some]; rfl, ?_, rfl⟩
  exact (InstanceIds.inUse_set_true hlt hbits).trans (by rw [inUse_allocate hle])

variable {a : Allocation}

theorem Sound.generate (h : a.Sound) (growth : ℕ)
    (hfree : AnotherFree a.manager.instanceIds a.manager.nextInstanceId.toNat)
    (hroom : RoomFor a.manager.instanceIds a.manager.nextInstanceId.toNat) :
    ∃ a', step (some a) (.generate growth) = some a' ∧ a'.Sound := by
  obtain ⟨m', hm', hinUse, hnext⟩ := generateInstanceId_eq growth hroom
  refine ⟨_, by simp only [step, hm', Option.map_some]; rfl, ?_, ?_⟩
  · simp [hinUse, h.inUse_eq]
  · have hlowest := nextFree_lowest hfree
    rw [h.inUse_eq] at hlowest
    simpa [hnext] using h.lowest.insert_self hlowest

theorem Sound.free (h : a.Sound) {instanceId : UInt32}
    (hlive : instanceId.toNat ∈ a.live) (hpos : instanceId ≠ 0) :
    ∃ a', step (some a) (.free instanceId) = some a' ∧ a'.Sound := by
  have hlt : instanceId.toNat < a.manager.instanceIds.size := by
    refine InstanceIds.lt_size_of_mem ?_
    rw [h.inUse_eq]
    exact hlive
  obtain ⟨w, hw, -, hbits⟩ := InstanceIds.set_of_lt hlt false
  refine ⟨_, by simp only [step, freeInstanceId, hw, Option.map_some]; rfl, ?_, ?_⟩
  · simp [InstanceIds.inUse_set_false hbits, h.inUse_eq]
  · have hid : 0 < instanceId.toNat :=
      Nat.pos_of_ne_zero fun h0 => hpos (UInt32.toNat_inj.mp (by simpa using h0))
    have hrelease := h.lowest.release hid
    have hcursor : (if instanceId < a.manager.nextInstanceId then instanceId
        else a.manager.nextInstanceId).toNat =
          min a.manager.nextInstanceId.toNat instanceId.toNat := by
      simp only [UInt32.lt_iff_toNat_lt]
      split <;> omega
    simpa [hcursor] using hrelease

theorem Sound.step (h : a.Sound) {e : IdRequest} (he : Granted (some a) e) :
    ∃ a', step (some a) e = some a' ∧ a'.Sound := by
  cases e with
  | generate growth =>
    obtain ⟨hfree, hroom⟩ := he a rfl
    exact h.generate growth hfree hroom
  | free instanceId =>
    obtain ⟨hlive, hpos⟩ := he a rfl
    exact h.free hlive hpos

theorem Sound.generatesLowest (h : a.Sound) {e : IdRequest}
    (he : Granted (some a) e) : GeneratesLowest (some a) e := by
  rintro b growth hb rfl
  obtain rfl := Option.some.inj hb
  obtain ⟨-, hroom⟩ := he a rfl
  obtain ⟨m', hm', -, -⟩ := generateInstanceId_eq growth hroom
  exact ⟨_, m', hm', h.lowest⟩

/-! ## 7. Loading -/

/-- The vector has an index for every row: the highest id is not a multiple of 32, unless no row
has it, and not among the last. -/
def LoadFits (maxId : Option UInt32) (rows : List UInt32) : Prop :=
  ∀ m, maxId = some m → (m.toNat % 32 = 0 → m ∉ rows) ∧ (rows ≠ [] → m.toNat ≤ 0xFFFFFFE0)

/-- The rows that are still to come lie within the vector and above all that are registered. -/
structure Loading (a : Allocation) (rows : List UInt32) : Prop where
  sound : a.Sound
  inside : ∀ id ∈ rows, id.toNat < a.manager.instanceIds.size
  above : ∀ id ∈ rows, ∀ k ∈ a.live, k < id.toNat
  sorted : rows.Pairwise (· < ·)
  bounded : ∀ id ∈ rows, id.toNat < 0xFFFFFFFF

theorem Loading.cursor {id : UInt32} {rows : List UInt32} (h : Loading a (id :: rows)) :
    LowestFree 0 (insert id.toNat (a.live : Set ℕ))
      (if a.manager.nextInstanceId = id then id + 1 else a.manager.nextInstanceId).toNat := by
  have hbound : id.toNat < 0xFFFFFFFF := h.bounded id List.mem_cons_self
  have habove := h.above id List.mem_cons_self
  split
  · next hid =>
    have hlowest := h.sound.lowest
    rw [hid] at hlowest
    refine hlowest.insert_self ⟨?_, ?_⟩
    · have hsucc : (id + 1).toNat = id.toNat + 1 := by
        rw [UInt32.toNat_add]
        exact Nat.mod_eq_of_lt (by simp; omega)
      refine ⟨by omega, fun hmem => ?_⟩
      have := habove _ hmem
      omega
    · rintro m ⟨hm, -⟩
      have hsucc := UInt32.toNat_add id 1
      have hle := Nat.mod_le (id.toNat + (1 : UInt32).toNat) (2 ^ 32)
      have hone : (1 : UInt32).toNat = 1 := rfl
      omega
  · next hid =>
    exact h.sound.lowest.insert_of_ne fun heq => hid (UInt32.toNat_inj.mp heq.symm)

theorem Loading.row {id : UInt32} {rows : List UInt32} (h : Loading a (id :: rows)) :
    ∃ m, a.manager.loadInstance id = some m ∧ Loading ⟨m, insert id.toNat a.live⟩ rows := by
  have hlt := h.inside id List.mem_cons_self
  obtain ⟨w, hw, hsize, hbits⟩ := InstanceIds.set_of_lt hlt true
  obtain ⟨hid, hsorted⟩ := List.pairwise_cons.mp h.sorted
  refine ⟨_, by simp only [loadInstance, registerInstanceId, hw, Option.map_some]; rfl,
    ⟨?_, ?_⟩, ?_, ?_, hsorted, fun k hk => h.bounded k (List.mem_cons_of_mem _ hk)⟩
  · simp [InstanceIds.inUse_set_true hlt hbits, h.sound.inUse_eq]
  · simpa using h.cursor
  · intro k hk
    exact hsize ▸ h.inside k (List.mem_cons_of_mem _ hk)
  · intro k hk n hn
    rcases Finset.mem_insert.mp hn with rfl | hn
    · exact UInt32.lt_iff_toNat_lt.mp (hid k hk)
    · exact h.above k (List.mem_cons_of_mem _ hk) n hn

theorem Loading.rows {rows : List UInt32} (h : Loading a rows) :
    ∃ m, a.manager.loadResetTimes rows = some m ∧
      Sound ⟨m, (rows.map UInt32.toNat).toFinset ∪ a.live⟩ := by
  induction rows generalizing a with
  | nil => exact ⟨a.manager, rfl, by simpa using h.sound⟩
  | cons id rows ih =>
    obtain ⟨m, hm, hloading⟩ := h.row
    obtain ⟨m', hm', hsound⟩ := ih hloading
    refine ⟨m', ?_, ?_⟩
    · rw [loadResetTimes, List.foldlM_cons, hm]
      exact hm'
    · simpa [Finset.union_insert, Finset.insert_union] using hsound

theorem loading_init (capacity growth : ℕ) {maxId : Option UInt32} {rows : List UInt32}
    (hsorted : rows.Pairwise (· < ·)) (hmax : ∀ id ∈ rows, ∃ m, maxId = some m ∧ id ≤ m)
    (hfits : LoadFits maxId rows) :
    Loading ⟨initInstanceIds (.empty capacity) maxId growth, ∅⟩ rows := by
  have hone : LowestFree 0 (∅ : Set ℕ) 1 := ⟨by simp, fun k hk => hk.1⟩
  have hbound : ∀ id ∈ rows, ∃ m, maxId = some m ∧ id.toNat < (wordSize m).toNat ∧
      id.toNat < 0xFFFFFFFF := by
    intro id hid
    obtain ⟨m, rfl, hle⟩ := hmax id hid
    obtain ⟨hmod, hlast⟩ := hfits m rfl
    have hlast := hlast (List.ne_nil_of_mem hid)
    rw [UInt32.le_iff_toNat_le] at hle
    refine ⟨m, rfl, ?_, by omega⟩
    by_cases h0 : m.toNat % 32 = 0
    · have hne : id.toNat ≠ m.toNat := fun heq => hmod h0 (UInt32.toNat_inj.mp heq ▸ hid)
      rw [toNat_wordSize, if_pos h0]
      omega
    · have := (lt_wordSize_iff m).mpr ⟨h0, by omega⟩
      omega
  refine ⟨⟨?_, ?_⟩, ?_, by simp, hsorted, fun id hid => ?_⟩
  · cases maxId with
    | none => simp [initInstanceIds]
    | some m =>
      have hinUse := InstanceIds.inUse_resize (v := .empty capacity) (n := (wordSize m).toNat)
        (Nat.zero_le _) growth
      simp [initInstanceIds, hinUse]
  · simpa [initInstanceIds] using hone
  · intro id hid
    obtain ⟨m, rfl, hlt, -⟩ := hbound id hid
    simpa [initInstanceIds] using hlt
  · obtain ⟨-, -, -, hlt⟩ := hbound id hid
    exact hlt

theorem load_sound (capacity growth : ℕ) {maxId : Option UInt32} {rows : List UInt32}
    (hsorted : rows.Pairwise (· < ·)) (hmax : ∀ id ∈ rows, ∃ m, maxId = some m ∧ id ≤ m)
    (hfits : LoadFits maxId rows) :
    ∃ a, load capacity maxId growth rows = some a ∧ a.Sound := by
  obtain ⟨m, hm, hsound⟩ := (loading_init capacity growth hsorted hmax hfits).rows
  refine ⟨_, by simp only [load, hm, Option.map_some]; rfl, ?_⟩
  simpa using hsound

/-- **Where the vector has room, the ids are the lowest free ones.**  Rows in ascending order that
do not end on a multiple of 32, then any requests that are granted: no access leaves the vector,
and every generated id is the lowest one, from 1 on, that is not in use. -/
theorem run_idsLowest (capacity growth : ℕ) (maxId : Option UInt32) (rows : List UInt32)
    (reqs : List IdRequest) (hsorted : rows.Pairwise (· < ·))
    (hmax : ∀ id ∈ rows, ∃ m, maxId = some m ∧ id ≤ m) (hfits : LoadFits maxId rows)
    (hgranted : Steps step Granted (load capacity maxId growth rows) reqs) :
    IdsLowest capacity maxId growth rows reqs := by
  have hstep : ∀ st e, (∃ a, st = some a ∧ a.Sound) → Granted st e →
      ∃ a, step st e = some a ∧ a.Sound := by
    rintro _ e ⟨a, rfl, ha⟩ he
    exact ha.step he
  have hload := load_sound capacity growth hsorted hmax hfits
  refine ⟨(States.of_steps hstep hload hgranted).imp ?_,
    Steps.of_inv hstep ?_ hload hgranted⟩
  · rintro _ ⟨a, rfl, -⟩
    simp
  · rintro _ e ⟨a, rfl, ha⟩ he
    exact ha.generatesLowest he

/-- The ids 1 and 3 are loaded, 2 is generated, 1 is freed and generated again. -/
theorem twoRows_idsLowest :
    IdsLowest 0 (some 3) 0 [1, 3] [.generate 0, .free 1, .generate 0] := by
  refine run_idsLowest 0 0 (some 3) [1, 3] _ (by decide) ?_ ?_ ⟨?_, ?_, ?_, trivial⟩
  · intro id hid
    refine ⟨3, rfl, ?_⟩
    rcases List.mem_pair.mp hid with rfl | rfl <;> decide
  · rintro m hm
    obtain rfl := Option.some.inj hm
    exact ⟨by decide, by decide⟩
  · rintro a ha
    obtain rfl := Option.some.inj ha
    exact ⟨⟨4, by decide, by decide, by decide⟩, Or.inl (by decide)⟩
  · rintro a ha
    obtain rfl := Option.some.inj ha
    exact ⟨by decide, by decide⟩
  · rintro a ha
    obtain rfl := Option.some.inj ha
    exact ⟨⟨4, by decide, by decide, by decide⟩, Or.inl (by decide)⟩

/-- The only instance of the database has id 32: the vector gets 32 bits, and the row writes the
one after them. -/
theorem row32_beyond_end : ¬ IdsLowest 0 (some 32) 0 [32] [] := by
  rintro ⟨hstates, -⟩
  have hnone : load 0 (some 32) 0 [32] = none := by decide
  exact hstates hnone

end Allocation

end FunPvp.Maps
