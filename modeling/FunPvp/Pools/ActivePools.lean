/-
# Counting what is active

The number that `ActivePoolData` stores for a pool is meant to be the number of objects of this
pool that are marked active (`Counted`). Activating and removing an object keep it so, under
conditions that the pools have to see to: the object is listed in the pool and in no other, a pool
that is removed has nothing active in it any more, and a pool that is counted in its mother has an
entry before anything is activated in it, since the access to the count of a pool creates its
entry and so marks the pool itself.

Despawning a pool keeps the counts, takes activity away only (`Shrinks`), and changes no entry of a
pool outside of the despawned one (`Keeps`).
-/
import FunPvp.Pools.PoolMgr
import FunPvp.Lib.Counters

namespace FunPvp.Pools

open FunPvp.Lib Relation

/-! ## 1. What the operations do -/

namespace ActivePoolData

variable {s : ActivePoolData} {k : Kind} {id p q x : ℕ}

@[simp] theorem isActiveObject_ask (k : Kind) (x : ℕ) :
    s.ask.isActiveObject k x = s.isActiveObject k x := by
  cases k <;> rfl

@[simp] theorem spawnedPools_ask : s.ask.spawnedPools = s.spawnedPools := rfl

@[simp] theorem getActiveObjectCount_ask (p : ℕ) :
    s.ask.getActiveObjectCount p = s.getActiveObjectCount p := rfl

theorem isActiveObject_activateObject (j : Kind) (x : ℕ) :
    (s.activateObject k id p).isActiveObject j x = true ↔
      s.isActiveObject j x = true ∨ (j = k ∧ x = id) ∨ (j = .pool ∧ x = p) := by
  cases j <;> cases k <;> rcases eq_or_ne x p with rfl | hx <;>
    rcases eq_or_ne x id with rfl | hid <;>
    simp [activateObject, markActive, setCount, isActiveObject, *] <;> exact decide_eq_true_iff

theorem isActiveObject_removeObject (j : Kind) (x : ℕ) :
    (s.removeObject k id p).isActiveObject j x = true ↔
      (s.isActiveObject j x = true ∧ ¬ (j = k ∧ x = id)) ∨ (j = .pool ∧ x = p) := by
  cases j <;> cases k <;> rcases eq_or_ne x p with rfl | hx <;>
    rcases eq_or_ne x id with rfl | hid <;>
    simp [removeObject, unmarkActive, setCount, isActiveObject, *] <;> exact decide_eq_true_iff

theorem spawnedPools_activateObject (h : k = .pool → id ≠ p) (q : ℕ) :
    (s.activateObject k id p).spawnedPools q =
      if q = p then some (s.getActiveObjectCount p + 1)
      else if k = .pool ∧ q = id then some 0 else s.spawnedPools q := by
  cases k with
  | pool =>
    have hne : p ≠ id := (h rfl).symm
    by_cases hq : q = p <;>
      simp [activateObject, markActive, setCount, getActiveObjectCount, hq, hne]
  | _ => by_cases hq : q = p <;>
      simp [activateObject, markActive, setCount, getActiveObjectCount, hq]

theorem spawnedPools_removeObject (h : k = .pool → id ≠ p) (q : ℕ) :
    (s.removeObject k id p).spawnedPools q =
      if q = p then some (s.getActiveObjectCount p - 1)
      else if k = .pool ∧ q = id then none else s.spawnedPools q := by
  cases k with
  | pool =>
    have hne : p ≠ id := (h rfl).symm
    by_cases hq : q = p <;>
      simp [removeObject, unmarkActive, setCount, getActiveObjectCount, hq, hne]
  | _ => by_cases hq : q = p <;>
      simp [removeObject, unmarkActive, setCount, getActiveObjectCount, hq]

theorem getActiveObjectCount_activateObject (h : k = .pool → id ≠ p) (q : ℕ) :
    (s.activateObject k id p).getActiveObjectCount q =
      if q = p then s.getActiveObjectCount p + 1
      else if k = .pool ∧ q = id then 0 else s.getActiveObjectCount q := by
  simp only [getActiveObjectCount, spawnedPools_activateObject h]
  split
  · rfl
  · split <;> rfl

theorem getActiveObjectCount_removeObject (h : k = .pool → id ≠ p) (q : ℕ) :
    (s.removeObject k id p).getActiveObjectCount q =
      if q = p then s.getActiveObjectCount p - 1
      else if k = .pool ∧ q = id then 0 else s.getActiveObjectCount q := by
  simp only [getActiveObjectCount, spawnedPools_removeObject h]
  split
  · rfl
  · split <;> rfl

theorem getActiveObjectCount_of_inactive (h : s.isActiveObject .pool p = false) :
    s.getActiveObjectCount p = 0 := by
  have hnone : s.spawnedPools p = none := by simpa [isActiveObject] using h
  simp [getActiveObjectCount, hnone]

end ActivePoolData

/-! ## 2. A configuration of pools -/

namespace PoolMgr

def entries (m : PoolMgr) (k : Kind) (p : ℕ) : List ℕ := (m.group k p).entries

/-- Every object is listed once, in one pool; the groups carry the number of their pool; the search
map names a pool that lists its child; no pool is its own ancestor. -/
structure WellFormed (m : PoolMgr) : Prop where
  numbered : ∀ k p, (m.group k p).isEmpty = false → (m.group k p).poolId = p
  nodup : ∀ k p, (m.entries k p).Nodup
  onePool : ∀ k p q id, id ∈ m.entries k p → id ∈ m.entries k q → p = q
  mother : ∀ c p, m.poolSearchMap c = some p → m.Child c p
  acyclic : Acyclic m.Child
  inRange : ∀ c p, m.Child c p → c ≤ m.maxPoolId

def activeOf (m : PoolMgr) (s : ActivePoolData) (k : Kind) (p : ℕ) : List ℕ :=
  (m.entries k p).filter (s.isActiveObject k)

/-- The number of creatures, gameobjects, quests and child pools of a pool that are marked
active. -/
def marked (m : PoolMgr) (s : ActivePoolData) (p : ℕ) : ℕ :=
  (m.activeOf s .creature p).length + (m.activeOf s .gameObject p).length +
    (m.activeOf s .quest p).length + (m.activeOf s .pool p).length

/-- The stored counts are the numbers of active objects. -/
def Counted (m : PoolMgr) (s : ActivePoolData) : Prop :=
  ∀ p, s.getActiveObjectCount p = m.marked s p

/-- No pool has more active objects than its limit and what it may exceed it by. -/
def Within (m : PoolMgr) (excess : ℕ → ℕ) (s : ActivePoolData) : Prop :=
  ∀ p, m.marked s p ≤ (m.maxLimit p).toNat + excess p

/-- A pool that is listed in another one is active. -/
def Entered (m : PoolMgr) (s : ActivePoolData) (p : ℕ) : Prop :=
  (∃ q, m.Child p q) → s.isActiveObject .pool p = true

def Shrinks (s s' : ActivePoolData) : Prop :=
  ∀ k x, s'.isActiveObject k x = true → s.isActiveObject k x = true

/-- The entries of all pools that are neither `p` nor below it stay. -/
def Keeps (m : PoolMgr) (p : ℕ) (s s' : ActivePoolData) : Prop :=
  ∀ q, ¬ ReflTransGen m.Child q p → s'.spawnedPools q = s.spawnedPools q

variable {m : PoolMgr} {s s' s'' : ActivePoolData} {k : Kind} {id p q : ℕ}

theorem Keeps.refl (s : ActivePoolData) : m.Keeps p s s := fun _ _ => rfl

theorem Keeps.trans (h : m.Keeps p s s') (h' : m.Keeps p s' s'') : m.Keeps p s s'' :=
  fun q hq => (h' q hq).trans (h q hq)

theorem Keeps.of_child (h : m.Keeps q s s') (hq : m.Child q p) : m.Keeps p s s' :=
  fun x hx => h x fun hxq => hx (hxq.tail hq)

theorem Shrinks.refl (s : ActivePoolData) : Shrinks s s := fun _ _ h => h

theorem Shrinks.trans (h : Shrinks s s') (h' : Shrinks s' s'') : Shrinks s s'' :=
  fun k x hx => h k x (h' k x hx)

theorem activeOf_ask : m.activeOf s.ask k p = m.activeOf s k p := by
  cases k <;> rfl

@[simp] theorem marked_ask : m.marked s.ask p = m.marked s p := by
  simp only [marked, activeOf_ask]

theorem mem_activeOf {x : ℕ} :
    x ∈ m.activeOf s k p ↔ x ∈ m.entries k p ∧ s.isActiveObject k x = true := List.mem_filter

theorem WellFormed.nodup_activeOf (hm : m.WellFormed) : (m.activeOf s k p).Nodup :=
  (hm.nodup k p).filter _

theorem WellFormed.ne_of_child (hm : m.WellFormed) (hid : id ∈ m.entries k p) :
    k = .pool → id ≠ p := by
  rintro rfl rfl
  exact hm.acyclic id (TransGen.single hid)

theorem length_activeOf_le (h : Shrinks s s') :
    (m.activeOf s' k p).length ≤ (m.activeOf s k p).length := by
  refine (List.monotone_filter_right _ fun x hx => ?_).length_le
  exact h k x hx

theorem marked_le (h : Shrinks s s') : m.marked s' p ≤ m.marked s p := by
  have h₁ := length_activeOf_le (m := m) (p := p) (k := .creature) h
  have h₂ := length_activeOf_le (m := m) (p := p) (k := .gameObject) h
  have h₃ := length_activeOf_le (m := m) (p := p) (k := .quest) h
  have h₄ := length_activeOf_le (m := m) (p := p) (k := .pool) h
  simp only [marked]
  omega

theorem Within.shrink {excess : ℕ → ℕ} (h : m.Within excess s) (hs : Shrinks s s') :
    m.Within excess s' := fun p => (marked_le hs).trans (h p)

theorem Counted.marked_eq (h : m.Counted s) (h' : m.Counted s')
    (hp : s'.spawnedPools p = s.spawnedPools p) : m.marked s' p = m.marked s p := by
  rw [← h, ← h', ActivePoolData.getActiveObjectCount, ActivePoolData.getActiveObjectCount, hp]

theorem Counted.active_of_mem (h : m.Counted s) (hid : id ∈ m.entries k p)
    (hactive : s.isActiveObject k id = true) : s.isActiveObject .pool p = true := by
  have hpos : 0 < (m.activeOf s k p).length :=
    List.length_pos_of_mem (mem_activeOf.mpr ⟨hid, hactive⟩)
  by_contra hno
  have hzero := ActivePoolData.getActiveObjectCount_of_inactive (Bool.eq_false_iff.mpr hno)
  rw [h] at hzero
  cases k <;> simp only [marked] at hzero <;> omega

/-! ## 3. Activating and removing one object -/

theorem marked_eq_of_kinds {n : ℕ}
    (hk : (m.activeOf s' k p).length = (m.activeOf s k p).length + n)
    (hother : ∀ j, j ≠ k → (m.activeOf s' j p).length = (m.activeOf s j p).length) :
    m.marked s' p = m.marked s p + n := by
  simp only [marked]
  cases k with
  | creature => rw [hk, hother .gameObject (by simp), hother .quest (by simp),
      hother .pool (by simp)]; omega
  | gameObject => rw [hk, hother .creature (by simp), hother .quest (by simp),
      hother .pool (by simp)]; omega
  | quest => rw [hk, hother .creature (by simp), hother .gameObject (by simp),
      hother .pool (by simp)]; omega
  | pool => rw [hk, hother .creature (by simp), hother .gameObject (by simp),
      hother .quest (by simp)]; omega

theorem length_activeOf_congr (h : ∀ x ∈ m.entries k p,
    (s'.isActiveObject k x = true ↔ s.isActiveObject k x = true)) :
    (m.activeOf s' k p).length = (m.activeOf s k p).length := by
  have heq : m.activeOf s' k p = m.activeOf s k p :=
    List.filter_congr fun x hx => Bool.eq_iff_iff.mpr (h x hx)
  rw [heq]

theorem marked_of_gain (hm : m.WellFormed) (hid : id ∈ m.entries k p)
    (hinactive : s.isActiveObject k id = false)
    (h : ∀ j q, ∀ x ∈ m.entries j q,
      (s'.isActiveObject j x = true ↔ s.isActiveObject j x = true ∨ (j = k ∧ x = id))) (q : ℕ) :
    m.marked s' q = m.marked s q + if q = p then 1 else 0 := by
  by_cases hq : q = p
  · subst hq
    rw [if_pos rfl]
    refine marked_eq_of_kinds (k := k) ?_ fun j hj => length_activeOf_congr fun x hx => ?_
    · refine length_of_gain hm.nodup_activeOf hm.nodup_activeOf (List.nodup_singleton id) ?_ ?_
      · intro a ha hmem
        obtain rfl := List.mem_singleton.mp ha
        rw [mem_activeOf, hinactive] at hmem
        exact absurd hmem.2 (by simp)
      · intro a
        simp only [mem_activeOf, List.mem_singleton]
        constructor
        · rintro ⟨ha, hactive⟩
          rcases (h k q a ha).mp hactive with hold | ⟨-, rfl⟩
          · exact Or.inl ⟨ha, hold⟩
          · exact Or.inr rfl
        · rintro (⟨ha, hold⟩ | rfl)
          · exact ⟨ha, (h k q a ha).mpr (Or.inl hold)⟩
          · exact ⟨hid, (h k q a hid).mpr (Or.inr ⟨rfl, rfl⟩)⟩
    · rw [h j q x hx]
      simp [hj]
  · rw [if_neg hq]
    refine marked_eq_of_kinds (k := k) ?_ fun j hj => length_activeOf_congr fun x hx => ?_
    · refine length_activeOf_congr fun x hx => ?_
      rw [h k q x hx]
      refine or_iff_left ?_
      rintro ⟨-, rfl⟩
      exact hq (hm.onePool k q p x hx hid)
    · rw [h j q x hx]
      simp [hj]

theorem shrinks_removeObject (hid : id ∈ m.entries k p) (h : m.Counted s)
    (hactive : s.isActiveObject k id = true) :
    Shrinks s (s.removeObject k id p) := by
  intro j x hx
  rcases (ActivePoolData.isActiveObject_removeObject j x).mp hx with ⟨hold, -⟩ | ⟨rfl, rfl⟩
  · exact hold
  · exact h.active_of_mem hid hactive

section Activate

variable (hm : m.WellFormed) (hid : id ∈ m.entries k p)

include hm hid

theorem marked_activateObject (hinactive : s.isActiveObject k id = false)
    (hentered : m.Entered s p) (q : ℕ) :
    m.marked (s.activateObject k id p) q = m.marked s q + if q = p then 1 else 0 := by
  refine marked_of_gain hm hid hinactive (fun j q x hx => ?_) q
  rw [ActivePoolData.isActiveObject_activateObject]
  constructor
  · rintro (hold | hnew | ⟨rfl, rfl⟩)
    · exact Or.inl hold
    · exact Or.inr hnew
    · exact Or.inl (hentered ⟨q, hx⟩)
  · rintro (hold | hnew)
    · exact Or.inl hold
    · exact Or.inr (Or.inl hnew)

theorem marked_removeObject (hcounted : m.Counted s) (hactive : s.isActiveObject k id = true)
    (q : ℕ) : m.marked s q = m.marked (s.removeObject k id p) q + if q = p then 1 else 0 := by
  have hp : s.isActiveObject .pool p = true := hcounted.active_of_mem hid hactive
  have hgone : (s.removeObject k id p).isActiveObject k id = false := by
    refine Bool.eq_false_iff.mpr fun hno => ?_
    rcases (ActivePoolData.isActiveObject_removeObject k id).mp hno with ⟨-, h⟩ | ⟨hk, h⟩
    · exact h ⟨rfl, rfl⟩
    · exact hm.ne_of_child hid hk h
  refine marked_of_gain hm hid hgone (fun j q x hx => ?_) q
  rw [ActivePoolData.isActiveObject_removeObject]
  constructor
  · intro hold
    by_cases hx : j = k ∧ x = id
    · exact Or.inr hx
    · exact Or.inl (Or.inl ⟨hold, hx⟩)
  · rintro ((⟨hold, -⟩ | ⟨rfl, rfl⟩) | ⟨rfl, rfl⟩)
    · exact hold
    · exact hp
    · exact hactive

theorem Counted.activateObject (h : m.Counted s) (hinactive : s.isActiveObject k id = false)
    (hentered : m.Entered s p) : m.Counted (s.activateObject k id p) := by
  intro q
  rw [ActivePoolData.getActiveObjectCount_activateObject (hm.ne_of_child hid),
    marked_activateObject hm hid hinactive hentered]
  split
  · next hq => rw [hq, h]
  · split
    · next hq =>
      obtain ⟨rfl, rfl⟩ := hq
      rw [← h, ActivePoolData.getActiveObjectCount_of_inactive hinactive]
    · exact h q

theorem Counted.removeObject (h : m.Counted s) (hactive : s.isActiveObject k id = true)
    (hempty : k = .pool → m.marked s id = 0) : m.Counted (s.removeObject k id p) := by
  intro q
  have hq := marked_removeObject hm hid h hactive q
  rw [ActivePoolData.getActiveObjectCount_removeObject (hm.ne_of_child hid)]
  split
  · next hqp =>
    subst hqp
    rw [if_pos rfl] at hq
    rw [h]
    omega
  · next hqp =>
    rw [if_neg hqp] at hq
    split
    · next hk =>
      have := hempty hk.1
      rw [hk.2] at hq ⊢
      omega
    · rw [h]
      omega

theorem keeps_removeObject : m.Keeps p s (s.removeObject k id p) := by
  intro q hq
  rw [ActivePoolData.spawnedPools_removeObject (hm.ne_of_child hid), if_neg, if_neg]
  · rintro ⟨rfl, rfl⟩
    exact hq (ReflTransGen.single hid)
  · rintro rfl
    exact hq ReflTransGen.refl

theorem keeps_activateObject : m.Keeps p s (s.activateObject k id p) := by
  intro q hq
  rw [ActivePoolData.spawnedPools_activateObject (hm.ne_of_child hid), if_neg, if_neg]
  · rintro ⟨rfl, rfl⟩
    exact hq (ReflTransGen.single hid)
  · rintro rfl
    exact hq ReflTransGen.refl

end Activate

/-! ## 4. Despawning -/

/-- What `Despawn1Object` has to do on the objects of a kind in a pool: nothing to the pools, or, for
a child pool, despawn all that is in it. -/
def DespawnSpec (m : PoolMgr) (k : Kind) (p : ℕ)
    (f : ℕ → ActivePoolData → Option ActivePoolData) : Prop :=
  ∀ c ∈ m.entries k p, ∀ s s', m.Counted s → f c s = some s' →
    m.Counted s' ∧ Shrinks s s' ∧ (k ≠ .pool → s' = s) ∧
      (k = .pool → m.Keeps c s s' ∧ m.marked s' c = 0 ∧
        (s.isActiveObject .pool c = true → s'.isActiveObject .pool c = true))

theorem despawnSpec_some (hk : k ≠ .pool) : m.DespawnSpec k p fun _ s => some s := by
  rintro c - s s' hs hf
  obtain rfl := Option.some.inj hf
  exact ⟨hs, Shrinks.refl s, fun _ => rfl, fun h => absurd h hk⟩

/-- What despawning does: the counts stay right, nothing becomes active, no entry outside of the
pool changes, and the pool keeps its own. -/
structure Despawned (m : PoolMgr) (p : ℕ) (s s' : ActivePoolData) : Prop where
  counted : m.Counted s'
  shrinks : Shrinks s s'
  keeps : m.Keeps p s s'
  stays : s.isActiveObject .pool p = true → s'.isActiveObject .pool p = true

theorem Despawned.refl (h : m.Counted s) : m.Despawned p s s :=
  ⟨h, Shrinks.refl s, Keeps.refl s, id⟩

theorem Despawned.trans (h : m.Despawned p s s') (h' : m.Despawned p s' s'') :
    m.Despawned p s s'' :=
  ⟨h'.counted, h.shrinks.trans h'.shrinks, h.keeps.trans h'.keeps, fun hp => h'.stays (h.stays hp)⟩

theorem despawn1_spec (hm : m.WellFormed) {f : ℕ → ActivePoolData → Option ActivePoolData}
    (hf : m.DespawnSpec k p f) (hid : id ∈ m.entries k p) (hs : m.Counted s)
    (hactive : s.isActiveObject k id = true) (hs' : f id s = some s') :
    m.Despawned p s (s'.removeObject k id p) ∧
      (s'.removeObject k id p).isActiveObject k id = false := by
  obtain ⟨hcounted, hshrinks, hother, hpool⟩ := hf id hid s s' hs hs'
  have hactive' : s'.isActiveObject k id = true := by
    by_cases hk : k = .pool
    · subst hk
      exact (hpool rfl).2.2 hactive
    · rw [hother hk]
      exact hactive
  have hkeeps : m.Keeps p s s' := by
    by_cases hk : k = .pool
    · subst hk
      exact (hpool rfl).1.of_child hid
    · rw [hother hk]
      exact Keeps.refl s
  refine ⟨⟨hcounted.removeObject hm hid hactive' fun hk => (hpool hk).2.1,
    hshrinks.trans (shrinks_removeObject hid hcounted hactive'),
    hkeeps.trans (keeps_removeObject hm hid), fun _ => ?_⟩, ?_⟩
  · exact (ActivePoolData.isActiveObject_removeObject .pool p).mpr (Or.inr ⟨rfl, rfl⟩)
  · refine Bool.eq_false_iff.mpr fun hno => ?_
    rcases (ActivePoolData.isActiveObject_removeObject k id).mp hno with ⟨-, h⟩ | ⟨hk, h⟩
    · exact h ⟨rfl, rfl⟩
    · exact hm.ne_of_child hid hk h

theorem despawnObject_spec (hm : m.WellFormed)
    {f : ℕ → ActivePoolData → Option ActivePoolData} (hf : m.DespawnSpec k p f)
    (hp : (m.group k p).poolId = p) (guid : ℕ) (hs : m.Counted s)
    (hs' : (m.group k p).despawnObject f k guid s = some s') :
    m.Despawned p s s' ∧
      ∀ x ∈ m.entries k p, (guid = 0 ∨ x = guid) → s'.isActiveObject k x = false := by
  have hall : ∀ (l : List PoolObject) (s s' : ActivePoolData),
      (∀ o ∈ l, o.guid ∈ m.entries k p) → m.Counted s →
      l.foldlM (fun s o =>
        if s.isActiveObject k o.guid ∧ (guid = 0 ∨ o.guid = guid) then
          (f o.guid s).map fun s => s.removeObject k o.guid (m.group k p).poolId
        else some s) s = some s' →
      m.Despawned p s s' ∧
        ∀ o ∈ l, (guid = 0 ∨ o.guid = guid) → s'.isActiveObject k o.guid = false := by
    intro l
    induction l with
    | nil =>
      rintro s s' - hs hs'
      obtain rfl := Option.some.inj hs'
      exact ⟨Despawned.refl hs, by simp⟩
    | cons o l ih =>
      intro s s' hl hs hs'
      have ho := hl o List.mem_cons_self
      have hl' : ∀ o ∈ l, o.guid ∈ m.entries k p := fun o h => hl o (List.mem_cons_of_mem _ h)
      rw [List.foldlM_cons] at hs'
      obtain ⟨s₁, hs₁, hrest⟩ := Option.bind_eq_some_iff.mp hs'
      -- after the object: if it was asked for, it is not active
      have hone : m.Despawned p s s₁ ∧
          ((guid = 0 ∨ o.guid = guid) → s₁.isActiveObject k o.guid = false) := by
        split at hs₁
        · next hcond =>
          obtain ⟨s₂, hs₂, rfl⟩ := Option.map_eq_some_iff.mp hs₁
          rw [hp]
          obtain ⟨hdespawned, hgone⟩ := despawn1_spec hm hf ho hs hcond.1 hs₂
          exact ⟨hdespawned, fun _ => hgone⟩
        · next hcond =>
          obtain rfl := Option.some.inj hs₁
          refine ⟨Despawned.refl hs, fun hguid => ?_⟩
          exact Bool.eq_false_iff.mpr fun hactive => hcond ⟨hactive, hguid⟩
      obtain ⟨hdespawned, hl''⟩ := ih s₁ s' hl' hone.1.counted hrest
      refine ⟨hone.1.trans hdespawned, fun x hx hguid => ?_⟩
      rcases List.mem_cons.mp hx with rfl | hx
      · refine Bool.eq_false_iff.mpr fun hno => ?_
        have := hdespawned.shrinks k x.guid hno
        rw [hone.2 hguid] at this
        exact absurd this (by simp)
      · exact hl'' x hx hguid
  obtain ⟨hdespawned, hgone⟩ := hall _ s s'
    (fun o ho => List.mem_map_of_mem ho) hs hs'
  refine ⟨hdespawned, fun x hx hguid => ?_⟩
  obtain ⟨o, ho, rfl⟩ := List.mem_map.mp hx
  exact hgone o ho hguid

theorem entries_of_isEmpty (h : (m.group k p).isEmpty = true) : m.entries k p = [] := by
  simp only [PoolGroup.isEmpty, Bool.and_eq_true, List.isEmpty_iff] at h
  simp [entries, PoolGroup.entries, PoolGroup.objects, h.1, h.2]

theorem despawnKind_spec (hm : m.WellFormed)
    {despawnChild : ℕ → ActivePoolData → Option ActivePoolData}
    (hchild : m.DespawnSpec .pool p despawnChild) (hs : m.Counted s)
    (hs' : m.despawnKind despawnChild k p s = some s') :
    m.Despawned p s s' ∧ (m.activeOf s' k p).length = 0 := by
  have hempty : (∀ x ∈ m.entries k p, s'.isActiveObject k x = false) →
      (m.activeOf s' k p).length = 0 := by
    intro h
    rw [List.length_eq_zero_iff, activeOf, List.filter_eq_nil_iff]
    intro x hx
    simp [h x hx]
  unfold despawnKind at hs'
  dsimp only at hs'
  split at hs'
  · next h =>
    obtain rfl := Option.some.inj hs'
    exact ⟨Despawned.refl hs, by simp [activeOf, entries_of_isEmpty h]⟩
  · next h =>
    have hp := hm.numbered k p (Bool.eq_false_iff.mpr h)
    suffices hspec : m.Despawned p s s' ∧
        ∀ x ∈ m.entries k p, (0 = 0 ∨ x = 0) → s'.isActiveObject k x = false from
      ⟨hspec.1, hempty fun x hx => hspec.2 x hx (Or.inl rfl)⟩
    cases k with
    | pool => exact despawnObject_spec hm hchild hp 0 hs hs'
    | creature => exact despawnObject_spec hm (despawnSpec_some (by simp)) hp 0 hs hs'
    | gameObject => exact despawnObject_spec hm (despawnSpec_some (by simp)) hp 0 hs hs'
    | quest => exact despawnObject_spec hm (despawnSpec_some (by simp)) hp 0 hs hs'

theorem despawnPool_spec (hm : m.WellFormed) {levels : ℕ} (hs : m.Counted s)
    (hs' : m.despawnPool levels p s = some s') : m.Despawned p s s' ∧ m.marked s' p = 0 := by
  induction levels generalizing p s s' with
  | zero => simp [despawnPool] at hs'
  | succ levels ih =>
    have hchild : m.DespawnSpec .pool p (m.despawnPool levels) := by
      intro c hc s s' hs hs'
      obtain ⟨hdespawned, hzero⟩ := ih hs hs'
      exact ⟨hdespawned.counted, hdespawned.shrinks, fun h => absurd rfl h,
        fun _ => ⟨hdespawned.keeps, hzero, hdespawned.stays⟩⟩
    unfold despawnPool at hs'
    dsimp only at hs'
    obtain ⟨s₃, h₃, h₄⟩ := Option.bind_eq_some_iff.mp hs'
    obtain ⟨s₂, h₂, h₃⟩ := Option.bind_eq_some_iff.mp h₃
    obtain ⟨s₁, h₁, h₂⟩ := Option.bind_eq_some_iff.mp h₂
    obtain ⟨hd₁, hcreature⟩ := despawnKind_spec hm hchild hs h₁
    obtain ⟨hd₂, hgameObject⟩ := despawnKind_spec hm hchild hd₁.counted h₂
    obtain ⟨hd₃, hpool⟩ := despawnKind_spec hm hchild hd₂.counted h₃
    obtain ⟨hd₄, hquest⟩ := despawnKind_spec hm hchild hd₃.counted h₄
    refine ⟨((hd₁.trans hd₂).trans hd₃).trans hd₄, ?_⟩
    -- what a later kind does takes activity away only
    have := length_activeOf_le (m := m) (p := p) (k := .creature)
      ((hd₂.trans hd₃).trans hd₄).shrinks
    have := length_activeOf_le (m := m) (p := p) (k := .gameObject) (hd₃.trans hd₄).shrinks
    have := length_activeOf_le (m := m) (p := p) (k := .pool) hd₄.shrinks
    simp only [marked]
    omega

end PoolMgr

end FunPvp.Pools
