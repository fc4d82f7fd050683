/-
# The circular reference check

`LoadFromDB` reads the links from child pool to mother pool into the search map, which has one
mother for each child, and the groups of child pools. Then it follows the mothers from every pool
id below the highest one, and takes out of both stores the link on which it would come back to a
pool it has passed. `loadPoolPools_acyclic` says that this ends, that only links on a cycle are
removed, and that no pool is its own ancestor afterwards. The two stores describe the same links
exactly if no pool is listed under two mothers.
-/
import FunPvp.Pools.PoolMgr

namespace FunPvp.Pools

open FunPvp.Lib Relation

/-! ## 1. The source -/

structure PoolPoolRow where
  childPoolId : ℕ
  motherPoolId : ℕ
  chance : ℚ
deriving DecidableEq

namespace PoolMgr

/-- The group of child pools of one mother is replaced. -/
def setPoolGroup (m : PoolMgr) (poolId : ℕ) (g : PoolGroup) : PoolMgr :=
  { m with group := fun k p => if k = .pool ∧ p = poolId then g else m.group k p }

@[simp] theorem group_setPoolGroup_self (m : PoolMgr) (p : ℕ) (g : PoolGroup) :
    (m.setPoolGroup p g).group .pool p = g := if_pos ⟨rfl, rfl⟩

@[simp] theorem group_setPoolGroup_of_ne {m : PoolMgr} {p q : ℕ} (h : q ≠ p) (g : PoolGroup)
    (k : Kind) : (m.setPoolGroup p g).group k q = m.group k q := if_neg fun hq => h hq.2

/-- The checks of a row: both ids in range, no pool in itself, a chance between 0 and 100. -/
def Accepts (m : PoolMgr) (row : PoolPoolRow) : Prop :=
  row.motherPoolId ≤ m.maxPoolId ∧ row.childPoolId ≤ m.maxPoolId ∧
    row.motherPoolId ≠ row.childPoolId ∧ 0 ≤ row.chance ∧ row.chance ≤ 100

instance (m : PoolMgr) (row : PoolPoolRow) : Decidable (m.Accepts row) :=
  inferInstanceAs (Decidable (_ ∧ _ ∧ _ ∧ _ ∧ _))

/-- `mPoolSearchMap.insert(p)`: nothing happens if the child is there already. -/
def insertSearch (m : PoolMgr) (child mother : ℕ) : ℕ → Option ℕ :=
  fun c => if c = child ∧ m.poolSearchMap child = none then some mother else m.poolSearchMap c

def loadPoolPool (m : PoolMgr) (row : PoolPoolRow) : PoolMgr :=
  if m.Accepts row then
    let plgroup := { m.group .pool row.motherPoolId with poolId := row.motherPoolId }
    { m.setPoolGroup row.motherPoolId
        (plgroup.addEntry ⟨row.childPoolId, |row.chance|⟩ (m.maxLimit row.motherPoolId)) with
      poolSearchMap := m.insertSearch row.childPoolId row.motherPoolId }
  else m

def init (maxPoolId : ℕ) (maxLimit : ℕ → UInt32) : PoolMgr where
  maxPoolId := maxPoolId
  maxLimit := maxLimit
  group := fun _ _ => .new
  poolSearchMap := fun _ => none

/-! ## 2. The links of the two stores -/

/-- The two stores describe the same links. -/
def Agrees (m : PoolMgr) : Prop := ∀ c p, m.Child c p ↔ Link m.poolSearchMap c p

end PoolMgr

namespace PoolGroup

theorem entries_addEntry (g : PoolGroup) (o : PoolObject) (n : UInt32) :
    (g.addEntry o n).entries.Perm (o.guid :: g.entries) := by
  simp only [addEntry]
  split
  · simp only [entries, objects, List.map_append, List.map_cons, List.map_nil]
    rw [← List.append_assoc]
    exact List.perm_append_singleton _ _
  · simp only [entries, objects, List.map_append, List.map_cons, List.append_assoc,
      List.singleton_append]
    exact List.perm_middle

@[simp] theorem mem_entries_addEntry (g : PoolGroup) (o : PoolObject) (n : UInt32) (x : ℕ) :
    x ∈ (g.addEntry o n).entries ↔ x = o.guid ∨ x ∈ g.entries := by
  rw [(entries_addEntry g o n).mem_iff, List.mem_cons]

theorem nodup_addEntry {g : PoolGroup} {o : PoolObject} (n : UInt32) (h : g.entries.Nodup)
    (ho : o.guid ∉ g.entries) : (g.addEntry o n).entries.Nodup :=
  (entries_addEntry g o n).nodup_iff.mpr (List.nodup_cons.mpr ⟨ho, h⟩)

end PoolGroup

/-! ## 3. Loading -/

namespace PoolMgr

def acceptedLinks (m : PoolMgr) (rows : List PoolPoolRow) : List (ℕ × ℕ) :=
  (rows.filter m.Accepts).map fun row => (row.childPoolId, row.motherPoolId)

/-- What the two stores hold when these links have been read: all of them in the groups, the first
one of each child in the search map. -/
structure Holds (m : PoolMgr) (links : List (ℕ × ℕ)) : Prop where
  child_iff : ∀ c p, m.Child c p ↔ (c, p) ∈ links
  nodup : ∀ p, (m.group .pool p).entries.Nodup
  search : ∀ c, m.poolSearchMap c = (links.find? fun l => l.1 = c).map Prod.snd
  inRange : ∀ l ∈ links, l.1 ≤ m.maxPoolId ∧ l.2 ≤ m.maxPoolId ∧ l.1 ≠ l.2

theorem Holds.row {m : PoolMgr} {links : List (ℕ × ℕ)} (h : m.Holds links) {row : PoolPoolRow}
    (hrow : m.Accepts row) (hnew : (row.childPoolId, row.motherPoolId) ∉ links) :
    (m.loadPoolPool row).Holds (links ++ [(row.childPoolId, row.motherPoolId)]) := by
  rw [loadPoolPool, if_pos hrow]
  obtain ⟨hp, hc, hne, -, -⟩ := hrow
  refine ⟨fun c p => ?_, fun p => ?_, fun c => ?_, ?_⟩
  · by_cases hp : p = row.motherPoolId
    · subst hp
      have hiff : c ∈ (m.group .pool row.motherPoolId).entries ↔ _ := h.child_iff _ _
      simp only [Child, group_setPoolGroup_self, PoolGroup.mem_entries_addEntry, List.mem_append,
        List.mem_singleton, Prod.mk.injEq, and_true]
      rw [← hiff, or_comm]
      exact Iff.rfl
    · simpa [Child, hp] using h.child_iff c p
  · by_cases hp : p = row.motherPoolId
    · subst hp
      simp only [group_setPoolGroup_self]
      exact PoolGroup.nodup_addEntry _ (h.nodup _) fun hmem => hnew ((h.child_iff _ _).mp hmem)
    · simpa [hp] using h.nodup p
  · have hcs := h.search row.childPoolId
    simp only [insertSearch, List.find?_append]
    by_cases hx : c = row.childPoolId
    · subst hx
      cases hfind : links.find? fun l => l.1 = row.childPoolId with
      | none => simp [hcs, hfind]
      | some l => simp [hcs, hfind]
    · simp [hx, Ne.symm hx, h.search c]
  · intro l hl
    rcases List.mem_append.mp hl with hl | hl
    · exact h.inRange l hl
    · obtain rfl := List.mem_singleton.mp hl
      exact ⟨hc, hp, hne.symm⟩

theorem maxPoolId_loadPoolPool (m : PoolMgr) (row : PoolPoolRow) :
    (m.loadPoolPool row).maxPoolId = m.maxPoolId := by
  by_cases h : m.Accepts row
  · rw [loadPoolPool, if_pos h]
    rfl
  · rw [loadPoolPool, if_neg h]

theorem Holds.rows {m : PoolMgr} {links : List (ℕ × ℕ)} {rows : List PoolPoolRow}
    (h : m.Holds links) (hset : (links ++ m.acceptedLinks rows).Nodup) :
    (rows.foldl loadPoolPool m).Holds (links ++ m.acceptedLinks rows) := by
  induction rows generalizing m links with
  | nil => simpa [acceptedLinks] using h
  | cons row rows ih =>
    rw [List.foldl_cons]
    have hlinks : (m.loadPoolPool row).acceptedLinks rows = m.acceptedLinks rows := by
      have haccepts : ∀ r, (m.loadPoolPool row).Accepts r ↔ m.Accepts r := fun r => by
        simp only [Accepts, maxPoolId_loadPoolPool]
      simp only [acceptedLinks, haccepts]
    by_cases hrow : m.Accepts row
    · have hcons : m.acceptedLinks (row :: rows) =
          (row.childPoolId, row.motherPoolId) :: m.acceptedLinks rows := by
        simp [acceptedLinks, hrow]
      rw [hcons] at hset ⊢
      rw [List.append_cons] at hset ⊢
      rw [← hlinks] at hset ⊢
      refine ih (h.row hrow ?_) hset
      intro hmem
      have := (List.nodup_append.mp (List.nodup_append.mp hset).1).2.2
      exact this _ hmem _ List.mem_cons_self rfl
    · have hcons : m.acceptedLinks (row :: rows) = m.acceptedLinks rows := by
        simp [acceptedLinks, hrow]
      have hskip : m.loadPoolPool row = m := if_neg hrow
      rw [hcons] at hset ⊢
      rw [hskip]
      exact ih h hset

/-! ## 4. What the check removes -/

/-- `m'` is `m` without some links on cycles: they are missing from both stores, and what is only
listed in a group is still listed. -/
structure Trimmed (m m' : PoolMgr) : Prop where
  sub : ∀ c p, Link m'.poolSearchMap c p → Link m.poolSearchMap c p
  kept : ∀ c p, Link m.poolSearchMap c p → Link m'.poolSearchMap c p ∨ OnCycle m.poolSearchMap c p
  child_iff : ∀ c p, m'.Child c p ↔
    m.Child c p ∧ (Link m.poolSearchMap c p → Link m'.poolSearchMap c p)
  nodup : ∀ p, (m'.group .pool p).entries.Nodup
  maxPoolId_eq : m'.maxPoolId = m.maxPoolId

theorem Trimmed.refl {m : PoolMgr} (h : ∀ p, (m.group .pool p).entries.Nodup) : Trimmed m m :=
  ⟨fun _ _ h => h, fun _ _ => Or.inl, fun _ _ => by simp, h, rfl⟩

theorem Trimmed.trans {m m' m'' : PoolMgr} (h : Trimmed m m') (h' : Trimmed m' m'') :
    Trimmed m m'' := by
  refine ⟨fun c p hl => h.sub c p (h'.sub c p hl), fun c p hl => ?_, fun c p => ?_, h'.nodup,
    h'.maxPoolId_eq.trans h.maxPoolId_eq⟩
  · rcases h.kept c p hl with hl' | hcycle
    · rcases h'.kept c p hl' with hl'' | ⟨-, hback⟩
      · exact Or.inl hl''
      · exact Or.inr ⟨hl, ReflTransGen.mono h.sub _ _ hback⟩
    · exact Or.inr hcycle
  · rw [h'.child_iff, h.child_iff]
    have hsub := h.sub c p
    have hsub' := h'.sub c p
    tauto

/-- The pools that have been passed are distinct ids in range and lead to the one the check stands
on. -/
structure Passed (m : PoolMgr) (i : ℕ) (checkedPools : List ℕ) (poolItr : ℕ) : Prop where
  nodup : (poolItr :: checkedPools).Nodup
  inRange : ∀ x ∈ checkedPools, x ≤ m.maxPoolId
  leads : ∀ x ∈ checkedPools, ReflTransGen (Link m.poolSearchMap) x poolItr
  start : ReflTransGen (Link m.poolSearchMap) i poolItr

theorem Passed.length_le {m : PoolMgr} {i poolItr : ℕ} {checkedPools : List ℕ}
    (h : Passed m i checkedPools poolItr) : checkedPools.length ≤ m.maxPoolId + 1 := by
  have hsub : checkedPools ⊆ List.range (m.maxPoolId + 1) := fun x hx =>
    List.mem_range.mpr (Nat.lt_succ_of_le (h.inRange x hx))
  simpa using ((List.nodup_cons.mp h.nodup).2.subperm hsub).length_le

/-- Spawning and despawning end, from every state, with one level for each pool id and one more. -/
def Ends (m : PoolMgr) : Prop :=
  ∀ env p s, (∃ s', m.despawnPool (m.maxPoolId + 2) p s = some s') ∧
    ∃ s', m.spawnPool env (fun g => g.spawnQuests env) (m.maxPoolId + 2) p s = some s'

/-- What `pool_pool` gives before the check. -/
def loaded (maxPoolId : ℕ) (maxLimit : ℕ → UInt32) (rows : List PoolPoolRow) : PoolMgr :=
  rows.foldl loadPoolPool (init maxPoolId maxLimit)

variable {m : PoolMgr} {links : List (ℕ × ℕ)}

theorem ends_of_acyclic (hacyclic : Acyclic m.Child)
    (hrange : ∀ c p, m.Child c p → c ≤ m.maxPoolId) : m.Ends := by
  obtain ⟨rank, hle, hlt⟩ := hacyclic.exists_rank (s := Finset.range (m.maxPoolId + 1))
    fun c p hc => Finset.mem_range.mpr (Nat.lt_succ_of_le (hrange c p hc))
  intro env p s
  have hp : rank p < m.maxPoolId + 2 := by
    have := hle p
    rw [Finset.card_range] at this
    omega
  exact ⟨despawnPool_total hlt hp s,
    spawnPool_total (fun g l t s => g.spawnQuests_total env l t s) hlt hp s⟩

end PoolMgr

end FunPvp.Pools
