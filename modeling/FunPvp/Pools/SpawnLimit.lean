/-
# The limit of a pool

`SpawnObject` spawns as many objects as the limit leaves room for, and rolls one more if an object
of the pool triggers the call. For creatures, gameobjects and child pools the count of a pool stays
right and within the limit. Quests have their own `SpawnObject`, which does not look at the count;
`QuestsFit` says when that does no harm, and `run_counted` that nothing else does: in every run
whose calls of it fit, and in which `SpawnPool` is not called for an inactive child pool, all counts
are right and within their limits.
-/
import FunPvp.Pools.ActivePools
import FunPvp.Pools.CircularReference
import FunPvp.Lib.Run

namespace FunPvp.Pools

open FunPvp.Lib Relation

namespace PoolMgr

variable {m : PoolMgr} {env : Env} {s s' s'' : ActivePoolData} {k : Kind} {id p q : ℕ}

/-! ## 1. Spawning the objects of one kind -/

/-- What spawning does in a pool: the counts stay right and within the limits, no entry outside of
the pool changes, and the pool keeps its own. -/
structure Spawned (m : PoolMgr) (excess : ℕ → ℕ) (p : ℕ) (s s' : ActivePoolData) : Prop where
  counted : m.Counted s'
  within : m.Within excess s'
  keeps : m.Keeps p s s'
  stays : s.isActiveObject .pool p = true → s'.isActiveObject .pool p = true

variable {excess : ℕ → ℕ}

theorem Spawned.refl (hs : m.Counted s) (hw : m.Within excess s) : m.Spawned excess p s s :=
  ⟨hs, hw, Keeps.refl s, id⟩

theorem Spawned.trans (h : m.Spawned excess p s s') (h' : m.Spawned excess p s' s'') :
    m.Spawned excess p s s'' :=
  ⟨h'.counted, h'.within, h.keeps.trans h'.keeps, fun hp => h'.stays (h.stays hp)⟩

theorem Spawned.entered (h : m.Spawned excess p s s') (hp : m.Entered s p) : m.Entered s' p :=
  fun hq => h.stays (hp hq)

theorem Spawned.ask (h : m.Spawned excess p s.ask s') : m.Spawned excess p s s' :=
  ⟨h.counted, h.within, fun q hq => h.keeps q hq, fun hp => h.stays (by simpa using hp)⟩

/-- What `Spawn1Object` has to do on the objects of a kind in a pool: nothing to the pools, or, for
a child pool that is active, spawn it. -/
def SpawnSpec (m : PoolMgr) (k : Kind) (p : ℕ)
    (f : ℕ → ActivePoolData → Option ActivePoolData) : Prop :=
  ∀ c ∈ m.entries k p, ∀ excess s s', (∀ q, excess q ≤ 1) → m.Counted s → m.Within excess s →
    s.isActiveObject k c = true → f c s = some s' →
    m.Counted s' ∧ m.Within excess s' ∧ (k ≠ .pool → s' = s) ∧ (k = .pool → m.Keeps c s s')

theorem spawnSpec_some (hk : k ≠ .pool) : m.SpawnSpec k p fun _ s => some s := by
  rintro c - excess s s' - hs hw - hf
  obtain rfl := Option.some.inj hf
  exact ⟨hs, hw, fun _ => rfl, fun h => absurd h hk⟩

/-- One more object may be active in `p` for a while. -/
def bump (excess : ℕ → ℕ) (p : ℕ) : ℕ → ℕ := fun q => excess q + if q = p then 1 else 0

theorem spawn1_spec (hm : m.WellFormed) {f : ℕ → ActivePoolData → Option ActivePoolData}
    (hf : m.SpawnSpec k p f) (hid : id ∈ m.entries k p) (hsmall : ∀ q, excess q ≤ 1)
    (hs : m.Counted s) (hinactive : s.isActiveObject k id = false)
    (hentered : m.Entered s p) (hw : m.Within excess (s.activateObject k id p))
    (hs' : f id (s.activateObject k id p) = some s') :
    m.Spawned excess p s s' ∧ m.marked s' p = m.marked s p + 1 ∧
      ∀ x ∈ m.entries k p, s.isActiveObject k x = true → s'.isActiveObject k x = true := by
  have hs₁ := hs.activateObject hm hid hinactive hentered
  have hactive : (s.activateObject k id p).isActiveObject k id = true :=
    (ActivePoolData.isActiveObject_activateObject k id).mpr (Or.inr (Or.inl ⟨rfl, rfl⟩))
  have hp : (s.activateObject k id p).isActiveObject .pool p = true :=
    (ActivePoolData.isActiveObject_activateObject .pool p).mpr (Or.inr (Or.inr ⟨rfl, rfl⟩))
  obtain ⟨hcounted, hwithin, hother, hpool⟩ := hf id hid excess _ s' hsmall hs₁ hw hactive hs'
  -- the entries of the pool and of its other children are those right after the activation
  have hsame : ∀ q, (k = .pool → ¬ ReflTransGen m.Child q id) →
      s'.spawnedPools q = (s.activateObject k id p).spawnedPools q := by
    intro q hq
    by_cases hk : k = .pool
    · exact hpool hk q (hq hk)
    · rw [hother hk]
  have hsame_p : s'.spawnedPools p = (s.activateObject k id p).spawnedPools p := by
    refine hsame p ?_
    rintro rfl
    exact hm.acyclic.mother hid
  refine ⟨⟨hcounted, hwithin, ?_, fun _ => ?_⟩, ?_, ?_⟩
  · refine (keeps_activateObject hm hid).trans fun q hq => hsame q ?_
    rintro rfl hqid
    exact hq (hqid.tail hid)
  · simpa [ActivePoolData.isActiveObject, hsame_p] using hp
  · rw [hs₁.marked_eq hcounted hsame_p, marked_activateObject hm hid hinactive hentered,
      if_pos rfl]
  · intro x hx hxactive
    have hx₁ : (s.activateObject k id p).isActiveObject k x = true :=
      (ActivePoolData.isActiveObject_activateObject k x).mpr (Or.inl hxactive)
    by_cases hk : k = .pool
    · subst hk
      have hne : x ≠ id := by
        rintro rfl
        rw [hinactive] at hxactive
        exact absurd hxactive (by simp)
      have hsibling : ¬ ReflTransGen m.Child x id :=
        hm.acyclic.sibling (fun a b c hb hc => hm.onePool .pool b c a hb hc) hx hid hne
      simpa [ActivePoolData.isActiveObject, hsame x fun _ => hsibling] using hx₁
    · rw [hother hk]
      exact hx₁

theorem despawn_trigger (hm : m.WellFormed) {f : ℕ → ActivePoolData → Option ActivePoolData}
    (hf : m.DespawnSpec k p f) (hp : (m.group k p).poolId = p) {trigger : ℕ}
    (htrigger : trigger ∈ m.entries k p) (hactive : s.isActiveObject k trigger = true)
    (hs : m.Counted s) (hs' : (m.group k p).despawnObject f k trigger s = some s') :
    m.Despawned p s s' ∧ m.marked s' p + 1 ≤ m.marked s p := by
  obtain ⟨hdespawned, hgone⟩ := despawnObject_spec hm hf hp trigger hs hs'
  refine ⟨hdespawned, ?_⟩
  have hlt : (m.activeOf s' k p).length + 1 ≤ (m.activeOf s k p).length := by
    have hnotMem : trigger ∉ m.activeOf s' k p := fun hmem => by
      have := hgone trigger htrigger (Or.inr rfl)
      rw [(mem_activeOf.mp hmem).2] at this
      exact absurd this (by simp)
    refine (List.nodup_cons.mpr ⟨hnotMem, hm.nodup_activeOf⟩).length_le_of_subset ?_
    intro x hx
    rcases List.mem_cons.mp hx with rfl | hx
    · exact mem_activeOf.mpr ⟨htrigger, hactive⟩
    · obtain ⟨hx, hxactive⟩ := mem_activeOf.mp hx
      exact mem_activeOf.mpr ⟨hx, hdespawned.shrinks k x hxactive⟩
  have hle : ∀ j, (m.activeOf s' j p).length ≤ (m.activeOf s j p).length := fun j =>
    length_activeOf_le hdespawned.shrinks
  have h₁ := hle .creature
  have h₂ := hle .gameObject
  have h₃ := hle .quest
  have h₄ := hle .pool
  simp only [marked]
  cases k <;> omega

/-- What may still be spawned: nothing, or as many as the limit leaves room for, one more while
the triggering object is still there. -/
def Room (m : PoolMgr) (excess : ℕ → ℕ) (p rounds trigger : ℕ) (s : ActivePoolData) : Prop :=
  rounds = 0 ∨ m.marked s p + rounds ≤
    (m.maxLimit p).toNat + excess p + if trigger ≠ 0 then 1 else 0

def Triggers (m : PoolMgr) (k : Kind) (p trigger : ℕ) (s : ActivePoolData) : Prop :=
  trigger ≠ 0 → trigger ∈ m.entries k p ∧ s.isActiveObject k trigger = true

theorem within_activate (hm : m.WellFormed) (hid : id ∈ m.entries k p)
    (hinactive : s.isActiveObject k id = false) (hentered : m.Entered s p)
    (hw : m.Within excess s) {excess' : ℕ → ℕ} (hle : ∀ q, excess q ≤ excess' q)
    (hroom : m.marked s p + 1 ≤ (m.maxLimit p).toNat + excess' p) :
    m.Within excess' (s.activateObject k id p) := by
  intro q
  rw [marked_activateObject hm hid hinactive hentered]
  split
  · next hq =>
    subst hq
    exact hroom
  · exact (hw q).trans (Nat.add_le_add_left (hle q) _)

theorem spawnRounds_spec (hm : m.WellFormed)
    {spawn1 despawn1 : ℕ → ActivePoolData → Option ActivePoolData}
    (hspawn : m.SpawnSpec k p spawn1) (hdespawn : m.DespawnSpec k p despawn1)
    (hp : (m.group k p).poolId = p) {rounds trigger last : ℕ}
    (hsmall : ∀ q, excess q + (if q = p ∧ trigger ≠ 0 then 1 else 0) ≤ 1) (hs : m.Counted s)
    (hw : m.Within excess s) (hentered : m.Entered s p) (htrigger : m.Triggers k p trigger s)
    (hroom : m.Room excess p rounds trigger s)
    (hs' : (m.group k p).spawnRounds env spawn1 despawn1 k rounds trigger last s = some s') :
    m.Spawned excess p s s' := by
  induction rounds generalizing trigger last s with
  | zero =>
    obtain rfl := Option.some.inj hs'
    exact Spawned.refl hs hw
  | succ rounds ih =>
    have hroom : m.marked s p + (rounds + 1) ≤
        (m.maxLimit p).toNat + excess p + if trigger ≠ 0 then 1 else 0 :=
      hroom.resolve_left (Nat.succ_ne_zero rounds)
    have hs₁ : m.Counted s.ask := fun q => by simpa using hs q
    have hw₁ : m.Within excess s.ask := fun q => by simpa using hw q
    have hentered₁ : m.Entered s.ask p := fun hq => by simpa using hentered hq
    have hsmall₀ : ∀ q, excess q + (if q = p ∧ (0 : ℕ) ≠ 0 then 1 else 0) ≤ 1 := fun q => by
      have := hsmall q
      simp
      omega
    have htrigger₁ : m.Triggers k p trigger s.ask := fun h => by simpa using htrigger h
    unfold PoolGroup.spawnRounds at hs'
    split at hs'
    · refine (ih hsmall hs₁ hw₁ hentered₁ htrigger₁ (Or.inr ?_) hs').ask
      rw [marked_ask]
      omega
    · next obj hobj =>
      obtain ⟨hmem, hor⟩ := PoolGroup.mem_of_rollOne hobj
      split at hs'
      · refine (ih hsmall hs₁ hw₁ hentered₁ htrigger₁ (Or.inr ?_) hs').ask
        rw [marked_ask]
        omega
      · split at hs'
        · -- the triggering object itself was rolled: it stays
          refine (ih hsmall₀ hs₁ hw₁ hentered₁ (fun h => absurd rfl h) (Or.inr ?_) hs').ask
          rw [marked_ask]
          split at hroom <;> simp <;> omega
        · next hne =>
          have hinactive : s.ask.isActiveObject k obj.guid = false := by
            simpa using hor.resolve_left hne
          rw [hp] at hs'
          obtain ⟨s₂, hs₂, hrest⟩ := Option.bind_eq_some_iff.mp hs'
          by_cases h0 : trigger = 0
          · subst h0
            simp only [ne_eq, not_true_eq_false, if_false, Nat.add_zero] at hroom hrest
            have hw₂ : m.Within excess (s.ask.activateObject k obj.guid p) := by
              refine within_activate hm hmem hinactive hentered₁ hw₁ (fun q => le_refl _) ?_
              rw [marked_ask]
              omega
            obtain ⟨hspawned, hmarked, -⟩ :=
              spawn1_spec hm hspawn hmem (by simpa using hsmall₀) hs₁ hinactive hentered₁ hw₂ hs₂
            refine Spawned.ask (hspawned.trans (ih hsmall₀ hspawned.counted hspawned.within
              (hspawned.entered hentered₁) (fun h => absurd rfl h) (Or.inr ?_) hrest))
            rw [hmarked, marked_ask]
            simp
            omega
          · -- one comes, the triggering one goes; in between there is one too many
            rw [if_pos h0] at hroom
            rw [if_pos h0] at hrest
            obtain ⟨htmem, htactive⟩ := htrigger₁ h0
            have hw₂ : m.Within (bump excess p) (s.ask.activateObject k obj.guid p) := by
              refine within_activate hm hmem hinactive hentered₁ hw₁ (fun q => ?_) ?_
              · exact Nat.le_add_right _ _
              · rw [marked_ask, bump, if_pos rfl]
                omega
            obtain ⟨hspawned, hmarked, hkept⟩ :=
              spawn1_spec hm hspawn hmem (by simpa [bump, h0] using hsmall) hs₁ hinactive
                hentered₁ hw₂ hs₂
            obtain ⟨s₃, hs₃, hrest⟩ := Option.bind_eq_some_iff.mp hrest
            obtain ⟨hdespawned, hless⟩ := despawn_trigger hm hdespawn hp htmem
              (hkept trigger htmem htactive) hspawned.counted hs₃
            have hw₃ : m.Within excess s₃ := by
              intro q
              have hq := (hspawned.within.shrink hdespawned.shrinks) q
              by_cases hqp : q = p
              · subst hqp
                rw [marked_ask] at hmarked
                omega
              · simpa [bump, hqp] using hq
            have hspawned₃ : m.Spawned excess p s.ask s₃ :=
              ⟨hdespawned.counted, hw₃, hspawned.keeps.trans hdespawned.keeps,
                fun h => hdespawned.stays (hspawned.stays h)⟩
            refine Spawned.ask (hspawned₃.trans (ih hsmall₀ hdespawned.counted hw₃
              (hspawned₃.entered hentered₁) (fun h => absurd rfl h) (Or.inr ?_) hrest))
            rw [marked_ask] at hmarked
            simp
            omega

theorem room_spawnCount (hs : m.Counted s) (hw : m.Within excess s) {trigger : ℕ}
    (hsmall : excess p + (if trigger ≠ 0 then 1 else 0) ≤ 1) :
    m.Room excess p
      (PoolGroup.spawnCount (m.maxLimit p) (s.getActiveObjectCount p) trigger).toNat trigger s := by
  have hle := hw p
  have hlt := (m.maxLimit p).toNat_lt
  rw [hs p]
  simp only [Room, PoolGroup.spawnCount, Int.bmod_def]
  split at hsmall <;> split <;> omega

theorem spawnObject_spec (hm : m.WellFormed)
    {spawn1 despawn1 : ℕ → ActivePoolData → Option ActivePoolData}
    (hspawn : m.SpawnSpec k p spawn1) (hdespawn : m.DespawnSpec k p despawn1)
    (hp : (m.group k p).poolId = p) {trigger : ℕ}
    (hsmall : ∀ q, excess q + (if q = p ∧ trigger ≠ 0 then 1 else 0) ≤ 1) (hs : m.Counted s)
    (hw : m.Within excess s) (hentered : m.Entered s p) (htrigger : m.Triggers k p trigger s)
    (hs' : (m.group k p).spawnObject env spawn1 despawn1 k (m.maxLimit p) trigger s = some s') :
    m.Spawned excess p s s' := by
  refine spawnRounds_spec hm hspawn hdespawn hp hsmall hs hw hentered htrigger ?_ hs'
  rw [hp]
  exact room_spawnCount hs hw (by simpa using hsmall p)

end PoolMgr

/-! ## 2. Quests -/

namespace PoolGroup

variable (g : PoolGroup) (limit : UInt32) (s : ActivePoolData)

def ownQuests : List ℕ := g.entries.filter (s.isActiveObject .quest)

/-- The saved quests that are activated do no harm: the limit is not 0, and they are different
quests of the group that are not active and for which the pool has room. -/
def SavedFit (rows : List ℕ) : Prop :=
  limit ≠ 0 ∧ (rows.take limit.toNat).Nodup ∧
    (∀ q ∈ rows.take limit.toNat, q ∈ g.entries ∧ s.isActiveObject .quest q = false) ∧
    s.getActiveObjectCount g.poolId + (rows.take limit.toNat).length ≤ limit.toNat

/-- New quests do no harm: the limit is not 0, none of another pool is recycled, because there are
enough new ones or no other pool has any, and what else is active in the pool leaves room. -/
def NewFit : Prop :=
  ((g.inactiveQuests s).size ≠ 0 → limit ≠ 0) ∧
    (limit.toNat ≤ (g.inactiveQuests s).size ∨ ∀ q ∈ s.activeQuests.elems, q ∈ g.entries) ∧
    s.getActiveObjectCount g.poolId - (g.ownQuests s).length +
      min limit.toNat ((g.inactiveQuests s).size + s.activeQuests.size) ≤ limit.toNat

instance (rows : List ℕ) : Decidable (g.SavedFit limit s rows) :=
  inferInstanceAs (Decidable (_ ∧ _ ∧ _ ∧ _))

instance : Decidable (g.NewFit limit s) := inferInstanceAs (Decidable (_ ∧ (_ ∨ _) ∧ _))

/-- The call of `PoolGroup<Quest>::SpawnObject` does no harm. -/
def QuestsFit (env : Env) (triggerFrom : ℕ) : Prop :=
  if triggerFrom = 0 ∧ env.savedQuests s.asked g.poolId ≠ [] then
    g.SavedFit limit s (env.savedQuests s.asked g.poolId)
  else g.NewFit limit s

instance (env : Env) (triggerFrom : ℕ) : Decidable (g.QuestsFit limit s env triggerFrom) :=
  inferInstanceAs (Decidable (ite _ _ _))

/-- `spawnQuests` for the calls that do no harm, and no result for the others. -/
def spawnFittingQuests (env : Env) (triggerFrom : ℕ) : Option ActivePoolData :=
  if g.QuestsFit limit s env triggerFrom then g.spawnQuests env limit triggerFrom s else none

variable {g limit s} {env : Env}

theorem mem_inactiveQuests {q : ℕ} :
    q ∈ g.inactiveQuests s ↔
      (∃ o ∈ g.equalChanced, o.guid = q) ∧ s.isActiveObject .quest q = false := by
  have hall : ∀ (l : List PoolObject) (quests : OrderedSet ℕ),
      q ∈ l.foldl (fun quests o =>
          if s.isActiveObject .quest o.guid then quests else quests.insert o.guid) quests ↔
        q ∈ quests ∨ ((∃ o ∈ l, o.guid = q) ∧ s.isActiveObject .quest q = false) := by
    intro l
    induction l with
    | nil => simp
    | cons o l ih =>
      intro quests
      rw [List.foldl_cons, ih]
      by_cases ho : s.isActiveObject .quest o.guid = true
      · rw [if_pos ho]
        refine or_congr_right (and_congr_left fun hq => ?_)
        simp only [List.mem_cons, exists_eq_or_imp]
        refine (or_iff_right ?_).symm
        rintro rfl
        rw [ho] at hq
        exact absurd hq (by simp)
      · rw [if_neg ho, OrderedSet.mem_insert]
        simp only [List.mem_cons, exists_eq_or_imp]
        constructor
        · rintro ((rfl | hq) | ⟨hq, hinactive⟩)
          · exact Or.inr ⟨Or.inl rfl, Bool.eq_false_iff.mpr ho⟩
          · exact Or.inl hq
          · exact Or.inr ⟨Or.inr hq, hinactive⟩
        · rintro (hq | ⟨rfl | hq, hinactive⟩)
          · exact Or.inl (Or.inr hq)
          · exact Or.inl (Or.inl rfl)
          · exact Or.inr ⟨hq, hinactive⟩
  have hnil := hall g.equalChanced .empty
  simp only [OrderedSet.not_mem_empty, false_or] at hnil
  exact hnil

theorem mem_entries_of_inactive {q : ℕ} (h : q ∈ g.inactiveQuests s) : q ∈ g.entries := by
  obtain ⟨⟨o, ho, rfl⟩, -⟩ := mem_inactiveQuests.mp h
  exact List.mem_map_of_mem (List.mem_append_left _ ho)

theorem selectRandom_mem {quests : OrderedSet ℕ} (h : quests.size ≠ 0) :
    selectRandom env s quests ∈ quests := by
  have hlt : env.index s.asked % quests.size < quests.elems.length :=
    Nat.mod_lt _ (Nat.pos_of_ne_zero h)
  rw [selectRandom, List.getElem?_eq_getElem hlt]
  exact List.getElem_mem hlt

/-- What recycling gives: new and current quests, no more than the limit, and not more than there
are; apart from the numbers that are drawn nothing changes. -/
theorem recycle_spec (env : Env) (rounds : ℕ) {n : ℕ} {current new : OrderedSet ℕ} (hnew : new.size < n)
    (hcurrent : current.size ≠ 0) (s : ActivePoolData) :
    (∀ q ∈ (recycle env n rounds current new s).1, q ∈ new ∨ q ∈ current) ∧
      (recycle env n rounds current new s).1.size ≤ n ∧
      (recycle env n rounds current new s).1.size ≤ new.size + current.size ∧
      ∃ k, (recycle env n rounds current new s).2 = { s with asked := k } := by
  induction rounds generalizing current new s with
  | zero =>
    exact ⟨fun q hq => Or.inl hq, hnew.le, Nat.le_add_right _ _, s.asked, rfl⟩
  | succ rounds ih =>
    have hmem : selectRandom env s current ∈ current := selectRandom_mem hcurrent
    have hinsert := OrderedSet.size_insert_le new (selectRandom env s current)
    have herase := OrderedSet.size_erase_of_mem hmem
    unfold recycle
    dsimp only
    split
    · next hcond =>
      obtain ⟨hsub, hle, hle', k, hk⟩ := ih hcond.1 hcond.2 s.ask
      refine ⟨fun q hq => ?_, hle, by omega, k, hk⟩
      rcases hsub q hq with hq | hq
      · rcases OrderedSet.mem_insert.mp hq with rfl | hq
        · exact Or.inr hmem
        · exact Or.inl hq
      · exact Or.inr (OrderedSet.mem_of_mem_erase hq)
    · refine ⟨fun q hq => ?_, hinsert.trans (by omega), hinsert.trans (by omega), _, rfl⟩
      rcases OrderedSet.mem_insert.mp hq with rfl | hq
      · exact Or.inr hmem
      · exact Or.inl hq

end PoolGroup

theorem toNat_sub_one {n : UInt32} (h : n ≠ 0) : (n - 1).toNat = n.toNat - 1 := by
  have hpos : n.toNat ≠ 0 := fun h0 => h (UInt32.toNat_inj.mp (by simpa using h0))
  have hle : (1 : UInt32) ≤ n := by
    rw [UInt32.le_iff_toNat_le]
    simp
    omega
  rw [UInt32.toNat_sub_of_le _ _ hle]
  rfl

namespace PoolMgr

variable {m : PoolMgr} {env : Env} {s s' s'' : ActivePoolData} {k : Kind} {id p q : ℕ}
  {excess : ℕ → ℕ}

theorem Spawned.of_asked {n : ℕ} (hs : m.Counted s) (hw : m.Within excess s) :
    m.Spawned excess p s { s with asked := n } := by
  have hmarked : ∀ q, m.marked { s with asked := n } q = m.marked s q := fun q => rfl
  refine ⟨fun q => ?_, fun q => ?_, fun q _ => rfl, fun h => h⟩
  · rw [hmarked]
    exact hs q
  · rw [hmarked]
    exact hw q

theorem activateQuest_spec (hm : m.WellFormed) (hid : id ∈ m.entries .quest p)
    (hsmall : ∀ q, excess q ≤ 1) (hs : m.Counted s) (hw : m.Within excess s)
    (hinactive : s.isActiveObject .quest id = false) (hentered : m.Entered s p)
    (hroom : m.marked s p + 1 ≤ (m.maxLimit p).toNat + excess p) :
    m.Spawned excess p s (s.activateObject .quest id p) ∧
      m.marked (s.activateObject .quest id p) p = m.marked s p + 1 ∧
      ∀ x, x ≠ id → s.isActiveObject .quest x = false →
        (s.activateObject .quest id p).isActiveObject .quest x = false := by
  have hw' := within_activate hm hid hinactive hentered hw (fun q => le_refl _) hroom
  obtain ⟨hspawned, hmarked, -⟩ := spawn1_spec hm (spawnSpec_some (by simp)) hid hsmall hs
    hinactive hentered hw' rfl
  refine ⟨hspawned, hmarked, fun x hx hxinactive => Bool.eq_false_iff.mpr fun hno => ?_⟩
  rcases (ActivePoolData.isActiveObject_activateObject _ _).mp hno with hold | ⟨-, heq⟩ | ⟨h, -⟩
  · rw [hxinactive] at hold
    exact absurd hold (by simp)
  · exact hx heq
  · exact absurd h (by simp)

theorem activateSaved_spec (hm : m.WellFormed) (hp : (m.group .quest p).poolId = p)
    (hsmall : ∀ q, excess q ≤ 1) {rows : List ℕ} {limit : UInt32} (hlimit : limit ≠ 0)
    (hs : m.Counted s) (hw : m.Within excess s) (hentered : m.Entered s p)
    (hnodup : (rows.take limit.toNat).Nodup)
    (hrows : ∀ q ∈ rows.take limit.toNat,
      q ∈ m.entries .quest p ∧ s.isActiveObject .quest q = false)
    (hroom : m.marked s p + (rows.take limit.toNat).length ≤ (m.maxLimit p).toNat + excess p) :
    m.Spawned excess p s ((m.group .quest p).activateSaved limit rows s) := by
  induction rows generalizing limit s with
  | nil => exact Spawned.refl hs hw
  | cons q rows ih =>
    have hpos : limit.toNat ≠ 0 := fun h0 => hlimit (UInt32.toNat_inj.mp (by simpa using h0))
    have htake : (q :: rows).take limit.toNat = q :: rows.take (limit.toNat - 1) :=
      List.take_cons (Nat.pos_of_ne_zero hpos)
    rw [htake] at hnodup hrows hroom
    rw [List.length_cons] at hroom
    obtain ⟨hq, hnodup⟩ := List.nodup_cons.mp hnodup
    obtain ⟨hmem, hinactive⟩ := hrows q List.mem_cons_self
    obtain ⟨hspawned, hmarked, hother⟩ :=
      activateQuest_spec hm hmem hsmall hs hw hinactive hentered (by omega)
    unfold PoolGroup.activateSaved
    rw [hp]
    dsimp only
    split
    · exact hspawned
    · next hrest =>
      have hsub := toNat_sub_one hlimit
      refine hspawned.trans (ih hrest hspawned.counted hspawned.within (hspawned.entered hentered)
        ?_ ?_ ?_)
      · rw [hsub]
        exact hnodup
      · rw [hsub]
        intro x hx
        obtain ⟨hxmem, hxinactive⟩ := hrows x (List.mem_cons_of_mem _ hx)
        exact ⟨hxmem, hother x (fun h => hq (h ▸ hx)) hxinactive⟩
      · rw [hsub, hmarked]
        omega

theorem activateRandom_spec (hm : m.WellFormed) (hp : (m.group .quest p).poolId = p)
    (hsmall : ∀ q, excess q ≤ 1) {rounds : ℕ} {limit : UInt32} {quests : OrderedSet ℕ}
    (hlimit : limit ≠ 0) (hquests : quests.size ≠ 0) (hs : m.Counted s) (hw : m.Within excess s)
    (hentered : m.Entered s p)
    (hrows : ∀ q ∈ quests, q ∈ m.entries .quest p ∧ s.isActiveObject .quest q = false)
    (hroom : m.marked s p + min limit.toNat quests.size ≤ (m.maxLimit p).toNat + excess p) :
    m.Spawned excess p s ((m.group .quest p).activateRandom env rounds limit quests s) := by
  induction rounds generalizing limit quests s with
  | zero => exact Spawned.refl hs hw
  | succ rounds ih =>
    have hpos : limit.toNat ≠ 0 := fun h0 => hlimit (UInt32.toNat_inj.mp (by simpa using h0))
    have hmem : PoolGroup.selectRandom env s quests ∈ quests := PoolGroup.selectRandom_mem hquests
    obtain ⟨hentry, hinactive⟩ := hrows _ hmem
    have hs₁ : m.Counted s.ask := fun q => by simpa using hs q
    have hw₁ : m.Within excess s.ask := fun q => by simpa using hw q
    have hentered₁ : m.Entered s.ask p := fun hq => by simpa using hentered hq
    obtain ⟨hspawned, hmarked, hother⟩ := activateQuest_spec hm hentry hsmall hs₁ hw₁
      (by simpa using hinactive) hentered₁ (by rw [marked_ask]; omega)
    rw [marked_ask] at hmarked
    unfold PoolGroup.activateRandom
    rw [hp]
    dsimp only
    split
    · next hcond =>
      have hsub := toNat_sub_one hlimit
      have herase := OrderedSet.size_erase_of_mem hmem
      refine Spawned.ask (hspawned.trans (ih hcond.1 hcond.2 hspawned.counted hspawned.within
        (hspawned.entered hentered₁) ?_ ?_))
      · intro x hx
        obtain ⟨hne, hx⟩ := OrderedSet.mem_erase.mp hx
        obtain ⟨hxentry, hxinactive⟩ := hrows x hx
        exact ⟨hxentry, hother x hne (by simpa using hxinactive)⟩
      · rw [hsub, hmarked, herase]
        omega
    · exact hspawned.ask

theorem spawnNewQuests_spec (hm : m.WellFormed) (hp : (m.group .quest p).poolId = p)
    (hsmall : ∀ q, excess q ≤ 1) (hs : m.Counted s) (hw : m.Within excess s)
    (hentered : m.Entered s p) (hfit : (m.group .quest p).NewFit (m.maxLimit p) s)
    (hs' : (m.group .quest p).spawnNewQuests env (m.maxLimit p) s = some s') :
    m.Spawned excess p s s' := by
  obtain ⟨hlimit, hown, hroom⟩ := hfit
  obtain ⟨s₁, hs₁, rfl⟩ := Option.map_eq_some_iff.mp hs'
  obtain ⟨hdespawned, hgone⟩ :=
    despawnObject_spec hm (despawnSpec_some (by simp)) hp 0 hs hs₁
  have hgone : ∀ x ∈ m.entries .quest p, s₁.isActiveObject .quest x = false :=
    fun x hx => hgone x hx (Or.inl rfl)
  have hspawned : m.Spawned excess p s s₁ :=
    ⟨hdespawned.counted, hw.shrink hdespawned.shrinks, hdespawned.keeps, hdespawned.stays⟩
  -- what is left active in the pool are its other objects
  have hmarked : m.marked s₁ p + ((m.group .quest p).ownQuests s).length ≤ m.marked s p := by
    have hzero : (m.activeOf s₁ .quest p).length = 0 := by
      rw [List.length_eq_zero_iff, activeOf, List.filter_eq_nil_iff]
      intro x hx
      simp [hgone x hx]
    have hle : ∀ j, (m.activeOf s₁ j p).length ≤ (m.activeOf s j p).length := fun j =>
      length_activeOf_le hdespawned.shrinks
    have h₁ := hle .creature
    have h₂ := hle .gameObject
    have h₄ := hle .pool
    have h₃ : (m.activeOf s .quest p).length = ((m.group .quest p).ownQuests s).length := rfl
    simp only [marked]
    omega
  rw [hp, hs p] at hroom
  -- what is activated: quests of the pool, within the limit
  have hactivate : ∀ (quests : OrderedSet ℕ) (k : ℕ),
      (∀ q ∈ quests, q ∈ m.entries .quest p) →
      (quests.size ≠ 0 → m.maxLimit p ≠ 0) →
      min (m.maxLimit p).toNat quests.size ≤ min (m.maxLimit p).toNat
        (((m.group .quest p).inactiveQuests s).size + s.activeQuests.size) →
      m.Spawned excess p s (if quests.size = 0 then { s₁ with asked := k } else
        (m.group .quest p).activateRandom env quests.size (m.maxLimit p) quests
          { s₁ with asked := k }) := by
    intro quests k hentries hpos hle
    have hasked : m.Spawned excess p s₁ { s₁ with asked := k } :=
      Spawned.of_asked hspawned.counted hspawned.within
    have hmarked₁ : m.marked { s₁ with asked := k } p = m.marked s₁ p := rfl
    split
    · exact hspawned.trans hasked
    · next hne =>
      refine (hspawned.trans hasked).trans (activateRandom_spec hm hp hsmall (hpos hne) hne
        hasked.counted hasked.within ((hspawned.trans hasked).entered hentered) ?_ ?_)
      · exact fun q hq => ⟨hentries q hq, hgone q (hentries q hq)⟩
      · rw [hmarked₁]
        omega
  dsimp only
  split
  · next hcond =>
    obtain ⟨hsub, hle, hle', k, hk⟩ :=
      PoolGroup.recycle_spec env s.activeQuests.size hcond.1 hcond.2 s₁
    rw [hk]
    refine hactivate _ k (fun q hq => ?_) (fun _ h0 => ?_) (by omega)
    · rcases hsub q hq with hq | hq
      · exact PoolGroup.mem_entries_of_inactive hq
      · exact (hown.resolve_left (not_le.mpr hcond.1)) q hq
    · have hgt := hcond.1
      rw [h0] at hgt
      exact absurd hgt (by simp)
  · exact hactivate _ s₁.asked (fun q hq => PoolGroup.mem_entries_of_inactive hq) hlimit
      (min_le_min (le_refl _) (Nat.le_add_right _ _))

def QuestSpec (m : PoolMgr) (quests : QuestSpawn) : Prop :=
  ∀ p excess trigger s s', (m.group .quest p).poolId = p → (∀ q, excess q ≤ 1) → m.Counted s →
    m.Within excess s → m.Entered s p →
    quests (m.group .quest p) (m.maxLimit p) trigger s = some s' → m.Spawned excess p s s'

theorem spawnFittingQuests_spec (hm : m.WellFormed) :
    m.QuestSpec fun g limit trigger s => g.spawnFittingQuests limit s env trigger := by
  intro p excess trigger s s' hp hsmall hs hw hentered hs'
  unfold PoolGroup.spawnFittingQuests at hs'
  dsimp only at hs'
  split at hs'
  · next hfit =>
    unfold PoolGroup.QuestsFit at hfit
    unfold PoolGroup.spawnQuests at hs'
    have hs₁ : m.Counted s.ask := fun q => by simpa using hs q
    have hw₁ : m.Within excess s.ask := fun q => by simpa using hw q
    have hentered₁ : m.Entered s.ask p := fun hq => by simpa using hentered hq
    split at hs'
    · next h0 =>
      subst h0
      split at hs'
      · next hnil =>
        rw [if_neg (by simp [hnil])] at hfit
        exact (spawnNewQuests_spec hm hp hsmall hs₁ hw₁ hentered₁ hfit hs').ask
      · next q rest hrows =>
        rw [if_pos ⟨rfl, by simp [hrows]⟩, hrows] at hfit
        obtain ⟨hlimit, hnodup, hall, hroom⟩ := hfit
        obtain rfl := Option.some.inj hs'
        rw [hp, hs p] at hroom
        refine (activateSaved_spec hm hp hsmall hlimit hs₁ hw₁ hentered₁ hnodup ?_ ?_).ask
        · intro x hx
          obtain ⟨hmem, hinactive⟩ := hall x hx
          exact ⟨hmem, by simpa using hinactive⟩
        · rw [marked_ask]
          omega
    · next h0 =>
      rw [if_neg fun h => h0 h.1] at hfit
      exact spawnNewQuests_spec hm hp hsmall hs hw hentered hfit hs'
  · exact absurd hs' (by simp)

/-! ## 3. Spawning pools -/

variable {quests : QuestSpawn}

theorem spawnKind_spec (hm : m.WellFormed) (hquests : m.QuestSpec quests)
    {spawnChild despawnChild : ℕ → ActivePoolData → Option ActivePoolData}
    (hspawn : m.SpawnSpec .pool p spawnChild) (hdespawn : m.DespawnSpec .pool p despawnChild)
    {trigger : ℕ} (hsmall : ∀ q, excess q + (if q = p ∧ trigger ≠ 0 then 1 else 0) ≤ 1)
    (hs : m.Counted s) (hw : m.Within excess s) (hentered : m.Entered s p)
    (htrigger : m.Triggers k p trigger s)
    (hs' : m.spawnKind env quests spawnChild despawnChild k p trigger s = some s') :
    m.Spawned excess p s s' := by
  unfold spawnKind at hs'
  dsimp only at hs'
  split at hs'
  · obtain rfl := Option.some.inj hs'
    exact Spawned.refl hs hw
  · next h =>
    have hp := hm.numbered k p (Bool.eq_false_iff.mpr h)
    have hsome : ∀ j : Kind, j ≠ .pool → m.SpawnSpec j p (fun _ s => some s) ∧
        m.DespawnSpec j p fun _ s => some s := fun j hj => ⟨spawnSpec_some hj, despawnSpec_some hj⟩
    cases k with
    | quest =>
      exact hquests p excess trigger s s' hp (fun q => by have := hsmall q; omega) hs hw hentered hs'
    | pool => exact spawnObject_spec hm hspawn hdespawn hp hsmall hs hw hentered htrigger hs'
    | creature =>
      obtain ⟨hs₁, hd₁⟩ := hsome .creature (by simp)
      exact spawnObject_spec hm hs₁ hd₁ hp hsmall hs hw hentered htrigger hs'
    | gameObject =>
      obtain ⟨hs₁, hd₁⟩ := hsome .gameObject (by simp)
      exact spawnObject_spec hm hs₁ hd₁ hp hsmall hs hw hentered htrigger hs'

theorem despawnSpec_despawnPool (hm : m.WellFormed) (levels p : ℕ) :
    m.DespawnSpec .pool p (m.despawnPool levels) := by
  intro c hc s s' hs hs'
  obtain ⟨hdespawned, hzero⟩ := despawnPool_spec hm hs hs'
  exact ⟨hdespawned.counted, hdespawned.shrinks, fun h => absurd rfl h,
    fun _ => ⟨hdespawned.keeps, hzero, hdespawned.stays⟩⟩

theorem spawnPool_spec (hm : m.WellFormed) (hquests : m.QuestSpec quests) {levels : ℕ}
    (hsmall : ∀ q, excess q ≤ 1) (hs : m.Counted s) (hw : m.Within excess s)
    (hentered : m.Entered s p) (hs' : m.spawnPool env quests levels p s = some s') :
    m.Spawned excess p s s' := by
  induction levels generalizing p excess s s' with
  | zero => simp [spawnPool] at hs'
  | succ levels ih =>
    have hspawn : m.SpawnSpec .pool p (m.spawnPool env quests levels) := by
      intro c hc excess s s' hsmall hs hw hactive hs'
      have hspawned := ih hsmall hs hw (fun _ => hactive) hs'
      exact ⟨hspawned.counted, hspawned.within, fun h => absurd rfl h, fun _ => hspawned.keeps⟩
    have hkind : ∀ k s s', m.Counted s → m.Within excess s → m.Entered s p →
        m.spawnKind env quests (m.spawnPool env quests levels) (m.despawnPool levels) k p 0 s =
          some s' → m.Spawned excess p s s' := fun k s s' hs hw hentered hs' =>
      spawnKind_spec hm hquests hspawn (despawnSpec_despawnPool hm levels p)
        (by simpa using hsmall) hs hw hentered (fun h => absurd rfl h) hs'
    unfold spawnPool at hs'
    dsimp only at hs'
    obtain ⟨s₃, h₃, h₄⟩ := Option.bind_eq_some_iff.mp hs'
    obtain ⟨s₂, h₂, h₃⟩ := Option.bind_eq_some_iff.mp h₃
    obtain ⟨s₁, h₁, h₂⟩ := Option.bind_eq_some_iff.mp h₂
    have hd₁ := hkind .pool s s₁ hs hw hentered h₁
    have hd₂ := hd₁.trans (hkind .gameObject s₁ s₂ hd₁.counted hd₁.within (hd₁.entered hentered) h₂)
    have hd₃ := hd₂.trans (hkind .creature s₂ s₃ hd₂.counted hd₂.within (hd₂.entered hentered) h₃)
    exact hd₃.trans (hkind .quest s₃ s' hd₃.counted hd₃.within (hd₃.entered hentered) h₄)

theorem updatePool_spec (hm : m.WellFormed) (hquests : m.QuestSpec quests) {levels guid : ℕ}
    (hs : m.Counted s) (hw : m.Within (fun _ => 0) s) (hguid : guid ∈ m.entries k p)
    (hactive : s.isActiveObject k guid = true)
    (hs' : m.updatePool env quests levels k p guid s = some s') :
    m.Counted s' ∧ m.Within (fun _ => 0) s' := by
  have hspawn : ∀ q, m.SpawnSpec .pool q (m.spawnPool env quests levels) := by
    intro q c hc excess s s' hsmall hs hw hactive hs'
    have hspawned := spawnPool_spec hm hquests hsmall hs hw (fun _ => hactive) hs'
    exact ⟨hspawned.counted, hspawned.within, fun h => absurd rfl h, fun _ => hspawned.keeps⟩
  have hone : ∀ q t, ∀ r, (fun _ => 0 : ℕ → ℕ) r + (if r = q ∧ t ≠ 0 then 1 else 0) ≤ 1 := by
    intro q t r
    split <;> simp
  have hpool : s.isActiveObject .pool p = true := hs.active_of_mem hguid hactive
  unfold updatePool at hs'
  dsimp only at hs'
  split at hs'
  · next hne =>
    -- the pool is counted in its mother, so its mother has an entry as well
    have hmother : p ∈ m.entries .pool (m.isPartOfAPool p) := by
      refine hm.mother p _ ?_
      unfold isPartOfAPool at hne ⊢
      cases hsearch : m.poolSearchMap p with
      | none => simp [hsearch] at hne
      | some q => rfl
    have hspawned := spawnKind_spec hm hquests (hspawn _) (despawnSpec_despawnPool hm levels _)
      (hone _ _) hs hw (fun _ => hs.active_of_mem hmother hpool) (fun _ => ⟨hmother, hpool⟩) hs'
    exact ⟨hspawned.counted, hspawned.within⟩
  · have hspawned := spawnKind_spec hm hquests (hspawn _) (despawnSpec_despawnPool hm levels _)
      (hone _ _) hs hw (fun _ => hpool) (fun _ => ⟨hguid, hactive⟩) hs'
    exact ⟨hspawned.counted, hspawned.within⟩

/-! ## 4. A way to spawn quests that has fewer results -/

/-- Where `q` has a result, `q'` has the same. -/
def Refines (q q' : QuestSpawn) : Prop := ∀ g l t s s', q g l t s = some s' → q' g l t s = some s'

theorem refines_fitting (env : Env) :
    Refines (fun g l t s => g.spawnFittingQuests l s env t) fun g => g.spawnQuests env := by
  intro g l t s s' h
  unfold PoolGroup.spawnFittingQuests at h
  dsimp only at h
  split at h
  · exact h
  · exact absurd h (by simp)

theorem spawnRounds_mono {g : PoolGroup}
    {f f' d : ℕ → ActivePoolData → Option ActivePoolData}
    (hf : ∀ c s s', f c s = some s' → f' c s = some s') {rounds trigger last : ℕ}
    (h : g.spawnRounds env f d k rounds trigger last s = some s') :
    g.spawnRounds env f' d k rounds trigger last s = some s' := by
  induction rounds generalizing trigger last s with
  | zero => exact h
  | succ rounds ih =>
    unfold PoolGroup.spawnRounds at h ⊢
    split at h
    · exact ih h
    · split at h
      · next hlast =>
        rw [if_pos hlast]
        exact ih h
      · next hlast =>
        rw [if_neg hlast]
        split at h
        · next htrigger =>
          rw [if_pos htrigger]
          exact ih h
        · next htrigger =>
          rw [if_neg htrigger]
          obtain ⟨s₁, hs₁, hrest⟩ := Option.bind_eq_some_iff.mp h
          rw [hf _ _ _ hs₁, Option.bind_some]
          split at hrest
          · next h0 =>
            obtain ⟨s₂, hs₂, hrest⟩ := Option.bind_eq_some_iff.mp hrest
            rw [if_pos h0, hs₂, Option.bind_some]
            exact ih hrest
          · next h0 =>
            rw [if_neg h0]
            exact ih hrest

theorem spawnKind_mono {quests' : QuestSpawn} (hq : Refines quests quests')
    {f f' d : ℕ → ActivePoolData → Option ActivePoolData}
    (hf : ∀ c s s', f c s = some s' → f' c s = some s') {trigger : ℕ}
    (h : m.spawnKind env quests f d k p trigger s = some s') :
    m.spawnKind env quests' f' d k p trigger s = some s' := by
  unfold spawnKind at h ⊢
  dsimp only at h ⊢
  split at h
  · next he =>
    rw [if_pos he]
    exact h
  · next he =>
    rw [if_neg he]
    cases k with
    | quest => exact hq _ _ _ _ _ h
    | pool => exact spawnRounds_mono hf h
    | creature => exact h
    | gameObject => exact h

theorem spawnPool_mono {quests' : QuestSpawn} (hq : Refines quests quests') {levels : ℕ}
    (h : m.spawnPool env quests levels p s = some s') :
    m.spawnPool env quests' levels p s = some s' := by
  induction levels generalizing p s s' with
  | zero => simp [spawnPool] at h
  | succ levels ih =>
    have hkind : ∀ k s s',
        m.spawnKind env quests (m.spawnPool env quests levels) (m.despawnPool levels) k p 0 s =
          some s' →
        m.spawnKind env quests' (m.spawnPool env quests' levels) (m.despawnPool levels) k p 0 s =
          some s' := fun k s s' h => spawnKind_mono hq (fun c s s' => ih) h
    unfold spawnPool at h ⊢
    dsimp only at h ⊢
    obtain ⟨s₃, h₃, h₄⟩ := Option.bind_eq_some_iff.mp h
    obtain ⟨s₂, h₂, h₃⟩ := Option.bind_eq_some_iff.mp h₃
    obtain ⟨s₁, h₁, h₂⟩ := Option.bind_eq_some_iff.mp h₂
    rw [hkind _ _ _ h₁, Option.bind_some, hkind _ _ _ h₂, Option.bind_some, hkind _ _ _ h₃,
      Option.bind_some, hkind _ _ _ h₄]

theorem updatePool_mono {quests' : QuestSpawn} (hq : Refines quests quests') {levels guid : ℕ}
    (h : m.updatePool env quests levels k p guid s = some s') :
    m.updatePool env quests' levels k p guid s = some s' := by
  unfold updatePool at h ⊢
  dsimp only at h ⊢
  split at h
  · next hne =>
    rw [if_pos hne]
    exact spawnKind_mono hq (fun c s s' => spawnPool_mono hq) h
  · next heq =>
    rw [if_neg heq]
    exact spawnKind_mono hq (fun c s s' => spawnPool_mono hq) h

/-! ## 5. Runs -/

inductive Call
  | spawnPool (poolId : ℕ)
  | despawnPool (poolId : ℕ)
  | updatePool (k : Kind) (poolId guid : ℕ)

def call (m : PoolMgr) (env : Env) (quests : QuestSpawn) (s : ActivePoolData) :
    Call → Option ActivePoolData
  | .spawnPool p => m.spawnPool env quests (m.maxPoolId + 2) p s
  | .despawnPool p => m.despawnPool (m.maxPoolId + 2) p s
  | .updatePool k p guid => m.updatePool env quests (m.maxPoolId + 2) k p guid s

/-- A step of a run; `none` once a call has not come to an end. -/
def step (m : PoolMgr) (env : Env) (st : Option ActivePoolData) (c : Call) :
    Option ActivePoolData :=
  st.bind fun s => m.call env (fun g => g.spawnQuests env) s c

/-- The stored counts are the numbers of active objects, and within the limits. -/
def CountsRight (m : PoolMgr) (st : Option ActivePoolData) : Prop :=
  ∃ s, st = some s ∧ ∀ p, s.getActiveObjectCount p = m.marked s p ∧
    s.getActiveObjectCount p ≤ (m.maxLimit p).toNat

/-- What is asked for: an object that triggers an update is active in its pool. -/
def Asked (m : PoolMgr) (st : Option ActivePoolData) (c : Call) : Prop :=
  ∀ s, st = some s → ∀ k p guid, c = .updatePool k p guid →
    guid ∈ m.entries k p ∧ s.isActiveObject k guid = true

/-- No call does harm: `SpawnPool` is not for a child pool that is not active, and every call of
`PoolGroup<Quest>::SpawnObject` that is made fits. -/
def Harmless (m : PoolMgr) (env : Env) (st : Option ActivePoolData) (c : Call) : Prop :=
  ∀ s, st = some s →
    (∀ p, c = .spawnPool p → m.Entered s p) ∧
      ((∃ p, c = .despawnPool p) ∨
        (m.call env (fun g l t s => g.spawnFittingQuests l s env t) s c).isSome = true)

theorem counted_empty (m : PoolMgr) : m.Counted .empty ∧ m.Within (fun _ => 0) .empty := by
  have hnone : ∀ k x, ActivePoolData.empty.isActiveObject k x = false := by
    intro k x
    cases k with
    | pool => rfl
    | _ => exact decide_eq_false (OrderedSet.not_mem_empty x)
  have hmarked : ∀ p, m.marked .empty p = 0 := by
    intro p
    have hk : ∀ k, m.activeOf .empty k p = [] := fun k => by
      rw [activeOf, List.filter_eq_nil_iff]
      simp [hnone]
    simp [marked, hk]
  exact ⟨fun p => (hmarked p).symm, fun p => by simp [hmarked]⟩

theorem call_spec (hm : m.WellFormed) (hs : m.Counted s) (hw : m.Within (fun _ => 0) s) {c : Call}
    (hasked : m.Asked (some s) c) (hharmless : m.Harmless env (some s) c) :
    ∃ s', m.step env (some s) c = some s' ∧ m.Counted s' ∧ m.Within (fun _ => 0) s' := by
  have hquests : m.QuestSpec fun g l t s => g.spawnFittingQuests l s env t :=
    spawnFittingQuests_spec hm
  obtain ⟨hentered, hfits⟩ := hharmless s rfl
  cases c with
  | despawnPool p =>
    obtain ⟨⟨s', hs'⟩, -⟩ := ends_of_acyclic hm.acyclic hm.inRange env p s
    obtain ⟨hdespawned, -⟩ := despawnPool_spec hm hs hs'
    exact ⟨s', hs', hdespawned.counted, hw.shrink hdespawned.shrinks⟩
  | spawnPool p =>
    obtain ⟨s', hs'⟩ := Option.isSome_iff_exists.mp (hfits.resolve_left (by simp))
    have hspawned := spawnPool_spec hm hquests (by simp) hs hw (hentered p rfl) hs'
    exact ⟨s', spawnPool_mono (refines_fitting env) hs', hspawned.counted, hspawned.within⟩
  | updatePool k p guid =>
    obtain ⟨s', hs'⟩ := Option.isSome_iff_exists.mp (hfits.resolve_left (by simp))
    obtain ⟨hguid, hactive⟩ := hasked s rfl k p guid rfl
    obtain ⟨hcounted, hwithin⟩ := updatePool_spec hm hquests hs hw hguid hactive hs'
    exact ⟨s', updatePool_mono (refines_fitting env) hs', hcounted, hwithin⟩

/-- **Spawn pools respect their limit** in every run of calls that do no harm. -/
theorem run_counted (hm : m.WellFormed) (env : Env) {calls : List Call}
    (hasked : Steps (m.step env) m.Asked (some .empty) calls)
    (hharmless : Steps (m.step env) (m.Harmless env) (some .empty) calls) :
    States (m.step env) m.CountsRight (some .empty) calls := by
  have hboth : Steps (m.step env) (fun st c => m.Asked st c ∧ m.Harmless env st c) (some .empty)
      calls := hasked.and hharmless
  have hstep : ∀ st c, (∃ s, st = some s ∧ m.Counted s ∧ m.Within (fun _ => 0) s) →
      (m.Asked st c ∧ m.Harmless env st c) →
      ∃ s, m.step env st c = some s ∧ m.Counted s ∧ m.Within (fun _ => 0) s := by
    rintro _ c ⟨s, rfl, hs, hw⟩ ⟨hc, hc'⟩
    exact call_spec hm hs hw hc hc'
  obtain ⟨hempty, hempty'⟩ := m.counted_empty
  refine (States.of_steps hstep ⟨_, rfl, hempty, hempty'⟩ hboth).imp ?_
  rintro _ ⟨s, rfl, hs, hw⟩
  refine ⟨s, rfl, fun p => ⟨hs p, ?_⟩⟩
  rw [hs p]
  simpa using hw p

/-- An environment that always answers 0, and has no quests saved. -/
def quiet : Env := ⟨fun _ => 0, fun _ => 0, fun _ _ => []⟩

/-- Pool 1 holds pool 2, and pool 2 the creatures 7 and 8; each may have one object active. -/
def motherAndChild : PoolMgr where
  maxPoolId := 2
  maxLimit := fun _ => 1
  group := fun k p =>
    if k = .pool ∧ p = 1 then ⟨1, [], [⟨2, 0⟩]⟩
    else if k = .creature ∧ p = 2 then ⟨2, [], [⟨7, 0⟩, ⟨8, 0⟩]⟩ else .new
  poolSearchMap := fun p => if p = 2 then some 1 else none

theorem mem_motherAndChild :
    id ∈ motherAndChild.entries k p ↔
      (k = .pool ∧ p = 1 ∧ id = 2) ∨ (k = .creature ∧ p = 2 ∧ (id = 7 ∨ id = 8)) := by
  unfold entries motherAndChild
  dsimp only
  split
  · next h =>
    obtain ⟨rfl, rfl⟩ := h
    simp [PoolGroup.entries, PoolGroup.objects]
  · next h =>
    split
    · next h' =>
      obtain ⟨rfl, rfl⟩ := h'
      simp [PoolGroup.entries, PoolGroup.objects]
    · next h' =>
      simp [PoolGroup.entries, PoolGroup.objects, PoolGroup.new]
      tauto

theorem wellFormed_motherAndChild : motherAndChild.WellFormed := by
  refine ⟨fun k p h => ?_, fun k p => ?_, fun k p q id hp hq => ?_, fun c p h => ?_, fun a ha => ?_,
    fun c p h => ?_⟩
  · unfold motherAndChild at h ⊢
    dsimp only at h ⊢
    split at h
    · next hk => rw [if_pos hk, hk.2]
    · next hk =>
      rw [if_neg hk]
      split at h
      · next hk' => rw [if_pos hk', hk'.2]
      · exact absurd h (by decide)
  · unfold entries motherAndChild
    dsimp only
    split
    · decide
    · split <;> decide
  · rcases mem_motherAndChild.mp hp with ⟨rfl, rfl, rfl⟩ | ⟨rfl, rfl, -⟩ <;>
      rcases mem_motherAndChild.mp hq with ⟨h, rfl, -⟩ | ⟨h, rfl, -⟩ <;> simp_all
  · refine mem_motherAndChild.mpr ?_
    unfold motherAndChild at h
    dsimp only at h
    split at h
    · next hc => exact Or.inl ⟨rfl, (Option.some.inj h).symm, hc⟩
    · exact absurd h (by simp)
  · -- a mother of a child pool is pool 1, which is no child
    obtain ⟨b, hab, hba⟩ := TransGen.head'_iff.mp ha
    have hone : ∀ c p, motherAndChild.Child c p → p = 1 ∧ c = 2 := fun c p h => by
      rcases mem_motherAndChild.mp h with ⟨-, rfl, rfl⟩ | ⟨h, -, -⟩
      · exact ⟨rfl, rfl⟩
      · exact absurd h (by simp)
    obtain ⟨rfl, rfl⟩ := hone a b hab
    rcases ReflTransGen.cases_head hba with h | ⟨c, hc, -⟩
    · exact absurd h (by simp)
    · exact absurd (hone 1 c hc).2 (by simp)
  · rcases mem_motherAndChild.mp h with ⟨-, -, rfl⟩ | ⟨h, -, -⟩
    · simp [motherAndChild]
    · exact absurd h (by simp)

/-- The pools are spawned, creature 7 is due to respawn, and the pools are despawned. -/
theorem motherAndChild_counted :
    States (motherAndChild.step quiet) motherAndChild.CountsRight (some .empty)
      [.spawnPool 1, .updatePool .creature 2 7, .despawnPool 1] := by
  refine run_counted wellFormed_motherAndChild quiet ⟨?_, ?_, ?_, trivial⟩ ⟨?_, ?_, ?_, trivial⟩
  · rintro s hs k p guid h
    exact absurd h (by simp)
  · rintro s hs k p guid h
    obtain ⟨rfl, rfl, rfl⟩ : Kind.creature = k ∧ 2 = p ∧ 7 = guid := by simpa using h
    obtain rfl := Option.some.inj hs
    exact ⟨by decide, by decide +kernel⟩
  · rintro s hs k p guid h
    exact absurd h (by simp)
  · rintro s hs
    obtain rfl := Option.some.inj hs
    refine ⟨?_, Or.inr (by decide +kernel)⟩
    rintro p h ⟨q, hq⟩
    obtain rfl : 1 = p := by simpa using h
    rcases mem_motherAndChild.mp hq with ⟨-, -, h⟩ | ⟨h, -, -⟩
    · exact absurd h (by simp)
    · exact absurd h (by simp)
  · rintro s hs
    obtain rfl := Option.some.inj hs
    exact ⟨fun p h => absurd h (by simp), Or.inr (by decide +kernel)⟩
  · rintro s hs
    exact ⟨fun p h => absurd h (by simp), Or.inl ⟨1, rfl⟩⟩

/-- Pool 1 holds creature 10 and quest 20, and may have one object active. -/
def creatureAndQuest : PoolMgr where
  maxPoolId := 1
  maxLimit := fun _ => 1
  group := fun k p =>
    if k = .creature ∧ p = 1 then ⟨1, [], [⟨10, 0⟩]⟩
    else if k = .quest ∧ p = 1 then ⟨1, [], [⟨20, 0⟩]⟩ else .new
  poolSearchMap := fun _ => none

/-- The creature and the quest are both spawned: two objects where one is allowed. -/
theorem creatureAndQuest_exceeds :
    ¬ States (creatureAndQuest.step quiet) creatureAndQuest.CountsRight (some .empty)
      [.spawnPool 1] := by
  intro h
  obtain ⟨s, hs, hcounts⟩ := h.exec
  have hcount : (creatureAndQuest.step quiet (some .empty) (.spawnPool 1)).map
      (fun s => s.getActiveObjectCount 1) = some 2 := by decide +kernel
  have hs : creatureAndQuest.step quiet (some .empty) (.spawnPool 1) = some s := hs
  rw [hs, Option.map_some, Option.some.injEq] at hcount
  have hle := (hcounts 1).2
  rw [hcount] at hle
  exact absurd hle (by decide)

end PoolMgr

end FunPvp.Pools
