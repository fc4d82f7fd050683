/-
# Spawn pools

A pool holds creatures, gameobjects, quests and other pools, and lets a limited number of them be
spawned at a time. `ActivePoolData` is what is spawned: one set for each kind of object, and one
map that holds the number of active objects of every pool and whose keys are the pools that are
active themselves.

`SpawnPool` and `DespawnPool` go down from pool to child pool. Here a pool is spawned with a
number of levels, and there is no result when they run out; `spawnPool_total` and
`despawnPool_total` say that they do not where no pool is its own ancestor.

Random numbers and the answers of the database come from outside (`Env`), by the number of the
question. What is done to the world when an object is spawned is left out.
-/
import FunPvp.Lib.OrderedSet
import FunPvp.Lib.Ancestry

namespace FunPvp.Pools

open FunPvp.Lib

/-! ## 1. Data -/

/-- What a pool can hold; the template argument of `PoolGroup`. -/
inductive Kind
  | creature | gameObject | pool | quest
deriving DecidableEq

structure PoolObject where
  guid : ℕ
  chance : ℚ
deriving DecidableEq

/-- `PoolGroup<T>`: the objects of one kind in one pool. -/
structure PoolGroup where
  poolId : ℕ
  explicitlyChanced : List PoolObject
  equalChanced : List PoolObject
deriving DecidableEq

namespace PoolGroup

def new : PoolGroup := ⟨0, [], []⟩

def isEmpty (g : PoolGroup) : Bool := g.explicitlyChanced.isEmpty && g.equalChanced.isEmpty

def addEntry (g : PoolGroup) (poolitem : PoolObject) (maxentries : UInt32) : PoolGroup :=
  if poolitem.chance ≠ 0 ∧ maxentries = 1 then
    { g with explicitlyChanced := g.explicitlyChanced ++ [poolitem] }
  else { g with equalChanced := g.equalChanced ++ [poolitem] }

/-- The objects in the order in which `DespawnObject` comes to them. -/
def objects (g : PoolGroup) : List PoolObject := g.equalChanced ++ g.explicitlyChanced

def entries (g : PoolGroup) : List ℕ := g.objects.map PoolObject.guid

end PoolGroup

/-- `PoolMgr`, without what is spawned. A pool without a template has `MaxLimit` 0. -/
structure PoolMgr where
  maxPoolId : ℕ
  maxLimit : ℕ → UInt32
  group : Kind → ℕ → PoolGroup
  poolSearchMap : ℕ → Option ℕ

/-- `ActivePoolData`, and how many questions have been asked of the environment. -/
structure ActivePoolData where
  spawnedCreatures : OrderedSet ℕ
  spawnedGameobjects : OrderedSet ℕ
  activeQuests : OrderedSet ℕ
  spawnedPools : ℕ → Option ℕ
  asked : ℕ

/-- What the environment answers: `rand_chance()`, an index before it is brought into its range,
and the saved quests of a pool. -/
structure Env where
  chance : ℕ → ℚ
  index : ℕ → ℕ
  savedQuests : ℕ → ℕ → List ℕ

namespace ActivePoolData

def empty : ActivePoolData := ⟨.empty, .empty, .empty, fun _ => none, 0⟩

def ask (s : ActivePoolData) : ActivePoolData := { s with asked := s.asked + 1 }

def getActiveObjectCount (s : ActivePoolData) (poolId : ℕ) : ℕ := (s.spawnedPools poolId).getD 0

def isActiveObject (s : ActivePoolData) : Kind → ℕ → Bool
  | .creature, guid => decide (guid ∈ s.spawnedCreatures)
  | .gameObject, guid => decide (guid ∈ s.spawnedGameobjects)
  | .pool, poolId => (s.spawnedPools poolId).isSome
  | .quest, questId => decide (questId ∈ s.activeQuests)

/-- The insertion of `ActivateObject<T>` and, for a pool, its entry with count 0. -/
def markActive (s : ActivePoolData) : Kind → ℕ → ActivePoolData
  | .creature, guid => { s with spawnedCreatures := s.spawnedCreatures.insert guid }
  | .gameObject, guid => { s with spawnedGameobjects := s.spawnedGameobjects.insert guid }
  | .pool, poolId =>
    { s with spawnedPools := fun q => if q = poolId then some 0 else s.spawnedPools q }
  | .quest, questId => { s with activeQuests := s.activeQuests.insert questId }

/-- The erasure of `RemoveObject<T>`. -/
def unmarkActive (s : ActivePoolData) : Kind → ℕ → ActivePoolData
  | .creature, guid => { s with spawnedCreatures := s.spawnedCreatures.erase guid }
  | .gameObject, guid => { s with spawnedGameobjects := s.spawnedGameobjects.erase guid }
  | .pool, poolId =>
    { s with spawnedPools := fun q => if q = poolId then none else s.spawnedPools q }
  | .quest, questId => { s with activeQuests := s.activeQuests.erase questId }

/-- `mSpawnedPools[pool_id]` is set; the access creates the entry if there is none. -/
def setCount (s : ActivePoolData) (poolId n : ℕ) : ActivePoolData :=
  { s with spawnedPools := fun q => if q = poolId then some n else s.spawnedPools q }

def activateObject (s : ActivePoolData) (k : Kind) (guid poolId : ℕ) : ActivePoolData :=
  let s := s.markActive k guid
  s.setCount poolId (s.getActiveObjectCount poolId + 1)

def removeObject (s : ActivePoolData) (k : Kind) (guid poolId : ℕ) : ActivePoolData :=
  let s := s.unmarkActive k guid
  s.setCount poolId (s.getActiveObjectCount poolId - 1)

end ActivePoolData

/-! ## 2. Rolling and despawning -/

namespace PoolGroup

/-- The first loop of `RollOne`, over the explicitly chanced objects. -/
def rollExplicit (s : ActivePoolData) (k : Kind) (triggerFrom : ℕ) :
    ℚ → List PoolObject → Option PoolObject
  | _, [] => none
  | roll, o :: rest =>
    if roll - o.chance < 0 ∧ (o.guid = triggerFrom ∨ s.isActiveObject k o.guid = false) then some o
    else rollExplicit s k triggerFrom (roll - o.chance) rest

/-- The second part, over the equally chanced ones. -/
def rollEqual (s : ActivePoolData) (k : Kind) (triggerFrom : ℕ) (index : ℕ)
    (l : List PoolObject) : Option PoolObject :=
  match l[index % l.length]? with
  | none => none
  | some o =>
    if o.guid = triggerFrom ∨ s.isActiveObject k o.guid = false then some o else none

def rollOne (g : PoolGroup) (env : Env) (s : ActivePoolData) (k : Kind) (triggerFrom : ℕ) :
    Option PoolObject :=
  match rollExplicit s k triggerFrom (env.chance s.asked) g.explicitlyChanced with
  | some o => some o
  | none => rollEqual s k triggerFrom (env.index s.asked) g.equalChanced

/-- `DespawnObject`, given `Despawn1Object`. Without a guid (0) everything is despawned. -/
def despawnObject (g : PoolGroup) (despawn1 : ℕ → ActivePoolData → Option ActivePoolData)
    (k : Kind) (guid : ℕ) (s : ActivePoolData) : Option ActivePoolData :=
  g.objects.foldlM (fun s o =>
    if s.isActiveObject k o.guid ∧ (guid = 0 ∨ o.guid = guid) then
      (despawn1 o.guid s).map fun s => s.removeObject k o.guid g.poolId
    else some s) s

/-- The loop of `SpawnObject`, with as many rounds as there are to go, given `Spawn1Object` and
`Despawn1Object`. -/
def spawnRounds (g : PoolGroup) (env : Env)
    (spawn1 despawn1 : ℕ → ActivePoolData → Option ActivePoolData) (k : Kind) :
    ℕ → ℕ → ℕ → ActivePoolData → Option ActivePoolData
  | 0, _, _, s => some s
  | rounds + 1, triggerFrom, lastDespawned, s =>
    match g.rollOne env s k triggerFrom with
    | none => g.spawnRounds env spawn1 despawn1 k rounds triggerFrom lastDespawned s.ask
    | some obj =>
      if obj.guid = lastDespawned then
        g.spawnRounds env spawn1 despawn1 k rounds triggerFrom lastDespawned s.ask
      else if obj.guid = triggerFrom then
        -- `ReSpawn1Object` does nothing, for every kind
        g.spawnRounds env spawn1 despawn1 k rounds 0 lastDespawned s.ask
      else
        (spawn1 obj.guid (s.ask.activateObject k obj.guid g.poolId)).bind fun s =>
          if triggerFrom ≠ 0 then
            (g.despawnObject despawn1 k triggerFrom s).bind
              (g.spawnRounds env spawn1 despawn1 k rounds 0 triggerFrom)
          else g.spawnRounds env spawn1 despawn1 k rounds triggerFrom lastDespawned s

/-- `limit - GetActiveObjectCount(poolId)`, a `uint32` read as an `int`, and one more if something
triggers. -/
def spawnCount (limit : UInt32) (active triggerFrom : ℕ) : ℤ :=
  Int.bmod (limit.toNat - active) (2 ^ 32) + if triggerFrom ≠ 0 then 1 else 0

def spawnObject (g : PoolGroup) (env : Env)
    (spawn1 despawn1 : ℕ → ActivePoolData → Option ActivePoolData) (k : Kind) (limit : UInt32)
    (triggerFrom : ℕ) (s : ActivePoolData) : Option ActivePoolData :=
  g.spawnRounds env spawn1 despawn1 k
    (spawnCount limit (s.getActiveObjectCount g.poolId) triggerFrom).toNat triggerFrom 0 s

/-! ## 3. Quests -/

/-- The quests of the database, until the limit has come down to 0 or they are at an end. -/
def activateSaved (g : PoolGroup) : UInt32 → List ℕ → ActivePoolData → ActivePoolData
  | _, [], s => s
  | limit, questId :: rest, s =>
    let s := s.activateObject .quest questId g.poolId
    if limit - 1 = 0 then s else g.activateSaved (limit - 1) rest s

/-- `SelectRandomContainerElement`. -/
def selectRandom (env : Env) (s : ActivePoolData) (quests : OrderedSet ℕ) : ℕ :=
  (quests.elems[env.index s.asked % quests.size]?).getD 0

/-- "recycle minimal amount of quests": the new quests, with as many of the current ones as are
needed for the limit. -/
def recycle (env : Env) (limit : ℕ) :
    ℕ → OrderedSet ℕ → OrderedSet ℕ → ActivePoolData → OrderedSet ℕ × ActivePoolData
  | 0, _, newQuests, s => (newQuests, s)
  | rounds + 1, currentQuests, newQuests, s =>
    let questId := selectRandom env s currentQuests
    let newQuests := newQuests.insert questId
    let currentQuests := currentQuests.erase questId
    if newQuests.size < limit ∧ currentQuests.size ≠ 0 then
      recycle env limit rounds currentQuests newQuests s.ask
    else (newQuests, s.ask)

def activateRandom (g : PoolGroup) (env : Env) :
    ℕ → UInt32 → OrderedSet ℕ → ActivePoolData → ActivePoolData
  | 0, _, _, s => s
  | rounds + 1, limit, newQuests, s =>
    let questId := selectRandom env s newQuests
    let s := s.ask.activateObject .quest questId g.poolId
    let newQuests := newQuests.erase questId
    if limit - 1 ≠ 0 ∧ newQuests.size ≠ 0 then
      g.activateRandom env rounds (limit - 1) newQuests s
    else s

def inactiveQuests (g : PoolGroup) (s : ActivePoolData) : OrderedSet ℕ :=
  g.equalChanced.foldl (fun quests o =>
    if s.isActiveObject .quest o.guid then quests else quests.insert o.guid) .empty

/-- `PoolGroup<Quest>::SpawnObject` once the database has nothing to say. -/
def spawnNewQuests (g : PoolGroup) (env : Env) (limit : UInt32) (s : ActivePoolData) :
    Option ActivePoolData :=
  let currentQuests := s.activeQuests
  let newQuests := g.inactiveQuests s
  (g.despawnObject (fun _ s => some s) .quest 0 s).map fun s =>
    let r :=
      if limit.toNat > newQuests.size ∧ currentQuests.size ≠ 0 then
        recycle env limit.toNat currentQuests.size currentQuests newQuests s
      else (newQuests, s)
    if r.1.size = 0 then r.2 else g.activateRandom env r.1.size limit r.1 r.2

def spawnQuests (g : PoolGroup) (env : Env) (limit : UInt32) (triggerFrom : ℕ)
    (s : ActivePoolData) : Option ActivePoolData :=
  if triggerFrom = 0 then
    match env.savedQuests s.asked g.poolId with
    | [] => g.spawnNewQuests env limit s.ask
    | q :: rest => some (g.activateSaved limit (q :: rest) s.ask)
  else g.spawnNewQuests env limit s

end PoolGroup

/-! ## 4. Pools -/

/-- A way to spawn the quests of a group: `PoolGroup.spawnQuests`, or that under a condition. -/
abbrev QuestSpawn := PoolGroup → UInt32 → ℕ → ActivePoolData → Option ActivePoolData

namespace PoolMgr

variable (m : PoolMgr) (env : Env) (quests : QuestSpawn)

def isPartOfAPool (poolId : ℕ) : ℕ := (m.poolSearchMap poolId).getD 0

/-- What `DespawnPool` does with the objects of one kind, given what despawns a child pool. -/
def despawnKind (despawnChild : ℕ → ActivePoolData → Option ActivePoolData) (k : Kind)
    (poolId : ℕ) (s : ActivePoolData) : Option ActivePoolData :=
  let g := m.group k poolId
  if g.isEmpty then some s
  else
    match k with
    | .pool => g.despawnObject despawnChild .pool 0 s
    | k => g.despawnObject (fun _ s => some s) k 0 s

/-- `DespawnPool`, with so many levels below it. -/
def despawnPool : ℕ → ℕ → ActivePoolData → Option ActivePoolData
  | 0, _, _ => none
  | levels + 1, poolId, s =>
    let despawn (k : Kind) (s : ActivePoolData) := m.despawnKind (despawnPool levels) k poolId s
    (((despawn .creature s).bind (despawn .gameObject)).bind (despawn .pool)).bind (despawn .quest)

def spawnKind (spawnChild despawnChild : ℕ → ActivePoolData → Option ActivePoolData) (k : Kind)
    (poolId triggerFrom : ℕ) (s : ActivePoolData) : Option ActivePoolData :=
  let g := m.group k poolId
  if g.isEmpty then some s
  else
    match k with
    | .quest => quests g (m.maxLimit poolId) triggerFrom s
    | .pool => g.spawnObject env spawnChild despawnChild .pool (m.maxLimit poolId) triggerFrom s
    | k =>
      g.spawnObject env (fun _ s => some s) (fun _ s => some s) k (m.maxLimit poolId) triggerFrom s

/-- `SpawnPool`, with so many levels below it. -/
def spawnPool : ℕ → ℕ → ActivePoolData → Option ActivePoolData
  | 0, _, _ => none
  | levels + 1, poolId, s =>
    let spawn (k : Kind) (s : ActivePoolData) :=
      m.spawnKind env quests (spawnPool levels) (m.despawnPool levels) k poolId 0 s
    (((spawn .pool s).bind (spawn .gameObject)).bind (spawn .creature)).bind (spawn .quest)

def updatePool (levels : ℕ) (k : Kind) (poolId triggerFrom : ℕ) (s : ActivePoolData) :
    Option ActivePoolData :=
  let spawn := m.spawnKind env quests (m.spawnPool env quests levels) (m.despawnPool levels)
  if m.isPartOfAPool poolId ≠ 0 then spawn .pool (m.isPartOfAPool poolId) poolId s
  else spawn k poolId triggerFrom s

def Child (c p : ℕ) : Prop := c ∈ (m.group .pool p).entries

end PoolMgr

/-! ## 5. Spawning and despawning end -/

namespace PoolGroup

variable {g : PoolGroup} {env : Env} {s : ActivePoolData} {k : Kind}

theorem mem_of_rollExplicit {triggerFrom : ℕ} {roll : ℚ} {l : List PoolObject} {o : PoolObject}
    (h : rollExplicit s k triggerFrom roll l = some o) :
    o ∈ l ∧ (o.guid = triggerFrom ∨ s.isActiveObject k o.guid = false) := by
  induction l generalizing roll with
  | nil => simp [rollExplicit] at h
  | cons p l ih =>
    unfold rollExplicit at h
    split at h
    · next hp =>
      obtain rfl := Option.some.inj h
      exact ⟨List.mem_cons_self, hp.2⟩
    · obtain ⟨hmem, ho⟩ := ih h
      exact ⟨List.mem_cons_of_mem _ hmem, ho⟩

theorem mem_of_rollEqual {triggerFrom index : ℕ} {l : List PoolObject} {o : PoolObject}
    (h : rollEqual s k triggerFrom index l = some o) :
    o ∈ l ∧ (o.guid = triggerFrom ∨ s.isActiveObject k o.guid = false) := by
  unfold rollEqual at h
  split at h
  · simp at h
  · next p hp =>
    split at h
    · next ho =>
      obtain rfl := Option.some.inj h
      exact ⟨List.mem_of_getElem? hp, ho⟩
    · simp at h

theorem mem_of_rollOne {triggerFrom : ℕ} {o : PoolObject}
    (h : g.rollOne env s k triggerFrom = some o) :
    o.guid ∈ g.entries ∧ (o.guid = triggerFrom ∨ s.isActiveObject k o.guid = false) := by
  unfold rollOne at h
  split at h
  · next p hp =>
    obtain rfl := Option.some.inj h
    obtain ⟨hmem, ho⟩ := mem_of_rollExplicit hp
    exact ⟨List.mem_map_of_mem (List.mem_append_right _ hmem), ho⟩
  · obtain ⟨hmem, ho⟩ := mem_of_rollEqual h
    exact ⟨List.mem_map_of_mem (List.mem_append_left _ hmem), ho⟩

/-- A callback on the objects of the group always has a result. -/
def Total (g : PoolGroup) (f : ℕ → ActivePoolData → Option ActivePoolData) : Prop :=
  ∀ c ∈ g.entries, ∀ s, ∃ s', f c s = some s'

theorem total_some : g.Total fun _ s => some s := fun _ _ s => ⟨s, rfl⟩

theorem despawnObject_total {despawn1 : ℕ → ActivePoolData → Option ActivePoolData}
    (h : g.Total despawn1) (k : Kind) (guid : ℕ) (s : ActivePoolData) :
    ∃ s', g.despawnObject despawn1 k guid s = some s' := by
  have hall : ∀ l : List PoolObject, (∀ o ∈ l, o.guid ∈ g.entries) → ∀ s, ∃ s',
      l.foldlM (fun s o =>
        if s.isActiveObject k o.guid ∧ (guid = 0 ∨ o.guid = guid) then
          (despawn1 o.guid s).map fun s => s.removeObject k o.guid g.poolId
        else some s) s = some s' := by
    intro l
    induction l with
    | nil => exact fun _ s => ⟨s, rfl⟩
    | cons o l ih =>
      intro hl s
      rw [List.foldlM_cons]
      have hrest := ih fun o' ho' => hl o' (List.mem_cons_of_mem _ ho')
      split
      · obtain ⟨s₁, hs₁⟩ := h o.guid (hl o List.mem_cons_self) s
        rw [hs₁]
        exact hrest _
      · exact hrest s
  exact hall g.objects (fun o ho => List.mem_map_of_mem ho) s

theorem spawnRounds_total {spawn1 despawn1 : ℕ → ActivePoolData → Option ActivePoolData}
    (hspawn : g.Total spawn1) (hdespawn : g.Total despawn1) (rounds triggerFrom lastDespawned : ℕ)
    (s : ActivePoolData) :
    ∃ s', g.spawnRounds env spawn1 despawn1 k rounds triggerFrom lastDespawned s = some s' := by
  induction rounds generalizing triggerFrom lastDespawned s with
  | zero => exact ⟨s, rfl⟩
  | succ rounds ih =>
    unfold spawnRounds
    split
    · exact ih _ _ _
    · next obj hobj =>
      split
      · exact ih _ _ _
      · split
        · exact ih _ _ _
        · obtain ⟨s₁, hs₁⟩ := hspawn obj.guid (mem_of_rollOne hobj).1
            (s.ask.activateObject k obj.guid g.poolId)
          rw [hs₁, Option.bind_some]
          split
          · obtain ⟨s₂, hs₂⟩ := despawnObject_total hdespawn k triggerFrom s₁
            rw [hs₂, Option.bind_some]
            exact ih _ _ _
          · exact ih _ _ _

theorem spawnQuests_total (g : PoolGroup) (env : Env) (limit : UInt32) (triggerFrom : ℕ)
    (s : ActivePoolData) : ∃ s', g.spawnQuests env limit triggerFrom s = some s' := by
  have hnew : ∀ s, ∃ s', g.spawnNewQuests env limit s = some s' := by
    intro s
    obtain ⟨s₁, hs₁⟩ := despawnObject_total (g := g) total_some .quest 0 s
    exact ⟨_, by rw [spawnNewQuests, hs₁]; rfl⟩
  unfold spawnQuests
  split
  · split
    · exact hnew _
    · exact ⟨_, rfl⟩
  · exact hnew s

end PoolGroup

namespace PoolMgr

open PoolGroup

variable {m : PoolMgr} {env : Env} {rank : ℕ → ℕ}

theorem despawnKind_total {despawnChild : ℕ → ActivePoolData → Option ActivePoolData} {p : ℕ}
    (hdespawn : (m.group .pool p).Total despawnChild) (k : Kind) (s : ActivePoolData) :
    ∃ s', m.despawnKind despawnChild k p s = some s' := by
  unfold despawnKind
  dsimp only
  split
  · exact ⟨s, rfl⟩
  · cases k with
    | pool => exact despawnObject_total hdespawn _ _ _
    | creature => exact despawnObject_total total_some _ _ _
    | gameObject => exact despawnObject_total total_some _ _ _
    | quest => exact despawnObject_total total_some _ _ _

theorem despawnPool_total (hrank : ∀ c p, m.Child c p → rank c < rank p) {levels : ℕ} {p : ℕ}
    (hp : rank p < levels) (s : ActivePoolData) : ∃ s', m.despawnPool levels p s = some s' := by
  induction levels generalizing p s with
  | zero => omega
  | succ levels ih =>
    have hlower : ∀ c, m.Child c p → rank c < levels := fun c hc => by
      have := hrank c p hc
      omega
    have hkind : ∀ k s, ∃ s', m.despawnKind (m.despawnPool levels) k p s = some s' :=
      despawnKind_total fun c hc => ih (hlower c hc)
    unfold despawnPool
    obtain ⟨s₁, hs₁⟩ := hkind .creature s
    obtain ⟨s₂, hs₂⟩ := hkind .gameObject s₁
    obtain ⟨s₃, hs₃⟩ := hkind .pool s₂
    obtain ⟨s₄, hs₄⟩ := hkind .quest s₃
    exact ⟨s₄, by simp only [hs₁, hs₂, hs₃, hs₄, Option.bind_some]⟩

theorem spawnKind_total {quests : QuestSpawn} (hquests : ∀ g l t s, ∃ s', quests g l t s = some s')
    {spawnChild despawnChild : ℕ → ActivePoolData → Option ActivePoolData} {p : ℕ}
    (hspawn : (m.group .pool p).Total spawnChild) (hdespawn : (m.group .pool p).Total despawnChild)
    (k : Kind) (triggerFrom : ℕ) (s : ActivePoolData) :
    ∃ s', m.spawnKind env quests spawnChild despawnChild k p triggerFrom s = some s' := by
  unfold spawnKind
  dsimp only
  split
  · exact ⟨s, rfl⟩
  · cases k with
    | quest => exact hquests _ _ _ _
    | pool => exact spawnRounds_total hspawn hdespawn _ _ _ _
    | creature => exact spawnRounds_total total_some total_some _ _ _ _
    | gameObject => exact spawnRounds_total total_some total_some _ _ _ _

theorem spawnPool_total {quests : QuestSpawn} (hquests : ∀ g l t s, ∃ s', quests g l t s = some s')
    (hrank : ∀ c p, m.Child c p → rank c < rank p) {levels : ℕ} {p : ℕ} (hp : rank p < levels)
    (s : ActivePoolData) : ∃ s', m.spawnPool env quests levels p s = some s' := by
  induction levels generalizing p s with
  | zero => omega
  | succ levels ih =>
    have hlower : ∀ c, m.Child c p → rank c < levels := fun c hc => by
      have := hrank c p hc
      omega
    have hkind : ∀ k t s, ∃ s', m.spawnKind env quests (m.spawnPool env quests levels)
        (m.despawnPool levels) k p t s = some s' :=
      spawnKind_total hquests (fun c hc => ih (hlower c hc))
        fun c hc => despawnPool_total hrank (hlower c hc)
    unfold spawnPool
    obtain ⟨s₁, hs₁⟩ := hkind .pool 0 s
    obtain ⟨s₂, hs₂⟩ := hkind .gameObject 0 s₁
    obtain ⟨s₃, hs₃⟩ := hkind .creature 0 s₂
    obtain ⟨s₄, hs₄⟩ := hkind .quest 0 s₃
    exact ⟨s₄, by simp only [hs₁, hs₂, hs₃, hs₄, Option.bind_some]⟩

end PoolMgr

end FunPvp.Pools
