/-
# The best combination of who waits

To a guid that waits, the dungeon finder shows the largest list of guids it has been found
compatible with, and how many tanks, healers and damage dealers that one still needs. When a guid
leaves, the keys it is in leave the cache, and who had such a key as best looks for another.

Both find the guid by its digits, and `1` is found in `11` and in `3|11`. So the removal of `1`
erases keys it has never been in, and `1` may be shown a list it is not on. `StepOk` is what a step
has to meet to go right, and `exec_keysWhole` says that nothing else can go wrong.
-/
import FunPvp.DungeonFinding.CompatibleKeys
import FunPvp.Lib.FirstMax
import FunPvp.Lib.Run

namespace FunPvp.DungeonFinding

open FunPvp.Groups (ObjectGuid MAXGROUPSIZE)
open FunPvp.Lib
open LfgCompatibility
open LFGMgr (concatenateGuids writtenIn)

/-! ## 1. The roles assigned for a key -/

theorem SortedKeys.nodup {m : LfgRolesMap} (h : SortedKeys m) : m.Nodup :=
  (List.pairwise_map.mp h).imp fun hlt heq => ne_of_guid_lt hlt (congrArg Prod.fst heq)

theorem SortedKeys.eq_of_mem_iff {m m' : LfgRolesMap} (h : SortedKeys m) (h' : SortedKeys m')
    (hmem : ∀ entry, entry ∈ m ↔ entry ∈ m') : m = m' := by
  have hperm := (List.perm_ext_iff_of_nodup h.nodup h'.nodup).mpr hmem
  refine hperm.eq_of_pairwise ?_ (List.pairwise_map.mp h) (List.pairwise_map.mp h')
  intro a b _ _ hab hba
  exact absurd rfl (ne_of_guid_lt (guid_lt_trans hab hba))

namespace LFGMgr

variable {s s' : LFGMgr} {key : Finset ObjectGuid} {assigned assigned' : LfgRolesMap}

/-- The roles `CheckGroupRoles` assigns to the members of a key, in the map of what they all
selected. -/
def Assigns (s : LFGMgr) (key : Finset ObjectGuid) (assigned : LfgRolesMap) : Prop :=
  ∃ groles : LfgRolesMap, SortedKeys groles ∧
    (∀ entry, entry ∈ groles ↔ ∃ guid ∈ key, entry ∈ (s.queueData guid).roles) ∧
    assigned = (checkGroupRoles groles).2

theorem Assigns.unique (h : s.Assigns key assigned) (h' : s.Assigns key assigned') :
    assigned = assigned' := by
  obtain ⟨groles, hsorted, hmem, rfl⟩ := h
  obtain ⟨groles', hsorted', hmem', rfl⟩ := h'
  rw [hsorted.eq_of_mem_iff hsorted' fun entry => (hmem entry).trans (hmem' entry).symm]

theorem Assigns.congr (h : s.Assigns key assigned)
    (heq : ∀ guid ∈ key, (s'.queueData guid).roles = (s.queueData guid).roles) :
    s'.Assigns key assigned := by
  obtain ⟨groles, hsorted, hmem, hassigned⟩ := h
  refine ⟨groles, hsorted, fun entry => (hmem entry).trans ?_, hassigned⟩
  refine exists_congr fun guid => and_congr_right fun hguid => ?_
  rw [heq guid hguid]

theorem assigns_single {guid : ObjectGuid} (h : SortedKeys (s.queueData guid).roles) :
    s.Assigns (concatenateGuids [guid]) (checkGroupRoles (s.queueData guid).roles).2 :=
  ⟨_, h, fun entry => by simp [concatenateGuids], rfl⟩

theorem sortedKeys_collectRoles (check : GuidList) : SortedKeys (s.collectRoles check) := by
  have hfold : ∀ todo acc : LfgRolesMap,
      SortedKeys acc → SortedKeys (todo.foldl s.addRole acc) := by
    intro todo
    induction todo with
    | nil => exact fun acc hacc => hacc
    | cons entry todo ih => exact fun acc hacc => ih _ (sortedKeys_addRole hacc)
  rw [collectRoles_eq]
  exact hfold _ _ List.Pairwise.nil

theorem assigns_several {check : GuidList}
    (h : s.numPlayers check = (s.collectRoles check).length) :
    s.Assigns (concatenateGuids check) (checkGroupRoles (s.collectRoles check)).2 := by
  refine ⟨_, sortedKeys_collectRoles check, fun entry => ?_, rfl⟩
  rw [(collectRoles_perm h).mem_iff, roles, List.mem_flatMap]
  simp [concatenateGuids]

end LFGMgr

/-! ## 2. What a best key still needs -/

/-- What `UpdateBestCompatibleInQueue` takes a player for. -/
def roleOf (role : UInt8) : Role :=
  if role &&& PLAYER_ROLE_TANK ≠ 0 then .tank
  else if role &&& PLAYER_ROLE_HEALER ≠ 0 then .healer
  else .damage

def countRole (x : Role) (roles : LfgRolesMap) : UInt8 :=
  UInt8.ofNat (roles.countP fun entry => roleOf entry.2 = x)

namespace LfgBest

variable {b : LfgBest} {key : Finset ObjectGuid} {roles : LfgRolesMap}

/-- The numbers that are needed, minus the roles. -/
structure Needs (b : LfgBest) (roles : LfgRolesMap) : Prop where
  tanks : b.tanks = UInt8.ofNat LFG_TANKS_NEEDED - countRole .tank roles
  healers : b.healers = UInt8.ofNat LFG_HEALERS_NEEDED - countRole .healer roles
  dps : b.dps = UInt8.ofNat LFG_DPS_NEEDED - countRole .damage roles

theorem countRole_cons (x : Role) (entry : ObjectGuid × UInt8) (roles : LfgRolesMap) :
    countRole x (entry :: roles) =
      (if roleOf entry.2 = x then 1 else 0) + countRole x roles := by
  rw [countRole, List.countP_cons, countRole, UInt8.ofNat_add, UInt8.add_comm]
  by_cases h : roleOf entry.2 = x
  · simp [h]
  · simp [h]

theorem take_eq (b : LfgBest) (role : UInt8) :
    b.take role =
      { b with
        tanks := b.tanks - if roleOf role = .tank then 1 else 0
        healers := b.healers - if roleOf role = .healer then 1 else 0
        dps := b.dps - if roleOf role = .damage then 1 else 0 } := by
  rw [take, roleOf]
  split
  · simp
  · split <;> simp

theorem foldl_take (roles : LfgRolesMap) (b : LfgBest) :
    roles.foldl (fun b entry => b.take entry.2) b =
      { b with
        tanks := b.tanks - countRole .tank roles
        healers := b.healers - countRole .healer roles
        dps := b.dps - countRole .damage roles } := by
  induction roles generalizing b with
  | nil => simp [countRole]
  | cons entry roles ih =>
    rw [List.foldl_cons, ih, take_eq]
    have hsub (a b c : UInt8) : a - b - c = a - (b + c) := by grind
    simp only [countRole_cons, hsub]

theorem updateBestCompatible_cases (b : LfgBest) (key : Finset ObjectGuid) (roles : LfgRolesMap) :
    (keySize key ≤ b.storedSize ∧ b.updateBestCompatible key roles = b) ∨
    (b.storedSize < keySize key ∧ (b.updateBestCompatible key roles).bestCompatible = key ∧
      (b.updateBestCompatible key roles).Needs roles) := by
  rw [updateBestCompatible]
  split
  · next h => exact Or.inl ⟨h, rfl⟩
  · next h =>
    rw [foldl_take]
    exact Or.inr ⟨UInt8.not_le.mp h, rfl, rfl, rfl, rfl⟩

end LfgBest

/-! ## 3. The law of the keys -/

namespace LFGQueue

variable {s s' : LFGQueue} {guid : ObjectGuid} {b : LfgBest}

/-- What the best key of a guid should be: a key of the cache that has the guid itself and queued
guids only, and the numbers belong to the roles assigned for it. -/
structure Shows (s : LFGQueue) (guid : ObjectGuid) (b : LfgBest) : Prop where
  cached : b.bestCompatible ∈ s.compatibleKeys
  member : guid ∈ b.bestCompatible
  queued : ∀ other ∈ b.bestCompatible, (s.mgr.queueDataStore other).isSome
  assigned : s.mgr.Assigns b.bestCompatible (s.compatibleRoles b.bestCompatible)
  needs : b.Needs (s.compatibleRoles b.bestCompatible)

/-- **The best key of every queued guid is empty, or names it.** -/
def KeysWhole (s : LFGQueue) : Prop :=
  ∀ guid, (s.mgr.queueDataStore guid).isSome →
    (s.best guid).bestCompatible = ∅ ∨ s.Shows guid (s.best guid)

/-- **The removal of a guid erases exactly the entries whose key has the guid**, and leaves the
others as they are. -/
structure ErasesExactly (s : LFGQueue) (guid : ObjectGuid) : Prop where
  keys : (s.removeFromQueue guid).compatibleKeys = s.compatibleKeys.filter (guid ∉ ·)
  kept : ∀ key ∈ s.compatibleKeys, guid ∉ key →
    (s.removeFromQueue guid).mgr.getCompatibles key = s.mgr.getCompatibles key ∧
      (s.removeFromQueue guid).compatibleRoles key = s.compatibleRoles key

/-- Every key that is gone over for a guid it does not have is beaten by one that has the guid: by
a larger one, or by one as large and earlier. -/
def FindsMember (s : LFGQueue) (guid : ObjectGuid) : Prop :=
  ∀ key ∈ s.candidates guid, guid ∉ key → ∃ other ∈ s.candidates guid, guid ∈ other ∧
    (key.card < other.card ∨
      key.card = other.card ∧
        (s.candidates guid).idxOf other < (s.candidates guid).idxOf key)

/-- When the removal of a guid goes right: its digits are in no key without it, and who has a key
with it as best will find one with himself. -/
structure RemovalOk (s : LFGQueue) (guid : ObjectGuid) : Prop where
  keys : ∀ key ∈ s.compatibleKeys, written guid key → guid ∈ key
  best : ∀ other, other ≠ guid → (s.mgr.queueDataStore other).isSome →
    written guid (s.best other).bestCompatible → (s.removeFromCompatibles guid).FindsMember other

/-! ## 4. Runs -/

/-- What happens to the queue. The roles of queue data are a `std::map`. -/
inductive Event
  | addQueueData (guid : ObjectGuid) (data : {data : LfgQueueData // SortedKeys data.roles})
  | addToQueue (guid : ObjectGuid) (reAdd : Bool)
  | removeFromQueue (guid : ObjectGuid)
  | findGroups
  | updateQueueTimers
  | getJoinTime (guid : ObjectGuid)
  /-- What `LFGMgr` and others do besides: everything but the queue and its stores may change. -/
  | elsewhere (mgr : LFGMgr)

def step (s : LFGQueue) : Event → LFGQueue
  | .addQueueData guid data => s.addQueueData guid data
  | .addToQueue guid reAdd => { s with mgr := s.mgr.addToQueue guid reAdd }
  | .removeFromQueue guid => s.removeFromQueue guid
  | .findGroups => s.findGroups.2
  | .updateQueueTimers => s.updateQueueTimers
  | .getJoinTime guid => s.getJoinTime guid
  | .elsewhere mgr =>
    { s with
      mgr :=
        { mgr with
          newToQueueStore := s.mgr.newToQueueStore
          currentQueueStore := s.mgr.currentQueueStore
          queueDataStore := s.mgr.queueDataStore
          compatibleMapStore := s.mgr.compatibleMapStore } }

/-- **When a step goes right.**  The roles of a guid of a cached key are not replaced; a removal is
one that goes right; and who has no best key finds one with himself. -/
def StepOk (s : LFGQueue) : Event → Prop
  | .addQueueData guid data =>
    ∀ key ∈ s.compatibleKeys, guid ∈ key → data.1.roles = (s.mgr.queueData guid).roles
  | .removeFromQueue guid => s.RemovalOk guid
  | .updateQueueTimers => ∀ guid, (s.mgr.queueDataStore guid).isSome →
      (s.best guid).bestCompatible = ∅ → s.FindsMember guid
  | _ => True

/-! ## 5. The cache -/

/-- What holds of the cache in every run. -/
structure Cached (s : LFGQueue) : Prop where
  recorded : s.mgr.Recorded
  sorted : ∀ guid, SortedKeys (s.mgr.queueData guid).roles
  listed : ∀ key, s.mgr.getCompatibles key ≠ LFG_COMPATIBILITY_PENDING → key ∈ s.compatibleKeys
  bounded : ∀ key ∈ s.compatibleKeys, key.Nonempty ∧ key.card ≤ MAXGROUPSIZE
  members : ∀ key ∈ s.compatibleKeys, ∀ guid ∈ key, (s.mgr.queueDataStore guid).isSome
  assigned : ∀ key ∈ s.compatibleKeys,
    s.mgr.getCompatibles key = LFG_COMPATIBLES_WITH_LESS_PLAYERS →
      s.mgr.Assigns key (s.compatibleRoles key)

structure Consistent (s : LFGQueue) : Prop where
  cached : s.Cached
  whole : s.KeysWhole

theorem start_consistent : start.Consistent where
  cached :=
    { recorded := fun guid hguid => by cases hguid
      sorted := fun _ => List.Pairwise.nil
      listed := fun _ h => absurd rfl h
      bounded := fun _ h => by cases h
      members := fun _ h => by cases h
      assigned := fun _ h => by cases h }
  whole := fun _ h => by cases h

theorem queueData_congr {mgr mgr' : LFGMgr} (h : mgr'.queueDataStore = mgr.queueDataStore)
    (guid : ObjectGuid) : mgr'.queueData guid = mgr.queueData guid := by
  rw [LFGMgr.queueData, LFGMgr.queueData, h]

theorem Shows.congr (h : s.Shows guid b) (hdata : s'.mgr.queueDataStore = s.mgr.queueDataStore)
    (hkeys : b.bestCompatible ∈ s'.compatibleKeys)
    (hroles : s'.compatibleRoles b.bestCompatible = s.compatibleRoles b.bestCompatible) :
    s'.Shows guid b where
  cached := hkeys
  member := h.member
  queued := by rw [hdata]; exact h.queued
  assigned := by
    rw [hroles]
    exact h.assigned.congr fun other _ => congrArg _ (queueData_congr hdata other)
  needs := by rw [hroles]; exact h.needs

theorem Consistent.congr (hs : s.Consistent) {mgr : LFGMgr}
    (hdata : mgr.queueDataStore = s.mgr.queueDataStore)
    (hcache : mgr.compatibleMapStore = s.mgr.compatibleMapStore) (hrecorded : mgr.Recorded) :
    Consistent { s with mgr } := by
  have hcompatibles (key : Finset ObjectGuid) :
      mgr.getCompatibles key = s.mgr.getCompatibles key := by
    rw [LFGMgr.getCompatibles, LFGMgr.getCompatibles, hcache]
  refine ⟨⟨hrecorded, fun guid => ?_, fun key hkey => ?_, hs.cached.bounded, fun key hkey => ?_,
    fun key hkey hless => ?_⟩, fun guid hguid => ?_⟩
  · rw [queueData_congr hdata]
    exact hs.cached.sorted guid
  · rw [hcompatibles] at hkey
    exact hs.cached.listed key hkey
  · rw [hdata]
    exact hs.cached.members key hkey
  · rw [hcompatibles] at hless
    exact (hs.cached.assigned key hkey hless).congr fun other _ =>
      congrArg _ (queueData_congr hdata other)
  · rw [hdata] at hguid
    exact (hs.whole guid hguid).imp_right fun h => h.congr hdata h.cached rfl

/-! ## 6. A search for the best key -/

theorem keySize_lt_iff {key key' : Finset ObjectGuid} (h : key.Nonempty ∧ key.card ≤ MAXGROUPSIZE)
    (h' : key'.Nonempty ∧ key'.card ≤ MAXGROUPSIZE) :
    keySize key < keySize key' ↔ key.card < key'.card := by
  have hsize : MAXGROUPSIZE = 5 := rfl
  have hle := h.2
  have hle' := h'.2
  rw [keySize_eq h.1, keySize_eq h'.1, UInt8.lt_iff_toNat_lt, UInt8.toNat_ofNat',
    UInt8.toNat_ofNat', Nat.mod_eq_of_lt (by omega), Nat.mod_eq_of_lt (by omega)]

theorem storedSize_of_nonempty (h : b.bestCompatible.Nonempty) :
    b.storedSize = keySize b.bestCompatible := if_neg h.ne_empty

theorem foldl_update_some {roles : Finset ObjectGuid → LfgRolesMap}
    {keys : List (Finset ObjectGuid)}
    (hkeys : ∀ key ∈ keys, key.Nonempty ∧ key.card ≤ MAXGROUPSIZE)
    (hb : b.bestCompatible.Nonempty ∧ b.bestCompatible.card ≤ MAXGROUPSIZE)
    (hneeds : b.Needs (roles b.bestCompatible)) :
    FirstMax Finset.card (b.bestCompatible :: keys)
      (keys.foldl (fun b key => b.updateBestCompatible key (roles key)) b).bestCompatible ∧
    (keys.foldl (fun b key => b.updateBestCompatible key (roles key)) b).Needs
      (roles
        (keys.foldl (fun b key => b.updateBestCompatible key (roles key)) b).bestCompatible) := by
  induction keys generalizing b with
  | nil => exact ⟨⟨[], [], rfl, by simp, by simp⟩, hneeds⟩
  | cons key keys ih =>
    have hkey := hkeys key List.mem_cons_self
    have hrest : ∀ other ∈ keys, other.Nonempty ∧ other.card ≤ MAXGROUPSIZE :=
      fun other hother => hkeys other (List.mem_cons_of_mem key hother)
    rw [List.foldl_cons]
    rcases b.updateBestCompatible_cases key (roles key) with ⟨hle, heq⟩ | ⟨hlt, hbest, hnew⟩
    · rw [heq]
      obtain ⟨hmax, hneeds'⟩ := ih hrest hb hneeds
      rw [storedSize_of_nonempty hb.1, ← UInt8.not_lt, keySize_lt_iff hb hkey] at hle
      exact ⟨hmax.insert_of_le (not_lt.mp hle), hneeds'⟩
    · rw [storedSize_of_nonempty hb.1, keySize_lt_iff hb hkey] at hlt
      obtain ⟨hmax, hneeds'⟩ := ih hrest (by rw [hbest]; exact hkey) (by rw [hbest]; exact hnew)
      rw [hbest] at hmax
      exact ⟨hmax.cons_of_lt hlt, hneeds'⟩

theorem foldl_update_none {roles : Finset ObjectGuid → LfgRolesMap}
    {keys : List (Finset ObjectGuid)}
    (hkeys : ∀ key ∈ keys, key.Nonempty ∧ key.card ≤ MAXGROUPSIZE) (hb : b.bestCompatible = ∅) :
    (keys.foldl (fun b key => b.updateBestCompatible key (roles key)) b).bestCompatible = ∅ ∨
    FirstMax Finset.card keys
      (keys.foldl (fun b key => b.updateBestCompatible key (roles key)) b).bestCompatible ∧
    (keys.foldl (fun b key => b.updateBestCompatible key (roles key)) b).Needs
      (roles
        (keys.foldl (fun b key => b.updateBestCompatible key (roles key)) b).bestCompatible) := by
  cases keys with
  | nil => exact Or.inl hb
  | cons key keys =>
    have hkey := hkeys key List.mem_cons_self
    rw [List.foldl_cons]
    rcases b.updateBestCompatible_cases key (roles key) with ⟨hle, -⟩ | ⟨-, hbest, hnew⟩
    · have hsize : MAXGROUPSIZE = 5 := rfl
      have hpos := hkey.1.card_pos
      have hle' := hkey.2
      rw [LfgBest.storedSize, if_pos hb, keySize_eq hkey.1, UInt8.le_iff_toNat_le,
        UInt8.toNat_ofNat', Nat.mod_eq_of_lt (by omega)] at hle
      exact absurd hle (not_le.mpr hpos)
    · refine Or.inr ?_
      have hrest : ∀ other ∈ keys, other.Nonempty ∧ other.card ≤ MAXGROUPSIZE :=
        fun other hother => hkeys other (List.mem_cons_of_mem key hother)
      have hfound := foldl_update_some hrest (by rw [hbest]; exact hkey) (by rw [hbest]; exact hnew)
      rwa [hbest] at hfound

theorem findBest_shows (hs : s.Cached) (h : s.FindsMember guid) (hb : b.bestCompatible = ∅) :
    (s.findBestCompatibleInQueue guid b).bestCompatible = ∅ ∨
      s.Shows guid (s.findBestCompatibleInQueue guid b) := by
  have hmem (key : Finset ObjectGuid) (hkey : key ∈ s.candidates guid) :
      key ∈ s.compatibleKeys := (List.mem_filter.mp hkey).1
  have hbounded : ∀ key ∈ s.candidates guid, key.Nonempty ∧ key.card ≤ MAXGROUPSIZE :=
    fun key hkey => hs.bounded key (hmem key hkey)
  refine (foldl_update_none hbounded hb).imp_right ?_
  rintro ⟨hmax, hneeds⟩
  have hcandidate := (List.mem_filter.mp hmax.mem).2
  simp only [Bool.and_eq_true, decide_eq_true_eq] at hcandidate
  exact
    { cached := hmem _ hmax.mem
      member := (hmax.iff_beaten (guid ∈ ·)).mpr h
      queued := hs.members _ (hmem _ hmax.mem)
      assigned := hs.assigned _ (hmem _ hmax.mem) hcandidate.1
      needs := hneeds }

/-! ## 7. The matching keeps the law -/

section Matching

variable {key : Finset ObjectGuid} {roles : LfgRolesMap} {check all : GuidList}

/-- A list the cache may have an entry for. -/
structure Listable (s : LFGQueue) (check : GuidList) : Prop where
  ne_nil : check ≠ []
  length : check.length ≤ MAXGROUPSIZE
  data : ∀ guid ∈ check, (s.mgr.queueDataStore guid).isSome

theorem Listable.bounded (h : s.Listable check) :
    (concatenateGuids check).Nonempty ∧ (concatenateGuids check).card ≤ MAXGROUPSIZE :=
  ⟨List.toFinset_nonempty_iff _ |>.mpr h.ne_nil, (List.toFinset_card_le check).trans h.length⟩

theorem Listable.members (h : s.Listable check) :
    ∀ guid ∈ concatenateGuids check, (s.mgr.queueDataStore guid).isSome :=
  fun guid hguid => h.data guid (List.mem_toFinset.mp hguid)

theorem Consistent.setCompatibles (hs : s.Consistent) (compatibles : LfgCompatibility)
    (hless : compatibles ≠ LFG_COMPATIBLES_WITH_LESS_PLAYERS)
    (hbounded : key.Nonempty ∧ key.card ≤ MAXGROUPSIZE)
    (hmembers : ∀ guid ∈ key, (s.mgr.queueDataStore guid).isSome) :
    (s.setCompatibles key compatibles).Consistent := by
  refine ⟨⟨hs.cached.recorded, hs.cached.sorted, fun other hother => ?_, fun other hother => ?_,
    fun other hother => ?_, fun other hother hwait => ?_⟩, fun guid hguid => ?_⟩
  · refine mem_insertKey.mpr ?_
    by_cases heq : other = key
    · exact Or.inl heq
    · exact Or.inr (hs.cached.listed other ((if_neg heq).symm.trans_ne hother))
  · rcases mem_insertKey.mp hother with rfl | hother
    · exact hbounded
    · exact hs.cached.bounded other hother
  · rcases mem_insertKey.mp hother with rfl | hother
    · exact hmembers
    · exact hs.cached.members other hother
  · by_cases heq : other = key
    · exact absurd ((if_pos heq).symm.trans hwait) hless
    · have hold := (mem_insertKey.mp hother).resolve_left heq
      exact hs.cached.assigned other hold ((if_neg heq).symm.trans hwait)
  · exact (hs.whole guid hguid).imp_right fun h =>
      h.congr rfl (mem_insertKey.mpr (Or.inr h.cached)) rfl

theorem foldl_update_best (key : Finset ObjectGuid) (roles : LfgRolesMap) (check : GuidList)
    (best : ObjectGuid → LfgBest) (h : check.foldl
      (fun s guid => s.updateBestCompatibleInQueue guid key roles) s = { s with best })
    (guid : ObjectGuid) :
    best guid = s.best guid ∨
      guid ∈ check ∧ (best guid).bestCompatible = key ∧ (best guid).Needs roles := by
  induction check generalizing s with
  | nil =>
    exact Or.inl (congrFun (congrArg LFGQueue.best h).symm guid)
  | cons front check ih =>
    rw [List.foldl_cons] at h
    rcases ih (s := s.updateBestCompatibleInQueue front key roles) h with heq | ⟨hmem, hnew⟩
    · rw [heq]
      dsimp only [updateBestCompatibleInQueue]
      rw [Function.update_apply]
      split
      · next hfront =>
        subst hfront
        rcases (s.best guid).updateBestCompatible_cases key roles with ⟨-, hsame⟩ | ⟨-, hnew⟩
        · exact Or.inl hsame
        · exact Or.inr ⟨List.mem_cons_self, hnew⟩
      · exact Or.inl rfl
    · exact Or.inr ⟨List.mem_cons_of_mem front hmem, hnew⟩

/-- **A list that waits for more players** is cached with the roles of its members, and they may get
its key as best. -/
theorem Consistent.lessPlayers (hs : s.Consistent) (hlist : s.Listable check)
    (hassigns : s.mgr.Assigns (concatenateGuids check) roles) :
    ((check.foldl (fun s guid =>
        s.updateBestCompatibleInQueue guid (concatenateGuids check) roles) s).setCompatibilityData
      (concatenateGuids check) LFG_COMPATIBLES_WITH_LESS_PLAYERS roles).Consistent := by
  obtain ⟨best, hfold⟩ := foldl_update_eq (concatenateGuids check) roles check s
  rw [hfold]
  refine ⟨⟨hs.cached.recorded, hs.cached.sorted, fun other hother => ?_, fun other hother => ?_,
    fun other hother => ?_, fun other hother hwait => ?_⟩, fun guid hguid => ?_⟩
  · refine mem_insertKey.mpr ?_
    by_cases heq : other = concatenateGuids check
    · exact Or.inl heq
    · exact Or.inr (hs.cached.listed other ((if_neg heq).symm.trans_ne hother))
  · rcases mem_insertKey.mp hother with rfl | hother
    · exact hlist.bounded
    · exact hs.cached.bounded other hother
  · rcases mem_insertKey.mp hother with rfl | hother
    · exact hlist.members
    · exact hs.cached.members other hother
  · change s.mgr.Assigns other
      (Function.update s.compatibleRoles (concatenateGuids check) roles other)
    rw [Function.update_apply]
    split
    · next heq =>
      rw [heq]
      exact hassigns
    · next heq =>
      have hold := (mem_insertKey.mp hother).resolve_left heq
      exact hs.cached.assigned other hold ((if_neg heq).symm.trans hwait)
  · change (best guid).bestCompatible = ∅ ∨ _
    change (s.mgr.queueDataStore guid).isSome at hguid
    rcases foldl_update_best _ _ _ best hfold guid with heq | ⟨hmem, hbest, hneeds⟩
    · refine (heq ▸ hs.whole guid hguid).imp_right fun h => ?_
      change Shows _ guid (best guid)
      refine Shows.congr h ?_ ?_ ?_
      · rfl
      · exact mem_insertKey.mpr (Or.inr h.cached)
      · -- an old best key that is checked again gets the roles it had
        change Function.update s.compatibleRoles (concatenateGuids check) roles _ = _
        rw [Function.update_apply]
        split
        · next hkey => exact hassigns.unique (hkey ▸ h.assigned)
        · rfl
    · refine Or.inr ?_
      change Shows _ guid (best guid)
      have hroles : Function.update s.compatibleRoles (concatenateGuids check) roles
          (best guid).bestCompatible = roles := by rw [hbest, Function.update_self]
      exact
        { cached := mem_insertKey.mpr (Or.inl hbest)
          member := by rw [hbest]; exact List.mem_toFinset.mpr hmem
          queued := by rw [hbest]; exact hlist.members
          assigned := by
            change s.mgr.Assigns _
              (Function.update s.compatibleRoles (concatenateGuids check) roles _)
            rw [hroles, hbest]
            exact hassigns
          needs := by
            change (best guid).Needs
              (Function.update s.compatibleRoles (concatenateGuids check) roles _)
            rw [hroles]
            exact hneeds }

theorem recorded_propose (hs : s.Consistent) (proposal : LfgProposal) :
    ((s.mgr.markNotQueued check).addProposal proposal).Recorded := by
  intro guid hguid
  rw [LFGMgr.addProposal, LFGMgr.markNotQueued_eq] at hguid ⊢
  exact hs.cached.recorded guid ((List.filter_sublist.append List.filter_sublist).subset hguid)

theorem Consistent.finishCheck (hs : s.Consistent) (hlist : s.Listable check)
    (hassigns : s.mgr.Assigns (concatenateGuids check) roles) (numPlayers numLfgGroups : ℕ)
    (group : ObjectGuid) :
    (s.finishCheck check numPlayers numLfgGroups group roles).2.Consistent := by
  rw [LFGQueue.finishCheck]
  dsimp only
  split
  · exact hs.lessPlayers hlist hassigns
  · split
    · exact hs.setCompatibles _ (by decide) hlist.bounded hlist.members
    · refine Consistent.setCompatibles ?_ _ (by decide) hlist.bounded ?_
      · refine hs.congr ?_ ?_ (recorded_propose hs _)
        · rw [LFGMgr.markNotQueued_eq]
          rfl
        · rw [LFGMgr.markNotQueued_eq]
          rfl
      · intro guid hguid
        rw [LFGMgr.markNotQueued_eq]
        exact hlist.members guid hguid

theorem Consistent.checkPlayers (hs : s.Consistent) (hlist : s.Listable check) :
    (s.checkPlayers check).2.Consistent := by
  have hrefused (compatibles : LfgCompatibility)
      (hless : compatibles ≠ LFG_COMPATIBLES_WITH_LESS_PLAYERS) :
      (s.setCompatibles (concatenateGuids check) compatibles).Consistent :=
    hs.setCompatibles compatibles hless hlist.bounded hlist.members
  have hsingle (hlength : check.length = 1) : s.mgr.Assigns (concatenateGuids check)
      (checkGroupRoles (s.mgr.queueData (check.headD 0)).roles).2 := by
    obtain ⟨guid, rfl⟩ := List.length_eq_one_iff.mp hlength
    exact LFGMgr.assigns_single (hs.cached.sorted guid)
  rw [LFGQueue.checkPlayers]
  cases hcount : s.mgr.countPlayers check 0 0 0 with
  | missing guid =>
    obtain ⟨hmem, hnone⟩ := LFGMgr.countPlayers_missing hcount
    have := hlist.data guid hmem
    rw [hnone] at this
    cases this
  | counted p n group =>
    dsimp only
    split
    · next hone =>
      have hless := hs.lessPlayers hlist (hsingle hone.1)
      obtain ⟨guid, rfl⟩ := List.length_eq_one_iff.mp hone.1
      exact hless
    · split
      · exact hrefused _ (by decide)
      · next hgroups =>
        split
        · exact hrefused _ (by decide)
        · next hmany =>
          obtain ⟨-, hp, -⟩ :=
            LFGMgr.countPlayers_counted hcount (not_lt.mp hmany) (not_lt.mp hgroups)
          rw [Nat.zero_add] at hp
          split
          · rw [checkSeveral]
            dsimp only
            split
            · exact hrefused _ (by decide)
            · next happart =>
              split
              · exact hrefused _ (by decide)
              · split
                · exact hrefused _ (by decide)
                · refine hs.finishCheck hlist (LFGMgr.assigns_several ?_) _ _ _
                  rw [← hp]
                  exact not_not.mp happart
          · next hseveral =>
            have hpos := List.length_pos_of_ne_nil hlist.ne_nil
            exact hs.finishCheck hlist (hsingle (by omega)) _ _ _

theorem checkCompatibility_data :
    (s.checkCompatibility check).2.mgr.queueDataStore = s.mgr.queueDataStore := by
  have heq := congrArg Prod.snd (@checkCompatibility_mgr s check)
  change (s.checkCompatibility check).2.mgr = _ at heq
  rw [heq]
  exact LFGMgr.checkCompatibility_settles.frame.data

theorem Consistent.checkCompatibility (hs : s.Consistent)
    (hdata : ∀ guid ∈ check, (s.mgr.queueDataStore guid).isSome) :
    (s.checkCompatibility check).2.Consistent := by
  induction check generalizing s with
  | nil => exact hs
  | cons front check ih =>
    rw [LFGQueue.checkCompatibility]
    split
    · exact hs
    · next hlength =>
      have hlist : s.Listable (front :: check) :=
        ⟨List.cons_ne_nil _ _, not_lt.mp hlength, hdata⟩
      split
      · have hchild := ih hs fun guid hguid => hdata guid (List.mem_cons_of_mem front hguid)
        have hlist' : (s.checkCompatibility check).2.Listable (front :: check) :=
          ⟨hlist.ne_nil, hlist.length, by rw [checkCompatibility_data]; exact hdata⟩
        dsimp only
        split
        · next hless =>
          refine hchild.setCompatibles _ (fun heq => ?_) hlist'.bounded hlist'.members
          rw [heq] at hless
          revert hless
          decide
        · exact hchild.checkPlayers hlist'
      · exact hs.checkPlayers hlist

theorem checkCompatibility_long (h : MAXGROUPSIZE < check.length) :
    (s.checkCompatibility check).1 = LFG_INCOMPATIBLES_WRONG_GROUP_SIZE := by
  cases check with
  | nil => rfl
  | cons front check =>
    rw [List.length_cons] at h
    rw [LFGQueue.checkCompatibility, if_pos h]

theorem lookUp_data : (s.lookUp check).2.mgr.queueDataStore = s.mgr.queueDataStore := by
  have heq := congrArg Prod.snd (@lookUp_mgr s check)
  change (s.lookUp check).2.mgr = _ at heq
  rw [heq]
  exact LFGMgr.lookUp_settles.frame.data

theorem matchQueued_data (fuel : ℕ) (s : LFGQueue) (check all : GuidList) :
    (matchQueued fuel s check all).2.1.mgr.queueDataStore = s.mgr.queueDataStore := by
  have heq := congrArg (fun r => r.2.1) (matchQueued_mgr fuel s check all)
  change (matchQueued fuel s check all).2.1.mgr = _ at heq
  rw [heq]
  exact (LFGMgr.matchQueued_settles fuel s.mgr check all).frame.data

theorem Consistent.lookUp (hs : s.Consistent) (hne : check ≠ [])
    (hdata : ∀ guid ∈ check, (s.mgr.queueDataStore guid).isSome) :
    (s.lookUp check).2.Consistent := by
  have hmembers : ∀ guid ∈ concatenateGuids check, (s.mgr.queueDataStore guid).isSome :=
    fun guid hguid => hdata guid (List.mem_toFinset.mp hguid)
  rw [LFGQueue.lookUp]
  dsimp only
  by_cases hcached : s.mgr.getCompatibles (concatenateGuids check) = LFG_COMPATIBILITY_PENDING
  · rw [if_pos hcached]
    have hchecked := hs.checkCompatibility hdata
    split
    · next hbad =>
      have hlength : check.length ≤ MAXGROUPSIZE := by
        by_contra hlong
        rw [checkCompatibility_long (not_le.mp hlong)] at hbad
        exact absurd hbad.1 (by decide)
      refine hchecked.setCompatibles _ (by decide)
        (Listable.bounded ⟨hne, hlength, hdata⟩) fun guid hguid => ?_
      rw [checkCompatibility_data]
      exact hmembers guid hguid
    · exact hchecked
  · rw [if_neg hcached]
    split
    · exact hs.setCompatibles _ (by decide)
        (hs.cached.bounded _ (hs.cached.listed _ hcached)) hmembers
    · exact hs

theorem Consistent.matchQueued (fuel : ℕ) (hs : s.Consistent) (hne : check ≠ [])
    (hdata : ∀ guid ∈ check ++ all, (s.mgr.queueDataStore guid).isSome) :
    (matchQueued fuel s check all).2.1.Consistent ∧
      ∀ guid ∈ (LFGQueue.matchQueued fuel s check all).2.2, guid ∈ all := by
  induction fuel generalizing s check all with
  | zero => exact ⟨hs, fun _ h => h⟩
  | succ fuel ih =>
    cases all with
    | nil => exact ⟨hs, fun _ h => h⟩
    | cons front all =>
      have hne' : check ++ [front] ≠ [] :=
        List.append_ne_nil_of_right_ne_nil _ (List.cons_ne_nil _ _)
      have hdata' : ∀ guid ∈ (check ++ [front]) ++ all, (s.mgr.queueDataStore guid).isSome := by
        rwa [List.append_assoc, List.singleton_append]
      have hlook := hs.lookUp hne' fun guid hguid => hdata' guid (List.mem_append_left all hguid)
      -- the call on the longer list, and then the rest of the loop
      have hrest (r : LfgCompatibility × LFGQueue × GuidList) (hr : r.2.1.Consistent)
          (hsame : r.2.1.mgr.queueDataStore = s.mgr.queueDataStore)
          (hsub : ∀ guid ∈ r.2.2, guid ∈ all) :
          (if r.1 = LFG_COMPATIBLES_MATCH then (LFG_COMPATIBLES_MATCH, r.2.1, r.2.2)
            else LFGQueue.matchQueued fuel r.2.1 check r.2.2).2.1.Consistent ∧
          ∀ guid ∈ (if r.1 = LFG_COMPATIBLES_MATCH then (LFG_COMPATIBLES_MATCH, r.2.1, r.2.2)
            else LFGQueue.matchQueued fuel r.2.1 check r.2.2).2.2, guid ∈ front :: all := by
        split
        · exact ⟨hr, fun guid hguid => List.mem_cons_of_mem front (hsub guid hguid)⟩
        · obtain ⟨hconsistent, hsub'⟩ := ih hr hne fun guid hguid => by
            rw [hsame]
            refine hdata guid (List.mem_append.mpr ?_)
            exact (List.mem_append.mp hguid).imp_right fun h =>
              List.mem_cons_of_mem front (hsub guid h)
          exact ⟨hconsistent, fun guid hguid =>
            List.mem_cons_of_mem front (hsub guid (hsub' guid hguid))⟩
      rw [LFGQueue.matchQueued]
      dsimp only
      split
      · obtain ⟨hcalled, hsub⟩ := ih hlook hne' (by rw [lookUp_data]; exact hdata')
        exact hrest _ hcalled ((matchQueued_data _ _ _ _).trans lookUp_data) hsub
      · exact hrest (_, _, all) hlook lookUp_data fun _ h => h

theorem Consistent.findNewGroups (hs : s.Consistent) (hne : check ≠ [])
    (hdata : ∀ guid ∈ check ++ all, (s.mgr.queueDataStore guid).isSome) :
    (s.findNewGroups check all).2.1.Consistent := by
  have hlook := hs.lookUp hne fun guid hguid => hdata guid (List.mem_append_left all hguid)
  rw [LFGQueue.findNewGroups]
  split
  · exact (hlook.matchQueued all.length hne (by rw [lookUp_data]; exact hdata)).1
  · exact hlook

theorem findNewGroups_data :
    (s.findNewGroups check all).2.1.mgr.queueDataStore = s.mgr.queueDataStore := by
  have heq := congrArg (fun r => r.2.1) (@findNewGroups_mgr s check all)
  change (s.findNewGroups check all).2.1.mgr = _ at heq
  rw [heq]
  exact (LFGMgr.findNewGroups_settles s.mgr check all).frame.data

theorem Consistent.findGroupsRound (hs : s.Consistent) {frontguid : ObjectGuid}
    (hfront : frontguid ∈ s.mgr.newToQueueStore) :
    (s.findGroupsRound frontguid).2.Consistent := by
  have hfrontData := hs.cached.recorded frontguid (List.mem_append_left _ hfront)
  have hremoved : Consistent { s with mgr := s.mgr.removeFromNewQueue frontguid } := by
    refine hs.congr rfl rfl fun guid hguid => hs.cached.recorded guid ?_
    exact (List.filter_sublist.append (List.Sublist.refl _)).subset hguid
  have hdata : ∀ guid ∈ [frontguid] ++ s.mgr.currentQueueStore,
      (s.mgr.queueDataStore guid).isSome := by
    intro guid hguid
    rcases List.mem_append.mp hguid with hguid | hguid
    · rw [List.mem_singleton.mp hguid]
      exact hfrontData
    · exact hs.cached.recorded guid (List.mem_append_right _ hguid)
  have hfound := hremoved.findNewGroups (List.cons_ne_nil _ _) hdata
  rw [LFGQueue.findGroupsRound]
  dsimp only
  split
  · exact hfound
  · refine hfound.congr rfl rfl fun guid hguid => ?_
    change guid ∈ _ ++ (_ ++ [frontguid]) at hguid
    rw [← List.append_assoc] at hguid
    rcases List.mem_append.mp hguid with hguid | hguid
    · exact hfound.cached.recorded guid hguid
    · rw [List.mem_singleton.mp hguid]
      change ((LFGQueue.findNewGroups _ _ _).2.1.mgr.queueDataStore frontguid).isSome
      rw [findNewGroups_data]
      exact hfrontData

theorem Consistent.findGroupsLoop (hs : s.Consistent) (fuel : ℕ) (proposals : UInt8) :
    (findGroupsLoop fuel s proposals).2.Consistent := by
  induction fuel generalizing s proposals with
  | zero => exact hs
  | succ fuel ih =>
    rw [LFGQueue.findGroupsLoop]
    cases hnew : s.mgr.newToQueueStore with
    | nil => exact hs
    | cons frontguid rest =>
      exact ih (hs.findGroupsRound (by rw [hnew]; exact List.mem_cons_self)) _

theorem findGroupsRound_data (frontguid : ObjectGuid) :
    (s.findGroupsRound frontguid).2.mgr.queueDataStore = s.mgr.queueDataStore := by
  rw [LFGQueue.findGroupsRound]
  dsimp only
  split
  · exact findNewGroups_data
  · exact findNewGroups_data

theorem findGroupsLoop_data (fuel : ℕ) (s : LFGQueue) (proposals : UInt8) :
    (findGroupsLoop fuel s proposals).2.mgr.queueDataStore = s.mgr.queueDataStore := by
  induction fuel generalizing s proposals with
  | zero => rfl
  | succ fuel ih =>
    rw [LFGQueue.findGroupsLoop]
    cases s.mgr.newToQueueStore with
    | nil => rfl
    | cons frontguid rest => exact (ih _ _).trans (findGroupsRound_data frontguid)

end Matching

/-! ## 8. The other steps -/

theorem Consistent.setData (hs : s.Consistent) (data : LfgQueueData) {mgr : LFGMgr}
    (hsorted : SortedKeys data.roles)
    (hroles : ∀ key ∈ s.compatibleKeys, guid ∈ key → data.roles = (s.mgr.queueData guid).roles)
    (hdata : mgr.queueDataStore = Function.update s.mgr.queueDataStore guid (some data))
    (hcache : mgr.compatibleMapStore = s.mgr.compatibleMapStore) (hrecorded : mgr.Recorded) :
    Consistent { s with mgr, best := Function.update s.best guid LfgBest.start } := by
  have hcompatibles (key : Finset ObjectGuid) :
      mgr.getCompatibles key = s.mgr.getCompatibles key := by
    rw [LFGMgr.getCompatibles, LFGMgr.getCompatibles, hcache]
  have hnew : mgr.queueData guid = data := by
    rw [LFGMgr.queueData, hdata, Function.update_self, Option.getD_some]
  have hold (other : ObjectGuid) (hother : other ≠ guid) :
      mgr.queueData other = s.mgr.queueData other := by
    rw [LFGMgr.queueData, LFGMgr.queueData, hdata, Function.update_of_ne hother]
  have hsome (other : ObjectGuid) (hother : (s.mgr.queueDataStore other).isSome) :
      (mgr.queueDataStore other).isSome := by
    rw [hdata, Function.update_apply]
    split
    · rfl
    · exact hother
  have hselected (key : Finset ObjectGuid) (hkey : key ∈ s.compatibleKeys) :
      ∀ other ∈ key, (mgr.queueData other).roles = (s.mgr.queueData other).roles := by
    intro other hother
    by_cases heq : other = guid
    · subst heq
      rw [hnew]
      exact hroles key hkey hother
    · rw [hold other heq]
  refine ⟨⟨hrecorded, fun other => ?_, fun key hkey => ?_, hs.cached.bounded,
    fun key hkey other hother => hsome other (hs.cached.members key hkey other hother),
    fun key hkey hless => ?_⟩, fun other hother => ?_⟩
  · change SortedKeys (mgr.queueData other).roles
    by_cases heq : other = guid
    · rw [heq, hnew]
      exact hsorted
    · rw [hold other heq]
      exact hs.cached.sorted other
  · rw [hcompatibles] at hkey
    exact hs.cached.listed key hkey
  · rw [hcompatibles] at hless
    exact (hs.cached.assigned key hkey hless).congr (hselected key hkey)
  · dsimp only
    by_cases heq : other = guid
    · subst heq
      exact Or.inl (by rw [Function.update_self]; rfl)
    · rw [Function.update_of_ne heq]
      change (mgr.queueDataStore other).isSome at hother
      rw [hdata, Function.update_of_ne heq] at hother
      refine (hs.whole other hother).imp_right fun h => ⟨h.cached, h.member,
        fun member hmember => ?_, h.assigned.congr (hselected _ h.cached), h.needs⟩
      exact hsome member (h.queued member hmember)

theorem Consistent.addQueueData (hs : s.Consistent) (data : LfgQueueData)
    (hsorted : SortedKeys data.roles)
    (hroles : ∀ key ∈ s.compatibleKeys, guid ∈ key → data.roles = (s.mgr.queueData guid).roles) :
    (s.addQueueData guid data).Consistent := by
  have hadd : s.mgr.addQueueData guid data = LFGMgr.addToNewQueue
      { s.mgr with queueDataStore := Function.update s.mgr.queueDataStore guid (some data) }
      guid := by
    rw [LFGMgr.addQueueData, LFGMgr.addToQueue]
    simp
  refine hs.setData data hsorted hroles ?_ ?_
    (LFGMgr.recorded_addQueueData hs.cached.recorded guid data)
  · rw [hadd]
    rfl
  · rw [hadd]
    rfl

theorem Consistent.getJoinTime (hs : s.Consistent) : (s.getJoinTime guid).Consistent := by
  rw [LFGQueue.getJoinTime]
  split
  · exact hs
  · next hnone =>
    refine hs.setData default List.Pairwise.nil (fun key hkey hmem => ?_) rfl rfl ?_
    · exact absurd (hs.cached.members key hkey guid hmem) hnone
    · exact LFGMgr.recorded_update hs.cached.recorded guid default

theorem Consistent.addToQueue (hs : s.Consistent) (reAdd : Bool) :
    Consistent { s with mgr := s.mgr.addToQueue guid reAdd } := by
  refine hs.congr ?_ ?_ (LFGMgr.recorded_addToQueue hs.cached.recorded guid reAdd)
  · rw [LFGMgr.addToQueue]
    split
    · rfl
    · split <;> rfl
  · rw [LFGMgr.addToQueue]
    split
    · rfl
    · split <;> rfl

theorem Consistent.updateQueueTimers (hs : s.Consistent)
    (hok : ∀ guid, (s.mgr.queueDataStore guid).isSome → (s.best guid).bestCompatible = ∅ →
      s.FindsMember guid) : s.updateQueueTimers.Consistent := by
  have hcached : s.updateQueueTimers.Cached :=
    ⟨hs.cached.recorded, hs.cached.sorted, hs.cached.listed, hs.cached.bounded, hs.cached.members,
      hs.cached.assigned⟩
  refine ⟨hcached, fun guid hguid => ?_⟩
  change (s.mgr.queueDataStore guid).isSome at hguid
  by_cases hempty : (s.best guid).bestCompatible = ∅
  · have hbest : s.updateQueueTimers.best guid =
        s.updateQueueTimers.findBestCompatibleInQueue guid (s.best guid) :=
      if_pos (by simp [hguid, hempty])
    rw [hbest]
    exact findBest_shows hcached (hok guid hguid hempty) hempty
  · have hbest : s.updateQueueTimers.best guid = s.best guid := if_neg (by simp [hempty])
    rw [hbest]
    exact (hs.whole guid hguid).imp_right fun h => h.congr rfl h.cached rfl

/-! ### The removal -/

theorem removeFromQueue_cached (hs : s.Cached) (guid : ObjectGuid) :
    (s.removeFromQueue guid).Cached := by
  have hkeys (key : Finset ObjectGuid) : key ∈ (s.removeFromQueue guid).compatibleKeys ↔
      key ∈ s.compatibleKeys ∧ written guid key = false := by
    refine List.mem_filter.trans (and_congr_right fun _ => ?_)
    rw [Bool.not_eq_true']
  have hcompatibles (key : Finset ObjectGuid) (hkey : written guid key = false) :
      (s.removeFromQueue guid).mgr.getCompatibles key = s.mgr.getCompatibles key := by
    refine if_neg fun h => ?_
    rw [written_iff.mpr h] at hkey
    cases hkey
  have hdata (other : ObjectGuid) (hother : other ≠ guid) :
      (s.removeFromQueue guid).mgr.queueDataStore other = s.mgr.queueDataStore other :=
    Function.update_of_ne hother _ _
  have hne (key : Finset ObjectGuid) (hkey : written guid key = false) :
      ∀ other ∈ key, other ≠ guid := by
    rintro other hother rfl
    rw [written_of_mem hother] at hkey
    cases hkey
  refine ⟨LFGMgr.recorded_removeFromQueue hs.recorded guid, fun other => ?_, fun key hkey => ?_,
    fun key hkey => hs.bounded key ((hkeys key).mp hkey).1, fun key hkey other hother => ?_,
    fun key hkey hless => ?_⟩
  · by_cases heq : other = guid
    · have hnone : (s.removeFromQueue guid).mgr.queueDataStore other = none := by
        rw [heq]
        exact Function.update_self _ _ _
      rw [LFGMgr.queueData, hnone]
      exact List.Pairwise.nil
    · rw [LFGMgr.queueData, hdata other heq]
      exact hs.sorted other
  · cases hwritten : written guid key with
    | true => exact absurd (if_pos (written_iff.mp hwritten)) hkey
    | false =>
      rw [hcompatibles key hwritten] at hkey
      exact (hkeys key).mpr ⟨hs.listed key hkey, hwritten⟩
  · obtain ⟨hmem, hwritten⟩ := (hkeys key).mp hkey
    rw [hdata other (hne key hwritten other hother)]
    exact hs.members key hmem other hother
  · obtain ⟨hmem, hwritten⟩ := (hkeys key).mp hkey
    rw [hcompatibles key hwritten] at hless
    have hroles : (s.removeFromQueue guid).compatibleRoles key = s.compatibleRoles key :=
      if_neg (by simp [hwritten])
    rw [hroles]
    refine (hs.assigned key hmem hless).congr fun other hother => ?_
    rw [LFGMgr.queueData, LFGMgr.queueData, hdata other (hne key hwritten other hother)]

theorem RemovalOk.erasesExactly (h : s.RemovalOk guid) : s.ErasesExactly guid where
  keys := by
    refine List.filter_congr fun key hkey => ?_
    by_cases hmem : guid ∈ key
    · simp [hmem, written_of_mem hmem]
    · have hwritten : written guid key = false :=
        Bool.eq_false_iff.mpr fun hw => hmem (h.keys key hkey hw)
      simp [hmem, hwritten]
  kept := by
    intro key hkey hmem
    have hwritten : ¬ written guid key = true := fun hw => hmem (h.keys key hkey hw)
    exact ⟨if_neg fun hw => hwritten (written_iff.mpr hw), if_neg hwritten⟩

theorem Consistent.removeFromQueue (hs : s.Consistent) (hok : s.RemovalOk guid) :
    (s.removeFromQueue guid).Consistent := by
  have hcached := removeFromQueue_cached hs.cached guid
  refine ⟨hcached, fun other hother => ?_⟩
  have hne : other ≠ guid := by
    rintro rfl
    have hnone : (s.removeFromQueue other).mgr.queueDataStore other = none :=
      Function.update_self _ _ _
    rw [hnone] at hother
    cases hother
  have hdata : (s.mgr.queueDataStore other).isSome := by
    have hsame : (s.removeFromQueue guid).mgr.queueDataStore other = s.mgr.queueDataStore other :=
      Function.update_of_ne hne _ _
    rwa [hsame] at hother
  have hbest : (s.removeFromQueue guid).best other =
      if (s.mgr.queueDataStore other).isSome && written guid (s.best other).bestCompatible then
        (s.removeFromQueue guid).findBestCompatibleInQueue other
          { s.best other with bestCompatible := ∅ }
      else s.best other := if_neg hne
  rw [hbest]
  split
  · next hfound =>
    have hwritten := (Bool.and_eq_true_iff.mp hfound).2
    exact findBest_shows hcached (hok.best other hne hdata hwritten) rfl
  · next hkept =>
    have hwritten : written guid (s.best other).bestCompatible = false := by
      rw [hdata, Bool.true_and] at hkept
      exact Bool.eq_false_iff.mpr hkept
    refine (hs.whole other hdata).imp_right fun h => ?_
    have hmem : (s.best other).bestCompatible ∈ (s.removeFromQueue guid).compatibleKeys :=
      List.mem_filter.mpr ⟨h.cached, by simp [hwritten]⟩
    have hroles : (s.removeFromQueue guid).compatibleRoles (s.best other).bestCompatible =
        s.compatibleRoles (s.best other).bestCompatible := if_neg (by simp [hwritten])
    refine ⟨hmem, h.member, hcached.members _ hmem, ?_, by rw [hroles]; exact h.needs⟩
    rw [hroles]
    refine h.assigned.congr fun member hmember => ?_
    have hmember' : member ≠ guid := by
      rintro rfl
      rw [written_of_mem hmember] at hwritten
      cases hwritten
    have hsame : (s.removeFromQueue guid).mgr.queueDataStore member = s.mgr.queueDataStore member :=
      Function.update_of_ne hmember' _ _
    rw [LFGMgr.queueData, LFGMgr.queueData, hsame]

/-! ## 9. Every run -/

theorem step_consistent (s : LFGQueue) (e : Event) (hs : s.Consistent) (h : s.StepOk e) :
    (s.step e).Consistent := by
  cases e with
  | addQueueData guid data => exact hs.addQueueData data.1 data.2 h
  | addToQueue guid reAdd => exact hs.addToQueue reAdd
  | removeFromQueue guid => exact hs.removeFromQueue h
  | findGroups => exact hs.findGroupsLoop _ _
  | updateQueueTimers => exact hs.updateQueueTimers h
  | getJoinTime guid => exact hs.getJoinTime
  | elsewhere mgr => exact hs.congr rfl rfl hs.cached.recorded

/-- What every step should do: erase the right keys if it is a removal. -/
def ErasesRight (s : LFGQueue) : Event → Prop
  | .removeFromQueue guid => s.ErasesExactly guid
  | _ => True

/-- **In a run whose steps go right the keys name whole guids**: every removal erases exactly the
entries with the guid, and in every state every best key is empty, or a key of queued guids that
has its owner, with what the roles assigned for it leave. -/
theorem exec_keysWhole (evs : List Event) (h : Steps step StepOk start evs) :
    States step KeysWhole start evs ∧ Steps step ErasesRight start evs := by
  refine ⟨(States.of_steps step_consistent start_consistent h).imp fun _ hs => hs.whole,
    h.imp fun s e hok => ?_⟩
  cases e with
  | removeFromQueue guid => exact hok.erasesExactly
  | _ => trivial

def joins (guid : ObjectGuid) (dungeon : ℕ) (role : UInt8) : Event :=
  .addQueueData guid ⟨⟨[dungeon], [(guid, role)]⟩, List.pairwise_singleton _ _⟩

/-- Two players find each other, and one of them leaves. -/
def twoJoin : List Event :=
  [joins 1 1 PLAYER_ROLE_TANK, joins 2 1 PLAYER_ROLE_HEALER, .findGroups]

theorem exec_keysWhole_twoJoin :
    States step KeysWhole start (twoJoin ++ [.removeFromQueue 1]) ∧
      Steps step ErasesRight start (twoJoin ++ [.removeFromQueue 1]) := by
  refine exec_keysWhole _ ⟨nofun, nofun, trivial, ⟨?_, ?_⟩, trivial⟩
  · have hkeys : (exec step start twoJoin).compatibleKeys = [{1}, {1, 2}, {2}] := by decide +kernel
    intro key hkey hwritten
    change key ∈ (exec step start twoJoin).compatibleKeys at hkey
    rw [hkeys] at hkey
    simp only [List.mem_cons, List.not_mem_nil, or_false] at hkey
    rcases hkey with rfl | rfl | rfl
    · decide
    · decide
    · exact absurd hwritten (by decide)
  · intro other hne hdata _
    have hsame : (exec step start twoJoin).mgr.queueDataStore =
        (exec step start (twoJoin.take 2)).mgr.queueDataStore := findGroupsLoop_data _ _ _
    change ((exec step start twoJoin).mgr.queueDataStore other).isSome at hdata
    rw [hsame] at hdata
    have htwo : other = 2 := by
      by_contra hother
      have hnone : (exec step start (twoJoin.take 2)).mgr.queueDataStore other = none :=
        (Function.update_of_ne hother _ _).trans (Function.update_of_ne hne _ _)
      rw [hnone] at hdata
      cases hdata
    subst htwo
    have hcandidates :
        ((exec step start twoJoin).removeFromCompatibles 1).candidates 2 = [{2}] := by
      decide +kernel
    intro key hkey hnot
    change key ∈ ((exec step start twoJoin).removeFromCompatibles 1).candidates 2 at hkey
    rw [hcandidates, List.mem_singleton] at hkey
    exact absurd (by rw [hkey]; exact Finset.mem_singleton_self _) hnot

/-- `11` has been checked, `1` comes and leaves. -/
def elevenAndOne : List Event :=
  [joins 11 1 PLAYER_ROLE_TANK, .findGroups, joins 1 1 PLAYER_ROLE_HEALER, .findGroups]

/-- `11` and `3` go together, and `1` and `5` do. -/
def twoPairs : List Event :=
  [joins 11 1 PLAYER_ROLE_TANK, joins 3 1 PLAYER_ROLE_HEALER, joins 1 2 PLAYER_ROLE_TANK,
    joins 5 2 PLAYER_ROLE_HEALER, .findGroups]

/-- When `1` leaves, the key of `11` goes too; and when `5` leaves, `1` is shown `3|11`. -/
theorem exec_misnames :
    ¬ Steps step ErasesRight start (elevenAndOne ++ [.removeFromQueue 1]) ∧
      ¬ States step KeysWhole start (twoPairs ++ [.removeFromQueue 5]) := by
  constructor
  · intro h
    have herases : (exec step start elevenAndOne).ErasesExactly 1 :=
      (Steps.append_iff.mp h).2.1
    have hkeys : (exec step start elevenAndOne).compatibleKeys = [{1}, {11}, {1, 11}] := by
      decide +kernel
    have hnone : ((exec step start elevenAndOne).removeFromQueue 1).compatibleKeys = [] := by
      decide +kernel
    have hleft := herases.keys
    rw [hnone, hkeys] at hleft
    exact absurd hleft (by decide)
  · intro h
    have hwhole := h.exec 1 (by decide +kernel)
    have hbest : ((exec step start (twoPairs ++ [.removeFromQueue 5])).best 1).bestCompatible =
        {3, 11} := by decide +kernel
    rcases hwhole with hempty | hshows
    · rw [hbest] at hempty
      exact absurd hempty (by decide)
    · have hmember := hshows.member
      rw [hbest] at hmember
      exact absurd hmember (by decide)

end LFGQueue

end FunPvp.DungeonFinding
