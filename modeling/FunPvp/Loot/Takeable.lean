/-
# What is left in a loot

`unlootedCount` is to be the number of what can still be taken: every plain item, every conditional
item and every quest item that somebody has on his list, once, and every free for all item once for
each player who has it on his list (`Loot.takeable`).

It is counted up in `AddItem` and, under different flags, in the three filling functions, and down
whenever something is taken, whether it was still there or not. If everything that is taken is one
of the things that are left, and a quest item that gets on a list is blocked exactly when it is on
one already, the number is right (`run_unlootedCount`), as long as it fits into eight bits.
-/
import FunPvp.Loot.Stored

namespace FunPvp.Looting

open FunPvp.Lib

/-! ## 1. What can be taken -/

/-- What can be taken from a loot: an item or quest item that only one can have, or a free for all
one for a player. -/
inductive LootEntry
  | one (quest : Bool) (index : ℕ)
  | each (quest : Bool) (guid : ObjectGuid) (index : ℕ)
deriving DecidableEq

def QuestItemMap.lists (m : QuestItemMap) (index : ℕ) : Bool :=
  m.any fun e => e.2.any fun qitem => qitem.index == index

namespace Loot

/-- The lists that say who may have an item only one can have. -/
def listingsOf (l : Loot) (quest : Bool) : QuestItemMap :=
  if quest then l.playerQuestItems else l.playerNonQuestNonFFAConditionalItems

/-- An item only one can have is left, and there for everybody or on somebody's list. -/
def takeableOnce (l : Loot) (quest : Bool) (index : ℕ) : Bool :=
  ((l.itemsOf quest)[index]?).any fun item =>
    !item.freeforall && !item.isLooted &&
      ((!quest && item.conditions.isEmpty) || (l.listingsOf quest).lists index)

/-- The items of one kind only one can have, that are left. -/
def takeableOnes (l : Loot) (quest : Bool) : List LootEntry :=
  ((List.range (l.itemsOf quest).length).filter (l.takeableOnce quest)).map (.one quest)

/-- The free for all items of one kind that are left for the players who have them on a list. -/
def takeableEach (l : Loot) (quest : Bool) : List LootEntry :=
  (l.listsOf quest).flatMap fun e =>
    (e.2.filter fun qitem => !qitem.isLooted &&
      ((l.itemsOf quest)[qitem.index]?).any LootItem.freeforall).map
        fun qitem => .each quest e.1 qitem.index

def takeable (l : Loot) : List LootEntry :=
  l.takeableOnes false ++ l.takeableOnes true ++ l.takeableEach false ++ l.takeableEach true

def SlotItem.entry (s : SlotItem) (guid : ObjectGuid) : LootEntry :=
  if s.item.freeforall then .each s.quest guid s.index else .one s.quest s.index

/-! ## 2. The condition -/

def newQuest (l : Loot) (p : Looter) : List LootEntry :=
  (l.questSlots p).filterMap fun k =>
    if (l.questItems[k]?).any LootItem.freeforall then some (.each true p.guid k)
    else if l.playerQuestItems.lists k then none
    else some (.one true k)

def newFFA (l : Loot) (p : Looter) : List LootEntry := (l.ffaSlots p).map (.each false p.guid)

def newConditional (l : Loot) (p : Looter) : List LootEntry :=
  ((l.conditionalSlots p).filter fun k => !l.playerNonQuestNonFFAConditionalItems.lists k).map
    (.one false)

/-- A quest list is counted right: the quest items on it that only one can have are blocked exactly
when they are on a list already, and the number does not get too big. -/
def questCounted (l : Loot) (p : Looter) : Bool :=
  ((l.questSlots p).all fun k => (l.questItems[k]?).all fun item =>
    item.freeforall || item.isBlocked == l.playerQuestItems.lists k) &&
    decide (l.takeable.length + (l.newQuest p).length < 256)

def ffaCounted (l : Loot) (p : Looter) : Bool :=
  decide (l.takeable.length + (l.newFFA p).length < 256)

def conditionalCounted (l : Loot) (p : Looter) : Bool :=
  decide (l.takeable.length + (l.newConditional p).length < 256)

def fillCounted (l : Loot) (p : Looter) : Bool :=
  let quest := (l.playerQuestItems.get p.guid).isNone
  let l₁ := if quest then l.fillQuestLoot p else l
  let ffa := (l₁.playerFFAItems.get p.guid).isNone
  let l₂ := if ffa then l₁.fillFFALoot p else l₁
  (!quest || l.questCounted p) && (!ffa || l₁.ffaCounted p) &&
    ((l₂.playerNonQuestNonFFAConditionalItems.get p.guid).isSome || l₂.conditionalCounted p)

def slotTakeable (l : Loot) (slot : ℕ) : Bool :=
  if slot ≥ l.items.length then l.takeableOnce true (slot - l.items.length)
  else l.takeableOnce false slot

end Loot

/-- Whatever an event takes is left before, and whatever it puts on a list is counted right. -/
def LootState.counted (s : LootState) (e : LootEvent) : Bool :=
  s.storesMeet (fun l guid found => decide (found.entry guid ∈ l.takeable)) e &&
    match e with
    | .fill p _ _ _ => s.loot.fillCounted p
    | .masterGive slotid target canStore =>
      (s.loot.itemAt slotid.toNat).all fun item =>
        !canStore || (item.followLootRules && !target.allowed item) ||
          s.loot.slotTakeable slotid.toNat
    | .rollWon itemSlot => s.loot.slotTakeable itemSlot.toNat
    | _ => true

/-! ## 3. Members -/

/-- A player has an entry for the item that is not marked. -/
def QuestItemMap.Open (m : QuestItemMap) (guid : ObjectGuid) (index : ℕ) : Prop :=
  ∃ ql q, (guid, ql) ∈ m ∧ q ∈ ql ∧ q.index = index ∧ q.isLooted = false

/-- What counting sees of an item: whether it is free for all, has no conditions, and is taken. -/
def Loot.view (l : Loot) (quest : Bool) (index : ℕ) : Option (Bool × Bool × Bool) :=
  ((l.itemsOf quest)[index]?).map fun item =>
    (item.freeforall, item.conditions.isEmpty, item.isLooted)

namespace QuestItemMap

variable {m : QuestItemMap} {guid g : ObjectGuid} {pos index : ℕ} {ks : List ℕ}
  {ql : List QuestItem} {q : QuestItem}

theorem lists_iff : m.lists index = true ↔ ∃ e ∈ m.indices, index ∈ e.2 := by
  simp [lists, indices]

@[simp] theorem lists_take (m : QuestItemMap) (guid : ObjectGuid) (pos index : ℕ) :
    (m.take guid pos).lists index = m.lists index := by
  rw [Bool.eq_iff_iff, lists_iff, lists_iff, indices_take]

theorem lists_add : (m.add guid ks).lists index = true ↔ m.lists index = true ∨ index ∈ ks := by
  rw [lists_iff, lists_iff, indices_add, addIndices]
  split
  · rename_i hnil
    simp [hnil]
  · simp [or_comm]

theorem open_add : (m.add guid ks).Open g index ↔ m.Open g index ∨ g = guid ∧ index ∈ ks := by
  rw [add]
  split
  · rename_i hnil
    simp [hnil]
  · constructor
    · rintro ⟨ql, q, hmem, hq, hindex, hfree⟩
      rcases List.mem_cons.mp hmem with heq | hmem
      · obtain ⟨rfl, rfl⟩ := Prod.mk.inj heq
        obtain ⟨k, hk, rfl⟩ := List.mem_map.mp hq
        exact Or.inr ⟨rfl, hindex ▸ hk⟩
      · exact Or.inl ⟨ql, q, hmem, hq, hindex, hfree⟩
    · rintro (⟨ql, q, hmem, hq, hindex, hfree⟩ | ⟨rfl, hk⟩)
      · exact ⟨ql, q, List.mem_cons_of_mem _ hmem, hq, hindex, hfree⟩
      · exact ⟨_, ⟨index, false⟩, List.mem_cons_self, List.mem_map_of_mem hk, rfl, rfl⟩

theorem not_open_of_get (h : m.get guid = none) : ¬ m.Open guid index := by
  rintro ⟨ql, q, hmem, -⟩
  exact not_mem_of_get h (List.mem_map_of_mem hmem)

theorem eq_of_mem {ql' : List QuestItem} (hkeys : (m.map Prod.fst).Nodup) (h : (guid, ql) ∈ m)
    (h' : (guid, ql') ∈ m) : ql = ql' :=
  congrArg Prod.snd (List.inj_on_of_nodup_map hkeys h h' rfl)

theorem open_take (hkeys : (m.map Prod.fst).Nodup) (hmem : (guid, ql) ∈ m)
    (hnodup : (ql.map QuestItem.index).Nodup) (hpos : ql[pos]? = some q) :
    (m.take guid pos).Open g index ↔ m.Open g index ∧ ¬ (g = guid ∧ index = q.index) := by
  have hlt := (List.getElem?_eq_some_iff.mp hpos).1
  constructor
  · rintro ⟨ql', q', hmem', hq', rfl, hfree⟩
    obtain ⟨⟨g', ql₁⟩, hmem₁, heq⟩ := List.mem_map.mp hmem'
    split at heq
    · rename_i hguid
      obtain ⟨rfl, rfl⟩ := Prod.mk.inj heq
      obtain rfl : g' = guid := hguid
      obtain rfl : ql = ql₁ := eq_of_mem hkeys hmem hmem₁
      obtain ⟨k, hk⟩ := List.getElem?_of_mem hq'
      rw [List.getElem?_modify] at hk
      obtain ⟨q₁, hq₁, rfl⟩ := Option.map_eq_some_iff.mp hk
      have hne : pos ≠ k := by
        intro hpk
        rw [if_pos hpk] at hfree
        exact nomatch hfree
      dsimp only at hfree ⊢
      rw [if_neg hne] at hfree ⊢
      refine ⟨⟨ql, q₁, hmem, List.mem_of_getElem? hq₁, rfl, hfree⟩, fun hboth => hne ?_⟩
      -- the same index is at the same place
      have hk' := (List.getElem?_eq_some_iff.mp hq₁).1
      have hget : ∀ {j : ℕ} {q₂ : QuestItem}, ql[j]? = some q₂ →
          (ql.map QuestItem.index)[j]? = some q₂.index := fun h => by
        rw [List.getElem?_map, h, Option.map_some]
      refine (List.getElem?_inj (by rw [List.length_map]; exact hlt) hnodup).mp ?_
      rw [hget hpos, hget hq₁, hboth.2]
    · rename_i hguid
      obtain ⟨rfl, rfl⟩ := Prod.mk.inj heq
      exact ⟨⟨ql₁, q', hmem₁, hq', rfl, hfree⟩, fun hboth => hguid hboth.1⟩
  · rintro ⟨⟨ql', q', hmem', hq', rfl, hfree⟩, hne⟩
    by_cases hguid : g = guid
    · obtain rfl := hguid
      obtain rfl : ql = ql' := eq_of_mem hkeys hmem hmem'
      obtain ⟨k, hk⟩ := List.getElem?_of_mem hq'
      have hpk : pos ≠ k := by
        rintro rfl
        obtain rfl := Option.some.inj (hpos.symm.trans hk)
        exact hne ⟨rfl, rfl⟩
      refine ⟨ql.modify pos fun qitem => { qitem with isLooted := true }, q', ?_, ?_, rfl, hfree⟩
      · exact List.mem_map.mpr ⟨_, hmem, if_pos rfl⟩
      · refine List.mem_of_getElem? (i := k) ?_
        rw [List.getElem?_modify, hk]
        simp [hpk]
    · exact ⟨ql', q', List.mem_map.mpr ⟨_, hmem', if_neg hguid⟩, hq', rfl, hfree⟩

end QuestItemMap

namespace Loot

variable {l l' : Loot} {quest : Bool} {guid : ObjectGuid} {i : ℕ}

theorem takeableOnce_iff : l.takeableOnce quest i = true ↔
    ∃ plain, l.view quest i = some (false, plain, false) ∧
      (quest = false ∧ plain = true ∨ (l.listingsOf quest).lists i = true) := by
  rw [takeableOnce, view]
  cases (l.itemsOf quest)[i]? with
  | none => simp
  | some item =>
    simp only [Option.any_some, Option.map_some, Option.some.injEq, Prod.mk.injEq,
      Bool.and_eq_true, Bool.or_eq_true, Bool.not_eq_true']
    constructor
    · rintro ⟨⟨hffa, hfree⟩, hlisted⟩
      exact ⟨_, ⟨hffa, rfl, hfree⟩, hlisted⟩
    · rintro ⟨plain, ⟨hffa, rfl, hfree⟩, hlisted⟩
      exact ⟨⟨hffa, hfree⟩, hlisted⟩

theorem one_mem_takeable : LootEntry.one quest i ∈ l.takeable ↔
    l.takeableOnce quest i = true := by
  have hlt : l.takeableOnce quest i = true → i < (l.itemsOf quest).length := by
    intro h
    obtain ⟨plain, hview, -⟩ := takeableOnce_iff.mp h
    obtain ⟨item, hitem, -⟩ := Option.map_eq_some_iff.mp hview
    exact (List.getElem?_eq_some_iff.mp hitem).1
  cases quest with
  | true => simpa [takeable, takeableOnes, takeableEach] using hlt
  | false => simpa [takeable, takeableOnes, takeableEach] using hlt

theorem each_mem_takeable : LootEntry.each quest guid i ∈ l.takeable ↔
    (l.listsOf quest).Open guid i ∧ l.freeForAll (quest, i) = true := by
  have heach : LootEntry.each quest guid i ∈ l.takeableEach quest ↔
      (l.listsOf quest).Open guid i ∧ l.freeForAll (quest, i) = true := by
    simp only [takeableEach, List.mem_flatMap, List.mem_map, List.mem_filter, Bool.and_eq_true,
      Bool.not_eq_true', LootEntry.each.injEq, true_and]
    constructor
    · rintro ⟨⟨g, ql⟩, hmem, q, ⟨hq, hfree, hffa⟩, rfl, rfl⟩
      exact ⟨⟨ql, q, hmem, hq, rfl, hfree⟩, hffa⟩
    · rintro ⟨⟨ql, q, hmem, hq, rfl, hfree⟩, hffa⟩
      exact ⟨(guid, ql), hmem, q, ⟨hq, hfree, hffa⟩, rfl, rfl⟩
  rw [← heach]
  cases quest with
  | true => simp [takeable, takeableOnes, takeableEach]
  | false => simp [takeable, takeableOnes, takeableEach]

theorem WellFormed.listsOf (hl : l.WellFormed) (quest : Bool) :
    ((l.listsOf quest).map Prod.fst).Nodup ∧
      ∀ e ∈ l.listsOf quest, (e.2.map QuestItem.index).Nodup := by
  cases quest with
  | true =>
    have hkeys := hl.quest_keys
    rw [shape, QuestItemMap.keys_indices] at hkeys
    exact ⟨hkeys, fun e he => (@WellFormed.quest_of_mem _ e.1 e.2 hl he).1⟩
  | false =>
    have hkeys := hl.ffa_keys
    rw [shape, QuestItemMap.keys_indices] at hkeys
    exact ⟨hkeys, fun e he => (@WellFormed.ffa_of_mem _ e.1 e.2 hl he).1⟩

theorem nodup_takeable (hl : l.WellFormed) : l.takeable.Nodup := by
  have hones : ∀ quest, (l.takeableOnes quest).Nodup := fun quest =>
    (List.nodup_range.filter _).map fun i j h => by simpa using h
  have heach : ∀ quest, (l.takeableEach quest).Nodup := by
    intro quest
    obtain ⟨hkeys, hnodup⟩ := hl.listsOf quest
    refine List.nodup_flatMap.mpr ⟨fun e he => ?_, ?_⟩
    · have hinj : Function.Injective (LootEntry.each quest e.1) := fun i j h => by simpa using h
      rw [show (fun q : QuestItem => LootEntry.each quest e.1 q.index) =
        LootEntry.each quest e.1 ∘ QuestItem.index from rfl, ← List.map_map]
      exact ((hnodup e he).sublist (List.filter_sublist.map _)).map hinj
    · refine (List.pairwise_map.mp hkeys).imp fun {e e'} hne => ?_
      intro x hx hx'
      obtain ⟨q, -, rfl⟩ := List.mem_map.mp hx
      obtain ⟨q', -, heq⟩ := List.mem_map.mp hx'
      simp only [LootEntry.each.injEq, true_and] at heq
      exact hne heq.1.symm
  have hone_mem : ∀ {x quest}, x ∈ l.takeableOnes quest → ∃ i, x = .one quest i := by
    intro x quest hx
    obtain ⟨i, -, rfl⟩ := List.mem_map.mp hx
    exact ⟨i, rfl⟩
  have heach_mem : ∀ {x quest}, x ∈ l.takeableEach quest → ∃ guid i, x = .each quest guid i := by
    intro x quest hx
    obtain ⟨e, -, hx⟩ := List.mem_flatMap.mp hx
    obtain ⟨q, -, rfl⟩ := List.mem_map.mp hx
    exact ⟨e.1, q.index, rfl⟩
  refine List.nodup_append.mpr ⟨List.nodup_append.mpr ⟨List.nodup_append.mpr
    ⟨hones false, hones true, ?_⟩, heach false, ?_⟩, heach true, ?_⟩
  · rintro x hx _ hx' rfl
    obtain ⟨i, rfl⟩ := hone_mem hx
    obtain ⟨j, heq⟩ := hone_mem hx'
    simp at heq
  · rintro x hx _ hx' rfl
    obtain ⟨guid, i, rfl⟩ := heach_mem hx'
    rcases List.mem_append.mp hx with hx | hx
    · obtain ⟨j, heq⟩ := hone_mem hx
      exact nomatch heq
    · obtain ⟨j, heq⟩ := hone_mem hx
      exact nomatch heq
  · rintro x hx _ hx' rfl
    obtain ⟨guid, i, rfl⟩ := heach_mem hx'
    rcases List.mem_append.mp hx with hx | hx
    · rcases List.mem_append.mp hx with hx | hx
      · obtain ⟨j, heq⟩ := hone_mem hx
        exact nomatch heq
      · obtain ⟨j, heq⟩ := hone_mem hx
        exact nomatch heq
    · obtain ⟨guid', j, heq⟩ := heach_mem hx
      simp at heq

theorem freeForAll_iff : l.freeForAll (quest, i) = true ↔
    ∃ plain looted, l.view quest i = some (true, plain, looted) := by
  rw [freeForAll, view]
  cases (l.itemsOf quest)[i]? with
  | none => simp
  | some item =>
    simp only [Option.any_some, Option.map_some, Option.some.injEq, Prod.mk.injEq]
    exact ⟨fun h => ⟨_, _, h, rfl, rfl⟩, by rintro ⟨_, _, h, -⟩; exact h⟩

theorem mem_takeable_congr (hview : ∀ quest i, l'.view quest i = l.view quest i)
    (hlists : ∀ quest i, (l'.listingsOf quest).lists i = (l.listingsOf quest).lists i)
    (hopen : ∀ quest guid i, (l'.listsOf quest).Open guid i ↔ (l.listsOf quest).Open guid i)
    (x : LootEntry) : x ∈ l'.takeable ↔ x ∈ l.takeable := by
  cases x with
  | one quest i =>
    rw [one_mem_takeable, one_mem_takeable, takeableOnce_iff, takeableOnce_iff, hview, hlists]
  | each quest guid i =>
    rw [each_mem_takeable, each_mem_takeable, hopen, freeForAll_iff, freeForAll_iff, hview]

theorem mem_takeable_one_taken {quest₀ : Bool} {i₀ : ℕ} {item : LootItem}
    (hitem : (l.itemsOf quest₀)[i₀]? = some item) (hffa : item.freeforall = false)
    (hview : ∀ quest i, l'.view quest i = if quest = quest₀ ∧ i = i₀ then
      (l.view quest i).map (fun v => (v.1, v.2.1, true)) else l.view quest i)
    (hlists : ∀ quest i, (l'.listingsOf quest).lists i = (l.listingsOf quest).lists i)
    (hopen : ∀ quest guid i, l.freeForAll (quest, i) = true →
      ((l'.listsOf quest).Open guid i ↔ (l.listsOf quest).Open guid i))
    (x : LootEntry) : x ∈ l'.takeable ↔ x ∈ l.takeable ∧ x ≠ .one quest₀ i₀ := by
  have hitemView : l.view quest₀ i₀ = some (false, item.conditions.isEmpty, item.isLooted) := by
    rw [view, hitem, Option.map_some, hffa]
  cases x with
  | one quest i =>
    rw [one_mem_takeable, one_mem_takeable, takeableOnce_iff, takeableOnce_iff, hview, hlists]
    by_cases hx : quest = quest₀ ∧ i = i₀
    · obtain ⟨rfl, rfl⟩ := hx
      simp [hitemView]
    · rw [if_neg hx]
      simp [hx]
  | each quest guid i =>
    rw [each_mem_takeable, each_mem_takeable]
    have hffa' : l'.freeForAll (quest, i) = true ↔ l.freeForAll (quest, i) = true := by
      rw [freeForAll_iff, freeForAll_iff, hview]
      by_cases hx : quest = quest₀ ∧ i = i₀
      · obtain ⟨rfl, rfl⟩ := hx
        simp [hitemView]
      · rw [if_neg hx]
    rw [hffa']
    constructor
    · rintro ⟨hopen', hffa⟩
      exact ⟨⟨(hopen quest guid i hffa).mp hopen', hffa⟩, by simp⟩
    · rintro ⟨⟨hopen', hffa⟩, -⟩
      exact ⟨(hopen quest guid i hffa).mpr hopen', hffa⟩

theorem mem_takeable_each_taken {quest₀ : Bool} {guid₀ : ObjectGuid} {i₀ : ℕ}
    (hview : ∀ quest i, l'.view quest i = l.view quest i)
    (hlists : ∀ quest i, (l'.listingsOf quest).lists i = (l.listingsOf quest).lists i)
    (hopen : ∀ quest guid i, (l'.listsOf quest).Open guid i ↔
      (l.listsOf quest).Open guid i ∧ ¬ (quest = quest₀ ∧ guid = guid₀ ∧ i = i₀))
    (x : LootEntry) : x ∈ l'.takeable ↔ x ∈ l.takeable ∧ x ≠ .each quest₀ guid₀ i₀ := by
  cases x with
  | one quest i =>
    rw [one_mem_takeable, one_mem_takeable, takeableOnce_iff, takeableOnce_iff, hview, hlists]
    simp
  | each quest guid i =>
    rw [each_mem_takeable, each_mem_takeable, hopen, freeForAll_iff, freeForAll_iff, hview]
    simp only [ne_eq, LootEntry.each.injEq]
    tauto

/-! ## 4. The number is right -/

/-- What tells whether a conditional item has been counted. -/
def flags (l : Loot) (i : ℕ) : Option (Bool × Bool × Bool) :=
  (l.items[i]?).map fun item => (item.freeforall, item.conditions.isEmpty, item.isCounted)

/-- The conditional items that are marked as counted are those on a list, and the number is that of
what can be taken. -/
structure Counted (l : Loot) : Prop where
  wellFormed : l.WellFormed
  marked : ∀ {i isCounted}, l.flags i = some (false, false, isCounted) →
    isCounted = l.playerNonQuestNonFFAConditionalItems.lists i
  count : l.unlootedCount.toNat = l.takeable.length

theorem Counted.of_same (h : l.Counted) (hwell : l'.WellFormed)
    (hflags : ∀ i, l'.flags i = l.flags i)
    (hlisted : ∀ i, l'.playerNonQuestNonFFAConditionalItems.lists i =
      l.playerNonQuestNonFFAConditionalItems.lists i)
    (hcount : l'.unlootedCount = l.unlootedCount) (hmem : ∀ x, x ∈ l'.takeable ↔ x ∈ l.takeable) :
    l'.Counted := by
  refine ⟨hwell, fun {i c} hi => ?_, ?_⟩
  · rw [hlisted]
    exact h.marked (hflags i ▸ hi)
  · rw [hcount, h.count]
    exact (length_of_same (nodup_takeable h.wellFormed) (nodup_takeable hwell) hmem).symm

theorem Counted.of_loss (h : l.Counted) (hwell : l'.WellFormed)
    (hflags : ∀ i, l'.flags i = l.flags i)
    (hlisted : ∀ i, l'.playerNonQuestNonFFAConditionalItems.lists i =
      l.playerNonQuestNonFFAConditionalItems.lists i)
    (hcount : l'.unlootedCount = l.unlootedCount - 1) {x : LootEntry} (hx : x ∈ l.takeable)
    (hmem : ∀ y, y ∈ l'.takeable ↔ y ∈ l.takeable ∧ y ≠ x) : l'.Counted := by
  refine ⟨hwell, fun {i c} hi => ?_, ?_⟩
  · rw [hlisted]
    exact h.marked (hflags i ▸ hi)
  · have hlength := length_of_loss (nodup_takeable h.wellFormed) (nodup_takeable hwell) hx hmem
    have hle : (1 : UInt8) ≤ l.unlootedCount := by
      rw [UInt8.le_iff_toNat_le, h.count, hlength]
      exact Nat.le_add_left 1 _
    rw [hcount, UInt8.toNat_sub_of_le _ _ hle, h.count, hlength]
    rfl

theorem Counted.of_gain (h : l.Counted) (hwell : l'.WellFormed)
    (hmarked : ∀ {i isCounted}, l'.flags i = some (false, false, isCounted) →
      isCounted = l'.playerNonQuestNonFFAConditionalItems.lists i) (new : List LootEntry)
    (hcount : l'.unlootedCount = l.unlootedCount + UInt8.ofNat new.length)
    (hlt : l.takeable.length + new.length < 256) (hnew : new.Nodup)
    (hdisjoint : ∀ x ∈ new, x ∉ l.takeable)
    (hmem : ∀ x, x ∈ l'.takeable ↔ x ∈ l.takeable ∨ x ∈ new) : l'.Counted := by
  refine ⟨hwell, hmarked, ?_⟩
  rw [length_of_gain (nodup_takeable h.wellFormed) (nodup_takeable hwell) hnew hdisjoint hmem,
    hcount, UInt8.toNat_add, UInt8.toNat_ofNat', h.count]
  omega

/-! ## 5. Taking -/

section Modify

variable {f : LootItem → LootItem} {g : Bool × Bool × Bool → Bool × Bool × Bool}

theorem view_modifyItem
    (hf : ∀ item, ((f item).freeforall, (f item).conditions.isEmpty, (f item).isLooted) =
      g (item.freeforall, item.conditions.isEmpty, item.isLooted)) (l : Loot) (i k : ℕ)
    (quest : Bool) : (l.modifyItem i f).view quest k =
      if quest = false ∧ k = i then (l.view quest k).map g else l.view quest k := by
  cases quest with
  | true => simp [view, itemsOf, modifyItem]
  | false =>
    rw [view, view, itemsOf, itemsOf, modifyItem]
    simp only [Bool.false_eq_true, if_false, List.getElem?_modify, true_and]
    cases l.items[k]? with
    | none => simp
    | some item =>
      by_cases hk : k = i
      · simp [hk, hf]
      · simp [hk, Ne.symm hk]

theorem view_modifyQuestItem
    (hf : ∀ item, ((f item).freeforall, (f item).conditions.isEmpty, (f item).isLooted) =
      g (item.freeforall, item.conditions.isEmpty, item.isLooted)) (l : Loot) (i k : ℕ)
    (quest : Bool) : (l.modifyQuestItem i f).view quest k =
      if quest = true ∧ k = i then (l.view quest k).map g else l.view quest k := by
  cases quest with
  | false => simp [view, itemsOf, modifyQuestItem]
  | true =>
    rw [view, view, itemsOf, itemsOf, modifyQuestItem]
    simp only [if_true, List.getElem?_modify, true_and]
    cases l.questItems[k]? with
    | none => simp
    | some item =>
      by_cases hk : k = i
      · simp [hk, hf]
      · simp [hk, Ne.symm hk]

theorem flags_modifyItem
    (hf : ∀ item, ((f item).freeforall, (f item).conditions.isEmpty, (f item).isCounted) =
      (item.freeforall, item.conditions.isEmpty, item.isCounted)) (l : Loot) (i k : ℕ) :
    (l.modifyItem i f).flags k = l.flags k := by
  rw [flags, flags, modifyItem, List.getElem?_modify]
  cases l.items[k]? with
  | none => rfl
  | some item =>
    simp only [Option.map_eq_map, Option.map_some]
    split
    · rw [hf]
    · rfl

end Modify

/-- A write that takes an item and changes no other of its marks. -/
structure Takes (f : LootItem → LootItem) : Prop where
  freeforall : ∀ item, (f item).freeforall = item.freeforall
  conditions : ∀ item, (f item).conditions = item.conditions
  isCounted : ∀ item, (f item).isCounted = item.isCounted
  isLooted : ∀ item, (f item).isLooted = true

theorem takes_isLooted : Takes fun item => { item with isLooted := true } :=
  ⟨fun _ => rfl, fun _ => rfl, fun _ => rfl, fun _ => rfl⟩

theorem takes_count : Takes fun item => { item with count := 0, isLooted := true } :=
  ⟨fun _ => rfl, fun _ => rfl, fun _ => rfl, fun _ => rfl⟩

theorem Counted.takeOne (h : l.Counted) {f : LootItem → LootItem} (hf : Takes f) (l₁ : Loot)
    (hitems : l₁.items = l.items) (hquestItems : l₁.questItems = l.questItems)
    (hcount : l₁.unlootedCount = l.unlootedCount)
    (hlists : ∀ quest i, (l₁.listingsOf quest).lists i = (l.listingsOf quest).lists i)
    (hopen : ∀ quest guid i, l.freeForAll (quest, i) = true →
      ((l₁.listsOf quest).Open guid i ↔ (l.listsOf quest).Open guid i))
    (hwell : l₁.WellFormed) {quest₀ : Bool} {i₀ : ℕ} {item : LootItem}
    (hitem : (l.itemsOf quest₀)[i₀]? = some item) (hffa : item.freeforall = false)
    (hleft : LootEntry.one quest₀ i₀ ∈ l.takeable) :
    (if quest₀ then l₁.modifyQuestItem i₀ f else l₁.modifyItem i₀ f).countDown.Counted := by
  have hview₁ : ∀ quest i, l₁.view quest i = l.view quest i := by
    intro quest i
    cases quest with
    | true => rw [view, view, itemsOf, itemsOf, hquestItems, hitems]
    | false => rw [view, view, itemsOf, itemsOf, hquestItems, hitems]
  have hflags₁ : ∀ i, l₁.flags i = l.flags i := fun i => by rw [flags, flags, hitems]
  have hlisted := fun i => hlists false i
  have hfview : ∀ item, ((f item).freeforall, (f item).conditions.isEmpty, (f item).isLooted) =
      (fun v => (v.1, v.2.1, true))
        (item.freeforall, item.conditions.isEmpty, item.isLooted) := fun item => by
    rw [hf.freeforall, hf.conditions, hf.isLooted]
  have hkind : ∀ item, (f item).kind = item.kind := fun item => by
    rw [LootItem.kind, LootItem.kind, hf.freeforall, hf.conditions]
  have hfflags : ∀ item, ((f item).freeforall, (f item).conditions.isEmpty, (f item).isCounted) =
      (item.freeforall, item.conditions.isEmpty, item.isCounted) := fun item => by
    rw [hf.freeforall, hf.conditions, hf.isCounted]
  cases quest₀ with
  | true =>
    refine h.of_loss (hwell.of_shape (shape_modifyQuestItem hkind l₁ i₀)) hflags₁ hlisted
      (congrArg (· - 1) hcount) hleft (mem_takeable_one_taken hitem hffa ?_ hlists hopen)
    intro quest i
    refine (view_modifyQuestItem (g := fun v => (v.1, v.2.1, true)) hfview l₁ i₀ i quest).trans ?_
    rw [hview₁]
  | false =>
    refine h.of_loss (hwell.of_shape (shape_modifyItem hkind l₁ i₀))
      (fun i => (flags_modifyItem hfflags l₁ i₀ i).trans (hflags₁ i)) hlisted
      (congrArg (· - 1) hcount) hleft (mem_takeable_one_taken hitem hffa ?_ hlists hopen)
    intro quest i
    refine (view_modifyItem (g := fun v => (v.1, v.2.1, true)) hfview l₁ i₀ i quest).trans ?_
    rw [hview₁]

theorem Counted.takeSlot (h : l.Counted) {slot : ℕ} {s : SlotItem} (hslot : l.InSlot guid slot s)
    (hleft : s.entry guid ∈ l.takeable) : (l.takeSlot guid s).Counted := by
  have hwell : (l.takeSlot guid s).WellFormed := h.wellFormed.of_shape (shape_takeSlot l guid s)
  have hitem := hslot.item
  rw [SlotItem.entry] at hleft
  cases hslot with
  | @quest ql pos q item hget hpos hfree hquestItem =>
    have hmem := QuestItemMap.mem_of_get hget
    have hopen : ∀ g i, ((l.playerQuestItems.take guid pos).Open g i ↔
        l.playerQuestItems.Open g i ∧ ¬ (g = guid ∧ i = q.index)) := fun g i =>
      QuestItemMap.open_take (h.wellFormed.listsOf true).1 hmem
        (h.wellFormed.quest_of_mem hmem).1 hpos
    cases hffa : item.freeforall with
    | true =>
      rw [if_pos hffa] at hleft
      rw [Loot.takeSlot] at hwell ⊢
      simp only [hffa, if_true] at hwell ⊢
      refine h.of_loss hwell (fun _ => rfl) (fun _ => rfl) rfl hleft
        (mem_takeable_each_taken (fun _ _ => rfl) ?_ ?_)
      · intro quest i
        cases quest with
        | true => exact QuestItemMap.lists_take _ _ _ _
        | false => rfl
      · intro quest g i
        cases quest with
        | true => exact (hopen g i).trans (by simp [listsOf])
        | false => exact (and_iff_left (by simp)).symm
    | false =>
      rw [if_neg (by simp [hffa])] at hleft
      rw [Loot.takeSlot]
      simp only [hffa, Bool.false_eq_true, if_false]
      refine h.takeOne takes_isLooted
        { l with playerQuestItems := l.playerQuestItems.take guid pos } rfl rfl rfl ?_ ?_ ?_ hitem
        hffa hleft
      · intro quest i
        cases quest with
        | true => exact QuestItemMap.lists_take _ _ _ _
        | false => rfl
      · intro quest g i hi
        cases quest with
        | true =>
          refine (hopen g i).trans ⟨fun h => h.1, fun h => ⟨h, ?_⟩⟩
          rintro ⟨rfl, rfl⟩
          rw [freeForAll, hitem, Option.any_some, hffa] at hi
          cases hi
        | false => exact Iff.rfl
      · exact h.wellFormed.of_shape (by simp [shape])
  | @ffa slot item ql pos q hitem' hffa hget hpos hindex hfree =>
    obtain rfl := hindex
    have hmem := QuestItemMap.mem_of_get hget
    have hopen : ∀ g i, ((l.playerFFAItems.take guid pos).Open g i ↔
        l.playerFFAItems.Open g i ∧ ¬ (g = guid ∧ i = q.index)) := fun g i =>
      QuestItemMap.open_take (h.wellFormed.listsOf false).1 hmem
        (h.wellFormed.ffa_of_mem hmem).1 hpos
    rw [if_pos hffa] at hleft
    rw [Loot.takeSlot] at hwell ⊢
    simp only [hffa, if_true] at hwell ⊢
    refine h.of_loss hwell (fun _ => rfl) (fun _ => rfl) rfl hleft
      (mem_takeable_each_taken (fun _ _ => rfl) ?_ ?_)
    · intro quest i
      cases quest <;> rfl
    · intro quest g i
      cases quest with
      | true => exact (and_iff_left (by simp)).symm
      | false => exact (hopen g i).trans (by simp [listsOf])
  | @ffaUnlisted slot item ql hitem' hffa hget hunlisted hfree =>
    rw [if_pos hffa, each_mem_takeable] at hleft
    obtain ⟨⟨ql', q, hmem, hq, hindex, -⟩, -⟩ := hleft
    obtain rfl : ql = ql' := QuestItemMap.eq_of_mem (h.wellFormed.listsOf false).1
      (QuestItemMap.mem_of_get hget) hmem
    exact absurd hindex (hunlisted q hq)
  | @conditional slot item ql pos q hitem' hffa hconditions hget hpos hindex hfree =>
    rw [if_neg (by simp [hffa])] at hleft
    rw [Loot.takeSlot]
    simp only [hffa, Bool.false_eq_true, if_false]
    refine h.takeOne takes_isLooted
      { l with
        playerNonQuestNonFFAConditionalItems :=
          l.playerNonQuestNonFFAConditionalItems.take guid pos } rfl rfl rfl ?_ ?_ ?_ hitem hffa hleft
    · intro quest i
      cases quest with
      | true => rfl
      | false => exact QuestItemMap.lists_take _ _ _ _
    · intro quest g i hi
      cases quest <;> exact Iff.rfl
    · exact h.wellFormed.of_shape (by simp [shape])
  | conditionalUnlisted hitem' hffa =>
    rw [if_neg (by simp [hffa])] at hleft
    rw [Loot.takeSlot]
    simp only [hffa, Bool.false_eq_true, if_false]
    exact h.takeOne takes_isLooted l rfl rfl rfl (fun _ _ => rfl) (fun _ _ _ _ => Iff.rfl)
      h.wellFormed hitem hffa hleft
  | plain hitem' hffa =>
    rw [if_neg (by simp [hffa])] at hleft
    rw [Loot.takeSlot]
    simp only [hffa, Bool.false_eq_true, if_false]
    exact h.takeOne takes_isLooted l rfl rfl rfl (fun _ _ => rfl) (fun _ _ _ _ => Iff.rfl)
      h.wellFormed hitem hffa hleft

theorem Counted.takeAt (h : l.Counted) {f : LootItem → LootItem} (hf : Takes f) {slot : ℕ}
    (hleft : l.slotTakeable slot = true) : (l.modifyItemAt slot f).countDown.Counted := by
  rw [slotTakeable] at hleft
  rw [modifyItemAt]
  have hone : ∀ quest i, l.takeableOnce quest i = true →
      (if quest then l.modifyQuestItem i f else l.modifyItem i f).countDown.Counted := by
    intro quest i hquest
    obtain ⟨plain, hview, -⟩ := takeableOnce_iff.mp hquest
    obtain ⟨item, hitem, heq⟩ := Option.map_eq_some_iff.mp hview
    exact h.takeOne hf l rfl rfl rfl (fun _ _ => rfl) (fun _ _ _ _ => Iff.rfl) h.wellFormed hitem
      (congrArg Prod.fst heq) (one_mem_takeable.mpr hquest)
  split
  · rename_i hslot
    rw [if_pos hslot] at hleft
    exact hone true _ hleft
  · rename_i hslot
    rw [if_neg hslot] at hleft
    exact hone false _ hleft

/-- A write that changes neither what an item is nor whether it is taken or counted. -/
structure Keeps (f : LootItem → LootItem) : Prop where
  freeforall : ∀ item, (f item).freeforall = item.freeforall
  conditions : ∀ item, (f item).conditions = item.conditions
  isCounted : ∀ item, (f item).isCounted = item.isCounted
  isLooted : ∀ item, (f item).isLooted = item.isLooted

theorem Counted.modifyItemAt (h : l.Counted) {f : LootItem → LootItem} (hf : Keeps f)
    (slot : ℕ) : (l.modifyItemAt slot f).Counted := by
  have hkind : ∀ item, (f item).kind = item.kind := fun item => by
    rw [LootItem.kind, LootItem.kind, hf.freeforall, hf.conditions]
  have hfview : ∀ item, ((f item).freeforall, (f item).conditions.isEmpty, (f item).isLooted) =
      id (item.freeforall, item.conditions.isEmpty, item.isLooted) := fun item => by
    rw [hf.freeforall, hf.conditions, hf.isLooted]
    rfl
  have hwell := h.wellFormed.of_shape (shape_modifyItemAt hkind l slot)
  rw [Loot.modifyItemAt] at hwell ⊢
  split
  · rename_i hslot
    rw [if_pos hslot] at hwell
    refine h.of_same hwell (fun _ => rfl) (fun _ => rfl) rfl
      (mem_takeable_congr (fun quest i => ?_) (fun _ _ => rfl) fun _ _ _ => Iff.rfl)
    rw [view_modifyQuestItem hfview]
    simp
  · rename_i hslot
    rw [if_neg hslot] at hwell
    refine h.of_same hwell (flags_modifyItem (fun item => ?_) l slot) (fun _ => rfl) rfl
      (mem_takeable_congr (fun quest i => ?_) (fun _ _ => rfl) fun _ _ _ => Iff.rfl)
    · rw [hf.freeforall, hf.conditions, hf.isCounted]
    · rw [view_modifyItem hfview]
      simp

/-! ## 6. Filling -/

section Fill

variable {p : Looter}

theorem view_of_unmarked {l₁ : Loot} (h : l'.unmarked = l₁)
    (hitems : l₁.items = l.unmarked.items) (hquestItems : l₁.questItems = l.unmarked.questItems)
    (quest : Bool) (i : ℕ) : l'.view quest i = l.view quest i := by
  have hview : ∀ {items items' : List LootItem},
      items'.map LootItem.unmarked = items.map LootItem.unmarked →
      (items'[i]?).map (fun item => (item.freeforall, item.conditions.isEmpty, item.isLooted)) =
        (items[i]?).map fun item => (item.freeforall, item.conditions.isEmpty, item.isLooted) := by
    intro items items' heq
    have hget := congrArg (fun items => (items[i]?).map fun item : LootItem =>
      (item.freeforall, item.conditions.isEmpty, item.isLooted)) heq
    simpa [Function.comp_def, LootItem.unmarked] using hget
  obtain rfl := h
  cases quest with
  | true => exact hview hquestItems
  | false => exact hview hitems

theorem fillFFALoot_unlootedCount (l : Loot) (p : Looter) :
    (l.fillFFALoot p).unlootedCount = l.unlootedCount + UInt8.ofNat (l.ffaSlots p).length := by
  obtain ⟨-, -, hcount⟩ := fillFFAFrom_spec p l.items 0 [] l
  rw [fillFFALoot, ffaSlots, ← hcount]
  split
  · rename_i heq
    rw [heq]
  · rename_i heq
    rw [heq]

theorem fillQuestLoot_unlootedCount (l : Loot) (p : Looter) :
    (l.fillQuestLoot p).unlootedCount = l.unlootedCount +
      UInt8.ofNat ((l.questSlots p).countP fun k => (l.questItems[k]?).any countsOnList) := by
  rw [fillQuestLoot]
  split
  · rename_i hfull
    rw [questSlots, questRoom, hfull, if_pos le_rfl, Nat.sub_self, List.take_zero]
    exact (UInt8.add_zero _).symm
  rename_i hfull
  obtain ⟨-, -, hcount⟩ := fillQuestFrom_spec p l.questItems l.questItems 0 l.questRoom [] l
    (fun j => by rw [Nat.zero_add]) (questRoom_spec hfull)
  rw [questSlots, ← hcount]
  split
  · rename_i heq
    rw [heq]
  · rename_i heq
    rw [heq]

theorem fillFFAFrom_items (p : Looter) (items : List LootItem) (i : ℕ) (ql : List QuestItem)
    (l : Loot) : (fillFFAFrom p i items (ql, l)).2.items = l.items := by
  induction items generalizing i ql l with
  | nil => rfl
  | cons item items ih =>
    rw [fillFFAFrom]
    split
    · exact ih _ _ _
    · exact ih _ _ _

theorem fillQuestFrom_items (p : Looter) (items : List LootItem) (i : ℕ) (ql : List QuestItem)
    (l : Loot) : (fillQuestFrom p i items (ql, l)).2.items = l.items := by
  induction items generalizing i ql l with
  | nil => rfl
  | cons item items ih =>
    have hitems : (if Looter.blocks p then
        (if item.freeforall || !item.isBlocked then l.countUp else l).modifyQuestItem i
          fun item => { item with isBlocked := true }
        else if item.freeforall || !item.isBlocked then l.countUp else l).items = l.items := by
      split <;> split <;> rfl
    rw [fillQuestFrom]
    split
    · dsimp only
      generalize (if Looter.blocks p then
        (if item.freeforall || !item.isBlocked then l.countUp else l).modifyQuestItem i
          fun item => { item with isBlocked := true }
        else if item.freeforall || !item.isBlocked then l.countUp else l) = l₂ at hitems ⊢
      split
      · exact hitems
      · exact (ih _ _ _).trans hitems
    · exact ih _ _ _

theorem flags_fillFFALoot (l : Loot) (p : Looter) (i : ℕ) :
    (l.fillFFALoot p).flags i = l.flags i := by
  have hitems := fillFFAFrom_items p l.items 0 [] l
  rw [flags, flags, fillFFALoot]
  split
  · rename_i heq
    rw [heq] at hitems
    rw [hitems]
  · rename_i heq
    rw [heq] at hitems
    rw [hitems]

theorem flags_fillQuestLoot (l : Loot) (p : Looter) (i : ℕ) :
    (l.fillQuestLoot p).flags i = l.flags i := by
  have hitems := fillQuestFrom_items p l.questItems 0 [] l
  rw [flags, flags, fillQuestLoot]
  split
  · rfl
  split
  · rename_i heq
    rw [heq] at hitems
    rw [hitems]
  · rename_i heq
    rw [heq] at hitems
    rw [hitems]

theorem Counted.fillFFALoot (h : l.Counted) (hnone : l.playerFFAItems.get p.guid = none)
    (hcounted : l.ffaCounted p = true) : (l.fillFFALoot p).Counted := by
  have hmarks := fillFFALoot_unmarked l p
  have hview := view_of_unmarked hmarks rfl rfl
  have hquest := (congrArg playerQuestItems hmarks :)
  have hffa := (congrArg playerFFAItems hmarks :)
  have hconditional := (congrArg playerNonQuestNonFFAConditionalItems hmarks :)
  have hlists : ∀ quest, (l.fillFFALoot p).listingsOf quest = l.listingsOf quest := by
    intro quest
    cases quest with
    | true => exact hquest
    | false => exact hconditional
  have hopen : ∀ quest guid i, ((l.fillFFALoot p).listsOf quest).Open guid i ↔
      (l.listsOf quest).Open guid i ∨ quest = false ∧ guid = p.guid ∧ i ∈ l.ffaSlots p := by
    intro quest guid i
    cases quest with
    | true =>
      rw [show (l.fillFFALoot p).listsOf true = l.listsOf true from hquest]
      simp
    | false =>
      rw [show (l.fillFFALoot p).listsOf false = _ from hffa, show l.listsOf false = _ from rfl]
      simp only [true_and]
      exact QuestItemMap.open_add
  -- what gets on the list is free for all
  have hnew : ∀ i ∈ l.ffaSlots p, l.freeForAll (false, i) = true := by
    intro i hi
    obtain ⟨item, hitem, htest⟩ := mem_ffaSlots.mp hi
    simp only [ffaTest, Bool.and_eq_true] at htest
    rw [freeForAll, show (l.itemsOf false)[i]? = some item from hitem]
    exact htest.1.2
  have hmem_new : ∀ x, x ∈ l.newFFA p ↔ ∃ i ∈ l.ffaSlots p, LootEntry.each false p.guid i = x :=
    fun x => List.mem_map
  refine h.of_gain (h.wellFormed.fillFFALoot hnone) ?_ (l.newFFA p) ?_ ?_ ?_ ?_ ?_
  · intro i c hi
    rw [flags_fillFFALoot] at hi
    rw [show (l.fillFFALoot p).playerNonQuestNonFFAConditionalItems = _ from hconditional]
    exact h.marked hi
  · rw [fillFFALoot_unlootedCount, newFFA, List.length_map]
  · exact of_decide_eq_true hcounted
  · exact nodup_indicesFrom.map fun i j hij => by simpa using hij
  · intro x hx hmem
    obtain ⟨i, -, rfl⟩ := (hmem_new x).mp hx
    exact QuestItemMap.not_open_of_get hnone (each_mem_takeable.mp hmem).1
  · intro x
    cases x with
    | one quest i =>
      rw [one_mem_takeable, one_mem_takeable, takeableOnce_iff, takeableOnce_iff, hview, hlists,
        hmem_new]
      simp
    | each quest guid i =>
      rw [each_mem_takeable, each_mem_takeable, hopen, freeForAll_iff, freeForAll_iff, hview,
        hmem_new]
      rw [← freeForAll_iff]
      constructor
      · rintro ⟨hopen' | ⟨rfl, rfl, hi⟩, hfree⟩
        · exact Or.inl ⟨hopen', hfree⟩
        · exact Or.inr ⟨i, hi, rfl⟩
      · rintro (⟨hopen', hfree⟩ | ⟨j, hj, heq⟩)
        · exact ⟨Or.inl hopen', hfree⟩
        · obtain ⟨rfl, rfl, rfl⟩ := LootEntry.each.inj heq
          exact ⟨Or.inr ⟨rfl, rfl, hj⟩, hnew _ hj⟩

theorem mem_newQuest {x : LootEntry} : x ∈ l.newQuest p ↔ ∃ k ∈ l.questSlots p,
    l.freeForAll (true, k) = true ∧ x = .each true p.guid k ∨
      l.freeForAll (true, k) = false ∧ l.playerQuestItems.lists k = false ∧ x = .one true k := by
  rw [newQuest, List.mem_filterMap]
  have hffa : ∀ k, (l.questItems[k]?).any LootItem.freeforall = l.freeForAll (true, k) :=
    fun _ => rfl
  constructor
  · rintro ⟨k, hk, heq⟩
    refine ⟨k, hk, ?_⟩
    rw [hffa] at heq
    cases hfree : l.freeForAll (true, k) with
    | true =>
      rw [hfree, if_pos rfl] at heq
      exact Or.inl ⟨rfl, (Option.some.inj heq).symm⟩
    | false =>
      rw [hfree, if_neg Bool.false_ne_true] at heq
      split at heq
      · exact nomatch heq
      · rename_i hlisted
        exact Or.inr ⟨rfl, Bool.eq_false_iff.mpr hlisted, (Option.some.inj heq).symm⟩
  · rintro ⟨k, hk, ⟨hfree, rfl⟩ | ⟨hfree, hlisted, rfl⟩⟩
    · exact ⟨k, hk, by rw [hffa, hfree, if_pos rfl]⟩
    · exact ⟨k, hk, by simp [hffa, hfree, hlisted]⟩

theorem view_of_mem_questSlots {k : ℕ} (hk : k ∈ l.questSlots p) :
    ∃ plain, l.view true k = some (l.freeForAll (true, k), plain, false) := by
  obtain ⟨item, hitem, htest⟩ := mem_questSlots hk
  simp only [questTest, Bool.and_eq_true, Bool.not_eq_true'] at htest
  have hitem' : (l.itemsOf true)[k]? = some item := hitem
  refine ⟨item.conditions.isEmpty, ?_⟩
  rw [view, freeForAll, hitem', Option.map_some, Option.any_some, htest.1]

theorem Counted.fillQuestLoot (h : l.Counted) (hnone : l.playerQuestItems.get p.guid = none)
    (hcounted : l.questCounted p = true) : (l.fillQuestLoot p).Counted := by
  have hmarks := fillQuestLoot_unmarked l p
  have hview := view_of_unmarked hmarks rfl rfl
  have hquest := (congrArg playerQuestItems hmarks :)
  have hffa := (congrArg playerFFAItems hmarks :)
  have hconditional := (congrArg playerNonQuestNonFFAConditionalItems hmarks :)
  rw [questCounted, Bool.and_eq_true] at hcounted
  have hlists : ∀ i, ((l.fillQuestLoot p).listingsOf true).lists i = true ↔
      (l.listingsOf true).lists i = true ∨ i ∈ l.questSlots p := by
    intro i
    rw [show (l.fillQuestLoot p).listingsOf true = _ from hquest]
    exact QuestItemMap.lists_add
  have hlists' : (l.fillQuestLoot p).listingsOf false = l.listingsOf false := hconditional
  have hopen : ∀ guid i, ((l.fillQuestLoot p).listsOf true).Open guid i ↔
      (l.listsOf true).Open guid i ∨ guid = p.guid ∧ i ∈ l.questSlots p := by
    intro guid i
    rw [show (l.fillQuestLoot p).listsOf true = _ from hquest]
    exact QuestItemMap.open_add
  have hopen' : (l.fillQuestLoot p).listsOf false = l.listsOf false := hffa
  refine h.of_gain (h.wellFormed.fillQuestLoot hnone) ?_ (l.newQuest p) ?_ ?_ ?_ ?_ ?_
  · intro i c hi
    rw [flags_fillQuestLoot] at hi
    rw [show (l.fillQuestLoot p).playerNonQuestNonFFAConditionalItems = _ from hconditional]
    exact h.marked hi
  · -- counted is what is new, since an item is blocked when it is listed
    rw [fillQuestLoot_unlootedCount, newQuest, List.length_filterMap_eq_countP]
    refine congrArg (fun n => l.unlootedCount + UInt8.ofNat n) (List.countP_congr fun k hk => ?_)
    obtain ⟨item, hitem, -⟩ := mem_questSlots hk
    have hblocked := List.all_eq_true.mp hcounted.1 k hk
    rw [hitem, Option.all_some] at hblocked
    rw [hitem, Option.any_some, Option.any_some, countsOnList]
    cases hfree : item.freeforall with
    | true => simp
    | false =>
      rw [hfree, Bool.false_or, beq_iff_eq] at hblocked
      rw [hblocked]
      cases l.playerQuestItems.lists k <;> simp
  · exact of_decide_eq_true hcounted.2
  · refine (nodup_questSlots l p).filterMap ?_
    intro k k' x hx hx'
    split at hx
    · split at hx'
      · obtain rfl := Option.some.inj hx
        simpa using (Option.some.inj hx').symm
      · split at hx'
        · cases hx'
        · obtain rfl := Option.some.inj hx
          cases Option.some.inj hx'
    · split at hx
      · cases hx
      · split at hx'
        · obtain rfl := Option.some.inj hx
          cases Option.some.inj hx'
        · split at hx'
          · cases hx'
          · obtain rfl := Option.some.inj hx
            simpa using (Option.some.inj hx').symm
  · intro x hx hmem
    obtain ⟨k, hk, ⟨hfree, rfl⟩ | ⟨hfree, hlisted, rfl⟩⟩ := mem_newQuest.mp hx
    · exact QuestItemMap.not_open_of_get hnone (each_mem_takeable.mp hmem).1
    · obtain ⟨plain, -, ⟨hquest, -⟩ | hlisted'⟩ :=
        takeableOnce_iff.mp (one_mem_takeable.mp hmem)
      · cases hquest
      · cases hlisted'.symm.trans hlisted
  · intro x
    rw [mem_newQuest]
    cases x with
    | one quest i =>
      rw [one_mem_takeable, one_mem_takeable, takeableOnce_iff, takeableOnce_iff, hview]
      cases quest with
      | false =>
        rw [hlists']
        simp
      | true =>
        rw [hlists]
        constructor
        · rintro ⟨plain, hviewi, ⟨hquest, -⟩ | hlisted | hi⟩
          · cases hquest
          · exact Or.inl ⟨plain, hviewi, Or.inr hlisted⟩
          · cases hlisted : l.playerQuestItems.lists i with
            | true => exact Or.inl ⟨plain, hviewi, Or.inr hlisted⟩
            | false =>
              obtain ⟨plain', hviewi'⟩ := view_of_mem_questSlots hi
              have hfree := congrArg Prod.fst (Option.some.inj (hviewi.symm.trans hviewi'))
              exact Or.inr ⟨i, hi, Or.inr ⟨hfree.symm, hlisted, rfl⟩⟩
        · rintro (⟨plain, hviewi, ⟨hquest, -⟩ | hlisted⟩ | ⟨k, hk, ⟨-, heq⟩ | ⟨hfree, -, heq⟩⟩)
          · cases hquest
          · exact ⟨plain, hviewi, Or.inr (Or.inl hlisted)⟩
          · cases heq
          · obtain ⟨-, rfl⟩ := LootEntry.one.inj heq
            obtain ⟨plain, hviewi⟩ := view_of_mem_questSlots hk
            exact ⟨plain, hfree ▸ hviewi, Or.inr (Or.inr hk)⟩
    | each quest guid i =>
      rw [each_mem_takeable, each_mem_takeable]
      have hfree : (l.fillQuestLoot p).freeForAll (quest, i) = true ↔
          l.freeForAll (quest, i) = true := by
        rw [freeForAll_iff, freeForAll_iff, hview]
      rw [hfree]
      cases quest with
      | false =>
        rw [hopen']
        simp
      | true =>
        rw [hopen]
        constructor
        · rintro ⟨hopen | ⟨rfl, hi⟩, hfree⟩
          · exact Or.inl ⟨hopen, hfree⟩
          · exact Or.inr ⟨i, hi, Or.inl ⟨hfree, rfl⟩⟩
        · rintro (⟨hopen, hfree⟩ | ⟨k, hk, ⟨hfree, heq⟩ | ⟨-, -, heq⟩⟩)
          · exact ⟨Or.inl hopen, hfree⟩
          · obtain ⟨-, rfl, rfl⟩ := LootEntry.each.inj heq
            exact ⟨Or.inr ⟨rfl, hk⟩, hfree⟩
          · cases heq

def uncounted (l : Loot) (k : ℕ) : Bool := (l.flags k).any fun v => !v.2.2

/-- The loop of `FillNonQuestNonFFAConditionalLoot` counts what it lists and has not been counted,
and marks what it lists as counted. -/
theorem fillConditionalFrom_counts (p : Looter) (presentAtLooting : Bool) (items : List LootItem)
    (i : ℕ) (ql : List QuestItem) (l : Loot)
    (hall : ∀ j, l.flags (i + j) = (items[j]?).map fun item =>
      (item.freeforall, item.conditions.isEmpty, item.isCounted)) :
    (∀ k, (fillConditionalFrom p presentAtLooting i items (ql, l)).2.flags k =
      (l.flags k).map fun v =>
        (v.1, v.2.1, v.2.2 || decide (k ∈ indicesFrom (conditionalTest p) i items))) ∧
      (fillConditionalFrom p presentAtLooting i items (ql, l)).2.unlootedCount =
        l.unlootedCount +
          UInt8.ofNat ((indicesFrom (conditionalTest p) i items).countP l.uncounted) := by
  induction items generalizing i ql l with
  | nil =>
    refine ⟨fun k => ?_, by simp [fillConditionalFrom, indicesFrom]⟩
    simp [fillConditionalFrom, indicesFrom]
  | cons item items ih =>
    have hitem : l.flags i = some (item.freeforall, item.conditions.isEmpty, item.isCounted) := by
      simpa using hall 0
    have hrest : ∀ j, l.flags (i + 1 + j) = (items[j]?).map fun item =>
        (item.freeforall, item.conditions.isEmpty, item.isCounted) := fun j => by
      rw [Nat.add_assoc, Nat.add_comm 1 j, hall (j + 1), List.getElem?_cons_succ]
    rw [fillConditionalFrom, indicesFrom, conditionalTest]
    have hallowed : (∀ k, (if presentAtLooting then
          l.modifyItem i fun item => item.addAllowedLooter p.guid else l).flags k = l.flags k) ∧
        (if presentAtLooting then
          l.modifyItem i fun item => item.addAllowedLooter p.guid else l).unlootedCount =
            l.unlootedCount := by
      split
      · exact ⟨fun k => flags_modifyItem (by exact fun _ => rfl) l i k, rfl⟩
      · exact ⟨fun _ => rfl, rfl⟩
    generalize (if presentAtLooting then
        l.modifyItem i fun item => item.addAllowedLooter p.guid else l) = l₁ at hallowed ⊢
    obtain ⟨hflags, hcount⟩ := hallowed
    by_cases hlists : (!item.isLooted && !item.freeforall && p.lists item) = true
    · rw [if_pos hlists, hlists, Bool.true_and]
      dsimp only
      split
      · -- the item is listed: it is counted now, if it was not
        have hcounted : (∀ k, (if !item.isCounted then
              l₁.countUp.modifyItem i fun item => { item with isCounted := true } else l₁).flags k =
                if k = i then some (item.freeforall, item.conditions.isEmpty, true)
                else l.flags k) ∧
            (if !item.isCounted then
              l₁.countUp.modifyItem i fun item => { item with isCounted := true }
                else l₁).unlootedCount =
                  l.unlootedCount + UInt8.ofNat (if l.uncounted i then 1 else 0) := by
          rw [uncounted, hitem, Option.any_some]
          split
          · rename_i hfresh
            refine ⟨fun k => ?_, congrArg (· + 1) hcount⟩
            have hk := hflags k
            rw [flags] at hk
            rw [flags, modifyItem]
            change Option.map _ ((l₁.items.modify i _)[k]?) = _
            rw [List.getElem?_modify]
            by_cases hik : k = i
            · obtain rfl := hik
              rw [hitem] at hk
              obtain ⟨item', hitem', heq⟩ := Option.map_eq_some_iff.mp hk
              rw [hitem', if_pos rfl]
              simp only [Prod.mk.injEq] at heq
              simp [heq.1, heq.2.1]
            · rw [if_neg hik, ← hk]
              cases l₁.items[k]? with
              | none => rfl
              | some item' => simp [Ne.symm hik]
          · rename_i hcounted
            refine ⟨fun k => ?_, hcount.trans (UInt8.add_zero _).symm⟩
            rw [hflags]
            split
            · rename_i hik
              rw [hik, hitem]
              simp only [Bool.not_eq_true', Bool.not_eq_false] at hcounted
              rw [hcounted]
            · rfl
        generalize (if !item.isCounted then
            l₁.countUp.modifyItem i fun item => { item with isCounted := true } else l₁) = l₂
            at hcounted ⊢
        obtain ⟨hflags₂, hcount₂⟩ := hcounted
        have hlater : ∀ k, i < k → l₂.flags k = l.flags k := fun k hk => by
          rw [hflags₂, if_neg (Nat.ne_of_gt hk)]
        obtain ⟨hih, hihcount⟩ := ih (i + 1) (ql ++ [⟨i, false⟩]) l₂ fun j => by
          rw [hlater _ (by omega), hrest]
        refine ⟨fun k => ?_, ?_⟩
        · rw [hih, hflags₂]
          by_cases hik : k = i
          · rw [if_pos hik, hik, hitem]
            simp
          · rw [if_neg hik]
            simp [hik]
        · rw [hihcount, hcount₂, List.countP_cons, UInt8.ofNat_add, UInt8.add_assoc]
          have hsame : (indicesFrom (conditionalTest p) (i + 1) items).countP l₂.uncounted =
              (indicesFrom (conditionalTest p) (i + 1) items).countP l.uncounted := by
            refine List.countP_congr fun k hk => ?_
            rw [uncounted, uncounted, hlater k (mem_indicesFrom.mp hk).1]
          rw [hsame]
          exact congrArg _ (UInt8.add_comm _ _)
      · obtain ⟨hih, hihcount⟩ := ih (i + 1) ql l₁ fun j => by rw [hflags, hrest]
        refine ⟨fun k => by rw [hih, hflags], ?_⟩
        have hsame : l₁.uncounted = l.uncounted := funext fun k => by
          rw [uncounted, uncounted, hflags]
        rw [hihcount, hcount, hsame]
    · rw [if_neg hlists, Bool.eq_false_iff.mpr hlists, Bool.false_and]
      exact ih (i + 1) ql l hrest

theorem view_of_mem_conditionalSlots {k : ℕ} (hk : k ∈ l.conditionalSlots p) :
    l.view false k = some (false, false, false) ∧
      ∃ isCounted, l.flags k = some (false, false, isCounted) := by
  obtain ⟨item, hitem, htest⟩ := mem_conditionalSlots.mp hk
  simp only [conditionalTest, Bool.and_eq_true, Bool.not_eq_true'] at htest
  have hitem' : (l.itemsOf false)[k]? = some item := hitem
  refine ⟨?_, item.isCounted, ?_⟩
  · rw [view, hitem', Option.map_some, htest.1.1.1, htest.1.1.2, htest.2]
  · rw [flags, hitem, Option.map_some, htest.1.1.2, htest.2]

theorem Counted.fillConditional (h : l.Counted) (presentAtLooting : Bool)
    (hnone : l.playerNonQuestNonFFAConditionalItems.get p.guid = none)
    (hcounted : l.conditionalCounted p = true) :
    (l.fillNonQuestNonFFAConditionalLoot p presentAtLooting).Counted := by
  have hmarks := fillConditional_unmarked l p presentAtLooting
  have hview := view_of_unmarked hmarks rfl rfl
  have hquest := (congrArg playerQuestItems hmarks :)
  have hffa := (congrArg playerFFAItems hmarks :)
  have hconditional := (congrArg playerNonQuestNonFFAConditionalItems hmarks :)
  -- the marks and the number after the loop
  obtain ⟨hflags, hcount⟩ : (∀ k, (l.fillNonQuestNonFFAConditionalLoot p presentAtLooting).flags k =
        (l.flags k).map fun v => (v.1, v.2.1, v.2.2 || decide (k ∈ l.conditionalSlots p))) ∧
      (l.fillNonQuestNonFFAConditionalLoot p presentAtLooting).unlootedCount =
        l.unlootedCount + UInt8.ofNat ((l.conditionalSlots p).countP l.uncounted) := by
    obtain ⟨hflags, hcount⟩ := fillConditionalFrom_counts p presentAtLooting l.items 0 [] l
      fun j => by rw [Nat.zero_add, flags]
    rw [conditionalSlots, fillNonQuestNonFFAConditionalLoot]
    split
    · rename_i heq
      rw [heq] at hflags hcount
      exact ⟨hflags, hcount⟩
    · rename_i heq
      rw [heq] at hflags hcount
      exact ⟨hflags, hcount⟩
  have hlists : ∀ i, ((l.fillNonQuestNonFFAConditionalLoot p presentAtLooting).listingsOf
      false).lists i = true ↔ (l.listingsOf false).lists i = true ∨ i ∈ l.conditionalSlots p := by
    intro i
    rw [show (l.fillNonQuestNonFFAConditionalLoot p presentAtLooting).listingsOf false = _ from
      hconditional]
    exact QuestItemMap.lists_add
  have hlists' : (l.fillNonQuestNonFFAConditionalLoot p presentAtLooting).listingsOf true =
      l.listingsOf true := hquest
  have hopen : ∀ quest, (l.fillNonQuestNonFFAConditionalLoot p presentAtLooting).listsOf quest =
      l.listsOf quest := by
    intro quest
    cases quest with
    | true => exact hquest
    | false => exact hffa
  have hmem_new : ∀ x, x ∈ l.newConditional p ↔ ∃ k, (k ∈ l.conditionalSlots p ∧
      l.playerNonQuestNonFFAConditionalItems.lists k = false) ∧ LootEntry.one false k = x := by
    intro x
    rw [newConditional, List.mem_map]
    simp only [List.mem_filter, Bool.not_eq_true']
  refine h.of_gain (h.wellFormed.fillConditional presentAtLooting hnone) ?_ (l.newConditional p)
    ?_ ?_ ?_ ?_ ?_
  · intro i c hi
    rw [hflags] at hi
    obtain ⟨⟨ffa, empty, c'⟩, hi', heq⟩ := Option.map_eq_some_iff.mp hi
    simp only [Prod.mk.injEq] at heq
    obtain ⟨rfl, rfl, rfl⟩ := heq
    have hmarked := h.marked hi'
    rw [hmarked, Bool.eq_iff_iff, Bool.or_eq_true, decide_eq_true_iff]
    exact (hlists i).symm
  · rw [hcount, newConditional, List.length_map, ← List.countP_eq_length_filter]
    refine congrArg (fun n => l.unlootedCount + UInt8.ofNat n) (List.countP_congr fun k hk => ?_)
    obtain ⟨-, c, hk'⟩ := view_of_mem_conditionalSlots hk
    rw [uncounted, hk', Option.any_some, h.marked hk']
  · exact of_decide_eq_true hcounted
  · exact (nodup_indicesFrom.filter _).map fun i j hij => by simpa using hij
  · intro x hx hmem
    obtain ⟨k, ⟨hk, hunlisted⟩, rfl⟩ := (hmem_new x).mp hx
    obtain ⟨plain, hviewk, ⟨-, rfl⟩ | hlisted⟩ := takeableOnce_iff.mp (one_mem_takeable.mp hmem)
    · rw [(view_of_mem_conditionalSlots hk).1] at hviewk
      simp at hviewk
    · cases hlisted.symm.trans hunlisted
  · intro x
    rw [hmem_new]
    cases x with
    | one quest i =>
      rw [one_mem_takeable, one_mem_takeable, takeableOnce_iff, takeableOnce_iff, hview]
      cases quest with
      | true =>
        rw [hlists']
        simp
      | false =>
        rw [hlists]
        constructor
        · rintro ⟨plain, hviewi, hplain | hlisted | hi⟩
          · exact Or.inl ⟨plain, hviewi, Or.inl hplain⟩
          · exact Or.inl ⟨plain, hviewi, Or.inr hlisted⟩
          · cases hlisted : l.playerNonQuestNonFFAConditionalItems.lists i with
            | true => exact Or.inl ⟨plain, hviewi, Or.inr hlisted⟩
            | false => exact Or.inr ⟨i, ⟨hi, hlisted⟩, rfl⟩
        · rintro (⟨plain, hviewi, hplain | hlisted⟩ | ⟨k, ⟨hk, -⟩, heq⟩)
          · exact ⟨plain, hviewi, Or.inl hplain⟩
          · exact ⟨plain, hviewi, Or.inr (Or.inl hlisted)⟩
          · obtain ⟨-, rfl⟩ := LootEntry.one.inj heq
            exact ⟨false, (view_of_mem_conditionalSlots hk).1, Or.inr (Or.inr hk)⟩
    | each quest guid i =>
      rw [each_mem_takeable, each_mem_takeable, hopen, freeForAll_iff, freeForAll_iff, hview]
      simp

theorem Counted.fillLists (h : l.Counted) (presentAtLooting : Bool)
    (hcounted : l.fillCounted p = true) : (l.fillLists p presentAtLooting).Counted := by
  rw [fillCounted] at hcounted
  rw [Loot.fillLists]
  simp only [Bool.and_eq_true, Bool.or_eq_true, Bool.not_eq_true'] at hcounted
  obtain ⟨⟨hquest, hffa⟩, hconditional⟩ := hcounted
  have h₁ : (if (l.playerQuestItems.get p.guid).isNone then l.fillQuestLoot p else l).Counted := by
    split
    · rename_i hnone
      exact h.fillQuestLoot (Option.isNone_iff_eq_none.mp hnone)
        (hquest.resolve_left (by simp [hnone]))
    · exact h
  generalize (if (l.playerQuestItems.get p.guid).isNone then l.fillQuestLoot p else l) = l₁ at *
  have h₂ : (if (l₁.playerFFAItems.get p.guid).isNone then l₁.fillFFALoot p else l₁).Counted := by
    split
    · rename_i hnone
      exact h₁.fillFFALoot (Option.isNone_iff_eq_none.mp hnone)
        (hffa.resolve_left (by simp [hnone]))
    · exact h₁
  generalize (if (l₁.playerFFAItems.get p.guid).isNone then l₁.fillFFALoot p else l₁) = l₂ at *
  split
  · rename_i hnone
    refine h₂.fillConditional presentAtLooting (Option.isNone_iff_eq_none.mp hnone)
      (hconditional.resolve_left fun hsome => ?_)
    rw [Option.isNone_iff_eq_none.mp hnone] at hsome
    cases hsome
  · exact h₂

end Fill

end Loot

theorem Loot.Fresh.takeable_length {l : Loot} (h : l.Fresh) :
    l.takeable.length = l.items.countP LootItem.plain := by
  have hquest : l.takeableOnes true = [] := by
    rw [Loot.takeableOnes, List.map_eq_nil_iff, List.filter_eq_nil_iff]
    intro i _ hi
    obtain ⟨plain, -, ⟨hfalse, -⟩ | hlisted⟩ := Loot.takeableOnce_iff.mp hi
    · exact nomatch hfalse
    · rw [show l.listingsOf true = [] from h.quest] at hlisted
      exact nomatch hlisted
  have heach : ∀ quest, l.takeableEach quest = [] := by
    intro quest
    have hnil : l.listsOf quest = [] := by
      cases quest with
      | true => exact h.quest
      | false => exact h.ffa
    rw [Loot.takeableEach, hnil, List.flatMap_nil]
  have hget : (List.range l.items.length).map (fun i => l.items[i]?) = l.items.map some := by
    refine List.ext_getElem (by simp) fun k hk hk' => ?_
    rw [List.length_map] at hk'
    simp [hk']
  rw [Loot.takeable, hquest, heach, heach, List.append_nil, List.append_nil, List.append_nil,
    Loot.takeableOnes, List.length_map, ← List.countP_eq_length_filter]
  have hsome : l.items.countP LootItem.plain =
      (l.items.map some).countP fun item => item.any LootItem.plain := by
    rw [List.countP_map]
    rfl
  rw [hsome, ← hget, List.countP_map]
  refine List.countP_congr fun i _ => ?_
  rw [Function.comp_apply, Loot.takeableOnce]
  cases hitem : l.items[i]? with
  | none => simp [Loot.itemsOf, hitem]
  | some item =>
    have hfree := (h.made item (List.mem_append_left _ (List.mem_of_getElem? hitem))).1
    rw [show (l.itemsOf false)[i]? = some item from hitem,
      show l.listingsOf false = [] from h.conditional]
    simp [LootItem.plain, hfree, QuestItemMap.lists]

/-! ## 7. Every run -/

namespace LootState

variable {s : LootState} {p : Looter}

theorem storeLootItem_counted (h : s.loot.Counted) {lootSlot : ℕ} {canStore : Bool}
    (hmeets : s.storeMeets (fun l guid found => decide (found.entry guid ∈ l.takeable)) lootSlot p
      canStore = true) : (s.storeLootItem lootSlot p canStore).loot.Counted := by
  rw [storeLootItem]
  split
  · exact h
  · rename_i found hstorable
    exact h.takeSlot (inSlot_of_storable hstorable)
      (of_decide_eq_true (storeMeets_iff.mp hmeets found hstorable))

theorem step_counted (h : s.loot.Counted) (e : LootEvent) (hcounted : s.counted e = true) :
    (s.step e).loot.Counted := by
  have hwell := step_wellFormed h.wellFormed e
  cases e with
  | fill p presentAtLooting isCurrency canStore =>
    rw [counted, Bool.and_eq_true, storesMeet] at hcounted
    obtain ⟨hstores, hevent⟩ := hcounted
    have hfilled := h.fillLists presentAtLooting hevent
    rw [step, fillNotNormalLootFor]
    dsimp only at hstores ⊢
    split
    · exact hfilled
    · rename_i hpresent
      rw [Bool.eq_false_iff.mpr hpresent, Bool.false_or] at hstores
      exact processCurrency_of_meets (P := fun s => s.loot.Counted)
        (fun s i h hmeets => storeLootItem_counted h hmeets) hfilled hstores
  | store lootSlot p canStore =>
    exact storeLootItem_counted h (Bool.and_eq_true_iff.mp hcounted).1
  | masterGive slotid target canStore =>
    rw [counted, Bool.and_eq_true] at hcounted
    have hevent := hcounted.2
    rw [step, lootMasterGive]
    split
    · exact h
    split
    · exact h
    rename_i item hitem
    split
    · exact h
    · rename_i hgives
      rw [hitem, Option.all_some, Bool.or_eq_true] at hevent
      exact h.takeAt Loot.takes_count (hevent.resolve_left hgives)
  | rollWon itemSlot =>
    rw [counted, Bool.and_eq_true] at hcounted
    exact h.takeAt Loot.takes_isLooted hcounted.2
  | setBlocked slot blocked =>
    refine h.modifyItemAt ?_ slot.toNat
    exact ⟨fun _ => rfl, fun _ => rfl, fun _ => rfl, fun _ => rfl⟩
  | setUnderthreshold slot =>
    refine h.modifyItemAt ?_ slot.toNat
    exact ⟨fun _ => rfl, fun _ => rfl, fun _ => rfl, fun _ => rfl⟩
  | takeMoney => exact h.of_same hwell (fun _ => rfl) (fun _ => rfl) rfl fun _ => Iff.rfl
  | setRoundRobinPlayer player =>
    exact h.of_same hwell (fun _ => rfl) (fun _ => rfl) rfl fun _ => Iff.rfl

theorem generated_counted (getItemTemplate : UInt32 → Option ItemTemplate) (gold : UInt32)
    (drops : List Loot.Drop) : (generated getItemTemplate gold drops).loot.Counted := by
  have hfresh := Loot.fresh_process getItemTemplate gold drops
  have hwell := (generated_unlisted getItemTemplate gold drops).wellFormed
  rw [generated] at hwell ⊢
  generalize Loot.process getItemTemplate gold drops = l at *
  refine ⟨hwell, fun {i c} hi => ?_, ?_⟩
  · obtain ⟨item, hitem, heq⟩ := Option.map_eq_some_iff.mp hi
    have hmade := (hfresh.made item
      (List.mem_append_left _ (List.mem_of_getElem? hitem))).2.2
    have hc : item.isCounted = c := congrArg (fun v => v.2.2) heq
    rw [← hc, hmade]
    change false = QuestItemMap.lists l.playerNonQuestNonFFAConditionalItems i
    rw [hfresh.conditional]
    rfl
  · change l.unlootedCount.toNat = l.takeable.length
    rw [hfresh.takeable_length]
    refine hfresh.counts.toNat_eq (lt_of_le_of_lt List.countP_le_length ?_)
    exact lt_of_le_of_lt hfresh.items_le (by decide)

/-- **The loot exhaustion counter.** -/
theorem run_unlootedCount (getItemTemplate : UInt32 → Option ItemTemplate) (gold : UInt32)
    (drops : List Loot.Drop) {evs : List LootEvent}
    (hcounted : Steps step (fun s e => s.counted e = true)
      (generated getItemTemplate gold drops) evs) :
    States step (fun s => s.loot.unlootedCount.toNat = s.loot.takeable.length ∧
        (s.loot.isLooted = true ↔ s.loot.gold = 0 ∧ s.loot.takeable = []))
      (generated getItemTemplate gold drops) evs := by
  refine (States.of_steps (I := fun s => s.loot.Counted) (fun _ e hs hc => step_counted hs e hc)
    (generated_counted getItemTemplate gold drops) hcounted).imp fun s hs => ⟨hs.count, ?_⟩
  rw [Loot.isLooted, Bool.and_eq_true, beq_iff_eq, beq_iff_eq, ← List.length_eq_zero_iff,
    ← hs.count]
  exact and_congr_right fun _ => ⟨fun h => by rw [h]; rfl, fun h => UInt8.toNat_inj.mp h⟩

/-- A plain item, a conditional one, a free for all one and a quest item. -/
def fourKinds : LootState :=
  generated (fun id => some ⟨if id = 3 then ITEM_PROTO_FLAG_MULTI_DROP else 0, 0, 1⟩) 5
    [⟨⟨1, false, []⟩, 1, fun _ => 0, fun _ => 0⟩, ⟨⟨2, false, [7]⟩, 1, fun _ => 0, fun _ => 0⟩,
      ⟨⟨3, false, []⟩, 1, fun _ => 0, fun _ => 0⟩, ⟨⟨4, true, []⟩, 1, fun _ => 0, fun _ => 0⟩]

/-- Two players empty a loot with an item of each kind, one of them by the master looter. -/
theorem fourKinds_unlootedCount :
    let evs : List LootEvent :=
      [.fill (loner 1) true (fun _ => false) fun _ => true,
        .fill (loner 2) false (fun _ => false) fun _ => true, .store 3 (loner 1) true,
        .masterGive 0 (loner 2) true, .store 1 (loner 2) true, .store 2 (loner 1) true,
        .takeMoney, .store 2 (loner 2) true]
    Steps step (fun s e => s.counted e = true) fourKinds evs ∧
      States step (fun s => s.loot.unlootedCount.toNat = s.loot.takeable.length ∧
        (s.loot.isLooted = true ↔ s.loot.gold = 0 ∧ s.loot.takeable = [])) fourKinds evs := by
  have hcounted : Steps step (fun s e => s.counted e = true) fourKinds
      [.fill (loner 1) true (fun _ => false) fun _ => true,
        .fill (loner 2) false (fun _ => false) fun _ => true, .store 3 (loner 1) true,
        .masterGive 0 (loner 2) true, .store 1 (loner 2) true, .store 2 (loner 1) true,
        .takeMoney, .store 2 (loner 2) true] := by
    refine ⟨?_, ?_, ?_, ?_, ?_, ?_, ?_, ?_, trivial⟩ <;> decide +kernel
  exact ⟨hcounted, run_unlootedCount _ _ _ hcounted⟩

def mate (guid : ObjectGuid) : Looter :=
  { guid := guid, group := some (.MASTER_LOOT, 1), allowed := fun _ => true }

/-- A player stores the only item, and the master looter gives it once more. -/
theorem unlootedCount_fails :
    ¬ ∀ (getItemTemplate : UInt32 → Option ItemTemplate) (gold : UInt32) (drops : List Loot.Drop)
      (evs : List LootEvent), States step
        (fun s => s.loot.unlootedCount.toNat = s.loot.takeable.length ∧
          (s.loot.isLooted = true ↔ s.loot.gold = 0 ∧ s.loot.takeable = []))
        (generated getItemTemplate gold drops) evs := by
  intro hall
  have hlast := (hall (fun _ => some ⟨0, 0, 1⟩) 0 [⟨⟨1, false, []⟩, 1, fun _ => 0, fun _ => 0⟩]
    [.fill (mate 1) true (fun _ => false) fun _ => true,
      .fill (mate 2) true (fun _ => false) fun _ => true, .store 0 (mate 2) true,
      .masterGive 0 (mate 2) true]).exec.1
  revert hlast
  decide +kernel

end LootState

end FunPvp.Looting
