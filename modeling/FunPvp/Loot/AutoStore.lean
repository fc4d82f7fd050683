/-
# Loot that is stored at once

`AutoStoreLoot` fills a loot for one player and goes through all slots of his window. What
`LootItemInSlot` returns is used without a look, although it returns nothing for a slot whose item
is taken already, or is free for all and on nobody's list.

Filling the lists stores currency that is free for all right away, and its slot is empty when the
loop comes to it. If nothing is stored so, and there is no free for all item or one that the player
may have, no slot is empty, and each item there is room for is stored once.
-/
import FunPvp.Loot.Takeable

namespace FunPvp.Looting

open FunPvp.Lib

/-! ## 1. The code -/

namespace LootState

/-- The loop of `AutoStoreLoot`; what it does with an item that is null is undefined. -/
def autoStoreSlots (p : Looter) (canStore : ℕ → Bool) : List ℕ → LootState → Option LootState
  | [], s => some s
  | i :: slots, s =>
    match s.loot.lootItemInSlot i p.guid with
    | none => none
    | some lootItem =>
      autoStoreSlots p canStore slots
        (if canStore i then
          { s with stored := (p.guid, lootItem.quest, lootItem.index) :: s.stored }
        else s)

/-- `FillLoot` for one player. Without a template there is nothing in the loot. -/
def fillPersonalLoot (getItemTemplate : UInt32 → Option ItemTemplate) (drops : List Loot.Drop)
    (p : Looter) (isCurrency : UInt32 → Bool) (canStore : ℕ → Bool) : LootState :=
  (LootState.generated getItemTemplate 0 drops).fillNotNormalLootFor p true isCurrency canStore

/-- `AutoStoreLoot`: there is room for the item of a slot while the loot is filled (`canStore`),
and there is, at one of the places that are tried, when the loop comes to it (`canStoreNewItem`). -/
def autoStoreLoot (getItemTemplate : UInt32 → Option ItemTemplate) (drops : List Loot.Drop)
    (p : Looter) (isCurrency : UInt32 → Bool) (canStore canStoreNewItem : ℕ → Bool) :
    Option LootState :=
  let s := fillPersonalLoot getItemTemplate drops p isCurrency canStore
  s.autoStoreSlots p canStoreNewItem (List.range (s.loot.getMaxSlotInLootFor p.guid))

end LootState

/-! ## 2. What is to be stored -/

namespace Loot

/-- The item of a slot of the player's window, before his lists are filled. -/
def offered (l : Loot) (p : Looter) (slot : ℕ) : Option (Bool × ℕ) :=
  if slot < l.items.length then some (false, slot)
  else (l.questSlots p)[slot - l.items.length]?.map fun index => (true, index)

def mayTake (l : Loot) (p : Looter) (e : Bool × ℕ) : Bool := ((l.itemsOf e.1)[e.2]?).any p.allowed

/-- Filling the lists stores the item of a slot, because what has its number is a currency that is
free for all. -/
def storesAtOnce (l : Loot) (p : Looter) (isCurrency : UInt32 → Bool) (canStore : ℕ → Bool)
    (slot : ℕ) : Bool :=
  ((l.itemAt slot).any fun item =>
    item.freeforall && p.allowed item && isCurrency item.itemid) &&
      ((l.offered p slot).any (l.mayTake p) && canStore slot)

/-- Nothing is free for all, or the player may have something that is. -/
def ffaListed (l : Loot) (p : Looter) : Bool :=
  !(l.items.any LootItem.freeforall) || l.items.any fun item => item.freeforall && p.allowed item

end Loot

/-- **Everything is stored**: the loop ends, and each item of a slot that the player may have and
has room for is stored once. -/
def StoresAll (l : Loot) (p : Looter) (isCurrency : UInt32 → Bool)
    (canStore canStoreNewItem : ℕ → Bool) (r : Option LootState) : Prop :=
  ∃ s, r = some s ∧ ∀ slot e, l.offered p slot = some e → l.mayTake p e = true →
    (canStoreNewItem slot = true ∨ l.storesAtOnce p isCurrency canStore slot = true) →
      s.stored.count (p.guid, e) = 1

/-- `AllowedForPlayer` does not look at what filling the lists writes. -/
def Looter.IgnoresMarks (p : Looter) : Prop := ∀ item, p.allowed item.unmarked = p.allowed item

/-! ## 3. The lists that are filled -/

namespace Loot

variable {l : Loot} {p : Looter} {slot : ℕ} {e : Bool × ℕ}

theorem fillQuestLoot_items (l : Loot) (p : Looter) : (l.fillQuestLoot p).items = l.items := by
  have hitems := fillQuestFrom_items p l.questItems 0 [] l
  rw [fillQuestLoot]
  split
  · rfl
  split
  · rename_i heq
    rw [heq] at hitems
    exact hitems
  · rename_i heq
    rw [heq] at hitems
    exact hitems

theorem Fresh.fillLists_unmarked (h : l.Fresh) (p : Looter) (presentAtLooting : Bool) :
    ∃ conditional, (l.fillLists p presentAtLooting).unmarked =
      { l.unmarked with
        playerQuestItems := QuestItemMap.add [] p.guid (l.questSlots p)
        playerFFAItems := QuestItemMap.add [] p.guid (l.ffaSlots p)
        playerNonQuestNonFFAConditionalItems := QuestItemMap.add [] p.guid conditional } := by
  have hget : ∀ m : QuestItemMap, m = [] → (m.get p.guid).isNone = true := by
    rintro _ rfl
    rfl
  have hquest := fillQuestLoot_unmarked l p
  have hffa := fillFFALoot_unmarked (l.fillQuestLoot p) p
  have hconditional :=
    fillConditional_unmarked ((l.fillQuestLoot p).fillFFALoot p) p presentAtLooting
  rw [hquest] at hffa
  rw [hffa] at hconditional
  have hffaNone : (l.fillQuestLoot p).playerFFAItems = [] :=
    (congrArg playerFFAItems hquest).trans h.ffa
  have hconditionalNone :
      ((l.fillQuestLoot p).fillFFALoot p).playerNonQuestNonFFAConditionalItems = [] :=
    (congrArg playerNonQuestNonFFAConditionalItems hffa).trans h.conditional
  have hslots : (l.fillQuestLoot p).ffaSlots p = l.ffaSlots p := by
    rw [ffaSlots, ffaSlots, fillQuestLoot_items]
  refine ⟨((l.fillQuestLoot p).fillFFALoot p).conditionalSlots p, ?_⟩
  rw [fillLists, if_pos (hget _ h.quest)]
  dsimp only
  rw [if_pos (hget _ hffaNone), if_pos (hget _ hconditionalNone), hconditional, hslots, hffaNone,
    hconditionalNone, h.quest]

theorem fillFFALoot_items (l : Loot) (p : Looter) : (l.fillFFALoot p).items = l.items := by
  have hitems := fillFFAFrom_items p l.items 0 [] l
  rw [fillFFALoot]
  split
  · rename_i heq
    rw [heq] at hitems
    exact hitems
  · rename_i heq
    rw [heq] at hitems
    exact hitems

theorem fillConditionalFrom_isBlocked (p : Looter) (presentAtLooting : Bool)
    (items : List LootItem) (i : ℕ) (ql : List QuestItem) (l : Loot) :
    (fillConditionalFrom p presentAtLooting i items (ql, l)).2.items.map LootItem.isBlocked =
      l.items.map LootItem.isBlocked := by
  have hmodify : ∀ (f : LootItem → LootItem) (l : Loot) (i : ℕ),
      (∀ item, (f item).isBlocked = item.isBlocked) →
        (l.modifyItem i f).items.map LootItem.isBlocked = l.items.map LootItem.isBlocked := by
    intro f l i hf
    refine List.ext_getElem? fun k => ?_
    rw [modifyItem, List.getElem?_map, List.getElem?_map, List.getElem?_modify]
    cases l.items[k]? with
    | none => rfl
    | some item =>
      simp only [Option.map_eq_map, Option.map_some]
      split
      · rw [hf]
      · rfl
  induction items generalizing i ql l with
  | nil => rfl
  | cons item items ih =>
    have hlooter : (if presentAtLooting then
        l.modifyItem i fun item => item.addAllowedLooter p.guid else l).items.map
          LootItem.isBlocked = l.items.map LootItem.isBlocked := by
      split
      · exact hmodify _ l i fun _ => rfl
      · rfl
    rw [fillConditionalFrom]
    dsimp only
    split
    · split
      · rw [ih]
        split
        · exact (hmodify (fun item => { item with isCounted := true }) _ i fun _ => rfl).trans
            hlooter
        · exact hlooter
      · rw [ih]
        exact hlooter
    · exact ih _ _ _

theorem Fresh.fillLists_isBlocked (h : l.Fresh) (p : Looter) (presentAtLooting : Bool) :
    ∀ item ∈ (l.fillLists p presentAtLooting).items, item.isBlocked = false := by
  have hsame : (l.fillLists p presentAtLooting).items.map LootItem.isBlocked =
      l.items.map LootItem.isBlocked := by
    refine fillLists_induct
      (P := fun l' => l'.items.map LootItem.isBlocked = l.items.map LootItem.isBlocked) ?_ ?_ ?_ rfl
    · intro l' hl' _
      rw [fillQuestLoot_items]
      exact hl'
    · intro l' hl' _
      rw [fillFFALoot_items]
      exact hl'
    · intro l' hl' _
      have hitems := fillConditionalFrom_isBlocked p presentAtLooting l'.items 0 [] l'
      rw [fillNonQuestNonFFAConditionalLoot]
      split
      · rename_i heq
        rw [heq] at hitems
        exact hitems.trans hl'
      · rename_i heq
        rw [heq] at hitems
        exact hitems.trans hl'
  intro item hitem
  have hmem := List.mem_map_of_mem (f := LootItem.isBlocked) hitem
  rw [hsame] at hmem
  obtain ⟨item', hitem', hblocked⟩ := List.mem_map.mp hmem
  rw [← hblocked]
  exact (h.made item' (List.mem_append_left _ hitem')).2.1

/-- A loot whose lists have been filled for its first player. -/
structure Filled (l : Loot) (p : Looter) (l' : Loot) : Prop where
  items : l'.items.map LootItem.unmarked = l.items.map LootItem.unmarked
  questItems : l'.questItems.map LootItem.unmarked = l.questItems.map LootItem.unmarked
  quest : l'.playerQuestItems = QuestItemMap.add [] p.guid (l.questSlots p)
  ffa : l'.playerFFAItems = QuestItemMap.add [] p.guid (l.ffaSlots p)
  conditional : ∃ ks, l'.playerNonQuestNonFFAConditionalItems = QuestItemMap.add [] p.guid ks

theorem Fresh.filled (h : l.Fresh) (p : Looter) (presentAtLooting : Bool) :
    l.Filled p (l.fillLists p presentAtLooting) := by
  obtain ⟨ks, hmarks⟩ := h.fillLists_unmarked p presentAtLooting
  exact ⟨congrArg Loot.items hmarks, congrArg questItems hmarks,
    congrArg playerQuestItems hmarks, congrArg playerFFAItems hmarks, ks,
    congrArg playerNonQuestNonFFAConditionalItems hmarks⟩

theorem get_add_nil (guid : ObjectGuid) (ks : List ℕ) :
    (QuestItemMap.add [] guid ks).get guid =
      if ks = [] then none else some (ks.map (QuestItem.mk · false)) := by
  rw [QuestItemMap.add]
  split
  · rfl
  · simp [QuestItemMap.get]

theorem findEntry_add_nil {guid : ObjectGuid} {ks : List ℕ} {index pos : ℕ} {looted : Bool}
    (h : findEntry (QuestItemMap.add [] guid ks) guid index = some (pos, looted)) :
    looted = false := by
  obtain ⟨ql, q, hget, hpos, -, hlooted⟩ := findEntry_some h
  rw [get_add_nil] at hget
  split at hget
  · exact nomatch hget
  · obtain rfl := Option.some.inj hget
    obtain ⟨k, -, rfl⟩ := List.mem_map.mp (List.mem_of_getElem? hpos)
    exact hlooted.symm

variable {l' : Loot}

theorem Filled.itemsOf (h : l.Filled p l') (quest : Bool) :
    (l'.itemsOf quest).map LootItem.unmarked = (l.itemsOf quest).map LootItem.unmarked := by
  cases quest with
  | true => exact h.questItems
  | false => exact h.items

theorem Filled.get (h : l.Filled p l') {item : LootItem} (he : (l.itemsOf e.1)[e.2]? = some item) :
    ∃ item', (l'.itemsOf e.1)[e.2]? = some item' ∧ item'.unmarked = item.unmarked := by
  have hget := congrArg (fun items => items[e.2]?) (h.itemsOf e.1)
  simp only [List.getElem?_map, he, Option.map_some] at hget
  exact Option.map_eq_some_iff.mp hget

theorem Filled.length (h : l.Filled p l') : l'.items.length = l.items.length := by
  have hlen := congrArg List.length h.items
  simpa using hlen

theorem Filled.getMaxSlotInLootFor (h : l.Filled p l') :
    l'.getMaxSlotInLootFor p.guid = l.items.length + (l.questSlots p).length := by
  rw [Loot.getMaxSlotInLootFor, h.length, h.quest, get_add_nil]
  split
  · rename_i hnil
    rw [hnil]
    rfl
  · rw [Option.elim_some, List.length_map]

theorem offered_isSome : (l.offered p slot).isSome = true ↔
    slot < l.items.length + (l.questSlots p).length := by
  rw [offered]
  split
  · simp
    omega
  · simp
    omega

theorem item_of_offered (he : l.offered p slot = some e) :
    ∃ item, (l.itemsOf e.1)[e.2]? = some item := by
  rw [offered] at he
  split at he
  · rename_i hlt
    obtain rfl := Option.some.inj he
    exact ⟨_, List.getElem?_eq_getElem hlt⟩
  · obtain ⟨k, hk, rfl⟩ := Option.map_eq_some_iff.mp he
    obtain ⟨item, hitem, -⟩ := mem_questSlots (List.mem_of_getElem? hk)
    exact ⟨item, hitem⟩

theorem offered_injective {slot' : ℕ} (he : l.offered p slot = some e)
    (he' : l.offered p slot' = some e) : slot = slot' := by
  rw [offered] at he he'
  split at he <;> split at he'
  · obtain rfl := Option.some.inj he
    exact congrArg Prod.snd (Option.some.inj he').symm
  · obtain rfl := Option.some.inj he
    obtain ⟨k, -, heq⟩ := Option.map_eq_some_iff.mp he'
    exact nomatch congrArg Prod.fst heq
  · obtain rfl := Option.some.inj he'
    obtain ⟨k, -, heq⟩ := Option.map_eq_some_iff.mp he
    exact nomatch congrArg Prod.fst heq
  · rename_i hge hge'
    obtain ⟨k, hk, rfl⟩ := Option.map_eq_some_iff.mp he
    obtain ⟨k', hk', heq⟩ := Option.map_eq_some_iff.mp he'
    obtain rfl : k' = k := congrArg Prod.snd heq
    have hlt := (List.getElem?_eq_some_iff.mp hk).1
    have hpos := (List.getElem?_inj hlt (nodup_questSlots l p)).mp (hk.trans hk'.symm)
    omega

theorem Fresh.ffaSlots_ne_nil (h : l.Fresh) (hffa : l.ffaListed p = true) {item : LootItem}
    (hitem : item ∈ l.items) (hfree : item.freeforall = true) : l.ffaSlots p ≠ [] := by
  have hany : l.items.any LootItem.freeforall = true := List.any_eq_true.mpr ⟨item, hitem, hfree⟩
  rw [ffaListed, hany, Bool.not_true, Bool.false_or, List.any_eq_true] at hffa
  obtain ⟨item', hitem', hallowed⟩ := hffa
  obtain ⟨k, hk⟩ := List.getElem?_of_mem hitem'
  have hmade := (h.made item' (List.mem_append_left _ hitem')).1
  have hmem : k ∈ l.ffaSlots p := mem_ffaSlots.mpr ⟨item', hk, by
    rw [ffaTest, hmade]
    exact hallowed⟩
  exact List.ne_nil_of_mem hmem

theorem lootItemInSlot_of_offered (h : l.Filled p l') (hfresh : l.Fresh)
    (hffa : l.ffaListed p = true) (he : l.offered p slot = some e) :
    ∃ found, l'.lootItemInSlot slot p.guid = some found ∧ (found.quest, found.index) = e ∧
      (l'.itemsOf e.1)[e.2]? = some found.item := by
  obtain ⟨item, hitem⟩ := item_of_offered he
  obtain ⟨item', hitem', hmarks⟩ := h.get hitem
  have hlooted : item'.unmarked.isLooted = item.unmarked.isLooted :=
    congrArg LootItem.isLooted hmarks
  have hfree : item'.unmarked.freeforall = item.unmarked.freeforall :=
    congrArg LootItem.freeforall hmarks
  change item'.isLooted = item.isLooted at hlooted
  change item'.freeforall = item.freeforall at hfree
  rw [offered] at he
  split at he
  · rename_i hlt
    obtain rfl := Option.some.inj he
    have hmem : item ∈ l.items := List.mem_of_getElem? hitem
    rw [(hfresh.made item (List.mem_append_left _ hmem)).1] at hlooted
    change l'.items[slot]? = some item' at hitem'
    have hslot : ¬ slot ≥ l'.items.length := by
      rw [h.length]
      omega
    have hunlooted : ∀ (guid : ObjectGuid) (ks : List ℕ),
        (findEntry (QuestItemMap.add [] guid ks) guid slot).elim item'.isLooted Prod.snd =
          false := by
      intro guid ks
      cases hfound : findEntry (QuestItemMap.add [] guid ks) guid slot with
      | none => exact hlooted
      | some found => exact findEntry_add_nil hfound
    obtain ⟨ks, hks⟩ := h.conditional
    unfold lootItemInSlot
    rw [if_neg hslot, hitem', h.ffa, hks]
    dsimp only
    rw [hunlooted, hunlooted, hlooted]
    cases hffaItem : item'.freeforall with
    | true =>
      have hlisted := hfresh.ffaSlots_ne_nil hffa hmem (hfree.symm.trans hffaItem)
      rw [get_add_nil, if_neg hlisted]
      exact ⟨_, rfl, rfl, hitem'⟩
    | false =>
      cases item'.conditions.isEmpty with
      | true => exact ⟨_, rfl, rfl, hitem'⟩
      | false => exact ⟨_, rfl, rfl, hitem'⟩
  · rename_i hge
    obtain ⟨k, hk, rfl⟩ := Option.map_eq_some_iff.mp he
    change l'.questItems[k]? = some item' at hitem'
    have hlisted : l.questSlots p ≠ [] := List.ne_nil_of_mem (List.mem_of_getElem? hk)
    have hslot : slot ≥ l'.items.length := by
      rw [h.length]
      omega
    unfold lootItemInSlot
    rw [if_pos hslot, h.quest, get_add_nil, if_neg hlisted, h.length]
    dsimp only
    rw [List.getElem?_map, hk, Option.map_some]
    dsimp only
    rw [hitem']
    exact ⟨_, rfl, rfl, hitem'⟩

/-! ## 4. What is taken stays taken -/

theorem get_map_index (m : QuestItemMap) (guid : ObjectGuid) :
    (m.get guid).map (List.map QuestItem.index) =
      (m.indices.find? fun entry => entry.1 == guid).map Prod.snd := by
  simp [QuestItemMap.get, QuestItemMap.indices, List.find?_map, Function.comp_def]

variable {guid : ObjectGuid} {found : SlotItem}

theorem lootItemInSlot_of_taken (hl : l.WellFormed) (hfound : l.InSlot guid slot found)
    (hentry : found.quest = true ∨ found.ffaitem.isSome = true)
    (hlater : Later (l.takeSlot guid found) l') (hshape : l'.shape = l.shape) :
    l'.lootItemInSlot slot guid = none := by
  have hl' : l'.WellFormed := hl.of_shape hshape
  have hlength : l'.items.length = l.items.length := by
    have hitems := congrArg (fun sh => sh.items.length) hshape
    simpa [shape] using hitems
  have hkind : ∀ {item item' : LootItem}, l.items[slot]? = some item →
      l'.items[slot]? = some item' → item'.freeforall = item.freeforall := by
    intro item item' hitem hitem'
    have hitems := congrArg (fun sh => sh.items[slot]?) hshape
    simp only [shape, List.getElem?_map, hitem, hitem', Option.map_some, Option.some.injEq]
      at hitems
    exact congrArg Prod.fst hitems
  by_contra hsome
  obtain ⟨found', hfound'⟩ := Option.ne_none_iff_exists'.mp hsome
  have hslot' := inSlot_of_some hfound'
  cases hfound with
  | @quest ql pos q item hget hpos hfree hitem =>
    have hmarked : (l'.listsOf true).Marked guid q.index := by
      refine hlater.marked ?_
      have hlists : (l.takeSlot guid ⟨item, true, q.index, some pos, none, none⟩).listsOf true =
          l.playerQuestItems.take guid pos := by
        rw [takeSlot]
        cases item.freeforall <;> rfl
      rw [hlists]
      exact QuestItemMap.marked_take hget hpos
    generalize hn : l.items.length + pos = n at hslot' hkind
    have hout : ∀ {item' : LootItem}, l'.items[n]? ≠ some item' := by
      intro item' hitem'
      have hlt := (List.getElem?_eq_some_iff.mp hitem').1
      omega
    cases hslot' with
    | @quest ql' pos' q' item' hget' hpos' hfree' hitem' =>
      have hsame : pos' = pos := by omega
      subst hsame
      have hindices := get_map_index l'.playerQuestItems guid
      rw [show l'.playerQuestItems.indices = l.playerQuestItems.indices from
        congrArg Shape.quest hshape, ← get_map_index, hget, hget'] at hindices
      have hentries := congrArg (fun ks => ks[pos']?) (Option.some.inj hindices)
      simp only [List.getElem?_map, hpos, hpos', Option.map_some, Option.some.injEq] at hentries
      rw [← hentries] at hmarked
      exact not_marked hget' (hl'.quest_of_mem (QuestItemMap.mem_of_get hget')).1 hpos' hfree'
        hmarked
    | ffa hitem' => exact hout hitem'
    | ffaUnlisted hitem' => exact hout hitem'
    | conditional hitem' => exact hout hitem'
    | conditionalUnlisted hitem' => exact hout hitem'
    | plain hitem' => exact hout hitem'
  | @ffa _ item ql pos q hitem hffa hget hpos hindex hfree =>
    have hmarked : (l'.listsOf false).Marked guid slot := by
      refine hlater.marked ?_
      have hlists : (l.takeSlot guid ⟨item, false, slot, none, some pos, none⟩).listsOf false =
          l.playerFFAItems.take guid pos := by
        rw [takeSlot]
        cases item.freeforall <;> rfl
      rw [hlists, ← hindex]
      exact QuestItemMap.marked_take hget hpos
    have hlt := (List.getElem?_eq_some_iff.mp hitem).1
    cases hslot' with
    | quest hget' hpos' hfree' hitem' => omega
    | ffa hitem' hffa' hget' hpos' hindex' hfree' =>
      rw [← hindex'] at hmarked
      exact not_marked hget' (hl'.ffa_of_mem (QuestItemMap.mem_of_get hget')).1 hpos' hfree' hmarked
    | ffaUnlisted hitem' hffa' hget' hunlisted =>
      obtain ⟨ql', q', hgetq, hq', hindex', -⟩ := hmarked
      obtain rfl := Option.some.inj (hget'.symm.trans hgetq)
      exact hunlisted q' hq' hindex'
    | conditional hitem' hffa' => cases (hffa'.symm.trans (hkind hitem hitem')).trans hffa
    | conditionalUnlisted hitem' hffa' =>
      cases (hffa'.symm.trans (hkind hitem hitem')).trans hffa
    | plain hitem' hffa' => cases (hffa'.symm.trans (hkind hitem hitem')).trans hffa
  | ffaUnlisted => simp at hentry
  | conditional => simp at hentry
  | conditionalUnlisted => simp at hentry
  | plain => simp at hentry

end Loot

/-! ## 5. The loops -/

namespace LootState

variable {s : LootState} {p : Looter} {canStore : ℕ → Bool} {slots : List ℕ}

theorem autoStoreSlots_eq_none (h : ∃ i ∈ slots, s.loot.lootItemInSlot i p.guid = none) :
    s.autoStoreSlots p canStore slots = none := by
  induction slots generalizing s with
  | nil => simp at h
  | cons i slots ih =>
    rw [autoStoreSlots]
    cases hi : s.loot.lootItemInSlot i p.guid with
    | none => rfl
    | some lootItem =>
      obtain ⟨j, hj, hnone⟩ := h
      rcases List.mem_cons.mp hj with rfl | hj
      · rw [hi] at hnone
        cases hnone
      · refine ih ⟨j, hj, ?_⟩
        split <;> exact hnone

theorem autoStoreSlots_eq_some {f : ℕ → Bool × ℕ} (h : ∀ i ∈ slots, ∃ found,
      s.loot.lootItemInSlot i p.guid = some found ∧ (found.quest, found.index) = f i) :
    ∃ s', s.autoStoreSlots p canStore slots = some s' ∧
      s'.stored = ((slots.filter canStore).map fun i => (p.guid, f i)).reverse ++ s.stored := by
  induction slots generalizing s with
  | nil => exact ⟨s, rfl, rfl⟩
  | cons i slots ih =>
    obtain ⟨lootItem, hi, hf⟩ := h i List.mem_cons_self
    rw [autoStoreSlots, hi]
    dsimp only
    rw [hf, List.filter_cons]
    cases canStore i with
    | false =>
      simp only [Bool.false_eq_true, if_false]
      exact ih fun j hj => h j (List.mem_cons_of_mem _ hj)
    | true =>
      simp only [if_true]
      obtain ⟨s', hs', hstored⟩ := ih (s := { s with stored := (p.guid, f i) :: s.stored })
        fun j hj => h j (List.mem_cons_of_mem _ hj)
      refine ⟨s', hs', ?_⟩
      rw [hstored, List.map_cons, List.reverse_cons, List.append_assoc]
      rfl

variable {isCurrency : UInt32 → Bool}

theorem processCurrency_eq_self (h : ∀ i ∈ slots, s.autoStores p isCurrency i = true →
    s.storable i p (canStore i) = none) : processCurrency p isCurrency canStore slots s = s := by
  induction slots with
  | nil => rfl
  | cons i slots ih =>
    have hsame : (if s.autoStores p isCurrency i then s.storeLootItem i p (canStore i) else s) =
        s := by
      split
      · rename_i hauto
        rw [storeLootItem, h i List.mem_cons_self hauto]
      · rfl
    rw [processCurrency, hsame]
    exact ih fun j hj => h j (List.mem_cons_of_mem _ hj)

theorem processCurrency_later (isCurrency : UInt32 → Bool) (canStore : ℕ → Bool) (slots : List ℕ)
    (s : LootState) :
    (processCurrency p isCurrency canStore slots s).loot.shape = s.loot.shape ∧
      Loot.Later s.loot (processCurrency p isCurrency canStore slots s).loot := by
  refine processCurrency_induct
    (P := fun s' => s'.loot.shape = s.loot.shape ∧ Loot.Later s.loot s'.loot) ?_
    ⟨rfl, Loot.Later.refl _⟩
  rintro s' j ⟨hshape, hlater⟩
  rw [storeLootItem]
  split
  · exact ⟨hshape, hlater⟩
  · exact ⟨(Loot.shape_takeSlot _ _ _).trans hshape, hlater.trans (Loot.Later.takeSlot _ _ _)⟩

theorem processCurrency_empties (hl : s.loot.WellFormed)
    (hentry : ∀ i found, s.autoStores p isCurrency i = true →
      s.storable i p (canStore i) = some found →
        found.quest = true ∨ found.ffaitem.isSome = true)
    (h : ∃ i ∈ slots, s.autoStores p isCurrency i = true ∧
      (s.storable i p (canStore i)).isSome = true) :
    ∃ i ∈ slots,
      (processCurrency p isCurrency canStore slots s).loot.lootItemInSlot i p.guid = none := by
  induction slots with
  | nil => simp at h
  | cons i slots ih =>
    rw [processCurrency]
    by_cases hauto : s.autoStores p isCurrency i = true
    · cases hstorable : s.storable i p (canStore i) with
      | some found =>
        refine ⟨i, List.mem_cons_self, ?_⟩
        rw [if_pos hauto, storeLootItem, hstorable]
        dsimp only
        have hslot := inSlot_of_storable hstorable
        generalize hs₁ : LootState.mk (s.loot.takeSlot p.guid found)
          ((p.guid, found.quest, found.index) :: s.stored) = s₁
        have hloot : s₁.loot = s.loot.takeSlot p.guid found := by rw [← hs₁]
        obtain ⟨hshape, hlater⟩ := processCurrency_later (p := p) isCurrency canStore slots s₁
        rw [hloot] at hshape hlater
        exact Loot.lootItemInSlot_of_taken hl hslot (hentry i found hauto hstorable) hlater
          (hshape.trans (Loot.shape_takeSlot _ _ _))
      | none =>
        have hsame : s.storeLootItem i p (canStore i) = s := by rw [storeLootItem, hstorable]
        rw [if_pos hauto, hsame]
        obtain ⟨j, hj, hmore⟩ := h
        rcases List.mem_cons.mp hj with rfl | hj
        · rw [hstorable] at hmore
          cases hmore.2
        · obtain ⟨k, hk, hnone⟩ := ih ⟨j, hj, hmore⟩
          exact ⟨k, List.mem_cons_of_mem _ hk, hnone⟩
    · rw [if_neg hauto]
      obtain ⟨j, hj, hmore⟩ := h
      rcases List.mem_cons.mp hj with rfl | hj
      · exact absurd hmore.1 hauto
      · obtain ⟨k, hk, hnone⟩ := ih ⟨j, hj, hmore⟩
        exact ⟨k, List.mem_cons_of_mem _ hk, hnone⟩

end LootState

/-! ## 6. When everything is stored -/

namespace Loot

variable {l l' : Loot} {p : Looter} {isCurrency : UInt32 → Bool} {canStore : ℕ → Bool} {slot : ℕ}

theorem Filled.itemAt (h : l.Filled p l') (slot : ℕ) :
    (l'.itemAt slot).map LootItem.unmarked = (l.itemAt slot).map LootItem.unmarked := by
  rw [Loot.itemAt, Loot.itemAt, h.length]
  split
  · rw [← List.getElem?_map, ← List.getElem?_map, h.questItems]
  · rw [← List.getElem?_map, ← List.getElem?_map, h.items]

theorem Fresh.itemAt (h : l.Fresh) {item : LootItem} (hitem : l.itemAt slot = some item) :
    item.isLooted = false := by
  rw [Loot.itemAt] at hitem
  split at hitem
  · exact (h.made item (List.mem_append_right _ (List.mem_of_getElem? hitem))).1
  · exact (h.made item (List.mem_append_left _ (List.mem_of_getElem? hitem))).1

theorem Filled.autoStores (h : l.Filled p l') (hfresh : l.Fresh) (hp : p.IgnoresMarks)
    (stored : List (ObjectGuid × Bool × ℕ)) (slot : ℕ) :
    (LootState.mk l' stored).autoStores p isCurrency slot =
      (l.itemAt slot).any fun item =>
        item.freeforall && p.allowed item && isCurrency item.itemid := by
  have hmarks := h.itemAt slot
  rw [LootState.autoStores]
  cases hitem : l.itemAt slot with
  | none =>
    rw [hitem, Option.map_none, Option.map_eq_none_iff] at hmarks
    rw [hmarks]
    rfl
  | some item =>
    rw [hitem, Option.map_some] at hmarks
    obtain ⟨item', hitem', heq⟩ := Option.map_eq_some_iff.mp hmarks
    have hallowed : p.allowed item' = p.allowed item := by rw [← hp item', heq, hp]
    have hlooted : item'.unmarked.isLooted = item.unmarked.isLooted := by rw [heq]
    have hfree : item'.unmarked.freeforall = item.unmarked.freeforall := by rw [heq]
    have hid : item'.unmarked.itemid = item.unmarked.itemid := by rw [heq]
    change item'.isLooted = item.isLooted at hlooted
    change item'.freeforall = item.freeforall at hfree
    change item'.itemid = item.itemid at hid
    rw [hitem', Option.any_some, Option.any_some, hlooted, hfresh.itemAt hitem, hfree, hallowed,
      hid]
    rfl

theorem Filled.lootItemInSlot_eq_none (h : l.Filled p l') (he : l.offered p slot = none) :
    l'.lootItemInSlot slot p.guid = none := by
  have hge : ¬ slot < l.items.length + (l.questSlots p).length := by
    rw [← offered_isSome, he]
    decide
  unfold lootItemInSlot
  rw [if_pos (by rw [h.length]; omega), h.quest, get_add_nil, h.length]
  split
  · rfl
  · rename_i hget
    split at hget
    · exact nomatch hget
    · obtain rfl := Option.some.inj hget
      dsimp only
      rw [List.getElem?_eq_none (by rw [List.length_map]; omega)]

theorem Filled.storable (h : l.Filled p l') (hfresh : l.Fresh) (hp : p.IgnoresMarks)
    (hffa : l.ffaListed p = true) (hblocked : ∀ item ∈ l'.items, item.isBlocked = false)
    (stored : List (ObjectGuid × Bool × ℕ)) (slot : ℕ) (room : Bool) :
    ((LootState.mk l' stored).storable slot p room).isSome =
      ((l.offered p slot).any (l.mayTake p) && room) := by
  rw [LootState.storable]
  cases he : l.offered p slot with
  | none =>
    rw [h.lootItemInSlot_eq_none he]
    rfl
  | some e =>
    obtain ⟨found, hfound, hsame, hitem'⟩ := lootItemInSlot_of_offered h hfresh hffa he
    obtain ⟨item, hitem⟩ := item_of_offered he
    have hallowed : p.allowed found.item = l.mayTake p e := by
      obtain ⟨item', hget, hmarks⟩ := h.get hitem
      obtain rfl := Option.some.inj (hitem'.symm.trans hget)
      rw [mayTake, hitem, Option.any_some, ← hp found.item, hmarks, hp]
    have hopen : (found.qitem.isNone && found.item.isBlocked) = false := by
      cases inSlot_of_some hfound with
      | quest => rfl
      | ffa hget => exact hblocked _ (List.mem_of_getElem? hget)
      | ffaUnlisted hget => exact hblocked _ (List.mem_of_getElem? hget)
      | conditional hget => exact hblocked _ (List.mem_of_getElem? hget)
      | conditionalUnlisted hget => exact hblocked _ (List.mem_of_getElem? hget)
      | plain hget => exact hblocked _ (List.mem_of_getElem? hget)
    rw [hfound]
    dsimp only
    rw [hallowed, hopen, Option.any_some]
    cases l.mayTake p e <;> cases room <;> rfl

end Loot

variable {p : Looter} {isCurrency : UInt32 → Bool} {canStore canStoreNewItem : ℕ → Bool}

theorem lootItemInSlot_of_unlisted {l l' l'' : Loot} (h : l.Filled p l')
    (hshape : l''.shape = l'.shape) (hffa : l.ffaListed p = false) :
    ∃ slot < l.items.length, l''.lootItemInSlot slot p.guid = none := by
  rw [Loot.ffaListed, Bool.or_eq_false_iff, Bool.not_eq_false', List.any_eq_true] at hffa
  obtain ⟨⟨item, hmem, hfree⟩, hnone⟩ := hffa
  obtain ⟨slot, hslot⟩ := List.getElem?_of_mem hmem
  have hlt := (List.getElem?_eq_some_iff.mp hslot).1
  have hslots : l.ffaSlots p = [] := by
    refine List.eq_nil_iff_forall_not_mem.mpr fun k hk => ?_
    obtain ⟨item', hget, htest⟩ := Loot.mem_ffaSlots.mp hk
    rw [Loot.ffaTest, Bool.and_assoc, Bool.and_eq_true] at htest
    exact Bool.eq_false_iff.mp hnone
      (List.any_eq_true.mpr ⟨item', List.mem_of_getElem? hget, htest.2⟩)
  have hempty : l''.playerFFAItems = [] := by
    have hshapes := congrArg Shape.ffa hshape
    have hlists : l'.playerFFAItems = [] := by
      rw [h.ffa, hslots]
      rfl
    rw [Loot.shape, Loot.shape, hlists] at hshapes
    exact List.map_eq_nil_iff.mp hshapes
  obtain ⟨item', hget', hmarks⟩ := h.get (e := (false, slot)) hslot
  change l'.items[slot]? = some item' at hget'
  have hkinds := congrArg (fun sh => sh.items[slot]?) hshape
  simp only [Loot.shape, List.getElem?_map, hget', Option.map_some] at hkinds
  obtain ⟨item'', hget'', hkind⟩ := Option.map_eq_some_iff.mp hkinds
  have hlt'' := (List.getElem?_eq_some_iff.mp hget'').1
  have hfree'' : item''.freeforall = true := by
    have hfree' : item'.unmarked.freeforall = item.unmarked.freeforall := by rw [hmarks]
    exact ((congrArg Prod.fst hkind).trans hfree').trans hfree
  refine ⟨slot, hlt, ?_⟩
  unfold Loot.lootItemInSlot
  rw [if_neg (by omega), hget'']
  dsimp only
  rw [hfree'', hempty]
  rfl

theorem getMaxSlotInLootFor_of_shape {l l' : Loot} (hshape : l'.shape = l.shape)
    (guid : ObjectGuid) : l'.getMaxSlotInLootFor guid = l.getMaxSlotInLootFor guid := by
  have hitems := congrArg (fun sh => sh.items.length) hshape
  simp only [Loot.shape, List.length_map] at hitems
  have hlists := Loot.get_map_index l'.playerQuestItems guid
  rw [show l'.playerQuestItems.indices = l.playerQuestItems.indices from
    congrArg Shape.quest hshape, ← Loot.get_map_index] at hlists
  rw [Loot.getMaxSlotInLootFor, Loot.getMaxSlotInLootFor, hitems]
  cases hget : l.playerQuestItems.get guid with
  | none =>
    rw [hget, Option.map_none, Option.map_eq_none_iff] at hlists
    rw [hlists]
  | some ql =>
    rw [hget, Option.map_some] at hlists
    obtain ⟨ql', hget', heq⟩ := Option.map_eq_some_iff.mp hlists
    have hlen := congrArg List.length heq
    simp only [List.length_map] at hlen
    rw [hget', Option.elim_some, Option.elim_some, hlen]

theorem entry_of_storable {l l' : Loot} (h : l.Filled p l') (hfresh : l.Fresh)
    (hp : p.IgnoresMarks) {slot : ℕ} {room : Bool} {found : Loot.SlotItem}
    (hauto : (LootState.mk l' []).autoStores p isCurrency slot = true)
    (hfound : (LootState.mk l' []).storable slot p room = some found) :
    found.quest = true ∨ found.ffaitem.isSome = true := by
  have hslot := LootState.inSlot_of_storable hfound
  change l'.InSlot p.guid slot found at hslot
  -- a plain item is the one that has the number of the slot
  have hplain : ∀ {item : LootItem}, l'.items[slot]? = some item →
      item.freeforall = true ∧ slot ∈ l.ffaSlots p := by
    intro item hitem
    have hlt := (List.getElem?_eq_some_iff.mp hitem).1
    have hbefore := hauto
    rw [h.autoStores hfresh hp, Loot.itemAt, if_neg (by rw [← h.length]; omega)] at hbefore
    rw [LootState.autoStores, Loot.itemAt, if_neg (by dsimp only; omega), hitem,
      Option.any_some] at hauto
    obtain ⟨item₀, hitem₀, htest⟩ := (Option.any_eq_true _ _).mp hbefore
    simp only [Bool.and_eq_true] at hauto htest
    refine ⟨hauto.1.1.2, Loot.mem_ffaSlots.mpr ⟨item₀, hitem₀, ?_⟩⟩
    rw [Loot.ffaTest, (hfresh.made item₀ (List.mem_append_left _ (List.mem_of_getElem? hitem₀))).1,
      htest.1.1, htest.1.2]
    rfl
  cases hslot with
  | quest => exact Or.inl rfl
  | ffa => exact Or.inr rfl
  | ffaUnlisted hitem hffa hget hunlisted =>
    obtain ⟨-, hmem⟩ := hplain hitem
    rw [h.ffa, Loot.get_add_nil, if_neg (List.ne_nil_of_mem hmem)] at hget
    obtain rfl := Option.some.inj hget
    exact absurd rfl (hunlisted ⟨slot, false⟩ (List.mem_map_of_mem hmem))
  | conditional hitem hffa => cases hffa.symm.trans (hplain hitem).1
  | conditionalUnlisted hitem hffa => cases hffa.symm.trans (hplain hitem).1
  | plain hitem hffa => cases hffa.symm.trans (hplain hitem).1

/-- **When `AutoStoreLoot` stores everything**: if there is nothing free for all or the player may
have something that is, and nothing is stored while the lists are filled. -/
theorem autoStoreLoot_storesAll_iff (getItemTemplate : UInt32 → Option ItemTemplate)
    (drops : List Loot.Drop) (hp : p.IgnoresMarks) :
    StoresAll (Loot.process getItemTemplate 0 drops) p isCurrency canStore canStoreNewItem
        (LootState.autoStoreLoot getItemTemplate drops p isCurrency canStore canStoreNewItem) ↔
      (Loot.process getItemTemplate 0 drops).ffaListed p = true ∧
        ∀ slot, (Loot.process getItemTemplate 0 drops).storesAtOnce p isCurrency canStore slot =
          false := by
  have hfresh := Loot.fresh_process getItemTemplate 0 drops
  have hwell := (LootState.generated_unlisted getItemTemplate 0 drops).wellFormed
  change (Loot.process getItemTemplate 0 drops).WellFormed at hwell
  rw [LootState.autoStoreLoot, LootState.fillPersonalLoot, LootState.generated,
    LootState.fillNotNormalLootFor]
  generalize Loot.process getItemTemplate 0 drops = l at hfresh hwell ⊢
  dsimp only
  have hfilled := hfresh.filled p true
  have hopen := hfresh.fillLists_isBlocked p true
  have hwell' := hwell.fillLists p true
  generalize l.fillLists p true = l' at hfilled hopen hwell' ⊢
  rw [Bool.not_true, if_neg Bool.false_ne_true]
  have hmax := hfilled.getMaxSlotInLootFor
  have hrange : ∀ slot, slot ∈ List.range (l'.getMaxSlotInLootFor p.guid) ↔
      (l.offered p slot).isSome = true := by
    intro slot
    rw [List.mem_range, hmax, Loot.offered_isSome]
  have hstores : ∀ slot, l.ffaListed p = true →
      (l.storesAtOnce p isCurrency canStore slot = true ↔
        (LootState.mk l' []).autoStores p isCurrency slot = true ∧
          ((LootState.mk l' []).storable slot p (canStore slot)).isSome = true) := by
    intro slot hffa
    rw [hfilled.autoStores hfresh hp, hfilled.storable hfresh hp hffa hopen, Loot.storesAtOnce,
      Bool.and_eq_true]
  constructor
  · rintro ⟨s, hs, -⟩
    obtain ⟨hshape, -⟩ := LootState.processCurrency_later (p := p) isCurrency canStore
      (List.range (l'.getMaxSlotInLootFor p.guid)) (LootState.mk l' [])
    have hmax' := getMaxSlotInLootFor_of_shape hshape p.guid
    -- no slot is empty when the loop comes to it
    have hfull : ∀ slot ∈ List.range (l'.getMaxSlotInLootFor p.guid),
        (LootState.processCurrency p isCurrency canStore
          (List.range (l'.getMaxSlotInLootFor p.guid)) (LootState.mk l' [])).loot.lootItemInSlot
            slot p.guid ≠ none := by
      intro slot hslot hnone
      rw [LootState.autoStoreSlots_eq_none ⟨slot, by rw [hmax']; exact hslot, hnone⟩] at hs
      cases hs
    have hffa : l.ffaListed p = true := by
      by_contra hno
      obtain ⟨slot, hlt, hnone⟩ :=
        lootItemInSlot_of_unlisted hfilled hshape (Bool.eq_false_iff.mpr hno)
      refine hfull slot ?_ hnone
      rw [List.mem_range, hmax]
      omega
    refine ⟨hffa, fun slot => ?_⟩
    by_contra hslot
    rw [Bool.not_eq_false] at hslot
    have hoffered : (l.offered p slot).isSome = true := by
      rw [Loot.storesAtOnce, Bool.and_eq_true, Bool.and_eq_true] at hslot
      obtain ⟨e, he, -⟩ := (Option.any_eq_true _ _).mp hslot.2.1
      rw [he]
      rfl
    obtain ⟨i, hi, hnone⟩ := LootState.processCurrency_empties hwell'
      (fun i found hauto hfound => entry_of_storable hfilled hfresh hp hauto hfound)
      ⟨slot, (hrange slot).mpr hoffered, (hstores slot hffa).mp hslot⟩
    exact hfull i hi hnone
  · rintro ⟨hffa, hnone⟩
    have hself : LootState.processCurrency p isCurrency canStore
        (List.range (l'.getMaxSlotInLootFor p.guid)) (LootState.mk l' []) = LootState.mk l' [] := by
      refine LootState.processCurrency_eq_self fun i _ hauto => ?_
      by_contra hsome
      have hstore := (hstores i hffa).mpr ⟨hauto, Option.isSome_iff_ne_none.mpr hsome⟩
      rw [hnone i] at hstore
      cases hstore
    rw [hself]
    have hall : ∀ i ∈ List.range (l'.getMaxSlotInLootFor p.guid), ∃ found,
        l'.lootItemInSlot i p.guid = some found ∧
          (found.quest, found.index) = (l.offered p i).getD (false, 0) := by
      intro i hi
      obtain ⟨e, he⟩ := Option.isSome_iff_exists.mp ((hrange i).mp hi)
      obtain ⟨found, hfound, hsame, -⟩ := Loot.lootItemInSlot_of_offered hfilled hfresh hffa he
      exact ⟨found, hfound, by rw [he]; exact hsame⟩
    obtain ⟨s, hs, hstored⟩ : ∃ s, (LootState.mk l' []).autoStoreSlots p canStoreNewItem
        (List.range (l'.getMaxSlotInLootFor p.guid)) = some s ∧ s.stored = _ :=
      LootState.autoStoreSlots_eq_some hall
    refine ⟨s, hs, fun slot e he _ hroom => ?_⟩
    have hroom' : canStoreNewItem slot = true := by
      rcases hroom with h | h
      · exact h
      · rw [hnone slot] at h
        cases h
    rw [hstored, List.append_nil, List.count_reverse]
    refine List.count_eq_one_of_mem ?_ ?_
    · refine (List.nodup_range.filter _).map_on fun i hi j hj heq => ?_
      obtain ⟨a, ha⟩ := Option.isSome_iff_exists.mp ((hrange i).mp (List.mem_of_mem_filter hi))
      obtain ⟨b, hb⟩ := Option.isSome_iff_exists.mp ((hrange j).mp (List.mem_of_mem_filter hj))
      have hsame := (Prod.mk.inj heq).2
      rw [ha, hb, Option.getD_some, Option.getD_some] at hsame
      rw [← hsame] at hb
      exact Loot.offered_injective ha hb
    · refine List.mem_map.mpr ⟨slot, List.mem_filter.mpr ⟨(hrange slot).mpr ?_, hroom'⟩, ?_⟩
      · rw [he]
        rfl
      · rw [he]
        rfl

/-! ## 7. One item that is free for all -/

def multiDrop : UInt32 → Option ItemTemplate := fun _ => some ⟨ITEM_PROTO_FLAG_MULTI_DROP, 0, 1⟩

def oneDrop : List Loot.Drop := [⟨⟨3, false, []⟩, 1, fun _ => 0, fun _ => 0⟩]

/-- The player may not have it, and `LootItemInSlot` returns nothing for the only slot. -/
theorem autoStoreLoot_uses_null :
    ¬ ∀ (getItemTemplate : UInt32 → Option ItemTemplate) (drops : List Loot.Drop) (p : Looter)
      (isCurrency : UInt32 → Bool) (canStore canStoreNewItem : ℕ → Bool), p.IgnoresMarks →
      StoresAll (Loot.process getItemTemplate 0 drops) p isCurrency canStore canStoreNewItem
        (LootState.autoStoreLoot getItemTemplate drops p isCurrency canStore canStoreNewItem) := by
  intro hall
  obtain ⟨s, hs, -⟩ := hall multiDrop oneDrop { loner 1 with allowed := fun _ => false }
    (fun _ => false) (fun _ => true) (fun _ => true) fun _ => rfl
  have hnull : LootState.autoStoreLoot multiDrop oneDrop
      { loner 1 with allowed := fun _ => false } (fun _ => false) (fun _ => true)
      (fun _ => true) = none := by
    rfl
  rw [hnull] at hs
  cases hs

/-- A player who may have it gets it. -/
theorem autoStoreLoot_storesAll_loner :
    StoresAll (Loot.process multiDrop 0 oneDrop) (loner 1) (fun _ => false) (fun _ => true)
      (fun _ => true)
      (LootState.autoStoreLoot multiDrop oneDrop (loner 1) (fun _ => false) (fun _ => true)
        fun _ => true) := by
  refine (autoStoreLoot_storesAll_iff multiDrop oneDrop fun _ => rfl).mpr
    ⟨by decide, fun slot => ?_⟩
  simp [Loot.storesAtOnce]

/-- A currency is stored while the lists are filled, and its slot is empty then. -/
example : LootState.autoStoreLoot multiDrop oneDrop (loner 1) (fun _ => true) (fun _ => true)
    (fun _ => true) = none := by
  rfl

end FunPvp.Looting
