/-
# The loot window

The packet of a loot window (`operator<<` for a `LootView`) walks the plain items, the viewer's
quest items, his free for all items and his conditional items, and gives each item it shows a slot.
When the client asks for a slot, `LootItemInSlot` finds the item again, by tests of its own.

In every state of every run the two agree (`run_lootView_agrees`): the packet counts what it shows,
no slot is shown twice, and each shown slot is found again with the item that was shown.
-/
import FunPvp.Loot.Slots

namespace FunPvp.Looting

open FunPvp.Lib

/-! ## 1. The packet -/

inductive PermissionType
  | ALL_PERMISSION
  | GROUP_PERMISSION
  | MASTER_PERMISSION
  | RESTRICTED_PERMISSION
  | ROUND_ROBIN_PERMISSION
  | OWNER_PERMISSION
  | NONE_PERMISSION
deriving DecidableEq

inductive LootSlotType
  | ALLOW_LOOT
  | ROLL_ONGOING
  | MASTER
  | LOCKED
  | OWNER
deriving DecidableEq

open PermissionType LootSlotType

/-- An item of the packet: the slot, the item and how its slot is shown. -/
structure ShownItem where
  slot : UInt8
  item : LootItem
  slotType : LootSlotType
deriving DecidableEq

structure LootPacket where
  gold : UInt32
  itemsShown : UInt8
  shown : List ShownItem

/-- An item is written and counted, if it is to be displayed. -/
def LootPacket.put (b : LootPacket) : Option ShownItem → LootPacket
  | none => b
  | some e => { b with itemsShown := b.itemsShown + 1, shown := b.shown ++ [e] }

structure LootView where
  loot : Loot
  viewer : Looter
  permission : PermissionType

namespace LootView

def viewerIsMasterLooter (lv : LootView) : Bool := lv.viewer.group.any fun g => g.2 == lv.viewer.guid

/-- There is no round robin owner, he has released the loot, or he is the viewer. -/
def viewerMayRoundRobin (lv : LootView) : Bool :=
  lv.loot.roundRobinPlayer.all fun player => lv.viewer.guid == player

def itemSlotType (lv : LootView) (item : LootItem) : Option LootSlotType :=
  match lv.permission with
  | GROUP_PERMISSION =>
    if item.isBlocked then some ROLL_ONGOING
    else if lv.viewerMayRoundRobin || !item.isUnderthreshold then some ALLOW_LOOT else none
  | MASTER_PERMISSION =>
    if item.isBlocked then some (if lv.viewerIsMasterLooter then MASTER else LOCKED)
    else if lv.viewerMayRoundRobin || !item.isUnderthreshold then some ALLOW_LOOT else none
  | RESTRICTED_PERMISSION =>
    if item.isBlocked then some LOCKED
    else if lv.viewerMayRoundRobin || !item.isUnderthreshold then some ALLOW_LOOT else none
  | ROUND_ROBIN_PERMISSION => if lv.viewerMayRoundRobin then some ALLOW_LOOT else none
  | ALL_PERMISSION => some ALLOW_LOOT
  | OWNER_PERMISSION => some OWNER
  | NONE_PERMISSION => none

def slotType (lv : LootView) : LootSlotType :=
  if lv.permission = OWNER_PERMISSION then OWNER else ALLOW_LOOT

/-- How the slot of a quest item or a conditional item is shown. -/
def listSlotType (lv : LootView) (item : LootItem) : LootSlotType :=
  if item.followLootRules then
    match lv.permission with
    | MASTER_PERMISSION => MASTER
    | RESTRICTED_PERMISSION => if item.isBlocked then LOCKED else lv.slotType
    | GROUP_PERMISSION | ROUND_ROBIN_PERMISSION =>
      if !item.isBlocked then ALLOW_LOOT else ROLL_ONGOING
    | _ => lv.slotType
  else lv.slotType

def showItem (lv : LootView) (entry : LootItem × ℕ) : Option ShownItem :=
  if !entry.1.isLooted && !entry.1.freeforall && entry.1.conditions.isEmpty &&
      lv.viewer.allowed entry.1 then
    (lv.itemSlotType entry.1).map fun slotType =>
      { slot := UInt8.ofNat entry.2, item := entry.1, slotType := slotType }
  else none

/-- What is shown of an entry of a list: the item it names, unless one of them is taken. -/
def showEntry (items : List LootItem) (slotType : LootItem → LootSlotType) (slot : ℕ)
    (entry : QuestItem) : Option ShownItem :=
  match items[entry.index]? with
  | none => none
  | some item =>
    if !entry.isLooted && !item.isLooted then
      some { slot := UInt8.ofNat slot, item := item, slotType := slotType item }
    else none

def showQuestItem (lv : LootView) (entry : QuestItem × ℕ) : Option ShownItem :=
  showEntry lv.loot.questItems lv.listSlotType (lv.loot.items.length + entry.2) entry.1

/-- What is shown of a free for all item of the viewer. -/
def showFFAItem (lv : LootView) (entry : QuestItem) : Option ShownItem :=
  showEntry lv.loot.items (fun _ => lv.slotType) entry.index entry

def showConditionalItem (lv : LootView) (entry : QuestItem) : Option ShownItem :=
  showEntry lv.loot.items lv.listSlotType entry.index entry

/-- `operator<<`. -/
def write (lv : LootView) : LootPacket :=
  if lv.permission = NONE_PERMISSION then { gold := 0, itemsShown := 0, shown := [] }
  else
    let l := lv.loot
    let b : LootPacket := { gold := l.gold, itemsShown := 0, shown := [] }
    let b := l.items.zipIdx.foldl (fun b entry => b.put (lv.showItem entry)) b
    let questList := (l.playerQuestItems.get lv.viewer.guid).getD []
    let b := questList.zipIdx.foldl (fun b entry => b.put (lv.showQuestItem entry)) b
    let ffaList := (l.playerFFAItems.get lv.viewer.guid).getD []
    let b := ffaList.foldl (fun b entry => b.put (lv.showFFAItem entry)) b
    let conditionalList := (l.playerNonQuestNonFFAConditionalItems.get lv.viewer.guid).getD []
    conditionalList.foldl (fun b entry => b.put (lv.showConditionalItem entry)) b

/-! ## 2. What is written -/

theorem foldl_put {α : Type*} (f : α → Option ShownItem) (xs : List α) (b : LootPacket) :
    xs.foldl (fun b x => b.put (f x)) b =
      { gold := b.gold
        itemsShown := b.itemsShown + UInt8.ofNat (xs.filterMap f).length
        shown := b.shown ++ xs.filterMap f } := by
  induction xs generalizing b with
  | nil => simp
  | cons x xs ih =>
    rw [List.foldl_cons, ih]
    cases hx : f x with
    | none => simp [hx, LootPacket.put]
    | some e =>
      simp only [LootPacket.put, List.filterMap_cons, hx, List.length_cons, UInt8.ofNat_add]
      simp [UInt8.add_assoc, UInt8.add_comm]

def questEntries (lv : LootView) : List (QuestItem × ℕ) :=
  ((lv.loot.playerQuestItems.get lv.viewer.guid).getD []).zipIdx

def ffaEntries (lv : LootView) : List QuestItem :=
  (lv.loot.playerFFAItems.get lv.viewer.guid).getD []

def conditionalEntries (lv : LootView) : List QuestItem :=
  (lv.loot.playerNonQuestNonFFAConditionalItems.get lv.viewer.guid).getD []

def shown (lv : LootView) : List ShownItem :=
  lv.loot.items.zipIdx.filterMap lv.showItem ++ lv.questEntries.filterMap lv.showQuestItem ++
    lv.ffaEntries.filterMap lv.showFFAItem ++ lv.conditionalEntries.filterMap lv.showConditionalItem

theorem write_eq {lv : LootView} (h : lv.permission ≠ NONE_PERMISSION) :
    lv.write =
      { gold := lv.loot.gold
        itemsShown := UInt8.ofNat lv.shown.length
        shown := lv.shown } := by
  rw [write, if_neg h]
  dsimp only
  rw [foldl_put, foldl_put, foldl_put, foldl_put]
  simp [shown, questEntries, ffaEntries, conditionalEntries, UInt8.ofNat_add,
    UInt8.add_assoc]

/-! ## 3. Slots -/

theorem nodup_slots {α : Type*} {f : α → Option ShownItem} {position : α → ℕ} {xs : List α}
    (hf : ∀ x ∈ xs, ∀ e, f x = some e → e.slot.toNat = position x) (hxs : (xs.map position).Nodup) :
    ((xs.filterMap f).map fun e => e.slot.toNat).Nodup := by
  refine hxs.sublist ?_
  clear hxs
  induction xs with
  | nil => exact List.Sublist.slnil
  | cons x xs ih =>
    have hrest := ih fun y hy => hf y (List.mem_cons_of_mem _ hy)
    cases hx : f x with
    | none =>
      rw [List.filterMap_cons_none hx]
      exact hrest.cons _
    | some e =>
      rw [List.filterMap_cons_some hx, List.map_cons, hf x List.mem_cons_self e hx]
      exact hrest.cons_cons _

theorem showEntry_some {items : List LootItem} {slotType : LootItem → LootSlotType} {slot : ℕ}
    {entry : QuestItem} {e : ShownItem} (h : showEntry items slotType slot entry = some e) :
    items[entry.index]? = some e.item ∧ entry.isLooted = false ∧ e.slot = UInt8.ofNat slot := by
  rw [showEntry] at h
  split at h
  · exact nomatch h
  rename_i item hitem
  split at h
  · rename_i hfree
    obtain rfl := Option.some.inj h
    simp only [Bool.and_eq_true, Bool.not_eq_true'] at hfree
    exact ⟨hitem, hfree.1, rfl⟩
  · exact nomatch h

theorem showItem_some {lv : LootView} {entry : LootItem × ℕ} {e : ShownItem}
    (h : lv.showItem entry = some e) :
    e.item = entry.1 ∧ entry.1.isLooted = false ∧ entry.1.freeforall = false ∧
      entry.1.conditions.isEmpty = true ∧ e.slot = UInt8.ofNat entry.2 := by
  rw [showItem] at h
  split at h
  · rename_i hshown
    obtain ⟨slotType, -, rfl⟩ := Option.map_eq_some_iff.mp h
    simp only [Bool.and_eq_true, Bool.not_eq_true'] at hshown
    exact ⟨rfl, hshown.1.1.1, hshown.1.1.2, hshown.1.2, rfl⟩
  · exact nomatch h

section WellFormed

variable {lv : LootView} (hl : lv.loot.WellFormed)
include hl

theorem lootSlots_lt : lv.loot.items.length + lv.loot.questItems.length < 256 := by
  have hlt := hl.length_lt
  rwa [Loot.shape, List.length_map, List.length_map] at hlt

theorem toNat_slot {n : ℕ} (h : n < lv.loot.items.length + lv.loot.questItems.length) :
    (UInt8.ofNat n).toNat = n := by
  rw [UInt8.toNat_ofNat']
  exact Nat.mod_eq_of_lt (h.trans (lootSlots_lt hl))

theorem showItem_spec {x : LootItem × ℕ} (hx : x ∈ lv.loot.items.zipIdx) {e : ShownItem}
    (h : lv.showItem x = some e) :
    e.slot.toNat = x.2 ∧ lv.loot.items[x.2]? = some e.item ∧ e.item.freeforall = false ∧
      e.item.conditions.isEmpty = true ∧ e.item.isLooted = false := by
  obtain ⟨hitem, hfree, hffa, hconditions, hslot⟩ := showItem_some h
  have hget := List.mem_zipIdx_iff_getElem?.mp hx
  have hlt := (List.getElem?_eq_some_iff.mp hget).1
  rw [hitem]
  exact ⟨by rw [hslot, toNat_slot hl (by omega)], hget, hffa, hconditions, hfree⟩

theorem showQuestItem_spec {x : QuestItem × ℕ} (hx : x ∈ lv.questEntries) {e : ShownItem}
    (h : lv.showQuestItem x = some e) :
    e.slot.toNat = lv.loot.items.length + x.2 ∧
      lv.loot.items.length + x.2 < lv.loot.items.length + lv.loot.questItems.length ∧
      ∃ ql, lv.loot.playerQuestItems.get lv.viewer.guid = some ql ∧ ql[x.2]? = some x.1 ∧
        x.1.isLooted = false ∧ lv.loot.questItems[x.1.index]? = some e.item := by
  obtain ⟨hitem, hfree, hslot⟩ := showEntry_some h
  rw [questEntries, List.mem_zipIdx_iff_getElem?] at hx
  cases hget : lv.loot.playerQuestItems.get lv.viewer.guid with
  | none =>
    rw [hget] at hx
    exact nomatch hx
  | some ql =>
    rw [hget, Option.getD_some] at hx
    obtain ⟨hnodup, hindex⟩ := hl.quest_of_mem (QuestItemMap.mem_of_get hget)
    -- the entries name different quest items, so there are no more of them
    have hlength : ql.length ≤ lv.loot.questItems.length := by
      have hsub : ql.map QuestItem.index ⊆ List.range lv.loot.questItems.length := by
        intro i hi
        obtain ⟨q, hq, rfl⟩ := List.mem_map.mp hi
        obtain ⟨item, hitem⟩ := hindex q hq
        exact List.mem_range.mpr (List.getElem?_eq_some_iff.mp hitem).1
      have hle := (hnodup.subperm hsub).length_le
      rwa [List.length_map, List.length_range] at hle
    have hlt := (List.getElem?_eq_some_iff.mp hx).1
    refine ⟨?_, by omega, ql, rfl, hx, hfree, hitem⟩
    rw [hslot, toNat_slot hl (by omega)]

theorem showFFAItem_spec {x : QuestItem} (hx : x ∈ lv.ffaEntries) {e : ShownItem}
    (h : lv.showFFAItem x = some e) :
    e.slot.toNat = x.index ∧ lv.loot.items[x.index]? = some e.item ∧ e.item.freeforall = true ∧
      ∃ ql, lv.loot.playerFFAItems.get lv.viewer.guid = some ql ∧ x ∈ ql ∧ x.isLooted = false := by
  obtain ⟨hitem, hfree, hslot⟩ := showEntry_some h
  have hlt := (List.getElem?_eq_some_iff.mp hitem).1
  rw [ffaEntries] at hx
  cases hget : lv.loot.playerFFAItems.get lv.viewer.guid with
  | none =>
    rw [hget] at hx
    exact nomatch hx
  | some ql =>
    rw [hget, Option.getD_some] at hx
    obtain ⟨item, hitem', hffa⟩ := (hl.ffa_of_mem (QuestItemMap.mem_of_get hget)).2 x hx
    obtain rfl := Option.some.inj (hitem.symm.trans hitem')
    exact ⟨by rw [hslot, toNat_slot hl (by omega)], hitem, hffa, ql, rfl, hx, hfree⟩

theorem showConditionalItem_spec {x : QuestItem} (hx : x ∈ lv.conditionalEntries) {e : ShownItem}
    (h : lv.showConditionalItem x = some e) :
    e.slot.toNat = x.index ∧ lv.loot.items[x.index]? = some e.item ∧ e.item.freeforall = false ∧
      e.item.conditions.isEmpty = false ∧
      ∃ ql, lv.loot.playerNonQuestNonFFAConditionalItems.get lv.viewer.guid = some ql ∧ x ∈ ql ∧
        x.isLooted = false := by
  obtain ⟨hitem, hfree, hslot⟩ := showEntry_some h
  have hlt := (List.getElem?_eq_some_iff.mp hitem).1
  rw [conditionalEntries] at hx
  cases hget : lv.loot.playerNonQuestNonFFAConditionalItems.get lv.viewer.guid with
  | none =>
    rw [hget] at hx
    exact nomatch hx
  | some ql =>
    rw [hget, Option.getD_some] at hx
    obtain ⟨item, hitem', hffa, hconditions⟩ :=
      (hl.conditional_of_mem (QuestItemMap.mem_of_get hget)).2 x hx
    obtain rfl := Option.some.inj (hitem.symm.trans hitem')
    exact ⟨by rw [hslot, toNat_slot hl (by omega)], hitem, hffa, hconditions, ql, rfl, hx, hfree⟩

theorem kind_of_mem_slots {slot : ℕ} :
    (slot ∈ (lv.loot.items.zipIdx.filterMap lv.showItem).map (fun e => e.slot.toNat) →
      (lv.loot.items[slot]?).map LootItem.kind = some (false, true)) ∧
    (slot ∈ (lv.questEntries.filterMap lv.showQuestItem).map (fun e => e.slot.toNat) →
      (lv.loot.items[slot]?).map LootItem.kind = none) ∧
    (slot ∈ (lv.ffaEntries.filterMap lv.showFFAItem).map (fun e => e.slot.toNat) →
      ∃ plain, (lv.loot.items[slot]?).map LootItem.kind = some (true, plain)) ∧
    (slot ∈ (lv.conditionalEntries.filterMap lv.showConditionalItem).map (fun e => e.slot.toNat) →
      (lv.loot.items[slot]?).map LootItem.kind = some (false, false)) := by
  simp only [List.mem_map, List.mem_filterMap]
  refine ⟨?_, ?_, ?_, ?_⟩
  · rintro ⟨e, ⟨x, hx, he⟩, rfl⟩
    obtain ⟨hslot, hitem, hffa, hconditions, -⟩ := showItem_spec hl hx he
    rw [hslot, hitem, Option.map_some, LootItem.kind, hffa, hconditions]
  · rintro ⟨e, ⟨x, hx, he⟩, rfl⟩
    rw [(showQuestItem_spec hl hx he).1, List.getElem?_eq_none (Nat.le_add_right _ _),
      Option.map_none]
  · rintro ⟨e, ⟨x, hx, he⟩, rfl⟩
    obtain ⟨hslot, hitem, hffa, -⟩ := showFFAItem_spec hl hx he
    exact ⟨e.item.conditions.isEmpty, by rw [hslot, hitem, Option.map_some, LootItem.kind, hffa]⟩
  · rintro ⟨e, ⟨x, hx, he⟩, rfl⟩
    obtain ⟨hslot, hitem, hffa, hconditions, -⟩ := showConditionalItem_spec hl hx he
    rw [hslot, hitem, Option.map_some, LootItem.kind, hffa, hconditions]

theorem nodup_shown : (lv.shown.map fun e => e.slot.toNat).Nodup := by
  have hitems : ((lv.loot.items.zipIdx.filterMap lv.showItem).map fun e => e.slot.toNat).Nodup := by
    refine nodup_slots (fun x hx e h => (showItem_spec hl hx h).1) ?_
    rw [List.zipIdx_map_snd]
    exact List.nodup_range'
  have hquest : ((lv.questEntries.filterMap lv.showQuestItem).map fun e => e.slot.toNat).Nodup := by
    refine nodup_slots (fun x hx e h => (showQuestItem_spec hl hx h).1) ?_
    have hsnd : (lv.questEntries.map Prod.snd).Nodup := by
      rw [questEntries, List.zipIdx_map_snd]
      exact List.nodup_range'
    rw [show (fun x : QuestItem × ℕ => lv.loot.items.length + x.2) =
      (lv.loot.items.length + ·) ∘ Prod.snd from rfl, ← List.map_map]
    exact hsnd.map fun _ _ => Nat.add_left_cancel
  have hffa : ((lv.ffaEntries.filterMap lv.showFFAItem).map fun e => e.slot.toNat).Nodup := by
    refine nodup_slots (fun x hx e h => (showFFAItem_spec hl hx h).1) ?_
    rw [ffaEntries]
    cases hget : lv.loot.playerFFAItems.get lv.viewer.guid with
    | none => exact List.nodup_nil
    | some ql => exact (hl.ffa_of_mem (QuestItemMap.mem_of_get hget)).1
  have hconditional : ((lv.conditionalEntries.filterMap lv.showConditionalItem).map
      fun e => e.slot.toNat).Nodup := by
    refine nodup_slots (fun x hx e h => (showConditionalItem_spec hl hx h).1) ?_
    rw [conditionalEntries]
    cases hget : lv.loot.playerNonQuestNonFFAConditionalItems.get lv.viewer.guid with
    | none => exact List.nodup_nil
    | some ql => exact (hl.conditional_of_mem (QuestItemMap.mem_of_get hget)).1
  rw [shown, List.map_append, List.map_append, List.map_append]
  refine List.nodup_append.mpr ⟨List.nodup_append.mpr ⟨List.nodup_append.mpr
    ⟨hitems, hquest, ?_⟩, hffa, ?_⟩, hconditional, ?_⟩
  · rintro slot hslot _ hslot' rfl
    have hkind := (kind_of_mem_slots hl).1 hslot
    rw [(kind_of_mem_slots hl).2.1 hslot'] at hkind
    exact nomatch hkind
  · rintro slot hslot _ hslot' rfl
    obtain ⟨plain, hkind⟩ := (kind_of_mem_slots hl).2.2.1 hslot'
    rcases List.mem_append.mp hslot with hslot | hslot
    · rw [(kind_of_mem_slots hl).1 hslot] at hkind
      exact nomatch hkind
    · rw [(kind_of_mem_slots hl).2.1 hslot] at hkind
      exact nomatch hkind
  · rintro slot hslot _ hslot' rfl
    have hkind := (kind_of_mem_slots hl).2.2.2 hslot'
    rcases List.mem_append.mp hslot with hslot | hslot
    · rcases List.mem_append.mp hslot with hslot | hslot
      · rw [(kind_of_mem_slots hl).1 hslot] at hkind
        exact nomatch hkind
      · rw [(kind_of_mem_slots hl).2.1 hslot] at hkind
        exact nomatch hkind
    · obtain ⟨plain, hkind'⟩ := (kind_of_mem_slots hl).2.2.1 hslot
      rw [hkind'] at hkind
      exact nomatch hkind

theorem slot_lt {e : ShownItem} (he : e ∈ lv.shown) :
    e.slot.toNat < lv.loot.items.length + lv.loot.questItems.length := by
  simp only [shown, List.mem_append, List.mem_filterMap] at he
  have hitems : ∀ {i : ℕ} {item : LootItem}, lv.loot.items[i]? = some item →
      i < lv.loot.items.length + lv.loot.questItems.length :=
    fun hget => Nat.lt_add_right _ (List.getElem?_eq_some_iff.mp hget).1
  rcases he with ((⟨x, hx, he⟩ | ⟨x, hx, he⟩) | ⟨x, hx, he⟩) | ⟨x, hx, he⟩
  · obtain ⟨hslot, hitem, -⟩ := showItem_spec hl hx he
    exact hslot ▸ hitems hitem
  · obtain ⟨hslot, hlt, -⟩ := showQuestItem_spec hl hx he
    exact hslot ▸ hlt
  · obtain ⟨hslot, hitem, -⟩ := showFFAItem_spec hl hx he
    exact hslot ▸ hitems hitem
  · obtain ⟨hslot, hitem, -⟩ := showConditionalItem_spec hl hx he
    exact hslot ▸ hitems hitem

theorem found {e : ShownItem} (he : e ∈ lv.shown) :
    ∃ s, lv.loot.lootItemInSlot e.slot.toNat lv.viewer.guid = some s ∧ s.item = e.item := by
  simp only [shown, List.mem_append, List.mem_filterMap] at he
  rcases he with ((⟨x, hx, he⟩ | ⟨x, hx, he⟩) | ⟨x, hx, he⟩) | ⟨x, hx, he⟩
  · obtain ⟨hslot, hitem, hffa, hconditions, hfree⟩ := showItem_spec hl hx he
    rw [hslot]
    exact Loot.inSlot_plain hitem hffa hconditions hfree
  · obtain ⟨hslot, -, ql, hget, hpos, hfree, hitem⟩ := showQuestItem_spec hl hx he
    rw [hslot]
    exact Loot.inSlot_quest hget hpos hfree hitem
  · obtain ⟨hslot, hitem, -, ql, hget, hq, hfree⟩ := showFFAItem_spec hl hx he
    rw [hslot]
    exact Loot.inSlot_ffa hl hget hq hfree hitem
  · obtain ⟨hslot, hitem, -, -, ql, hget, hq, hfree⟩ := showConditionalItem_spec hl hx he
    rw [hslot]
    exact Loot.inSlot_conditional hl hget hq hfree hitem

end WellFormed

end LootView

/-! ## 4. The window and the request -/

/-- A packet agrees with the requests of its viewer: it counts what it shows, shows no slot twice,
and what it shows is what `LootItemInSlot` finds. -/
structure LootPacket.Agrees (b : LootPacket) (l : Loot) (guid : ObjectGuid) : Prop where
  count : b.itemsShown.toNat = b.shown.length
  nodup : (b.shown.map ShownItem.slot).Nodup
  found : ∀ e ∈ b.shown, ∃ s, l.lootItemInSlot e.slot.toNat guid = some s ∧ s.item = e.item

theorem LootView.agrees {lv : LootView} (hl : lv.loot.WellFormed) :
    lv.write.Agrees lv.loot lv.viewer.guid := by
  by_cases hpermission : lv.permission = NONE_PERMISSION
  · rw [write, if_pos hpermission]
    exact ⟨rfl, List.nodup_nil, fun _ he => (nomatch he)⟩
  rw [write_eq hpermission]
  have hnodup := nodup_shown hl
  refine ⟨?_, ?_, fun e he => found hl he⟩
  · -- different slots below 256
    have hsub : (lv.shown.map fun e => e.slot.toNat) ⊆
        List.range (lv.loot.items.length + lv.loot.questItems.length) := by
      intro slot hslot
      obtain ⟨e, he, rfl⟩ := List.mem_map.mp hslot
      exact List.mem_range.mpr (slot_lt hl he)
    have hle := (hnodup.subperm hsub).length_le
    rw [List.length_map, List.length_range] at hle
    rw [UInt8.toNat_ofNat']
    exact Nat.mod_eq_of_lt (lt_of_le_of_lt hle (lootSlots_lt hl))
  · refine List.Nodup.of_map UInt8.toNat ?_
    rwa [List.map_map]

/-- **The loot window and the loot request agree**, for every viewer and every permission, in every
state of every run of a loot. -/
theorem LootState.run_lootView_agrees {s : LootState} (h : s.Unlisted) (evs : List LootEvent) :
    States LootState.step (fun s => ∀ viewer permission,
      (LootView.write ⟨s.loot, viewer, permission⟩).Agrees s.loot viewer.guid) s evs :=
  (run_wellFormed h evs).imp fun s hs viewer permission =>
    @LootView.agrees ⟨s.loot, viewer, permission⟩ hs

/-- A plain item, a conditional item and a quest item. -/
def threeDrops : List Loot.Drop :=
  [⟨⟨1, false, []⟩, 1, fun _ => 0, fun _ => 0⟩, ⟨⟨2, false, [7]⟩, 1, fun _ => 0, fun _ => 0⟩,
    ⟨⟨3, true, []⟩, 1, fun _ => 0, fun _ => 0⟩]

/-- A loot of three kinds of items, seen by two players while they take them. -/
theorem LootState.threeDrops_lootView_agrees :
    (generated (fun _ => some ⟨0, 0, 1⟩) 5 threeDrops).Unlisted ∧
      States LootState.step (fun s => ∀ viewer permission,
          (LootView.write ⟨s.loot, viewer, permission⟩).Agrees s.loot viewer.guid)
        (generated (fun _ => some ⟨0, 0, 1⟩) 5 threeDrops)
        [.fill (loner 1) true (fun _ => false) fun _ => true,
          .fill (loner 2) true (fun _ => false) fun _ => true, .store 2 (loner 1) true,
          .store 0 (loner 2) true] :=
  ⟨generated_unlisted _ _ _, run_lootView_agrees (generated_unlisted _ _ _) _⟩

end FunPvp.Looting
