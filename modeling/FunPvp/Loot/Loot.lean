/-
# Loot: what there is to take, and who takes it

A `Loot` has plain items and quest items. Items that are not simply there for everybody (free for
all, conditional and quest items) are listed for each player when his lists are filled; an entry of
a list has a flag of its own that says whether it is taken. `unlootedCount` is an eight-bit number
of what is left.

Items leave through three doors: a player stores one from a slot of his loot window, a master
looter gives one, or a roll is won. What a player may have (`AllowedForPlayer`) and whether his
bags have room depends on the rest of the world and may be different at every call.
-/
import Mathlib

namespace FunPvp.Looting

abbrev ObjectGuid := UInt64

def MAX_NR_LOOT_ITEMS : ℕ := 16
def MAX_NR_QUEST_ITEMS : ℕ := 32

def ITEM_PROTO_FLAG_MULTI_DROP : UInt32 := 0x00000800
def ITEM_FLAGS_CU_FOLLOW_LOOT_RULES : UInt32 := 0x0004

inductive LootMethod
  | FREE_FOR_ALL
  | ROUND_ROBIN
  | MASTER_LOOT
  | GROUP_LOOT
  | NEED_BEFORE_GREED
deriving DecidableEq

open LootMethod

/-! ## 1. Items -/

structure ItemTemplate where
  flags : UInt32
  flagsCu : UInt32
  maxStackSize : UInt32
deriving DecidableEq

/-- An entry of a loot template; of its conditions only their ids are kept. -/
structure LootStoreItem where
  itemid : UInt32
  needsQuest : Bool
  conditions : List UInt32
deriving DecidableEq

structure LootItem where
  itemid : UInt32
  randomSuffix : UInt32
  randomPropertyId : UInt32
  conditions : List UInt32
  allowedGUIDs : List ObjectGuid
  count : UInt8
  isLooted : Bool
  isBlocked : Bool
  freeforall : Bool
  isUnderthreshold : Bool
  isCounted : Bool
  needsQuest : Bool
  followLootRules : Bool
deriving DecidableEq

/-- The constructor of `LootItem`, with the random suffix and property it draws. -/
def LootItem.ofStoreItem (li : LootStoreItem) (proto : Option ItemTemplate)
    (suffix property : UInt32) : LootItem where
  itemid := li.itemid
  randomSuffix := suffix
  randomPropertyId := property
  conditions := li.conditions
  allowedGUIDs := []
  count := 0
  isLooted := false
  isBlocked := false
  freeforall := proto.any fun p => (p.flags &&& ITEM_PROTO_FLAG_MULTI_DROP) ≠ 0
  isUnderthreshold := false
  isCounted := false
  needsQuest := li.needsQuest
  followLootRules := proto.any fun p => (p.flagsCu &&& ITEM_FLAGS_CU_FOLLOW_LOOT_RULES) ≠ 0

def LootItem.addAllowedLooter (item : LootItem) (guid : ObjectGuid) : LootItem :=
  { item with
    allowedGUIDs := if guid ∈ item.allowedGUIDs then item.allowedGUIDs
      else guid :: item.allowedGUIDs }

/-- An entry of a player's list: a position in `items` or in `quest_items`, and whether he has
taken it. -/
structure QuestItem where
  index : ℕ
  isLooted : Bool
deriving DecidableEq

/-- A map from players to their lists; a player has at most one. -/
abbrev QuestItemMap := List (ObjectGuid × List QuestItem)

namespace QuestItemMap

/-- `find`. -/
def get (m : QuestItemMap) (guid : ObjectGuid) : Option (List QuestItem) :=
  (m.find? fun entry => entry.1 == guid).map Prod.snd

/-- The entry at a position of a player's list is marked as taken. -/
def take (m : QuestItemMap) (guid : ObjectGuid) (pos : ℕ) : QuestItemMap :=
  m.map fun entry =>
    if entry.1 = guid then
      (entry.1, entry.2.modify pos fun qitem => { qitem with isLooted := true })
    else entry

end QuestItemMap

/-! ## 2. The loot -/

structure Loot where
  items : List LootItem
  questItems : List LootItem
  gold : UInt32
  unlootedCount : UInt8
  roundRobinPlayer : Option ObjectGuid
  playerQuestItems : QuestItemMap
  playerFFAItems : QuestItemMap
  playerNonQuestNonFFAConditionalItems : QuestItemMap

structure Looter where
  guid : ObjectGuid
  /-- The loot method and the master looter of his group. -/
  group : Option (LootMethod × ObjectGuid)
  /-- `AllowedForPlayer`, at this time. -/
  allowed : LootItem → Bool

/-- In a group with master loot only the master looter is shown what follows loot rules. -/
def Looter.seesByRules (p : Looter) : Bool :=
  p.group.any fun g => (g.1 = MASTER_LOOT && g.2 == p.guid) || g.1 ≠ MASTER_LOOT

/-- Whether an item gets on a player's list at all. -/
def Looter.lists (p : Looter) (item : LootItem) : Bool :=
  p.allowed item || (item.followLootRules && p.seesByRules)

namespace Loot

def empty (gold : UInt32) : Loot where
  items := []
  questItems := []
  gold := gold
  unlootedCount := 0
  roundRobinPlayer := none
  playerQuestItems := []
  playerFFAItems := []
  playerNonQuestNonFFAConditionalItems := []

def isLooted (l : Loot) : Bool := l.gold == 0 && l.unlootedCount == 0

def countUp (l : Loot) : Loot := { l with unlootedCount := l.unlootedCount + 1 }

def countDown (l : Loot) : Loot := { l with unlootedCount := l.unlootedCount - 1 }

def modifyItem (l : Loot) (i : ℕ) (f : LootItem → LootItem) : Loot :=
  { l with items := l.items.modify i f }

def modifyQuestItem (l : Loot) (i : ℕ) (f : LootItem → LootItem) : Loot :=
  { l with questItems := l.questItems.modify i f }

/-- What `Process` drops: a template entry, its random count, and what is drawn for each stack. -/
structure Drop where
  item : LootStoreItem
  count : UInt32
  suffix : ℕ → UInt32
  property : ℕ → UInt32

/-- The stacks `AddItem` puts into the loot, as long as there is a place. -/
def addStacks (drop : Drop) (proto : ItemTemplate) : ℕ → ℕ → UInt32 → Loot → Loot
  | 0, _, _, l => l
  | n + 1, i, count, l =>
    let limit := if drop.item.needsQuest then MAX_NR_QUEST_ITEMS else MAX_NR_LOOT_ITEMS
    let lootItems := if drop.item.needsQuest then l.questItems else l.items
    if lootItems.length < limit then
      let generatedLoot :=
        { LootItem.ofStoreItem drop.item (some proto) (drop.suffix i) (drop.property i) with
          count := (min count proto.maxStackSize).toUInt8 }
      let l := if drop.item.needsQuest then { l with questItems := l.questItems ++ [generatedLoot] }
        else { l with items := l.items ++ [generatedLoot] }
      -- free for all and conditional items are counted when the lists are filled
      let l := if !drop.item.needsQuest && drop.item.conditions.isEmpty &&
          (proto.flags &&& ITEM_PROTO_FLAG_MULTI_DROP) = 0 then l.countUp else l
      addStacks drop proto n (i + 1) (count - proto.maxStackSize) l
    else l

def addItem (getItemTemplate : UInt32 → Option ItemTemplate) (l : Loot) (drop : Drop) : Loot :=
  match getItemTemplate drop.item.itemid with
  | none => l
  | some proto =>
    let stackCount := drop.count / proto.maxStackSize +
      if drop.count % proto.maxStackSize ≠ 0 then 1 else 0
    addStacks drop proto stackCount.toNat 0 drop.count l

/-- What `Process` makes of an empty loot. -/
def process (getItemTemplate : UInt32 → Option ItemTemplate) (gold : UInt32) (drops : List Drop) :
    Loot :=
  drops.foldl (addItem getItemTemplate) (empty gold)

/-! ## 3. The lists of a player -/

/-- The loop of `FillFFALoot` from a position on. -/
def fillFFAFrom (p : Looter) : ℕ → List LootItem → List QuestItem × Loot → List QuestItem × Loot
  | _, [], acc => acc
  | i, item :: items, (ql, l) =>
    if !item.isLooted && item.freeforall && p.allowed item then
      fillFFAFrom p (i + 1) items (ql ++ [{ index := i, isLooted := false }], l.countUp)
    else fillFFAFrom p (i + 1) items (ql, l)

def fillFFALoot (l : Loot) (p : Looter) : Loot :=
  match fillFFAFrom p 0 l.items ([], l) with
  | ([], l) => l
  | (ql, l) => { l with playerFFAItems := (p.guid, ql) :: l.playerFFAItems }

/-- The group's loot method blocks a quest item once somebody has it on his list. -/
def Looter.blocks (p : Looter) : Bool :=
  p.group.all fun g => g.1 ≠ GROUP_LOOT && g.1 ≠ ROUND_ROBIN

def fillQuestFrom (p : Looter) : ℕ → List LootItem → List QuestItem × Loot →
    List QuestItem × Loot
  | _, [], acc => acc
  | i, item :: items, (ql, l) =>
    if !item.isLooted && p.lists item then
      let ql := ql ++ [{ index := i, isLooted := false }]
      let l := if item.freeforall || !item.isBlocked then l.countUp else l
      let l := if Looter.blocks p then
        l.modifyQuestItem i fun item => { item with isBlocked := true } else l
      if l.items.length + ql.length = MAX_NR_LOOT_ITEMS then (ql, l)
      else fillQuestFrom p (i + 1) items (ql, l)
    else fillQuestFrom p (i + 1) items (ql, l)

def fillQuestLoot (l : Loot) (p : Looter) : Loot :=
  if l.items.length = MAX_NR_LOOT_ITEMS then l
  else
    match fillQuestFrom p 0 l.questItems ([], l) with
    | ([], l) => l
    | (ql, l) => { l with playerQuestItems := (p.guid, ql) :: l.playerQuestItems }

/-- The loop of `FillNonQuestNonFFAConditionalLoot` from a position on. -/
def fillConditionalFrom (p : Looter) (presentAtLooting : Bool) : ℕ → List LootItem →
    List QuestItem × Loot → List QuestItem × Loot
  | _, [], acc => acc
  | i, item :: items, (ql, l) =>
    if !item.isLooted && !item.freeforall && p.lists item then
      let l := if presentAtLooting then
        l.modifyItem i fun item => item.addAllowedLooter p.guid else l
      if !item.conditions.isEmpty then
        let ql := ql ++ [{ index := i, isLooted := false }]
        let l := if !item.isCounted then
          l.countUp.modifyItem i fun item => { item with isCounted := true } else l
        fillConditionalFrom p presentAtLooting (i + 1) items (ql, l)
      else fillConditionalFrom p presentAtLooting (i + 1) items (ql, l)
    else fillConditionalFrom p presentAtLooting (i + 1) items (ql, l)

def fillNonQuestNonFFAConditionalLoot (l : Loot) (p : Looter) (presentAtLooting : Bool) : Loot :=
  match fillConditionalFrom p presentAtLooting 0 l.items ([], l) with
  | ([], l) => l
  | (ql, l) =>
    { l with
      playerNonQuestNonFFAConditionalItems :=
        (p.guid, ql) :: l.playerNonQuestNonFFAConditionalItems }

/-- The lists `FillNotNormalLootFor` fills, each if the player has none of its kind. -/
def fillLists (l : Loot) (p : Looter) (presentAtLooting : Bool) : Loot :=
  let l := if (l.playerQuestItems.get p.guid).isNone then l.fillQuestLoot p else l
  let l := if (l.playerFFAItems.get p.guid).isNone then l.fillFFALoot p else l
  if (l.playerNonQuestNonFFAConditionalItems.get p.guid).isNone then
    l.fillNonQuestNonFFAConditionalLoot p presentAtLooting
  else l

def getMaxSlotInLootFor (l : Loot) (guid : ObjectGuid) : ℕ :=
  l.items.length + ((l.playerQuestItems.get guid).elim 0 List.length)

/-! ## 4. Slots -/

/-- What `LootItemInSlot` returns: the item and where it is, and the positions of the entries it
has looked at in the player's lists. -/
structure SlotItem where
  item : LootItem
  /-- The item is in `quest_items`. -/
  quest : Bool
  index : ℕ
  qitem : Option ℕ
  ffaitem : Option ℕ
  conditem : Option ℕ
deriving DecidableEq

/-- The first entry of a player's list for an item: its position and whether it is taken. -/
def findEntry (m : QuestItemMap) (guid : ObjectGuid) (index : ℕ) : Option (ℕ × Bool) :=
  match m.get guid with
  | none => none
  | some ql =>
    match ql.findIdx? fun qitem => qitem.index == index with
    | none => none
    | some pos => ql[pos]?.map fun qitem => (pos, qitem.isLooted)

def lootItemInSlot (l : Loot) (lootSlot : ℕ) (guid : ObjectGuid) : Option SlotItem :=
  if lootSlot ≥ l.items.length then
    let questSlot := lootSlot - l.items.length
    match l.playerQuestItems.get guid with
    | none => none
    | some ql =>
      match ql[questSlot]? with
      | none => none
      | some qitem =>
        if qitem.isLooted then none
        else
          l.questItems[qitem.index]?.map fun item =>
            { item := item, quest := true, index := qitem.index, qitem := some questSlot
              ffaitem := none, conditem := none }
  else
    match l.items[lootSlot]? with
    | none => none
    | some item =>
      if item.freeforall then
        if (l.playerFFAItems.get guid).isNone then none
        else
          let found := findEntry l.playerFFAItems guid lootSlot
          if found.elim item.isLooted Prod.snd then none
          else some { item := item, quest := false, index := lootSlot, qitem := none
                      ffaitem := found.map Prod.fst, conditem := none }
      else if !item.conditions.isEmpty then
        let found := findEntry l.playerNonQuestNonFFAConditionalItems guid lootSlot
        if found.elim item.isLooted Prod.snd then none
        else some { item := item, quest := false, index := lootSlot, qitem := none
                    ffaitem := none, conditem := found.map Prod.fst }
      else if item.isLooted then none
      else some { item := item, quest := false, index := lootSlot, qitem := none
                  ffaitem := none, conditem := none }

/-- The item of a slot among all items and quest items, as rolls and the master looter name it. -/
def itemAt (l : Loot) (slot : ℕ) : Option LootItem :=
  if slot ≥ l.items.length then l.questItems[slot - l.items.length]? else l.items[slot]?

def modifyItemAt (l : Loot) (slot : ℕ) (f : LootItem → LootItem) : Loot :=
  if slot ≥ l.items.length then l.modifyQuestItem (slot - l.items.length) f
  else l.modifyItem slot f

/-- What `StoreLootItem` changes in the loot once the item is in the player's bags. -/
def takeSlot (l : Loot) (guid : ObjectGuid) (s : SlotItem) : Loot :=
  let l := match s.qitem, s.ffaitem, s.conditem with
    | some pos, _, _ => { l with playerQuestItems := l.playerQuestItems.take guid pos }
    | none, some pos, _ => { l with playerFFAItems := l.playerFFAItems.take guid pos }
    | none, none, some pos =>
      { l with
        playerNonQuestNonFFAConditionalItems :=
          l.playerNonQuestNonFFAConditionalItems.take guid pos }
    | none, none, none => l
  let l := if s.item.freeforall then l
    else if s.quest then l.modifyQuestItem s.index fun item => { item with isLooted := true }
    else l.modifyItem s.index fun item => { item with isLooted := true }
  l.countDown

end Loot

/-! ## 5. Requests -/

/-- A loot and what has been stored from it by `StoreLootItem`: the player, whether it was a quest
item, and its index. -/
structure LootState where
  loot : Loot
  stored : List (ObjectGuid × Bool × ℕ)

namespace LootState

/-- What `StoreLootItem` stores: the item in the slot, if the player may have it, it is not
blocked (which means something else for quest items), and his bags have room. -/
def storable (s : LootState) (lootSlot : ℕ) (p : Looter) (canStore : Bool) :
    Option Loot.SlotItem :=
  match s.loot.lootItemInSlot lootSlot p.guid with
  | none => none
  | some found =>
    if !p.allowed found.item then none
    else if found.qitem.isNone && found.item.isBlocked then none
    else if canStore then some found
    else none

def storeLootItem (s : LootState) (lootSlot : ℕ) (p : Looter) (canStore : Bool) : LootState :=
  match s.storable lootSlot p canStore with
  | none => s
  | some found =>
    { loot := s.loot.takeSlot p.guid found
      stored := (p.guid, found.quest, found.index) :: s.stored }

/-- The slots `FillNotNormalLootFor` stores at once: currency that is free for all. -/
def autoStores (s : LootState) (p : Looter) (isCurrency : UInt32 → Bool) (i : ℕ) : Bool :=
  (s.loot.itemAt i).any fun item =>
    !item.isLooted && item.freeforall && p.allowed item && isCurrency item.itemid

def processCurrency (p : Looter) (isCurrency : UInt32 → Bool) (canStore : ℕ → Bool) :
    List ℕ → LootState → LootState
  | [], s => s
  | i :: slots, s =>
    processCurrency p isCurrency canStore slots
      (if s.autoStores p isCurrency i then s.storeLootItem i p (canStore i) else s)

def fillNotNormalLootFor (s : LootState) (p : Looter) (presentAtLooting : Bool)
    (isCurrency : UInt32 → Bool) (canStore : ℕ → Bool) : LootState :=
  let s := { s with loot := s.loot.fillLists p presentAtLooting }
  if !presentAtLooting then s
  else processCurrency p isCurrency canStore (List.range (s.loot.getMaxSlotInLootFor p.guid)) s

/-- `HandleLootMasterGiveOpcode`, after the checks of who may give to whom: the target's bags have
room and, if the item follows loot rules, he may have it. -/
def lootMasterGive (s : LootState) (slotid : UInt8) (target : Looter) (canStore : Bool) :
    LootState :=
  if slotid.toNat ≥ s.loot.items.length + s.loot.questItems.length then s
  else
    match s.loot.itemAt slotid.toNat with
    | none => s
    | some item =>
      if !canStore || (item.followLootRules && !target.allowed item) then s
      else
        { s with
          loot := (s.loot.modifyItemAt slotid.toNat fun item =>
            { item with count := 0, isLooted := true }).countDown }

def rollWon (s : LootState) (itemSlot : UInt8) : LootState :=
  { s with
    loot := (s.loot.modifyItemAt itemSlot.toNat fun item =>
      { item with isLooted := true }).countDown }

/-- A roll or the master looter blocks an item, or a roll that has ended unblocks it. -/
def setBlocked (s : LootState) (slot : UInt8) (blocked : Bool) : LootState :=
  { s with
    loot := s.loot.modifyItemAt slot.toNat fun item => { item with isBlocked := blocked } }

def setUnderthreshold (s : LootState) (slot : UInt8) : LootState :=
  { s with
    loot := s.loot.modifyItemAt slot.toNat fun item => { item with isUnderthreshold := true } }

def takeMoney (s : LootState) : LootState := { s with loot := { s.loot with gold := 0 } }

/-- The round robin owner releases the loot, or another one gets it. -/
def setRoundRobinPlayer (s : LootState) (player : Option ObjectGuid) : LootState :=
  { s with loot := { s.loot with roundRobinPlayer := player } }

end LootState

inductive LootEvent
  | fill (p : Looter) (presentAtLooting : Bool) (isCurrency : UInt32 → Bool) (canStore : ℕ → Bool)
  | store (lootSlot : UInt8) (p : Looter) (canStore : Bool)
  | masterGive (slotid : UInt8) (target : Looter) (canStore : Bool)
  | rollWon (itemSlot : UInt8)
  | setBlocked (slot : UInt8) (blocked : Bool)
  | setUnderthreshold (slot : UInt8)
  | takeMoney
  | setRoundRobinPlayer (player : Option ObjectGuid)

def LootState.step (s : LootState) : LootEvent → LootState
  | .fill p presentAtLooting isCurrency canStore =>
    s.fillNotNormalLootFor p presentAtLooting isCurrency canStore
  | .store lootSlot p canStore => s.storeLootItem lootSlot.toNat p canStore
  | .masterGive slotid target canStore => s.lootMasterGive slotid target canStore
  | .rollWon itemSlot => s.rollWon itemSlot
  | .setBlocked slot blocked => s.setBlocked slot blocked
  | .setUnderthreshold slot => s.setUnderthreshold slot
  | .takeMoney => s.takeMoney
  | .setRoundRobinPlayer player => s.setRoundRobinPlayer player

/-- The loot as `FillLoot` generates it, before anybody's lists are filled. -/
def LootState.generated (getItemTemplate : UInt32 → Option ItemTemplate) (gold : UInt32)
    (drops : List Loot.Drop) : LootState where
  loot := Loot.process getItemTemplate gold drops
  stored := []

end FunPvp.Looting
