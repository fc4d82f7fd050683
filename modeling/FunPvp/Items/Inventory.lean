/-
# The inventory of a player

`m_items` holds what is worn, the bags, the backpack, the bank, the keys and the tokens; what is in a
bag is held by the bag. A position is a bag and a slot, where the bag is 255 for the player's own
slots and else the slot of the bag.

`CanStoreItem` goes through positions in a fixed order, a dozen passes in all, and reserves room
until there is enough; every pass shares the list of positions and the count that is left. A pass
that ends the whole search is an error of `Except`, whose value is what the function returns.
-/
import FunPvp.Items.Item

namespace FunPvp.Items

/-! ## 1. Positions -/

def INVENTORY_SLOT_BAG_0 : ℕ := 255

def NULL_BAG : ℕ := 0

def NULL_SLOT : ℕ := 255

def EQUIPMENT_SLOT_START : ℕ := 0

def EQUIPMENT_SLOT_END : ℕ := 19

def INVENTORY_SLOT_BAG_START : ℕ := 19

def INVENTORY_SLOT_BAG_END : ℕ := 23

def INVENTORY_SLOT_ITEM_START : ℕ := 23

def INVENTORY_SLOT_ITEM_END : ℕ := 39

def BANK_SLOT_ITEM_START : ℕ := 39

def BANK_SLOT_ITEM_END : ℕ := 67

def BANK_SLOT_BAG_START : ℕ := 67

def BANK_SLOT_BAG_END : ℕ := 74

def BUYBACK_SLOT_START : ℕ := 74

def BUYBACK_SLOT_END : ℕ := 86

def KEYRING_SLOT_START : ℕ := 86

def KEYRING_SLOT_END : ℕ := 118

def CURRENCYTOKEN_SLOT_START : ℕ := 118

def CURRENCYTOKEN_SLOT_END : ℕ := 150

def PLAYER_SLOT_END : ℕ := 150

/-- A position, which is `(bag << 8) | slot` in the source. -/
structure Pos where
  bag : ℕ
  slot : ℕ
deriving DecidableEq

namespace Pos

def isEquipmentPos (p : Pos) : Bool :=
  (p.bag = INVENTORY_SLOT_BAG_0 ∧ p.slot < EQUIPMENT_SLOT_END) ∨
  (p.bag = INVENTORY_SLOT_BAG_0 ∧ INVENTORY_SLOT_BAG_START ≤ p.slot ∧
    p.slot < INVENTORY_SLOT_BAG_END)

def isBagPos (p : Pos) : Bool :=
  (p.bag = INVENTORY_SLOT_BAG_0 ∧ INVENTORY_SLOT_BAG_START ≤ p.slot ∧
    p.slot < INVENTORY_SLOT_BAG_END) ∨
  (p.bag = INVENTORY_SLOT_BAG_0 ∧ BANK_SLOT_BAG_START ≤ p.slot ∧ p.slot < BANK_SLOT_BAG_END)

end Pos

def slotsOf (bag slot_begin slot_end : ℕ) : List Pos :=
  (List.range' slot_begin (slot_end - slot_begin)).map fun slot => ⟨bag, slot⟩

/-- The bags that are worn, in the order they are searched. -/
def inventoryBags : List ℕ := [19, 20, 21, 22]

def bankBags : List ℕ := [67, 68, 69, 70, 71, 72, 73]

/-! ## 2. The inventory -/

/-- What is in the slots of a player. -/
structure Inventory where
  guid : ℕ
  m_items : ℕ → Option ItemOrBag

namespace Inventory

variable (env : Env) (inv : Inventory)

def getBagByPos (bag : ℕ) : Option ItemOrBag :=
  if (INVENTORY_SLOT_BAG_START ≤ bag ∧ bag < INVENTORY_SLOT_BAG_END) ∨
      (BANK_SLOT_BAG_START ≤ bag ∧ bag < BANK_SLOT_BAG_END) then
    (inv.m_items bag).filter fun item => item.isBag env
  else none

def getItemByPos (p : Pos) : Option ItemOrBag :=
  if p.bag = INVENTORY_SLOT_BAG_0 ∧ (p.slot < BANK_SLOT_BAG_END ∨
      (KEYRING_SLOT_START ≤ p.slot ∧ p.slot < CURRENCYTOKEN_SLOT_END)) then
    inv.m_items p.slot
  else (inv.getBagByPos env p.bag).bind fun pBag =>
    (pBag.getItemByPos env p.slot).map Item.alone

def at_ (p : Pos) : Option Item := (inv.getItemByPos env p).map (·.toItem)

def bagSlots (bag : ℕ) : List Pos :=
  match inv.getBagByPos env bag with
  | none => []
  | some pBag => slotsOf bag 0 (pBag.getBagSize env)

/-- All positions, in the order in which `GetItemCount` adds them up. -/
def allSlots : List Pos :=
  slotsOf INVENTORY_SLOT_BAG_0 EQUIPMENT_SLOT_START INVENTORY_SLOT_ITEM_END ++
    slotsOf INVENTORY_SLOT_BAG_0 KEYRING_SLOT_START CURRENCYTOKEN_SLOT_END ++
    inventoryBags.flatMap (inv.bagSlots env) ++
    slotsOf INVENTORY_SLOT_BAG_0 BANK_SLOT_ITEM_START BANK_SLOT_BAG_END ++
    bankBags.flatMap (inv.bagSlots env)

def isItem (pItem : Option ItemOrBag) (item : Item) : Bool :=
  pItem.any fun it => it.guid = item.guid

def itemsBut (skipItem : Option ItemOrBag) : List Item :=
  ((inv.allSlots env).filterMap (inv.at_ env)).filter fun item => !isItem skipItem item

/-- `GetItemCount` with the bank, which counts gems too if the item skipped is one. -/
def getItemCount (entry : ℕ) (skipItem : Option ItemOrBag) : ℕ :=
  ((inv.itemsBut env skipItem).map fun item =>
    (if item.entry = entry then item.count else 0) +
      if skipItem.any fun it => (it.getTemplate env).any (·.GemProperties) then
        item.getGemCountWithID entry
      else 0).sum % 2 ^ 32

def getItemCountWithLimitCategory (limitCategory : ℕ) (skipItem : Option ItemOrBag) : ℕ :=
  ((inv.itemsBut env skipItem).map fun item =>
    if (item.getTemplate env).any fun t => t.ItemLimitCategory = limitCategory then item.count
    else 0).sum % 2 ^ 32

def canTakeMoreSimilarItems (entry count : ℕ) (pItem : Option ItemOrBag) : InventoryResult × ℕ :=
  match env.getItemTemplate entry with
  | none => (.CANT_CARRY_MORE_OF_THIS, count)
  | some pProto =>
    if pItem.any (·.lootGenerated) then (.ALREADY_LOOTED, 0)
    else if (pProto.MaxCount ≤ 0 ∧ pProto.ItemLimitCategory = 0) ∨ pProto.MaxCount = 2147483647 then
      (.OK, 0)
    else
      let curcount := inv.getItemCount env pProto.ItemId pItem
      if pProto.MaxCount > 0 ∧ (curcount + count) % 2 ^ 32 > pProto.MaxCount.toNat then
        (.CANT_CARRY_MORE_OF_THIS, (curcount + count) % 2 ^ 32 - pProto.MaxCount.toNat)
      else if pProto.ItemLimitCategory = 0 then (.OK, 0)
      else
        match env.itemLimitCategory pProto.ItemLimitCategory with
        | none => (.ITEM_CANT_BE_EQUIPPED, count)
        | some limitEntry =>
          let curcount := inv.getItemCountWithLimitCategory env pProto.ItemLimitCategory pItem
          if limitEntry.have_ ∧ (curcount + count) % 2 ^ 32 > limitEntry.maxCount then
            (.ITEM_MAX_LIMIT_CATEGORY_COUNT_EXCEEDED, (curcount + count) % 2 ^ 32 - limitEntry.maxCount)
          else (.OK, 0)

/-! ## 3. Reserving room -/

structure ItemPosCount where
  pos : Pos
  count : ℕ
deriving DecidableEq

structure Reserve where
  dest : List ItemPosCount
  count : ℕ

/-- `isContainedIn`, for a position. -/
def Reserve.has (r : Reserve) (p : Pos) : Bool := r.dest.any fun c => c.pos = p

/-- As much as there is space for is reserved at a position, unless it is already. -/
def Reserve.push (r : Reserve) (p : Pos) (need_space : ℕ) : Reserve :=
  if r.has p then r
  else ⟨r.dest ++ [⟨p, min need_space r.count⟩], r.count - min need_space r.count⟩

/-- The item at a position, where the moved item counts as gone. -/
def itemBut (pSrcItem : Option ItemOrBag) (p : Pos) : Option Item :=
  (inv.at_ env p).filter fun item => !isItem pSrcItem item

def canStoreItem_InSpecificSlot (p : Pos) (pProto : ItemTemplate) (swap : Bool)
    (pSrcItem : Option ItemOrBag) (r : Reserve) : InventoryResult × Reserve :=
  let pItem2 := inv.itemBut env pSrcItem p
  if pSrcItem.any (·.isNotEmptyBag env) ∧ ¬ p.isBagPos then (.CAN_ONLY_DO_WITH_EMPTY_BAGS, r)
  else if swap then inSlot p r
  else
    match pItem2 with
    | none => inSlot p r
    | some item2 =>
      let res := item2.canBeMergedPartlyWith pProto
      if res ≠ .OK then (res, r)
      else (.OK, r.push p (pProto.getMaxStackSize - item2.count))
where
  /-- The specific slot is empty: does the item fit into it? -/
  inSlot (p : Pos) (r : Reserve) : InventoryResult × Reserve :=
    if p.bag = INVENTORY_SLOT_BAG_0 then
      if KEYRING_SLOT_START ≤ p.slot ∧ p.slot < KEYRING_SLOT_END ∧ ¬ pProto.isKey then
        (.ITEM_DOESNT_GO_INTO_BAG, r)
      else if CURRENCYTOKEN_SLOT_START ≤ p.slot ∧ p.slot < CURRENCYTOKEN_SLOT_END ∧
          ¬ pProto.isCurrencyToken then (.ITEM_DOESNT_GO_INTO_BAG, r)
      else if (BUYBACK_SLOT_START ≤ p.slot ∧ p.slot < BUYBACK_SLOT_END) ∨ p.slot ≥ PLAYER_SLOT_END
        then (.ITEM_DOESNT_GO_INTO_BAG, r)
      else (.OK, r.push p pProto.getMaxStackSize)
    else
      match inv.getBagByPos env p.bag with
      | none => (.ITEM_DOESNT_GO_INTO_BAG, r)
      | some pBag =>
        match pBag.getTemplate env with
        | none => (.ITEM_DOESNT_GO_INTO_BAG, r)
        | some pBagProto =>
          if p.slot ≥ pBagProto.ContainerSlots then (.ITEM_DOESNT_GO_INTO_BAG, r)
          else if ¬ itemCanGoIntoBag pProto pBagProto then (.ITEM_DOESNT_GO_INTO_BAG, r)
          else (.OK, r.push p pProto.getMaxStackSize)

/-- The space a pass sees at a position: if `merge` on a stack, else in an empty slot. -/
def spaceAt (pProto : ItemTemplate) (merge : Bool) (pSrcItem : Option ItemOrBag) (p : Pos) :
    Option ℕ :=
  match inv.itemBut env pSrcItem p, merge with
  | some item2, true =>
    if item2.canBeMergedPartlyWith pProto = .OK then some (pProto.getMaxStackSize - item2.count)
    else none
  | none, false => some pProto.getMaxStackSize
  | _, _ => none

def scanSlots (pProto : ItemTemplate) (merge : Bool) (pSrcItem : Option ItemOrBag) :
    List Pos → Reserve → Reserve
  | [], r => r
  | p :: ps, r =>
    match inv.spaceAt env pProto merge pSrcItem p with
    | none => scanSlots pProto merge pSrcItem ps r
    | some need_space =>
      if r.has p then scanSlots pProto merge pSrcItem ps r
      else if (r.push p need_space).count = 0 then r.push p need_space
      else scanSlots pProto merge pSrcItem ps (r.push p need_space)

def canStoreItem_InBag (bag : ℕ) (pProto : ItemTemplate) (merge non_specialized : Bool)
    (pSrcItem : Option ItemOrBag) (skip_bag skip_slot : ℕ) (r : Reserve) :
    InventoryResult × Reserve :=
  if bag = skip_bag then (.ITEM_DOESNT_GO_INTO_BAG, r)
  else
    match inv.getBagByPos env bag with
    | none => (.ITEM_DOESNT_GO_INTO_BAG, r)
    | some pBag =>
      if isItem pSrcItem pBag.toItem then (.ITEM_DOESNT_GO_INTO_BAG, r)
      else if pSrcItem.any (·.isNotEmptyBag env) then (.CAN_ONLY_DO_WITH_EMPTY_BAGS, r)
      else
        match pBag.getTemplate env with
        | none => (.ITEM_DOESNT_GO_INTO_BAG, r)
        | some pBagProto =>
          if non_specialized ≠ pBagProto.isPlainContainer then (.ITEM_DOESNT_GO_INTO_BAG, r)
          else if ¬ itemCanGoIntoBag pProto pBagProto then (.ITEM_DOESNT_GO_INTO_BAG, r)
          else
            (.OK, inv.scanSlots env pProto merge pSrcItem
              ((slotsOf bag 0 (pBag.getBagSize env)).filter fun p => p.slot ≠ skip_slot) r)

def canStoreItem_InInventorySlots (slot_begin slot_end : ℕ) (pProto : ItemTemplate) (merge : Bool)
    (pSrcItem : Option ItemOrBag) (skip_bag skip_slot : ℕ) (r : Reserve) :
    InventoryResult × Reserve :=
  if pSrcItem.any (·.isNotEmptyBag env) then (.CAN_ONLY_DO_WITH_EMPTY_BAGS, r)
  else
    (.OK, inv.scanSlots env pProto merge pSrcItem
      ((slotsOf INVENTORY_SLOT_BAG_0 slot_begin slot_end).filter fun p =>
        ¬ (INVENTORY_SLOT_BAG_0 = skip_bag ∧ p.slot = skip_slot)) r)

/-! ## 4. `CanStoreItem` -/

/-- What `CanStoreItem` returns. -/
structure CanStore where
  msg : InventoryResult
  dest : List ItemPosCount
  no_space_count : ℕ

/-- After a pass: the function returns when nothing is left. -/
def ended (no_similar_count : ℕ) (r : Reserve) : Except CanStore Reserve :=
  if r.count = 0 then
    .error <|
      if no_similar_count = 0 then ⟨.OK, r.dest, 0⟩
      else ⟨.CANT_CARRY_MORE_OF_THIS, r.dest, r.count + no_similar_count⟩
  else .ok r

def strict (no_similar_count : ℕ) (res : InventoryResult × Reserve) : Except CanStore Reserve :=
  if res.1 ≠ .OK then .error ⟨res.1, res.2.dest, res.2.count + no_similar_count⟩
  else ended no_similar_count res.2

def tolerant (no_similar_count : ℕ) (res : InventoryResult × Reserve) : Except CanStore Reserve :=
  if res.1 ≠ .OK then .ok res.2 else ended no_similar_count res.2

/-- A bag is searched as a special one, and if that fails as a plain one. -/
def inEitherBag (bag : ℕ) (pProto : ItemTemplate) (merge : Bool) (pItem : Option ItemOrBag)
    (slot : ℕ) (r : Reserve) : InventoryResult × Reserve :=
  let res := inv.canStoreItem_InBag env bag pProto merge false pItem NULL_BAG slot r
  if res.1 ≠ .OK then inv.canStoreItem_InBag env bag pProto merge true pItem NULL_BAG slot res.2
  else res

section CanStoreItem

variable (bag slot : ℕ) (pProto : ItemTemplate) (pItem : Option ItemOrBag) (no_similar_count : ℕ)

def inSlots (slot_begin slot_end : ℕ) (merge : Bool) (r : Reserve) : Except CanStore Reserve :=
  strict no_similar_count
    (inv.canStoreItem_InInventorySlots env slot_begin slot_end pProto merge pItem bag slot r)

def inBags (merge non_specialized : Bool) (r : Reserve) : Except CanStore Reserve :=
  inventoryBags.foldlM (fun r i => tolerant no_similar_count
    (inv.canStoreItem_InBag env i pProto merge non_specialized pItem bag slot r)) r

def inSpecificSlot (swap : Bool) (r : Reserve) : Except CanStore Reserve :=
  if bag ≠ NULL_BAG ∧ slot ≠ NULL_SLOT then
    strict no_similar_count (inv.canStoreItem_InSpecificSlot env ⟨bag, slot⟩ pProto swap pItem r)
  else .ok r

/-- "In specific bag", if that is the player's own slots. -/
def inInventory (r : Reserve) : Except CanStore Reserve := do
  let r ←
    if pProto.Stackable ≠ 1 then do
      let r ← inv.inSlots env bag slot pProto pItem no_similar_count KEYRING_SLOT_START
        CURRENCYTOKEN_SLOT_END true r
      inv.inSlots env bag slot pProto pItem no_similar_count INVENTORY_SLOT_ITEM_START
        INVENTORY_SLOT_ITEM_END true r
    else .ok r
  let r ←
    if pProto.isKey then do
      let r ← inv.inSlots env bag slot pProto pItem no_similar_count KEYRING_SLOT_START
        KEYRING_SLOT_END false r
      -- the tokens' slots, although the item is a key
      inv.inSlots env bag slot pProto pItem no_similar_count CURRENCYTOKEN_SLOT_START
        CURRENCYTOKEN_SLOT_END false r
    else if pProto.isCurrencyToken then
      inv.inSlots env bag slot pProto pItem no_similar_count CURRENCYTOKEN_SLOT_START
        CURRENCYTOKEN_SLOT_END false r
    else .ok r
  inv.inSlots env bag slot pProto pItem no_similar_count INVENTORY_SLOT_ITEM_START
    INVENTORY_SLOT_ITEM_END false r

def inEquippedBag (r : Reserve) : Except CanStore Reserve := do
  let r ←
    if pProto.Stackable ≠ 1 then
      strict no_similar_count (inv.inEitherBag env bag pProto true pItem slot r)
    else .ok r
  strict no_similar_count (inv.inEitherBag env bag pProto false pItem slot r)

def inSpecificBag (r : Reserve) : Except CanStore Reserve :=
  if bag = NULL_BAG then .ok r
  else if bag = INVENTORY_SLOT_BAG_0 then
    inv.inInventory env bag slot pProto pItem no_similar_count r
  else inv.inEquippedBag env bag slot pProto pItem no_similar_count r

def searchStack (r : Reserve) : Except CanStore Reserve :=
  if pProto.Stackable ≠ 1 then do
    let r ← inv.inSlots env bag slot pProto pItem no_similar_count KEYRING_SLOT_START
      CURRENCYTOKEN_SLOT_END true r
    let r ← inv.inSlots env bag slot pProto pItem no_similar_count INVENTORY_SLOT_ITEM_START
      INVENTORY_SLOT_ITEM_END true r
    let r ←
      if pProto.BagFamily ≠ 0 then
        inv.inBags env bag slot pProto pItem no_similar_count true false r
      else .ok r
    inv.inBags env bag slot pProto pItem no_similar_count true true r
  else .ok r

def searchSpecialBag (r : Reserve) : Except CanStore Reserve :=
  if pProto.BagFamily ≠ 0 then do
    let r ←
      if pProto.isKey then
        inv.inSlots env bag slot pProto pItem no_similar_count KEYRING_SLOT_START KEYRING_SLOT_END
          false r
      else if pProto.isCurrencyToken then
        inv.inSlots env bag slot pProto pItem no_similar_count CURRENCYTOKEN_SLOT_START
          CURRENCYTOKEN_SLOT_END false r
      else .ok r
    inv.inBags env bag slot pProto pItem no_similar_count false false r
  else .ok r

def searchFreeSlot (r : Reserve) : Except CanStore Reserve := do
  let r ←
    if pItem.any (·.isNotEmptyBag env) then .error ⟨.NONEMPTY_BAG_OVER_OTHER_BAG, r.dest, 0⟩
    else
      inv.inSlots env bag slot pProto pItem no_similar_count INVENTORY_SLOT_ITEM_START
        INVENTORY_SLOT_ITEM_END false r
  inv.inBags env bag slot pProto pItem no_similar_count false true r

def search (swap : Bool) (r : Reserve) : Except CanStore Reserve := do
  let r ← inv.inSpecificSlot env bag slot pProto pItem no_similar_count swap r
  let r ← inv.inSpecificBag env bag slot pProto pItem no_similar_count r
  let r ← inv.searchStack env bag slot pProto pItem no_similar_count r
  let r ← inv.searchSpecialBag env bag slot pProto pItem no_similar_count r
  inv.searchFreeSlot env bag slot pProto pItem no_similar_count r

end CanStoreItem

/-- `CanStoreItem`, with the entry, the count and the moved item, if there is one. -/
def canStoreItemOf (bag slot : ℕ) (dest : List ItemPosCount) (entry count : ℕ)
    (pItem : Option ItemOrBag) (swap : Bool) : CanStore :=
  match env.getItemTemplate entry with
  | none => ⟨if swap then .ITEMS_CANT_BE_SWAPPED else .ITEM_NOT_FOUND, dest, count⟩
  | some pProto =>
    if pItem.any (·.lootGenerated) then ⟨.ALREADY_LOOTED, dest, count⟩
    else if pItem.any fun it => it.isBindedNotWith env inv.guid then
      ⟨.DONT_OWN_THAT_ITEM, dest, count⟩
    else
      let (res, no_similar_count) := inv.canTakeMoreSimilarItems env entry count pItem
      if res ≠ .OK ∧ count = no_similar_count then ⟨res, dest, no_similar_count⟩
      else
        let left := if res ≠ .OK then (count + 2 ^ 32 - no_similar_count) % 2 ^ 32 else count
        match inv.search env bag slot pProto pItem no_similar_count swap ⟨dest, left⟩ with
        | .error r => r
        | .ok r => ⟨.INVENTORY_FULL, r.dest, r.count + no_similar_count⟩

def canStoreItem (bag slot : ℕ) (dest : List ItemPosCount) (pItem : ItemOrBag) (swap : Bool) :
    CanStore :=
  inv.canStoreItemOf env bag slot dest pItem.entry pItem.count (some pItem) swap

def canStoreNewItem (bag slot : ℕ) (dest : List ItemPosCount) (entry count : ℕ) : CanStore :=
  inv.canStoreItemOf env bag slot dest entry count none false

/-! ## 5. Changing and removing -/

/-- A slot is assigned: one of `m_items`, or, if the position is in a bag, one of its slots. -/
def setSlot (p : Pos) (item : Option ItemOrBag) : Inventory :=
  if p.bag = INVENTORY_SLOT_BAG_0 then
    { inv with m_items := Function.update inv.m_items p.slot item }
  else
    match inv.getBagByPos env p.bag with
    | none => { inv with m_items := Function.update inv.m_items p.slot item }
    | some pBag =>
      { inv with
        m_items := Function.update inv.m_items p.bag <| some
          { pBag with m_bagslot := Function.update pBag.m_bagslot p.slot (item.map (·.toItem)) } }

/-- `SetCount` for the item at a position. -/
def modifyItem (p : Pos) (f : Item → Item) : Inventory :=
  match inv.getItemByPos env p with
  | none => inv
  | some it => inv.setSlot env p (some { it with toItem := f it.toItem })

def removeItem (p : Pos) : Inventory :=
  match inv.getItemByPos env p with
  | none => inv
  | some _ => inv.setSlot env p none

end Inventory

end FunPvp.Items
