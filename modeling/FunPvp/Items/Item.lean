/-
# Items and their templates

What the inventory reads of an item and of its template. An item with `InventoryType` bag has slots
of its own, which hold plain items only: a bag in a bag is empty.

Counts and positions are natural numbers. A count is the value of a `uint32`, and where the source
computes with counts that may wrap, the model takes the remainder.
-/
import Mathlib

namespace FunPvp.Items

inductive InventoryResult
  | OK
  | ITEM_DOESNT_GO_TO_SLOT
  | BAG_FULL
  | NONEMPTY_BAG_OVER_OTHER_BAG
  | NO_EQUIPMENT_SLOT_AVAILABLE
  | CANT_EQUIP_WITH_TWOHANDED
  | CANT_DUAL_WIELD
  | ITEM_DOESNT_GO_INTO_BAG
  | CANT_CARRY_MORE_OF_THIS
  | ITEM_CANT_STACK
  | ITEM_CANT_BE_EQUIPPED
  | ITEMS_CANT_BE_SWAPPED
  | ITEM_NOT_FOUND
  | TRIED_TO_SPLIT_MORE_THAN_COUNT
  | COULDNT_SPLIT_ITEMS
  | CAN_ONLY_DO_WITH_EMPTY_BAGS
  | DONT_OWN_THAT_ITEM
  | CAN_EQUIP_ONLY1_QUIVER
  | MUST_PURCHASE_THAT_BAG_SLOT
  | YOU_ARE_DEAD
  | CAN_EQUIP_ONLY1_AMMOPOUCH
  | ALREADY_LOOTED
  | INVENTORY_FULL
  | BANK_FULL
  | ITEM_MAX_LIMIT_CATEGORY_COUNT_EXCEEDED
  /-- One of the errors that depend on the character only. -/
  | character (code : ℕ)
deriving DecidableEq

/-! ## 1. Templates -/

def MAX_BAG_SIZE : ℕ := 36

def ITEM_CLASS_CONTAINER : ℕ := 1

def ITEM_CLASS_QUIVER : ℕ := 11

def ITEM_SUBCLASS_CONTAINER : ℕ := 0

def INVTYPE_BAG : ℕ := 18

def BAG_FAMILY_MASK_KEYS : UInt32 := 0x100

def BAG_FAMILY_MASK_CURRENCY_TOKENS : UInt32 := 0x2000

/-- `ItemTemplate::Bonding`, as far as storing an item looks at it. -/
inductive Bonding
  | bindWhenPickedUp
  | bindWhenEquiped
  | bindQuestItem
  | other
deriving DecidableEq

/-- `ItemTemplate`. Loading cuts `ContainerSlots` at the size of a bag. -/
structure ItemTemplate where
  ItemId : ℕ
  Class : ℕ
  SubClass : ℕ
  InventoryType : ℕ
  MaxCount : ℤ
  Stackable : ℤ
  ContainerSlots : ℕ
  BagFamily : UInt32
  ItemLimitCategory : ℕ
  GemProperties : Bool
  bindToAccount : Bool
  Bonding : Bonding
  containerSlots_le : ContainerSlots ≤ MAX_BAG_SIZE

namespace ItemTemplate

def getMaxStackSize (t : ItemTemplate) : ℕ :=
  if t.Stackable = 2147483647 ∨ t.Stackable ≤ 0 then 0x7FFFFFFE else t.Stackable.toNat

def inFamily (t : ItemTemplate) (mask : UInt32) : Bool := t.BagFamily &&& mask ≠ 0

def isKey (t : ItemTemplate) : Bool := t.inFamily BAG_FAMILY_MASK_KEYS

def isCurrencyToken (t : ItemTemplate) : Bool := t.inFamily BAG_FAMILY_MASK_CURRENCY_TOKENS

theorem getMaxStackSize_pos (t : ItemTemplate) : 0 < t.getMaxStackSize := by
  unfold getMaxStackSize
  split
  · norm_num
  · omega

end ItemTemplate

/-- The family of the items that go into a special bag of a class and subclass. -/
def bagFamilyMask (class_ subClass : ℕ) : UInt32 :=
  if class_ = ITEM_CLASS_CONTAINER then
    match subClass with
    | 1 => 0x4    -- soul shards
    | 2 => 0x20   -- herbs
    | 3 => 0x40   -- enchanting supplies
    | 4 => 0x80   -- engineering supplies
    | 5 => 0x200  -- gems
    | 6 => 0x400  -- mining supplies
    | 7 => 0x8    -- leatherworking supplies
    | 8 => 0x10   -- inscription supplies
    | _ => 0
  else if class_ = ITEM_CLASS_QUIVER then
    match subClass with
    | 2 => 0x1    -- arrows
    | 3 => 0x2    -- bullets
    | _ => 0
  else 0

def ItemTemplate.isPlainContainer (t : ItemTemplate) : Bool :=
  t.Class = ITEM_CLASS_CONTAINER ∧ t.SubClass = ITEM_SUBCLASS_CONTAINER

def itemCanGoIntoBag (proto bagProto : ItemTemplate) : Bool :=
  bagProto.isPlainContainer || proto.inFamily (bagFamilyMask bagProto.Class bagProto.SubClass)

/-! ## 2. Items -/

/-- `Item`; `gems` are those in its sockets. -/
structure Item where
  guid : ℕ
  entry : ℕ
  count : ℕ
  owner : ℕ
  lootGenerated : Bool
  soulBound : Bool
  bopTradeable : Bool
  allowedGUIDs : List ℕ
  gems : List ℕ
  inTrade : Bool
deriving DecidableEq

structure ItemOrBag extends Item where
  m_bagslot : ℕ → Option Item

def Item.alone (item : Item) : ItemOrBag := ⟨item, fun _ => none⟩

@[simp] theorem Item.alone_toItem (item : Item) : item.alone.toItem = item := rfl

@[simp] theorem Item.alone_bagslot (item : Item) (j : ℕ) : item.alone.m_bagslot j = none := rfl

/-- `ItemLimitCategoryEntry`: the mode is whether the limit is on what one has. -/
structure ItemLimitCategory where
  have_ : Bool
  maxCount : ℕ

structure Env where
  getItemTemplate : ℕ → Option ItemTemplate
  itemLimitCategory : ℕ → Option ItemLimitCategory
  itemId_eq : ∀ entry t, getItemTemplate entry = some t → t.ItemId = entry

namespace Item

variable (env : Env)

def getTemplate (item : Item) : Option ItemTemplate := env.getItemTemplate item.entry

def isBag (item : Item) : Bool := (item.getTemplate env).any fun t => t.InventoryType = INVTYPE_BAG

def getBagSize (item : Item) : ℕ := ((item.getTemplate env).map (·.ContainerSlots)).getD 0

def isBindedNotWith (item : Item) (player : ℕ) : Bool :=
  item.soulBound && item.owner ≠ player && !(item.bopTradeable && item.allowedGUIDs.contains player)
    && !((item.getTemplate env).any (·.bindToAccount))

def canBeMergedPartlyWith (item : Item) (proto : ItemTemplate) : InventoryResult :=
  if item.lootGenerated then .ALREADY_LOOTED
  else if item.entry ≠ proto.ItemId then .ITEM_CANT_STACK
  else if item.count ≥ proto.getMaxStackSize then .ITEM_CANT_STACK
  else .OK

theorem canBeMergedPartlyWith_eq_ok {item : Item} {proto : ItemTemplate} :
    item.canBeMergedPartlyWith proto = .OK ↔
      item.lootGenerated = false ∧ item.entry = proto.ItemId ∧
        item.count < proto.getMaxStackSize := by
  unfold canBeMergedPartlyWith
  split
  · simp_all
  · split
    · simp_all
    · split <;> simp_all

def getGemCountWithID (item : Item) (gem : ℕ) : ℕ := item.gems.count gem

end Item

namespace ItemOrBag

variable (env : Env)

def getItemByPos (pBag : ItemOrBag) (slot : ℕ) : Option Item :=
  if slot < pBag.getBagSize env then pBag.m_bagslot slot else none

def isEmpty (pBag : ItemOrBag) : Bool :=
  (List.range (pBag.getBagSize env)).all fun j => (pBag.m_bagslot j).isNone

def isNotEmptyBag (pItem : ItemOrBag) : Bool := pItem.isBag env && !pItem.isEmpty env

end ItemOrBag

end FunPvp.Items
