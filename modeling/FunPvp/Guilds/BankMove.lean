/-
# Moving items in and out of a guild bank

`Guild::_MoveItems` moves an item between two slots of the bank, or between the bank and a player's
bags. Without a split it tries to put the whole stack into the destination, and else to swap the
two items. With a split a clone of part of the stack is stored, and the rest stays. Where a stack
goes is booked before anything is changed (`canStore`), and the booking is carried out after the
source has been removed (`storeItem`).

What lies in a player's bags is code of its own; a move needs five operations of it, and nothing
here depends on what they do.
-/
import FunPvp.Guilds.Guild

namespace FunPvp.Guilds

/-! ## 1. Items -/

/-- `ItemTemplate`: how many of an item stack, as the database has it. -/
structure ItemTemplate where
  stackable : Int32
deriving DecidableEq

def ItemTemplate.getMaxStackSize (proto : ItemTemplate) : UInt32 :=
  if proto.stackable = 2147483647 ∨ proto.stackable ≤ 0 then 0x7FFFFFFF - 1
  else proto.stackable.toUInt32

structure ItemPosCount where
  pos : UInt16
  count : UInt32
deriving DecidableEq

def ItemPosCount.isContainedIn (itemPos : ItemPosCount) (vec : List ItemPosCount) : Bool :=
  vec.any fun itr => itr.pos = itemPos.pos

/-- The errors a bank has for an item, and those of a bag. -/
inductive InventoryResult
  | cantDropSoulbound | itemDoesntGoIntoBag | itemCantStack | bankFull
  | ofBag (code : UInt8)
deriving DecidableEq

/-- An `Item*`: the item, and the slot of the bank it lies in; none for a clone and for an item in
a bag. An item lies in one slot, so pointers to items of the bank are equal when these are. -/
structure ItemPtr where
  item : Item
  slot : Option (UInt8 × UInt8)
deriving DecidableEq

/-! ## 2. The two ends of a move -/

inductive MoveItemData
  | bank (container slotId : UInt8)
  | player (container slotId : UInt8)
deriving DecidableEq

namespace MoveItemData

def isBank : MoveItemData → Bool
  | .bank .. => true
  | .player .. => false

/-- `GetContainer`. -/
def container : MoveItemData → UInt8
  | .bank container _ => container
  | .player container _ => container

/-- The end `other` is in the bank tab `container`: the two are within the same tab. -/
def inTab (other : MoveItemData) (container : UInt8) : Bool :=
  other.isBank && decide (other.container = container)

end MoveItemData

/-- The item templates, and what a move does with a player's bags. -/
structure MoveEnv (Bags : Type*) where
  getItemTemplate : UInt32 → ItemTemplate
  /-- `PlayerMoveItemData::InitItem`. -/
  initItem : Bags → ObjectGuid → UInt8 → UInt8 → Option Item
  /-- `Player::CanStoreItem`, with the item and `swap`. -/
  canStoreItem : Bags → ObjectGuid → UInt8 → UInt8 → Item → Bool →
    Except InventoryResult (List ItemPosCount)
  /-- `SetCount` on an item in a bag. -/
  setCount : Bags → ObjectGuid → UInt8 → UInt8 → UInt32 → Bags
  /-- `Player::MoveItemFromInventory`. -/
  moveItemFromInventory : Bags → ObjectGuid → UInt8 → UInt8 → Bags
  /-- `Player::MoveItemToInventory`. -/
  moveItemToInventory : Bags → ObjectGuid → List ItemPosCount → Item → Bags

/-- What a move changes: the guild, the bags, and the generator of item guids. -/
structure MoveState (Bags : Type*) where
  guild : Guild
  bags : Bags
  nextItemGuid : ℕ

variable {Bags : Type*}

def MoveEnv.getMaxStackCount (env : MoveEnv Bags) (item : Item) : UInt32 :=
  (env.getItemTemplate item.entry).getMaxStackSize

namespace MoveState

/-- A slot of a bank tab gets an item, or is emptied. -/
def setItem (s : MoveState Bags) (container slotId : UInt8) (item : Option Item) :
    MoveState Bags :=
  { s with guild := (s.guild.setItem container slotId item).2 }

/-- `Item::CloneItem`: none at count zero, and never more than a stack. -/
def cloneItem (env : MoveEnv Bags) (s : MoveState Bags) (item : Item) (count : UInt32) :
    Option Item × MoveState Bags :=
  if count < 1 then (none, s)
  else
    (some { item with guid := s.nextItemGuid, count := min count (env.getMaxStackCount item) },
      { s with nextItemGuid := s.nextItemGuid + 1 })

def initItem (env : MoveEnv Bags) (s : MoveState Bags) (player : ObjectGuid) :
    MoveItemData → Option ItemPtr
  | .bank container slotId =>
    (s.guild.getItem container slotId).map fun item => ⟨item, some (container, slotId)⟩
  | .player container slotId =>
    (env.initItem s.bags player container slotId).map fun item => ⟨item, none⟩

/-! ## 3. Booking -/

/-- What is booked so far, and how many there are still to book. -/
structure Reservation where
  vec : List ItemPosCount
  count : UInt32
deriving DecidableEq

/-- The entry `_ReserveSpace` makes, if the slot has none yet. -/
def Reservation.reserve (r : Reservation) (slotId : UInt8) (requiredSpace : UInt32) :
    Reservation :=
  let itemPos : ItemPosCount := ⟨slotId.toUInt16, requiredSpace⟩
  if itemPos.isContainedIn r.vec then r
  else ⟨r.vec ++ [itemPos], r.count - requiredSpace⟩

/-- `_ReserveSpace`: nothing if the item in the slot is of another entry, or its stack is full. -/
def reserveSpace (env : MoveEnv Bags) (slotId : UInt8) (pItem : Item) (pItemDest : Option Item)
    (r : Reservation) : Option Reservation :=
  match pItemDest with
  | some itemDest =>
    if itemDest.entry ≠ pItem.entry ∨ itemDest.count ≥ env.getMaxStackCount pItem then none
    else some (r.reserve slotId (min (env.getMaxStackCount pItem - itemDest.count) r.count))
  | none => some (r.reserve slotId (min (env.getMaxStackCount pItem) r.count))

/-- The item in a slot, which counts as free if it is the one to store. -/
def itemDest (g : Guild) (container slotId : UInt8) (pItem : ItemPtr) : Option Item :=
  if pItem.slot = some (container, slotId) then none else g.getItem container slotId

def bankSlots : List UInt8 := (List.range GUILD_BANK_MAX_SLOTS.toNat).map UInt8.ofNat

/-- `CanStoreItemInTab`: what the scan books in slots with stacks (`merge`) or in free ones. -/
def canStoreItemInTab (env : MoveEnv Bags) (g : Guild) (container : UInt8) (pItem : ItemPtr)
    (skipSlotId : UInt8) (merge : Bool) : List UInt8 → Reservation → Reservation
  | [], r => r
  | slotId :: slots, r =>
    if r.count > 0 then
      if slotId = skipSlotId ∨ (itemDest g container slotId pItem).isSome ≠ merge then
        canStoreItemInTab env g container pItem skipSlotId merge slots r
      else
        canStoreItemInTab env g container pItem skipSlotId merge slots
          ((reserveSpace env slotId pItem.item (itemDest g container slotId pItem) r).getD r)
    else r

/-- What `BankMoveItemData::CanStore` books in the slot asked for. With `swap` the item there
will be gone. -/
def reserveSlot (env : MoveEnv Bags) (g : Guild) (container slotId : UInt8) (pItem : ItemPtr)
    (swap : Bool) (r : Reservation) : Option Reservation :=
  if slotId ≠ NULL_SLOT then
    reserveSpace env slotId pItem.item
      (if swap then none else itemDest g container slotId pItem) r
  else some r

/-- What is booked for all of a stack: the slot asked for, stacks to merge with, free slots. -/
def reserveAll (env : MoveEnv Bags) (g : Guild) (container slotId : UInt8) (pItem : ItemPtr)
    (r : Reservation) : Reservation :=
  let r := if env.getMaxStackCount pItem.item > 1 then
      canStoreItemInTab env g container pItem slotId true bankSlots r
    else r
  canStoreItemInTab env g container pItem slotId false bankSlots r

def bankCanStore (env : MoveEnv Bags) (g : Guild) (container slotId : UInt8) (pItem : ItemPtr)
    (swap : Bool) : Except InventoryResult (List ItemPosCount) :=
  if pItem.item.soulBound then .error .cantDropSoulbound
  else if container ≥ g.getPurchasedTabsSize then .error .itemDoesntGoIntoBag
  else
    match reserveSlot env g container slotId pItem swap ⟨[], pItem.item.count⟩ with
    | none => .error .itemCantStack
    | some r =>
      let r := reserveAll env g container slotId pItem r
      if r.count = 0 then .ok r.vec else .error .bankFull

def canStore (env : MoveEnv Bags) (s : MoveState Bags) (player : ObjectGuid) (pItem : ItemPtr)
    (swap : Bool) : MoveItemData → Except InventoryResult (List ItemPosCount)
  | .bank container slotId => bankCanStore env s.guild container slotId pItem swap
  | .player container slotId =>
    env.canStoreItem s.bags player container slotId pItem.item swap

/-! ## 4. Rights -/

/-- `HasStoreRights`: not checked within a tab. -/
def hasStoreRights (g : Guild) (player : ObjectGuid) (other : MoveItemData) :
    MoveItemData → Bool
  | .bank container _ =>
    other.inTab container ||
      g.memberHasTabRights player container GUILD_BANK_RIGHT_DEPOSIT_ITEM
  | .player .. => true

def hasWithdrawRights (g : Guild) (player : ObjectGuid) (other : MoveItemData) :
    MoveItemData → Bool
  | .bank container _ =>
    other.inTab container ||
      match g.getMember player with
      | some member => decide (g.getMemberRemainingSlots member container ≠ 0)
      | none => false
  | .player .. => true

/-! ## 5. Carrying it out -/

/-- `RemoveItem`: the stack is made smaller by what is split off, or the slot is emptied. What
leaves a tab counts against the member's limit. -/
def removeItem (env : MoveEnv Bags) (s : MoveState Bags) (player : ObjectGuid)
    (other : MoveItemData) (pItem : Item) (splitedAmount : UInt32) :
    MoveItemData → MoveState Bags
  | .bank container slotId =>
    let s := s.setItem container slotId
      (if splitedAmount ≠ 0 then some { pItem with count := pItem.count - splitedAmount }
        else none)
    if other.inTab container then s
    else { s with guild := s.guild.updateMemberWithdrawSlots player container }
  | .player container slotId =>
    { s with bags :=
        if splitedAmount ≠ 0 then
          env.setCount s.bags player container slotId (pItem.count - splitedAmount)
        else env.moveItemFromInventory s.bags player container slotId }

/-- `BankMoveItemData::_StoreItem`: onto the stack in the slot, or as a clone or the item itself
in a free one. -/
def storeAt (env : MoveEnv Bags) (s : MoveState Bags) (container : UInt8) (pItem : Item)
    (itemPos : ItemPosCount) (clone : Bool) : MoveState Bags :=
  let slotId := itemPos.pos.toUInt8
  match s.guild.getItem container slotId with
  | some itemDest =>
    s.setItem container slotId (some { itemDest with count := itemDest.count + itemPos.count })
  | none =>
    if clone then
      match cloneItem env s pItem itemPos.count with
      | (some item, s) => s.setItem container slotId (some item)
      | (none, s) => s
    else s.setItem container slotId (some { pItem with count := itemPos.count })

/-- The loop of `BankMoveItemData::StoreItem`: all but the last store clones. -/
def storeLoop (env : MoveEnv Bags) (container : UInt8) (pItem : Item) :
    MoveState Bags → List ItemPosCount → MoveState Bags
  | s, [] => s
  | s, itemPos :: vec =>
    storeLoop env container pItem (storeAt env s container pItem itemPos (!vec.isEmpty)) vec

def storeItem (env : MoveEnv Bags) (s : MoveState Bags) (player : ObjectGuid) (pItem : Item)
    (vec : List ItemPosCount) : MoveItemData → MoveState Bags
  | .bank container _ =>
    if container.toNat < s.guild.bankTabs.length then storeLoop env container pItem s vec else s
  | .player .. => { s with bags := env.moveItemToInventory s.bags player vec pItem }

/-! ## 6. The move -/

inductive MoveResult
  | failed | moved | swapped
deriving DecidableEq

/-- `_DoItemsMove`. `pItem` is the source's item and `pSrcItem` what is moved, the clone if part
of the stack is split off; `pDestItem` is there when the two are to be swapped. -/
def doItemsMove (env : MoveEnv Bags) (s : MoveState Bags) (player : ObjectGuid)
    (src dest : MoveItemData) (pItem pSrcItem : ItemPtr) (pDestItem : Option ItemPtr)
    (splitedAmount : UInt32) : MoveResult × MoveState Bags :=
  match canStore env s player pSrcItem pDestItem.isSome dest, pDestItem with
  | .error _, _ => (.failed, s)
  | .ok destVec, none =>
    let s := removeItem env s player dest pItem.item splitedAmount src
    (.moved, storeItem env s player pSrcItem.item destVec dest)
  | .ok destVec, some pDestItem =>
    match canStore env s player pDestItem true src with
    | .error _ => (.failed, s)
    | .ok srcVec =>
      let s := removeItem env s player dest pItem.item splitedAmount src
      let s := removeItem env s player src pDestItem.item 0 dest
      let s := storeItem env s player pSrcItem.item destVec dest
      (.swapped, storeItem env s player pDestItem.item srcVec src)

/-- `CheckItem`: nothing if there are fewer than that; splitting off all of a stack is no split. -/
def checkItem (pItem : Item) (splitedAmount : UInt32) : Option UInt32 :=
  if splitedAmount > pItem.count then none
  else if splitedAmount = pItem.count then some 0
  else some splitedAmount

/-- The swap `_MoveItems` tries when the stack could not be merged. -/
def swapItems (env : MoveEnv Bags) (s : MoveState Bags) (player : ObjectGuid)
    (src dest : MoveItemData) (pItem : ItemPtr) : MoveResult × MoveState Bags :=
  match initItem env s player dest with
  | none => (.failed, s)
  | some pDestItem =>
    if !hasStoreRights s.guild player dest src then (.failed, s)
    else if !hasWithdrawRights s.guild player src dest then (.failed, s)
    else doItemsMove env s player src dest pItem pItem (some pDestItem) 0

def moveItems (env : MoveEnv Bags) (s : MoveState Bags) (player : ObjectGuid)
    (src dest : MoveItemData) (splitedAmount : UInt32) : MoveResult × MoveState Bags :=
  match initItem env s player src with
  | none => (.failed, s)
  | some pItem =>
    match checkItem pItem.item splitedAmount with
    | none => (.failed, s)
    | some splitedAmount =>
      if !hasStoreRights s.guild player src dest then (.failed, s)
      else if !hasWithdrawRights s.guild player dest src then (.failed, s)
      else if splitedAmount ≠ 0 then
        match cloneItem env s pItem.item splitedAmount with
        | (none, s) => (.failed, s)
        | (some cloned, s) =>
          doItemsMove env s player src dest pItem ⟨cloned, none⟩ none splitedAmount
      else
        match doItemsMove env s player src dest pItem pItem none 0 with
        | (.failed, s) => swapItems env s player src dest pItem
        | moved => moved

/-! ## 7. What storing leaves alone -/

/-- The two guilds differ in nothing but what lies in the slots. -/
structure SlotsOnly (g g' : Guild) : Prop where
  leaderGuid : g'.leaderGuid = g.leaderGuid
  ranks : g'.ranks = g.ranks
  members : g'.members = g.members
  tabs : g'.bankTabs.length = g.bankTabs.length

theorem SlotsOnly.refl (g : Guild) : SlotsOnly g g := ⟨rfl, rfl, rfl, rfl⟩

theorem SlotsOnly.trans {g g' g'' : Guild} (h : SlotsOnly g g') (h' : SlotsOnly g' g'') :
    SlotsOnly g g'' where
  leaderGuid := h'.leaderGuid.trans h.leaderGuid
  ranks := h'.ranks.trans h.ranks
  members := h'.members.trans h.members
  tabs := h'.tabs.trans h.tabs

variable {env : MoveEnv Bags} {s : MoveState Bags} {container slotId : UInt8} {pItem : Item}
  {itemPos : ItemPosCount} {clone : Bool}

theorem slotsOnly_setItem {item : Option Item} :
    SlotsOnly s.guild (s.setItem container slotId item).guild where
  leaderGuid := Guild.leaderGuid_setItem
  ranks := Guild.ranks_setItem
  members := Guild.members_setItem
  tabs := Guild.length_bankTabs_setItem

theorem cloneItem_guild {count : UInt32} : (cloneItem env s pItem count).2.guild = s.guild := by
  unfold cloneItem
  split <;> rfl

theorem slotsOnly_storeAt :
    SlotsOnly s.guild (storeAt env s container pItem itemPos clone).guild := by
  unfold storeAt
  dsimp only
  split
  · exact slotsOnly_setItem
  split
  · rename_i hclone
    have hguild : (cloneItem env s pItem itemPos.count).2.guild = s.guild := cloneItem_guild
    split
    · rename_i item s' heq
      rw [heq] at hguild
      rw [← hguild]
      exact slotsOnly_setItem
    · rename_i s' heq
      rw [heq] at hguild
      rw [← hguild]
      exact SlotsOnly.refl _
  · exact slotsOnly_setItem

theorem slotsOnly_storeLoop {vec : List ItemPosCount} :
    SlotsOnly s.guild (storeLoop env container pItem s vec).guild := by
  induction vec generalizing s with
  | nil => exact SlotsOnly.refl _
  | cons itemPos vec ih => exact slotsOnly_storeAt.trans ih

theorem slotsOnly_storeItem {player : ObjectGuid} {vec : List ItemPosCount} {e : MoveItemData} :
    SlotsOnly s.guild (storeItem env s player pItem vec e).guild := by
  cases e with
  | bank container slotId =>
    unfold storeItem
    dsimp only
    split
    · exact slotsOnly_storeLoop
    · exact SlotsOnly.refl _
  | player container slotId => exact SlotsOnly.refl _

theorem doItemsMove_failed {player : ObjectGuid} {splitedAmount : UInt32} {e e' : MoveItemData} {pItem pSrcItem : ItemPtr}
    {pDestItem : Option ItemPtr} {s' : MoveState Bags}
    (h : doItemsMove env s player e e' pItem pSrcItem pDestItem splitedAmount = (.failed, s')) :
    s' = s := by
  unfold doItemsMove at h
  split at h
  · exact (congrArg Prod.snd h).symm
  · exact absurd (congrArg Prod.fst h) (by simp)
  · split at h
    · exact (congrArg Prod.snd h).symm
    · exact absurd (congrArg Prod.fst h) (by simp)

end MoveState

end FunPvp.Guilds
