/-
# Transmogrification

`Transmogrify` gives what is worn the look of another item, for tokens and for gold. The tokens are
destroyed first, and only then it is asked whether there is enough gold.

Which stacks of tokens go is told by the row of positions that `DestroyItemCount` goes along.
What the function changes of the items' flags (owner, refund, binding) is left out.
-/
import FunPvp.Items.DestroyItemCount

namespace FunPvp.Items

open FunPvp.Lib

/-! ## 1. The code -/

inductive TransmogTrinityStrings
  | ERR_TRANSMOG_OK
  | ERR_TRANSMOG_INVALID_SLOT
  | ERR_TRANSMOG_MISSING_SRC_ITEM
  | ERR_TRANSMOG_MISSING_DEST_ITEM
  | ERR_TRANSMOG_INVALID_ITEMS
  | ERR_TRANSMOG_NOT_ENOUGH_MONEY
  | ERR_TRANSMOG_NOT_ENOUGH_TOKENS
deriving DecidableEq

namespace Inventory

variable (env : Env) (inv : Inventory)

/-- The positions in the order in which `GetItemByGuid` looks at them. -/
def guidSlots : List Pos :=
  slotsOf INVENTORY_SLOT_BAG_0 EQUIPMENT_SLOT_START INVENTORY_SLOT_ITEM_END ++
    slotsOf INVENTORY_SLOT_BAG_0 KEYRING_SLOT_START CURRENCYTOKEN_SLOT_END ++
    slotsOf INVENTORY_SLOT_BAG_0 BANK_SLOT_ITEM_START BANK_SLOT_BAG_END ++
    inventoryBags.flatMap (inv.bagSlots env) ++ bankBags.flatMap (inv.bagSlots env)

def getItemByGuid (guid : ℕ) : Option Item :=
  ((inv.guidSlots env).filterMap (inv.at_ env)).find? fun item => item.guid = guid

/-- The positions of `HasItemCount` when the bank does not count. -/
def carriedSlots : List Pos :=
  slotsOf INVENTORY_SLOT_BAG_0 EQUIPMENT_SLOT_START INVENTORY_SLOT_ITEM_END ++
    slotsOf INVENTORY_SLOT_BAG_0 KEYRING_SLOT_START CURRENCYTOKEN_SLOT_END ++
    inventoryBags.flatMap (inv.bagSlots env)

/-- The stacks are added up in a `uint32` until there are as many as asked for. -/
def reaches (count : ℕ) : ℕ → List Item → Bool
  | _, [] => false
  | tempcount, pItem :: items =>
    count ≤ (tempcount + pItem.count) % 2 ^ 32 ||
      reaches count ((tempcount + pItem.count) % 2 ^ 32) items

def hasItemCount (item count : ℕ) : Bool :=
  reaches count 0 (((inv.carriedSlots env).filterMap (inv.at_ env)).filter (sought item))

end Inventory

/-- The configuration, with what is read of the templates of items. -/
structure Transmogrification where
  RequireToken : Bool
  TokenEntry : ℕ
  TokenAmount : ℕ
  CopperCost : ℤ
  /-- `cost *= ScaledCostModifier`, which is computed in floating point. -/
  scaled : ℤ → ℤ
  sellPrice : ℕ → ℕ
  canTransmogrifyItemWithItem : ℕ → ℕ → Bool
  tokenAmount_lt : TokenAmount < 2 ^ 32

/-- What a player has that `Transmogrify` reads or changes. -/
structure Wardrobe where
  inventory : Inventory
  money : ℕ
  transmogMap : ℕ → Option ℕ
  fight : Fight

namespace Wardrobe

variable (player : Wardrobe)

def hasEnoughMoney (amount : ℤ) : Bool := amount ≤ 0 || amount.toNat ≤ player.money

/-- `ModifyMoney` of a negative amount, which is all it is called with here. -/
def modifyMoney (amount : ℤ) : Wardrobe :=
  { player with
    money := if (-amount).toNat < player.money then player.money - (-amount).toNat else 0 }

def deleteFakeEntry (item : Item) : Wardrobe :=
  { player with transmogMap := Function.update player.transmogMap item.guid none }

def setFakeEntry (item : Item) (entry : ℕ) : Wardrobe :=
  { player with transmogMap := Function.update player.transmogMap item.guid (some entry) }

end Wardrobe

namespace Transmogrification

open TransmogTrinityStrings

variable (env : Env) (conf : Transmogrification)

def getSpecialPrice (entry : ℕ) : ℕ :=
  if conf.sellPrice entry < 10000 then 10000 else conf.sellPrice entry

/-- The `int32` that is charged. -/
def cost (entry : ℕ) : ℤ :=
  (conf.scaled ((conf.getSpecialPrice entry : ℤ).bmod (2 ^ 32)) + conf.CopperCost).bmod (2 ^ 32)

def payTokens (player : Wardrobe) : TransmogTrinityStrings × Wardrobe :=
  if conf.RequireToken then
    if player.inventory.hasItemCount env conf.TokenEntry conf.TokenAmount then
      (ERR_TRANSMOG_OK,
        { player with
          inventory := player.inventory.destroyItemCount env player.fight conf.TokenEntry
            conf.TokenAmount true })
    else (ERR_TRANSMOG_NOT_ENOUGH_TOKENS, player)
  else (ERR_TRANSMOG_OK, player)

/-- The second half. A negative price is an error that is only logged. -/
def payMoney (cost : ℤ) (player : Wardrobe) : TransmogTrinityStrings × Wardrobe :=
  if cost ≠ 0 then
    if cost < 0 then (ERR_TRANSMOG_OK, player)
    else if ¬ player.hasEnoughMoney cost then (ERR_TRANSMOG_NOT_ENOUGH_MONEY, player)
    else (ERR_TRANSMOG_OK, player.modifyMoney (-cost))
  else (ERR_TRANSMOG_OK, player)

def purchase (target source : Item) (player : Wardrobe) : TransmogTrinityStrings × Wardrobe :=
  match conf.payTokens env player with
  | (ERR_TRANSMOG_OK, player) =>
    match payMoney (conf.cost target.entry) player with
    | (ERR_TRANSMOG_OK, player) => (ERR_TRANSMOG_OK, player.setFakeEntry target source.entry)
    | failed => failed
  | failed => failed

def transmogrify (itemGUID slot : ℕ) (no_cost : Bool) (player : Wardrobe) :
    TransmogTrinityStrings × Wardrobe :=
  if EQUIPMENT_SLOT_END ≤ slot then (ERR_TRANSMOG_INVALID_SLOT, player)
  else
    let itemTransmogrifier :=
      if itemGUID ≠ 0 then player.inventory.getItemByGuid env itemGUID else none
    if itemGUID ≠ 0 ∧ itemTransmogrifier = none then (ERR_TRANSMOG_MISSING_SRC_ITEM, player)
    else
      match player.inventory.at_ env ⟨INVENTORY_SLOT_BAG_0, slot⟩ with
      | none => (ERR_TRANSMOG_MISSING_DEST_ITEM, player)
      | some itemTransmogrified =>
        match itemTransmogrifier with
        | none => (ERR_TRANSMOG_OK, player.deleteFakeEntry itemTransmogrified)
        | some itemTransmogrifier =>
          if ¬ conf.canTransmogrifyItemWithItem itemTransmogrified.entry
              itemTransmogrifier.entry then
            (ERR_TRANSMOG_INVALID_ITEMS, player)
          else if ¬ no_cost then conf.purchase env itemTransmogrified itemTransmogrifier player
          else
            (ERR_TRANSMOG_OK, player.setFakeEntry itemTransmogrified itemTransmogrifier.entry)

end Transmogrification

/-! ## 2. Which stacks go -/

namespace Inventory

variable {env : Env} {inv inv' : Inventory} {fight : Fight} {itemEntry count : ℕ} {p q : Pos}
  {pre post : List Pos}

/-- The whole stack goes: it counts, and with what counts before it, it is no more than the
count. -/
def Taken (env : Env) (inv : Inventory) (fight : Fight) (itemEntry count : ℕ) (q : Pos) : Prop :=
  inv.counted env fight itemEntry true q = true ∧ ∃ pre post, inv.row env = pre ++ (q :: post) ∧
    inv.units env fight itemEntry true inv pre + inv.unitsAt env q ≤ count

theorem units_of_split {a b : List Pos} (hsplit : inv.row env = a ++ (q :: b))
    (hq : inv.counted env fight itemEntry true q = true) :
    inv.units env fight itemEntry true inv (inv.row env) =
      inv.units env fight itemEntry true inv a + (inv.unitsAt env q +
        inv.units env fight itemEntry true inv b) := by
  rw [hsplit, units_append, units_cons, if_pos hq]

theorem units_le_of_not_mem {a b : List Pos} (h : a ++ (q :: b) = pre ++ post) (hq : q ∉ pre) :
    inv.units env fight itemEntry true inv pre ≤ inv.units env fight itemEntry true inv a := by
  rcases List.append_eq_append_iff.mp h with ⟨c, rfl, hc⟩ | ⟨c, rfl, -⟩
  · cases c with
    | nil => rw [List.append_nil]
    | cons x c =>
      obtain ⟨rfl, -⟩ := List.cons.inj hc
      exact absurd (List.mem_append_right _ List.mem_cons_self) hq
  · rw [units_append]
    exact Nat.le_add_right _ _

theorem taken_iff (hrow : inv.row env = pre ++ post)
    (hle : inv.units env fight itemEntry true inv pre ≤ count)
    (hmore : ∀ a b, inv.row env = a ++ (q :: b) → q ∉ pre →
      inv.counted env fight itemEntry true q = true →
        count < inv.units env fight itemEntry true inv a + inv.unitsAt env q) :
    Taken env inv fight itemEntry count q ↔
      q ∈ pre.filter (inv.counted env fight itemEntry true) := by
  rw [List.mem_filter]
  constructor
  · rintro ⟨hcounted, a, b, hsplit, hsum⟩
    refine ⟨?_, hcounted⟩
    by_contra hno
    exact absurd hsum (Nat.not_le.mpr (hmore a b hsplit hno hcounted))
  · rintro ⟨hmem, hcounted⟩
    obtain ⟨a, b, rfl⟩ := List.append_of_mem hmem
    refine ⟨hcounted, a, b ++ post, by rw [hrow, List.append_assoc, List.cons_append], ?_⟩
    rw [units_append, units_cons, if_pos hcounted] at hle
    omega

theorem counted_of_inner {slot : ℕ} {item : Item} (hslot : BagSlot slot)
    (hworn : slot ∈ inventoryBags) (hitem : inv.at_ env ⟨slot, q.slot⟩ = some item)
    (hbag : inv.counted env fight itemEntry true ⟨INVENTORY_SLOT_BAG_0, slot⟩ = true) :
    inv.counted env fight itemEntry true ⟨slot, q.slot⟩ = true := by
  obtain ⟨pBag, hget, hsize⟩ := (place_of_at hitem).resolve_left fun h => hslot.ne_bag0 h.1
  obtain ⟨-, hpBag, hisbag⟩ := getBagByPos_eq_some.mp hget
  have hequip : Pos.isEquipmentPos ⟨INVENTORY_SLOT_BAG_0, slot⟩ = true := by
    simp only [inventoryBags, List.mem_cons, List.not_mem_nil, or_false] at hworn
    simp only [Pos.isEquipmentPos, EQUIPMENT_SLOT_END, INVENTORY_SLOT_BAG_START,
      INVENTORY_SLOT_BAG_END, true_and, decide_eq_true_eq]
    omega
  rw [counted, Bool.and_eq_true] at hbag
  have hgo := hbag.2
  rw [mayGo, hequip, Bool.and_self, Bool.not_true, Bool.false_or, mayUnequip,
    getItemByPos_own hslot.own, hpBag, Option.all_some, Bool.and_eq_true, hisbag, Bool.not_true,
    Bool.false_or, List.all_eq_true] at hgo
  have hinner := hgo.2 q.slot (List.mem_range.mpr hsize)
  rw [← at_inner hslot hpBag hisbag hsize, hitem, Option.isNone_some, Bool.false_or] at hinner
  have hown : Pos.isEquipmentPos ⟨slot, q.slot⟩ = false := by
    simp [Pos.isEquipmentPos, hslot.ne_bag0]
  rw [counted, mayGo, hown, hitem, hinner]
  rfl

theorem cleared_of_check (hrow : inv.row env = pre ++ post) (q : Pos) :
    cleared (inv.at_ env) (pre.filter (inv.counted env fight itemEntry true)) q =
      if q ∈ pre.filter (inv.counted env fight itemEntry true) then none else inv.at_ env q := by
  unfold cleared
  by_cases hin : ⟨INVENTORY_SLOT_BAG_0, q.bag⟩ ∈ pre.filter (inv.counted env fight itemEntry true)
  · rw [if_pos (Or.inr hin)]
    obtain ⟨hmem, hcounted⟩ := List.mem_filter.mp hin
    have hpos : ⟨INVENTORY_SLOT_BAG_0, q.bag⟩ ∈ inv.row env := by
      rw [hrow]
      exact List.mem_append_left _ hmem
    cases hq : inv.at_ env q with
    | none => rw [ite_self]
    | some item =>
      have hne : q.bag ≠ INVENTORY_SLOT_BAG_0 := fun heq => not_mem_row (heq ▸ hpos)
      have hslot : BagSlot q.bag := by
        by_contra hno
        rw [at_eq_none_of_not_bagSlot hne hno] at hq
        cases hq
      obtain ⟨a, b, rfl⟩ := List.append_of_mem hmem
      rw [List.append_assoc, List.cons_append] at hrow
      have hbefore : q ∈ a := mem_of_inner hrow hslot hq
      have hinner := counted_of_inner hslot (mem_inventoryBags hpos hslot) hq hcounted
      rw [if_pos (List.mem_filter.mpr ⟨List.mem_append_left _ hbefore, hinner⟩)]
  · simp only [hin, or_false]

theorem unitsAt_of_at {item : Item} (h : inv.at_ env q = some item) :
    inv.unitsAt env q = item.count := by
  rw [unitsAt, h]
  rfl

theorem at_of_counted (h : inv.counted env fight itemEntry true q = true) :
    ∃ item, inv.at_ env q = some item ∧ item.entry = itemEntry := by
  cases hitem : inv.at_ env q with
  | none =>
    rw [counted, hitem] at h
    cases h
  | some item =>
    rw [counted, hitem, Option.any_some, sought, Bool.and_eq_true, decide_eq_true_eq] at h
    exact ⟨item, rfl, h.1.1⟩

section Spending

variable (hpos : ∀ q item, inv.at_ env q = some item → 0 < item.count)

include hpos in
/-- **What is left at a position**: nothing if the stack was taken, and else what was there or, at
one that counts, less of it. -/
theorem Spent.at_cases (h : Spent env inv fight itemEntry count true inv') (q : Pos) :
    Taken env inv fight itemEntry count q ∧ inv'.at_ env q = none ∨
      ¬ Taken env inv fight itemEntry count q ∧ (inv'.at_ env q = inv.at_ env q ∨
        ∃ item n, inv.counted env fight itemEntry true q = true ∧ q ∈ inv.row env ∧
          inv.at_ env q = some item ∧ n ≤ item.count ∧ item.count ≤ count + n ∧
            inv'.at_ env q = some { item with count := n }) := by
  have hunitsAt : inv.counted env fight itemEntry true q = true → 0 < inv.unitsAt env q := by
    intro hcounted
    obtain ⟨item, hitem, -⟩ := at_of_counted hcounted
    rw [unitsAt_of_at hitem]
    exact hpos q item hitem
  cases h with
  | @whole pre post hrow hat hunits =>
    have htaken : Taken env inv fight itemEntry count q ↔
        q ∈ pre.filter (inv.counted env fight itemEntry true) :=
      taken_iff hrow (by omega) fun a b hsplit hno hcounted => by
        have hle : inv.units env fight itemEntry true inv pre ≤
          inv.units env fight itemEntry true inv a :=
            units_le_of_not_mem (hsplit.symm.trans hrow) hno
        have htotal := units_of_split hsplit hcounted
        have hq := hunitsAt hcounted
        omega
    rw [hat, cleared_of_check hrow]
    split
    · next hmem => exact Or.inl ⟨htaken.mpr hmem, rfl⟩
    · next hmem => exact Or.inr ⟨mt htaken.mp hmem, Or.inl rfl⟩
  | @last pre post p item n hrow hitem hcountedAt hat hn hle hunits =>
    have hp := unitsAt_of_at hitem
    have htaken : Taken env inv fight itemEntry count q ↔
        q ∈ pre.filter (inv.counted env fight itemEntry true) :=
      taken_iff hrow (by omega) fun a b hsplit hno hcounted => by
        by_cases heq : q = p
        · have hbefore : inv.units env fight itemEntry true inv pre ≤
            inv.units env fight itemEntry true inv a :=
              units_le_of_not_mem (hsplit.symm.trans hrow) hno
          rw [heq]
          omega
        · have hrow' : inv.row env = (pre ++ [p]) ++ post := by rw [hrow, List.append_assoc]; rfl
          have hbefore : inv.units env fight itemEntry true inv (pre ++ [p]) ≤
            inv.units env fight itemEntry true inv a :=
              units_le_of_not_mem (hsplit.symm.trans hrow') (by simp [hno, heq])
          rw [units_append, units_cons, if_pos hcountedAt] at hbefore
          have hq := hunitsAt hcounted
          omega
    rw [hat, Function.update_apply, cleared_of_check hrow]
    by_cases heq : q = p
    · subst heq
      have hno : q ∉ pre := fun hmem => (row_split hrow hmem List.mem_cons_self).1 rfl
      have hmem : q ∈ inv.row env := by
        rw [hrow]
        exact List.mem_append_right _ List.mem_cons_self
      refine Or.inr ⟨fun h => hno (List.mem_of_mem_filter (htaken.mp h)), Or.inr ?_⟩
      exact ⟨item, n, hcountedAt, hmem, hitem, hle, by omega, if_pos rfl⟩
    · rw [if_neg heq]
      split
      · next hmem => exact Or.inl ⟨htaken.mpr hmem, rfl⟩
      · next hmem => exact Or.inr ⟨mt htaken.mp hmem, Or.inl rfl⟩

include hpos in
theorem Spent.at_of_not_counted (h : Spent env inv fight itemEntry count true inv')
    (hq : ¬ (q ∈ inv.row env ∧ inv.counted env fight itemEntry true q = true)) :
    inv'.at_ env q = inv.at_ env q := by
  rcases h.at_cases hpos q with ⟨⟨hcounted, a, b, hsplit, -⟩, -⟩ | ⟨-, h | h⟩
  · refine absurd ⟨?_, hcounted⟩ hq
    rw [hsplit]
    exact List.mem_append_right _ List.mem_cons_self
  · exact h
  · obtain ⟨item, n, hcounted, hmem, -⟩ := h
    exact absurd ⟨hmem, hcounted⟩ hq

include hpos in
theorem Spent.total_add (h : Spent env inv fight itemEntry count true inv') :
    inv'.total env itemEntry +
        min count (inv.units env fight itemEntry true inv (inv.row env)) =
      inv.total env itemEntry := by
  have hnodup : ((inv.row env).filter (inv.counted env fight itemEntry true)).Nodup :=
    (List.Pairwise.imp (fun hb => hb.1) row_pairwise).filter _
  have hsub : ((inv.row env).filter (inv.counted env fight itemEntry true)).toFinset ⊆ places := by
    intro q hq
    obtain ⟨item, hitem, -⟩ := at_of_counted (List.of_mem_filter (List.mem_toFinset.mp hq))
    exact Place.mem_places (place_of_at hitem)
  have hsum : ∀ i : Inventory, (∀ q, inv.counted env fight itemEntry true q = true →
      ∀ item, i.at_ env q = some item → item.entry = itemEntry) →
        ∑ q ∈ ((inv.row env).filter (inv.counted env fight itemEntry true)).toFinset,
            env.stacking.amount itemEntry (i.at_ env q) =
          inv.units env fight itemEntry true i (inv.row env) := by
    intro i hentry
    rw [List.sum_toFinset _ hnodup]
    refine congrArg List.sum (List.map_congr_left fun q hq => ?_)
    cases hitem : i.at_ env q with
    | none =>
      rw [unitsAt, hitem]
      rfl
    | some item =>
      rw [unitsAt_of_at hitem]
      exact Stacking.amount_some_self (hentry q (List.of_mem_filter hq) item hitem)
  have hrest : ∑ q ∈ places \ ((inv.row env).filter
        (inv.counted env fight itemEntry true)).toFinset,
          env.stacking.amount itemEntry (inv'.at_ env q) =
      ∑ q ∈ places \ ((inv.row env).filter
        (inv.counted env fight itemEntry true)).toFinset,
          env.stacking.amount itemEntry (inv.at_ env q) := by
    refine Finset.sum_congr rfl fun q hq => ?_
    rw [Finset.mem_sdiff, List.mem_toFinset, List.mem_filter] at hq
    rw [h.at_of_not_counted hpos hq.2]
  have hbefore := hsum inv fun q hq item hitem => by
    obtain ⟨item', hitem', hentry⟩ := at_of_counted hq
    rw [hitem] at hitem'
    cases hitem'
    exact hentry
  have hafter := hsum inv' fun q hq item hitem => by
    obtain ⟨item', hitem', hentry⟩ := at_of_counted hq
    rcases h.at_cases hpos q with ⟨-, hnone⟩ | ⟨-, hsame | ⟨item'', n, -, -, hat, -, -, hless⟩⟩
    · rw [hitem] at hnone
      cases hnone
    · rw [hsame, hitem'] at hitem
      cases hitem
      exact hentry
    · rw [hless] at hitem
      rw [hat] at hitem'
      cases hitem
      cases hitem'
      exact hentry
  have hunits := h.destroyed.units_add
  unfold total Stacking.stockOn
  rw [← Finset.sum_sdiff hsub, ← Finset.sum_sdiff hsub (f := fun q =>
    env.stacking.amount itemEntry (inv.at_ env q)), hrest, hbefore, hafter]
  omega

end Spending

end Inventory

/-! ## 3. All or nothing -/

namespace Inventory

variable {env : Env} {inv inv' : Inventory} {fight : Fight} {itemEntry count : ℕ}

/-- **So many of an entry are gone, and nothing else.** -/
structure Charged (env : Env) (inv inv' : Inventory) (entry amount : ℕ) : Prop where
  total_add : inv'.total env entry + amount = inv.total env entry
  others : ∀ q item, item.entry ≠ entry →
    (inv'.at_ env q = some item ↔ inv.at_ env q = some item)
  /-- What is left of the entry was there, and no fewer. -/
  left : ∀ q item, inv'.at_ env q = some item →
    ∃ n, item.count ≤ n ∧ inv.at_ env q = some { item with count := n }

/-- What the counts of the stacks have to be for the destruction to be that of section 2. -/
structure Sound (env : Env) (inv : Inventory) (fight : Fight) (itemEntry count : ℕ) : Prop where
  count_pos : ∀ q item, inv.at_ env q = some item → 0 < item.count
  count_lt : ∀ q item, inv.at_ env q = some item → item.count < 2 ^ 32
  noWrap : NoWrap env inv fight itemEntry count true
  heldSmall : HeldSmall env inv fight itemEntry count true

end Inventory

namespace Transmogrification

open TransmogTrinityStrings Inventory

variable {env : Env} {conf : Transmogrification} {itemGUID slot : ℕ} {no_cost : Bool}
  {player player' : Wardrobe} {target source : Item}

/-- What the player pays for, and that nothing but the price can stop it. -/
structure Asked (env : Env) (conf : Transmogrification) (itemGUID slot : ℕ) (no_cost : Bool)
    (player : Wardrobe) (target source : Item) : Prop where
  slot_lt : slot < EQUIPMENT_SLOT_END
  guid_ne : itemGUID ≠ 0
  source_eq : player.inventory.getItemByGuid env itemGUID = some source
  target_eq : player.inventory.at_ env ⟨INVENTORY_SLOT_BAG_0, slot⟩ = some target
  may : conf.canTransmogrifyItemWithItem target.entry source.entry = true
  cost : no_cost = false

/-- What an `OK` should mean. -/
structure Paid (env : Env) (conf : Transmogrification) (itemGUID : ℕ) (target source : Item)
    (player player' : Wardrobe) : Prop where
  tokens : if conf.RequireToken then
      Charged env player.inventory player'.inventory conf.TokenEntry conf.TokenAmount
    else player'.inventory.at_ env = player.inventory.at_ env
  price : 0 ≤ conf.cost target.entry ∧ conf.cost target.entry ≤ player.money ∧
    player'.money + conf.cost target.entry = player.money
  look : player'.transmogMap =
    Function.update player.transmogMap target.guid (some source.entry)
  owned : ∃ q item, player'.inventory.at_ env q = some item ∧ item.guid = itemGUID

/-- **All or nothing.** -/
structure AllOrNothing (env : Env) (conf : Transmogrification) (itemGUID slot : ℕ)
    (no_cost : Bool) (player : Wardrobe) : Prop where
  nothing : ∀ res player', conf.transmogrify env itemGUID slot no_cost player = (res, player') →
    res ≠ ERR_TRANSMOG_OK → player'.inventory.at_ env = player.inventory.at_ env ∧
      player'.money = player.money ∧ player'.transmogMap = player.transmogMap
  all : ∀ player', conf.transmogrify env itemGUID slot no_cost player = (ERR_TRANSMOG_OK, player') →
    itemGUID ≠ 0 → no_cost = false → ∃ target source,
      player.inventory.at_ env ⟨INVENTORY_SLOT_BAG_0, slot⟩ = some target ∧
        player.inventory.getItemByGuid env itemGUID = some source ∧
          Paid env conf itemGUID target source player player'

/-- When a purchase is: the price is not negative; and if there are tokens to pay with, the gold is
enough or no token can be destroyed, and so many can be, without the source. -/
def FairFor (env : Env) (conf : Transmogrification) (itemGUID : ℕ) (player : Wardrobe)
    (target : Item) : Prop :=
  let units := player.inventory.units env player.fight conf.TokenEntry true player.inventory
    (player.inventory.row env)
  if conf.RequireToken then
    player.inventory.hasItemCount env conf.TokenEntry conf.TokenAmount = true →
      if player.money < conf.cost target.entry then conf.TokenAmount = 0 ∨ units = 0
      else 0 ≤ conf.cost target.entry ∧ conf.TokenAmount ≤ units ∧
        ∃ q item, player.inventory.at_ env q = some item ∧ item.guid = itemGUID ∧
          ¬ Taken env player.inventory player.fight conf.TokenEntry conf.TokenAmount q
  else 0 ≤ conf.cost target.entry

/-- **When it is.** -/
def Fair (env : Env) (conf : Transmogrification) (itemGUID slot : ℕ) (no_cost : Bool)
    (player : Wardrobe) : Prop :=
  ∀ target source, Asked env conf itemGUID slot no_cost player target source →
    FairFor env conf itemGUID player target

end Transmogrification

end FunPvp.Items
