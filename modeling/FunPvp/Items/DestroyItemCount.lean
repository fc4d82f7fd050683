/-
# Destroying so many of an entry

`DestroyItemCount` goes through the backpack, the keys and tokens, the bags that are worn, what is
worn, the bank and the bags in the bank, and destroys stacks of the entry until the count is
reached; the last one is made smaller. A bag that is worn may be of the entry itself, and is
destroyed with what is in it.
-/
import FunPvp.Items.FreeRoom

namespace FunPvp.Items

open FunPvp.Lib

def ITEM_CLASS_WEAPON : ℕ := 2

def ITEM_CLASS_PROJECTILE : ℕ := 6

def INVTYPE_SHIELD : ℕ := 14

def INVTYPE_HOLDABLE : ℕ := 23

def INVTYPE_RELIC : ℕ := 28

def EQUIP_ERR_NOT_IN_COMBAT : ℕ := 60

def EQUIP_ERR_NOT_DURING_ARENA_MATCH : ℕ := 78

def ItemTemplate.canChangeEquipStateInCombat (t : ItemTemplate) : Bool :=
  t.InventoryType = INVTYPE_RELIC ∨ t.InventoryType = INVTYPE_SHIELD ∨
    t.InventoryType = INVTYPE_HOLDABLE ∨ t.Class = ITEM_CLASS_WEAPON ∨
    t.Class = ITEM_CLASS_PROJECTILE

/-- What keeps a character from changing what he wears. -/
structure Fight where
  isInCombat : Bool
  inArenaInProgress : Bool

namespace Inventory

/-! ## 1. The code -/

section Code

variable (env : Env) (inv : Inventory)

def canUnequipItem (fight : Fight) (p : Pos) (swap : Bool) : InventoryResult :=
  if ¬ p.isEquipmentPos ∧ ¬ p.isBagPos then .OK
  else
    match inv.getItemByPos env p with
    | none => .OK
    | some pItem =>
      match pItem.getTemplate env with
      | none => .ITEM_NOT_FOUND
      | some pProto =>
        if pItem.lootGenerated then .ALREADY_LOOTED
        else if ¬ pProto.canChangeEquipStateInCombat ∧ fight.isInCombat then
          .character EQUIP_ERR_NOT_IN_COMBAT
        else if ¬ pProto.canChangeEquipStateInCombat ∧ fight.inArenaInProgress then
          .character EQUIP_ERR_NOT_DURING_ARENA_MATCH
        else if ¬ swap ∧ pItem.isNotEmptyBag env then .CAN_ONLY_DO_WITH_EMPTY_BAGS
        else .OK

/-- `DestroyItem`. What is in a bag is no bag with anything in it. -/
def destroyItem (p : Pos) : Inventory :=
  match inv.getItemByPos env p with
  | none => inv
  | some pItem =>
    let inv :=
      if pItem.isNotEmptyBag env then
        (List.range MAX_BAG_SIZE).foldl (fun inv i => inv.removeItem env ⟨p.slot, i⟩) inv
      else inv
    inv.setSlot env p none

/-- Where a scan comes to a position: what is of the entry is destroyed, or made smaller, and the
function returns as soon as the count is reached. The number is `remcount`. -/
def destroyAt (itemEntry count : ℕ) (may : Inventory → Pos → Bool) (s : Inventory × ℕ) (p : Pos) :
    Except Inventory (Inventory × ℕ) :=
  match s.1.at_ env p with
  | none => .ok s
  | some item =>
    if item.entry = itemEntry ∧ ¬ item.inTrade then
      if (item.count + s.2) % 2 ^ 32 ≤ count then
        if may s.1 p then
          let remcount := (s.2 + item.count) % 2 ^ 32
          if count ≤ remcount then .error (s.1.destroyItem env p)
          else .ok (s.1.destroyItem env p, remcount)
        else .ok s
      else
        .error <| s.1.modifyItem env p fun item =>
          { item with count := (item.count + 2 ^ 32 - count + s.2) % 2 ^ 32 }
    else .ok s

def destroyInSlots (itemEntry count : ℕ) (may : Inventory → Pos → Bool) (slot_begin slot_end : ℕ)
    (s : Inventory × ℕ) : Except Inventory (Inventory × ℕ) :=
  (slotsOf INVENTORY_SLOT_BAG_0 slot_begin slot_end).foldlM (destroyAt env itemEntry count may) s

def destroyInBags (itemEntry count : ℕ) (bags : List ℕ) (s : Inventory × ℕ) :
    Except Inventory (Inventory × ℕ) :=
  bags.foldlM (fun s bag =>
    (s.1.bagSlots env bag).foldlM (destroyAt env itemEntry count fun _ _ => true) s) s

def destroyScans (fight : Fight) (itemEntry count : ℕ) (unequip_check : Bool)
    (s : Inventory × ℕ) : Except Inventory (Inventory × ℕ) :=
  destroyInSlots env itemEntry count (fun _ _ => true) INVENTORY_SLOT_ITEM_START
      INVENTORY_SLOT_ITEM_END s >>= fun s =>
    destroyInSlots env itemEntry count (fun _ _ => true) KEYRING_SLOT_START
        CURRENCYTOKEN_SLOT_END s >>= fun s =>
      destroyInBags env itemEntry count inventoryBags s >>= fun s =>
        destroyInSlots env itemEntry count
            (fun inv p => !unequip_check || inv.canUnequipItem env fight p false = .OK)
            EQUIPMENT_SLOT_START INVENTORY_SLOT_BAG_END s >>= fun s =>
          destroyInSlots env itemEntry count (fun _ _ => true) BANK_SLOT_ITEM_START
              BANK_SLOT_ITEM_END s >>= fun s =>
            destroyInBags env itemEntry count bankBags s

def destroyItemCount (fight : Fight) (itemEntry count : ℕ) (unequip_check : Bool) : Inventory :=
  match destroyScans env fight itemEntry count unequip_check (inv, 0) with
  | .error inv => inv
  | .ok s => s.1

end Code

/-! ## 2. One item destroyed -/

section Destroyed

variable {env : Env} {inv : Inventory} {p q : Pos}

/-- What there is at the positions once some are cleared: what was in a bag that is gone is gone
too. -/
def cleared (at_ : Pos → Option Item) (ps : List Pos) (q : Pos) : Option Item :=
  if q ∈ ps ∨ ⟨INVENTORY_SLOT_BAG_0, q.bag⟩ ∈ ps then none else at_ q

theorem cleared_nil (at_ : Pos → Option Item) : cleared at_ [] = at_ := by
  funext q
  simp [cleared]

theorem cleared_cleared (at_ : Pos → Option Item) (ps qs : List Pos) :
    cleared (cleared at_ ps) qs = cleared at_ (ps ++ qs) := by
  funext q
  simp only [cleared, List.mem_append]
  split_ifs <;> first | rfl | tauto

theorem at_removeItem_inner (h : p.bag ≠ INVENTORY_SLOT_BAG_0) :
    (inv.removeItem env p).at_ env = Function.update (inv.at_ env) p none := by
  cases hp : inv.at_ env p with
  | none =>
    rw [removeItem, at_eq_none.mp hp]
    dsimp only
    rw [← hp, Function.update_eq_self]
  | some item => exact at_removeItem ⟨place_of_at hp, fun hbag => h (isBagPos_iff.mp hbag).1⟩

theorem at_foldl_removeItem {slot : ℕ} (h : slot ≠ INVENTORY_SLOT_BAG_0) (is : List ℕ) :
    (is.foldl (fun inv i => inv.removeItem env ⟨slot, i⟩) inv).at_ env = fun q =>
      if q.bag = slot ∧ q.slot ∈ is then none else inv.at_ env q := by
  induction is generalizing inv with
  | nil => simp
  | cons i is ih =>
    rw [List.foldl_cons, ih, at_removeItem_inner h]
    funext q
    obtain ⟨bag, s⟩ := q
    simp only [Function.update_apply, List.mem_cons, Pos.mk.injEq]
    by_cases hbag : bag = slot <;> by_cases hs : s = i <;> simp [hbag, hs]

theorem at_setSlot_own {slot : ℕ} (hown : Own slot) (x : Option ItemOrBag) (q : Pos) :
    (inv.setSlot env ⟨INVENTORY_SLOT_BAG_0, slot⟩ x).at_ env q =
      if q = ⟨INVENTORY_SLOT_BAG_0, slot⟩ then x.map (·.toItem)
      else if q.bag = slot ∧ BagSlot slot then
        ((x.filter (·.isBag env)).bind fun pBag => pBag.getItemByPos env q.slot)
      else inv.at_ env q := by
  have hset : inv.setSlot env ⟨INVENTORY_SLOT_BAG_0, slot⟩ x =
      { inv with m_items := Function.update inv.m_items slot x } := if_pos rfl
  obtain ⟨bag, s⟩ := q
  rw [hset]
  by_cases hbag : bag = INVENTORY_SLOT_BAG_0
  · subst hbag
    have hno : ¬ (INVENTORY_SLOT_BAG_0 = slot ∧ BagSlot slot) := fun h => h.2.ne_bag0 h.1.symm
    by_cases hs : Own s
    · rw [at_, at_, getItemByPos_own hs, getItemByPos_own hs, if_neg hno]
      by_cases heq : s = slot
      · subst heq
        simp
      · simp [heq]
    · have hne : s ≠ slot := fun heq => hs (heq ▸ hown)
      rw [at_of_not_own hs, at_of_not_own hs, if_neg (by simp [hne]), if_neg hno]
  · rw [if_neg (by simp [hbag]), at_, at_, getItemByPos_bag hbag, getItemByPos_bag hbag]
    by_cases hin : bag = slot ∧ BagSlot slot
    · obtain ⟨rfl, hslot⟩ := hin
      rw [if_pos ⟨rfl, hslot⟩, getBagByPos_slot hslot]
      simp only [Function.update_self]
      cases x.filter (·.isBag env) with
      | none => rfl
      | some pBag =>
        simp only [Option.bind_some, Option.map_map]
        cases pBag.getItemByPos env s <;> rfl
    · rw [if_neg hin]
      have hsame : Inventory.getBagByPos env
          { inv with m_items := Function.update inv.m_items slot x } bag =
            inv.getBagByPos env bag := by
        unfold getBagByPos
        split
        · next hslot =>
          have hne : bag ≠ slot := fun heq => hin ⟨heq, heq ▸ hslot⟩
          simp [Function.update_of_ne hne]
        · rfl
      rw [hsame]

theorem at_eq_none_of_not_bagSlot (h : q.bag ≠ INVENTORY_SLOT_BAG_0) (hslot : ¬ BagSlot q.bag) :
    inv.at_ env q = none := by
  obtain ⟨bag, s⟩ := q
  have hnone : inv.getBagByPos env bag = none := if_neg hslot
  rw [at_, getItemByPos_bag h, hnone]
  rfl

theorem isNotEmptyBag_alone (item : Item) : item.alone.isNotEmptyBag env = false := by
  simp [ItemOrBag.isNotEmptyBag, ItemOrBag.isEmpty]

theorem isNotEmptyBag_inner {pItem : ItemOrBag} (h : p.bag ≠ INVENTORY_SLOT_BAG_0)
    (hit : inv.getItemByPos env p = some pItem) : pItem.isNotEmptyBag env = false := by
  rw [getItemByPos_bag h] at hit
  obtain ⟨pBag, -, hinner⟩ := Option.bind_eq_some_iff.mp hit
  obtain ⟨inner, -, rfl⟩ := Option.map_eq_some_iff.mp hinner
  exact isNotEmptyBag_alone inner

theorem at_destroyItem {item : Item} (h : inv.at_ env p = some item) :
    (inv.destroyItem env p).at_ env = cleared (inv.at_ env) [p] := by
  obtain ⟨pItem, hit, -⟩ := Option.map_eq_some_iff.mp h
  obtain ⟨bag, slot⟩ := p
  rw [destroyItem, hit]
  dsimp only
  funext q
  by_cases hbag : bag = INVENTORY_SLOT_BAG_0
  · subst hbag
    have hown : Own slot := by
      by_contra hno
      rw [at_of_not_own hno] at h
      cases h
    have hne : slot ≠ INVENTORY_SLOT_BAG_0 := by
      rintro rfl
      exact absurd hown (by decide)
    -- taking out what is in it changes nothing anywhere else
    generalize hout : (if pItem.isNotEmptyBag env = true then
      (List.range MAX_BAG_SIZE).foldl (fun inv i => inv.removeItem env ⟨slot, i⟩) inv
      else inv) = out
    have hrest : q.bag ≠ slot → out.at_ env q = inv.at_ env q := by
      intro hq
      rw [← hout]
      split
      · rw [at_foldl_removeItem hne]
        exact if_neg fun h => hq h.1
      · rfl
    rw [at_setSlot_own hown, cleared]
    simp only [List.mem_singleton, Pos.mk.injEq, true_and, Option.map_none, Option.filter_none,
      Option.bind_none]
    by_cases hin : q.bag = slot
    · rw [if_pos (Or.inr hin)]
      by_cases hslot : BagSlot slot
      · rw [if_pos (show q.bag = slot ∧ BagSlot slot from ⟨hin, hslot⟩), ite_self]
      · have hnone : out.at_ env q = none :=
          at_eq_none_of_not_bagSlot (hin ▸ hne) (hin ▸ hslot)
        rw [hnone, ite_self, ite_self]
    · rw [if_neg (fun h : q.bag = slot ∧ _ => hin h.1), hrest hin]
      simp only [hin, or_false]
  · have hstorable : inv.Storable env ⟨bag, slot⟩ :=
      ⟨place_of_at h, fun hpos => hbag (isBagPos_iff.mp hpos).1⟩
    rw [isNotEmptyBag_inner hbag hit, if_neg Bool.false_ne_true, at_setSlot hstorable,
      Function.update_apply, cleared]
    have hno : (⟨INVENTORY_SLOT_BAG_0, q.bag⟩ : Pos) ≠ ⟨bag, slot⟩ :=
      fun heq => hbag (Pos.mk.inj heq).1.symm
    simp only [List.mem_singleton, hno, or_false, Option.map_none]

theorem m_items_setSlot_inner {b : ℕ} (h : p.bag ≠ INVENTORY_SLOT_BAG_0)
    (hat : inv.at_ env p ≠ none) (hb : ¬ BagSlot b) (x : Option ItemOrBag) :
    (inv.setSlot env p x).m_items b = inv.m_items b := by
  obtain ⟨bag, slot⟩ := p
  rw [setSlot, if_neg h]
  split
  · next hbag =>
    refine absurd ?_ hat
    rw [at_, getItemByPos_bag h, hbag]
    rfl
  · next pBag hbag =>
    have hne : b ≠ bag := fun heq => hb (heq ▸ (getBagByPos_eq_some.mp hbag).1)
    exact Function.update_of_ne hne _ _

theorem m_items_destroyItem {item : Item} {b : ℕ} (h : inv.at_ env p = some item)
    (hb : ¬ BagSlot b) :
    (inv.destroyItem env p).m_items b = inv.m_items b ∨
      (inv.destroyItem env p).m_items b = none := by
  have hout : ∀ (slot : ℕ) (hslot : slot ≠ INVENTORY_SLOT_BAG_0) (is : List ℕ) (inv : Inventory),
      (is.foldl (fun inv i => inv.removeItem env ⟨slot, i⟩) inv).m_items b = inv.m_items b := by
    intro slot hslot is
    induction is with
    | nil => exact fun _ => rfl
    | cons i is ih =>
      intro inv
      rw [List.foldl_cons, ih]
      unfold removeItem
      split
      · rfl
      · next hit =>
        have hat : inv.at_ env ⟨slot, i⟩ ≠ none := by
          rw [Ne, at_eq_none, hit]
          simp
        exact m_items_setSlot_inner hslot hat hb none
  obtain ⟨pItem, hit, -⟩ := Option.map_eq_some_iff.mp h
  obtain ⟨bag, slot⟩ := p
  rw [destroyItem, hit]
  dsimp only
  by_cases hbag : bag = INVENTORY_SLOT_BAG_0
  · subst hbag
    rw [setSlot, if_pos rfl]
    dsimp only
    rw [Function.update_apply]
    split
    · exact Or.inr rfl
    · left
      split
      · refine hout slot ?_ _ _
        rintro rfl
        rw [at_of_not_own (by decide)] at h
        cases h
      · rfl
  · left
    rw [isNotEmptyBag_inner hbag hit, if_neg Bool.false_ne_true]
    exact m_items_setSlot_inner hbag (by rw [h]; simp) hb none

theorem at_modifyItem_entry {item : Item} (h : inv.at_ env p = some item) {f : Item → Item}
    (hf : ∀ item, (f item).entry = item.entry) :
    (inv.modifyItem env p f).at_ env = Function.update (inv.at_ env) p (some (f item)) := by
  by_cases hpos : p.isBagPos = true
  · obtain ⟨pItem, hit, rfl⟩ := Option.map_eq_some_iff.mp h
    obtain ⟨bag, slot⟩ := p
    obtain ⟨hbag, hslot⟩ := isBagPos_iff.mp hpos
    obtain rfl : bag = INVENTORY_SLOT_BAG_0 := hbag
    rw [modifyItem, hit]
    dsimp only
    rw [getItemByPos_own hslot.own] at hit
    funext q
    rw [at_setSlot_own hslot.own, Function.update_apply]
    split
    · rfl
    split
    · next hin =>
      -- it is the same bag with the same in it
      obtain ⟨b, s⟩ := q
      obtain ⟨hb, -⟩ := hin
      obtain rfl : b = slot := hb
      have htemplate : (f pItem.toItem).getTemplate env = pItem.getTemplate env := by
        rw [Item.getTemplate, Item.getTemplate, hf]
      have hisbag : (f pItem.toItem).isBag env = pItem.isBag env := by
        rw [Item.isBag, Item.isBag, htemplate]
      have hsize : (f pItem.toItem).getBagSize env = pItem.getBagSize env := by
        rw [Item.getBagSize, Item.getBagSize, htemplate]
      rw [at_, getItemByPos_bag hslot.ne_bag0, getBagByPos_slot hslot, hit, Option.filter_some,
        Option.filter_some, hisbag]
      split
      · simp only [Option.bind_some, ItemOrBag.getItemByPos, hsize, Option.map_map]
        split_ifs
        · cases pItem.m_bagslot s <;> rfl
        · rfl
      · rfl
    · rfl
  · exact at_modifyItem ⟨place_of_at h, hpos⟩ h f

end Destroyed

/-! ## 3. What is counted -/

def sought (itemEntry : ℕ) (item : Item) : Bool := item.entry = itemEntry ∧ ¬ item.inTrade

section Counted

variable (env : Env) (inv : Inventory) (fight : Fight) (itemEntry count : ℕ) (unequip_check : Bool)

/-- What is worn may be taken off, a bag if nothing would be left in it. -/
def mayUnequip (p : Pos) : Bool :=
  (inv.getItemByPos env p).all fun pItem =>
    !pItem.lootGenerated &&
      ((pItem.getTemplate env).any fun pProto =>
        pProto.canChangeEquipStateInCombat || !(fight.isInCombat || fight.inArenaInProgress)) &&
      (!pItem.isBag env || (List.range (pItem.getBagSize env)).all fun j =>
        (pItem.m_bagslot j).isNone || (inv.at_ env ⟨p.slot, j⟩).any (sought itemEntry))

/-- Nothing is in the way of destroying what is there. -/
def mayGo (p : Pos) : Bool :=
  !(unequip_check && p.isEquipmentPos) || inv.mayUnequip env fight itemEntry p

def counted (p : Pos) : Bool :=
  (inv.at_ env p).any (sought itemEntry) && inv.mayGo env fight itemEntry unequip_check p

/-- The positions in the order in which the scans come to them. -/
def row : List Pos :=
  slotsOf INVENTORY_SLOT_BAG_0 INVENTORY_SLOT_ITEM_START INVENTORY_SLOT_ITEM_END ++
    (slotsOf INVENTORY_SLOT_BAG_0 KEYRING_SLOT_START CURRENCYTOKEN_SLOT_END ++
      (inventoryBags.flatMap (inv.bagSlots env) ++
        (slotsOf INVENTORY_SLOT_BAG_0 EQUIPMENT_SLOT_START INVENTORY_SLOT_BAG_END ++
          (slotsOf INVENTORY_SLOT_BAG_0 BANK_SLOT_ITEM_START BANK_SLOT_ITEM_END ++
            bankBags.flatMap (inv.bagSlots env)))))

def unitsAt (p : Pos) : ℕ := ((inv.at_ env p).map (·.count)).getD 0

/-- How many of what counted there are at some positions, now that the inventory is `inv'`. -/
def units (inv' : Inventory) (ps : List Pos) : ℕ :=
  ((ps.filter (inv.counted env fight itemEntry unequip_check)).map (inv'.unitsAt env)).sum

/-- **What `DestroyItemCount` has done.** -/
structure Destroyed (inv' : Inventory) : Prop where
  /-- The count is gone, or all there were. -/
  units_add : inv.units env fight itemEntry unequip_check inv' (inv.row env) +
      min count (inv.units env fight itemEntry unequip_check inv (inv.row env)) =
    inv.units env fight itemEntry unequip_check inv (inv.row env)
  /-- What counted is gone or is less. -/
  counted_at : ∀ p item, inv.at_ env p = some item → p ∈ inv.row env →
    inv.counted env fight itemEntry unequip_check p = true →
      inv'.at_ env p = none ∨
        ∃ n ≤ item.count, inv'.at_ env p = some { item with count := n }
  /-- All else is as before, but for what was in a bag that counted and is gone. -/
  frame : ∀ p, ¬ (p ∈ inv.row env ∧ inv.counted env fight itemEntry unequip_check p = true) →
    inv'.at_ env p = inv.at_ env p ∨
      inv'.at_ env p = none ∧ p.bag ∈ inventoryBags ∧
        inv.counted env fight itemEntry unequip_check ⟨INVENTORY_SLOT_BAG_0, p.bag⟩ = true ∧
        inv'.at_ env ⟨INVENTORY_SLOT_BAG_0, p.bag⟩ = none

end Counted

/-! ## 4. The row -/

section Row

variable {env : Env} {inv inv' : Inventory} {fight : Fight} {itemEntry count : ℕ}
  {unequip_check : Bool} {p q : Pos} {pre post : List Pos}

/-- The first may come before the second: it is another position, and not that of the bag. -/
def Before (p q : Pos) : Prop := p ≠ q ∧ ¬ (p.bag = INVENTORY_SLOT_BAG_0 ∧ q.bag = p.slot)

theorem slotsOf_pairwise (bag a b : ℕ) (h : bag = INVENTORY_SLOT_BAG_0 → b ≤ PLAYER_SLOT_END) :
    (slotsOf bag a b).Pairwise Before := by
  rw [slotsOf, List.pairwise_map]
  refine List.Pairwise.imp_of_mem ?_ List.pairwise_lt_range'
  intro i j hi hj hlt
  simp only [List.mem_range'_1] at hi hj
  refine ⟨?_, ?_⟩
  · intro heq
    have hslots : i = j := (Pos.mk.inj heq).2
    omega
  · rintro ⟨hbag, hslots⟩
    have hb := h hbag
    simp only [INVENTORY_SLOT_BAG_0, PLAYER_SLOT_END] at hbag hb hslots
    omega

theorem bagSlots_pairwise {bag : ℕ} : (inv.bagSlots env bag).Pairwise Before := by
  unfold bagSlots
  split
  · exact List.Pairwise.nil
  · next hbag =>
    refine slotsOf_pairwise bag _ _ fun h => ?_
    rw [h, getBagByPos_bag0] at hbag
    cases hbag

theorem bags_pairwise {bags : List ℕ} (hbags : bags.Nodup)
    (hnot : ∀ bag ∈ bags, bag ≠ INVENTORY_SLOT_BAG_0) :
    (bags.flatMap (inv.bagSlots env)).Pairwise Before := by
  rw [List.pairwise_flatMap]
  refine ⟨fun _ _ => bagSlots_pairwise, ?_⟩
  refine List.Pairwise.imp_of_mem ?_ hbags
  intro a b ha _ hne p hp q hq
  have hpa := (mem_bagSlots.mp hp).1
  have hqb := (mem_bagSlots.mp hq).1
  refine ⟨?_, ?_⟩
  · rintro rfl
    exact hne (hpa.symm.trans hqb)
  · rintro ⟨hown, -⟩
    exact hnot a ha (hpa.symm.trans hown)

theorem mem_inBags {bags : List ℕ} (h : p ∈ bags.flatMap (inv.bagSlots env)) : p.bag ∈ bags := by
  obtain ⟨bag, hbag, hp⟩ := List.mem_flatMap.mp h
  rw [(mem_bagSlots.mp hp).1]
  exact hbag

/-- **The row**: no position comes twice, and what is in a bag comes before the bag. -/
theorem row_pairwise : (inv.row env).Pairwise Before := by
  have worn : ∀ p : Pos, p ∈ inventoryBags.flatMap (inv.bagSlots env) →
      19 ≤ p.bag ∧ p.bag ≤ 22 := by
    intro p hp
    have hbag := mem_inBags hp
    simp only [inventoryBags, List.mem_cons, List.not_mem_nil, or_false] at hbag
    omega
  have bank : ∀ p : Pos, p ∈ bankBags.flatMap (inv.bagSlots env) → 67 ≤ p.bag ∧ p.bag ≤ 73 := by
    intro p hp
    have hbag := mem_inBags hp
    simp only [bankBags, List.mem_cons, List.not_mem_nil, or_false] at hbag
    omega
  have hworn : (inventoryBags.flatMap (inv.bagSlots env)).Pairwise Before :=
    bags_pairwise (by decide) (by decide)
  have hbank : (bankBags.flatMap (inv.bagSlots env)).Pairwise Before :=
    bags_pairwise (by decide) (by decide)
  have own := slotsOf_pairwise INVENTORY_SLOT_BAG_0
  have far : ∀ p q : Pos, (p.bag = q.bag → p.slot ≠ q.slot) →
      (p.bag = 255 → q.bag ≠ p.slot) → Before p q := by
    intro p q hne hin
    refine ⟨?_, fun h => hin h.1 h.2⟩
    rintro rfl
    exact hne rfl rfl
  unfold row
  refine List.pairwise_append.mpr ⟨own _ _ (by decide), List.pairwise_append.mpr
    ⟨own _ _ (by decide), List.pairwise_append.mpr ⟨hworn, List.pairwise_append.mpr
      ⟨own _ _ (by decide), List.pairwise_append.mpr ⟨own _ _ (by decide), hbank, ?_⟩, ?_⟩, ?_⟩,
        ?_⟩, ?_⟩ <;>
    intro p hp q hq <;>
    simp only [List.mem_append, mem_slotsOf] at hp hq <;>
    have hpw := worn p <;> have hpb := bank p <;> have hqw := worn q <;> have hqb := bank q <;>
    simp only [INVENTORY_SLOT_BAG_0, INVENTORY_SLOT_ITEM_START, INVENTORY_SLOT_ITEM_END,
      KEYRING_SLOT_START, CURRENCYTOKEN_SLOT_END, EQUIPMENT_SLOT_START, INVENTORY_SLOT_BAG_END,
      BANK_SLOT_ITEM_START, BANK_SLOT_ITEM_END] at hp hq <;>
    exact far p q (by grind) (by grind)

theorem row_split (h : inv.row env = pre ++ post) (hp : p ∈ pre) (hq : q ∈ post) : Before p q := by
  have hrow : (inv.row env).Pairwise Before := row_pairwise
  rw [h] at hrow
  exact (List.pairwise_append.mp hrow).2.2 p hp q hq

theorem row_split_cons (h : inv.row env = pre ++ (p :: post)) (hq : q ∈ post) : Before p q := by
  have hrow : (inv.row env).Pairwise Before := row_pairwise
  rw [h] at hrow
  exact List.rel_of_pairwise_cons (List.pairwise_append.mp hrow).2.1 hq

theorem mem_row_of_filter {f : Pos → Bool} (h : inv.row env = pre ++ post)
    (hq : q ∈ pre.filter f) : q ∈ inv.row env := by
  rw [h]
  exact List.mem_append_left _ (List.mem_of_mem_filter hq)

theorem slot_of_mem_row (h : p ∈ inv.row env) (hown : p.bag = INVENTORY_SLOT_BAG_0) :
    p.slot < BANK_SLOT_ITEM_END ∨
      (KEYRING_SLOT_START ≤ p.slot ∧ p.slot < CURRENCYTOKEN_SLOT_END) := by
  have hbags : ∀ bags : List ℕ, INVENTORY_SLOT_BAG_0 ∉ bags →
      p ∉ bags.flatMap (inv.bagSlots env) := fun bags hno hp => hno (hown ▸ mem_inBags hp)
  simp only [row, List.mem_append, mem_slotsOf, hbags inventoryBags (by decide),
    hbags bankBags (by decide), false_or, or_false] at h
  simp only [INVENTORY_SLOT_BAG_0, INVENTORY_SLOT_ITEM_START, INVENTORY_SLOT_ITEM_END,
    KEYRING_SLOT_START, CURRENCYTOKEN_SLOT_END, EQUIPMENT_SLOT_START, INVENTORY_SLOT_BAG_END,
    BANK_SLOT_ITEM_START, BANK_SLOT_ITEM_END] at h ⊢
  omega

theorem not_mem_row : ⟨INVENTORY_SLOT_BAG_0, INVENTORY_SLOT_BAG_0⟩ ∉ inv.row env := by
  intro h
  have hlt := slot_of_mem_row h rfl
  simp only [INVENTORY_SLOT_BAG_0, BANK_SLOT_ITEM_END, KEYRING_SLOT_START,
    CURRENCYTOKEN_SLOT_END] at hlt
  omega

theorem mem_inventoryBags {bag : ℕ} (h : ⟨INVENTORY_SLOT_BAG_0, bag⟩ ∈ inv.row env)
    (hslot : BagSlot bag) : bag ∈ inventoryBags := by
  have hrow := slot_of_mem_row h rfl
  simp only [BagSlot, inventoryBags, List.mem_cons, List.not_mem_nil, or_false,
    INVENTORY_SLOT_BAG_START, INVENTORY_SLOT_BAG_END, BANK_SLOT_BAG_START, BANK_SLOT_BAG_END,
    BANK_SLOT_ITEM_END, KEYRING_SLOT_START, CURRENCYTOKEN_SLOT_END] at *
  omega

end Row

/-! ## 5. Units -/

section Units

variable (env : Env) (inv : Inventory) (fight : Fight) (itemEntry count : ℕ) (unequip_check : Bool)
variable {inv' : Inventory} {p q : Pos} {pre post ps : List Pos}

theorem units_append : inv.units env fight itemEntry unequip_check inv' (pre ++ post) =
    inv.units env fight itemEntry unequip_check inv' pre +
      inv.units env fight itemEntry unequip_check inv' post := by
  simp [units]

theorem units_cons : inv.units env fight itemEntry unequip_check inv' (p :: post) =
    (if inv.counted env fight itemEntry unequip_check p = true then inv'.unitsAt env p else 0) +
      inv.units env fight itemEntry unequip_check inv' post := by
  unfold units
  rw [List.filter_cons]
  split <;> simp

theorem units_eq_zero (h : ∀ p ∈ ps, inv.counted env fight itemEntry unequip_check p = true →
    inv'.at_ env p = none) : inv.units env fight itemEntry unequip_check inv' ps = 0 := by
  unfold units
  refine List.sum_eq_zero fun n hn => ?_
  obtain ⟨p, hp, rfl⟩ := List.mem_map.mp hn
  obtain ⟨hmem, hcounted⟩ := List.mem_filter.mp hp
  rw [unitsAt, h p hmem hcounted]
  rfl

theorem units_congr (h : ∀ p ∈ ps, inv'.at_ env p = inv.at_ env p) :
    inv.units env fight itemEntry unequip_check inv' ps =
      inv.units env fight itemEntry unequip_check inv ps := by
  unfold units
  refine congrArg List.sum (List.map_congr_left fun p hp => ?_)
  rw [unitsAt, unitsAt, h p (List.mem_of_mem_filter hp)]

/-! ## 6. How a scan goes on and how it ends -/

/-- The scans have gone along `pre`: what counted there is gone, and it was not enough. -/
structure Scanned (pre : List Pos) (s : Inventory × ℕ) : Prop where
  at_eq : s.1.at_ env =
    cleared (inv.at_ env) (pre.filter (inv.counted env fight itemEntry unequip_check))
  own_eq : ∀ slot, ¬ BagSlot slot → s.1.m_items slot = inv.m_items slot ∨ s.1.m_items slot = none
  rem_eq : s.2 = inv.units env fight itemEntry unequip_check inv pre
  rem_lt : s.2 < count ∨ s.2 = 0

variable {env inv fight itemEntry count unequip_check}

theorem cleared_of_before (h : ∀ r ∈ ps, Before r q) :
    cleared (inv.at_ env) ps q = inv.at_ env q := by
  refine if_neg ?_
  rintro (hmem | hmem)
  · exact (h q hmem).1 rfl
  · exact (h _ hmem).2 ⟨rfl, rfl⟩

theorem Scanned.at_of_before {s : Inventory × ℕ}
    (h : Scanned env inv fight itemEntry count unequip_check pre s) (hq : ∀ r ∈ pre, Before r q) :
    s.1.at_ env q = inv.at_ env q := by
  rw [h.at_eq]
  exact cleared_of_before fun r hr => hq r (List.mem_of_mem_filter hr)

theorem cleared_frame (hps : ∀ r ∈ ps, r ∈ inv.row env) (hq : q ∉ ps) :
    cleared (inv.at_ env) ps q = inv.at_ env q ∨
      cleared (inv.at_ env) ps q = none ∧ q.bag ∈ inventoryBags ∧
        ⟨INVENTORY_SLOT_BAG_0, q.bag⟩ ∈ ps := by
  by_cases hin : ⟨INVENTORY_SLOT_BAG_0, q.bag⟩ ∈ ps
  · have hnone : cleared (inv.at_ env) ps q = none := if_pos (Or.inr hin)
    have hrow := hps _ hin
    by_cases hslot : BagSlot q.bag
    · exact Or.inr ⟨hnone, mem_inventoryBags hrow hslot, hin⟩
    · have hbag : q.bag ≠ INVENTORY_SLOT_BAG_0 := by
        intro heq
        rw [heq] at hrow
        exact not_mem_row hrow
      exact Or.inl (hnone.trans (at_eq_none_of_not_bagSlot hbag hslot).symm)
  · exact Or.inl (if_neg (not_or.mpr ⟨hq, hin⟩))

/-- How `DestroyItemCount` ends: what counted in a first part of the row is gone, which was the
count or all there is, or what counts next has been made smaller. -/
inductive Spent (env : Env) (inv : Inventory) (fight : Fight) (itemEntry count : ℕ)
    (unequip_check : Bool) (inv' : Inventory) : Prop
  | whole {pre post : List Pos} (hrow : inv.row env = pre ++ post)
      (hat : inv'.at_ env =
        cleared (inv.at_ env) (pre.filter (inv.counted env fight itemEntry unequip_check)))
      (hunits : inv.units env fight itemEntry unequip_check inv pre =
        min count (inv.units env fight itemEntry unequip_check inv (inv.row env)))
  | last {pre post : List Pos} {p : Pos} {item : Item} {n : ℕ}
      (hrow : inv.row env = pre ++ (p :: post)) (hitem : inv.at_ env p = some item)
      (hcounted : inv.counted env fight itemEntry unequip_check p = true)
      (hat : inv'.at_ env = Function.update
        (cleared (inv.at_ env) (pre.filter (inv.counted env fight itemEntry unequip_check))) p
        (some { item with count := n }))
      (hpos : 0 < n) (hn : n ≤ item.count)
      (hunits : inv.units env fight itemEntry unequip_check inv pre + item.count = count + n)

/-- **What that comes to**: what is cleared or made smaller is what counted, and it was as much as
the count, or all there was. -/
theorem Spent.destroyed (h : Spent env inv fight itemEntry count unequip_check inv') :
    Destroyed env inv fight itemEntry count unequip_check inv' := by
  cases h with
  | @whole pre post hrow hat hunits =>
    have hgone : ∀ p ∈ pre, inv.counted env fight itemEntry unequip_check p = true →
        inv'.at_ env p = none := by
      intro p hp hcounted
      rw [hat]
      exact if_pos (Or.inl (List.mem_filter.mpr ⟨hp, hcounted⟩))
    have hrest : ∀ p ∈ post, inv'.at_ env p = inv.at_ env p := by
      intro p hp
      rw [hat]
      exact cleared_of_before fun r hr => row_split hrow (List.mem_of_mem_filter hr) hp
    refine ⟨?_, ?_, ?_⟩
    · have hpre := units_eq_zero env inv fight itemEntry unequip_check hgone
      have hpost := units_congr env inv fight itemEntry unequip_check hrest
      rw [← hunits, hrow, units_append, units_append, hpre, hpost]
      omega
    · intro p item hitem hp hcounted
      rw [hrow, List.mem_append] at hp
      rcases hp with hp | hp
      · exact Or.inl (hgone p hp hcounted)
      · exact Or.inr ⟨item.count, le_refl _, (hrest p hp).trans hitem⟩
    · intro p hp
      have hno : p ∉ pre.filter (inv.counted env fight itemEntry unequip_check) :=
        fun h => hp ⟨mem_row_of_filter hrow h, List.of_mem_filter h⟩
      rw [hat]
      rcases cleared_frame (fun r => mem_row_of_filter hrow) hno with h | ⟨hnone, hbag, hin⟩
      · exact Or.inl h
      · exact Or.inr ⟨hnone, hbag, List.of_mem_filter hin, if_pos (Or.inl hin)⟩
  | @last pre post p item n hrow hitem hcounted hat _ hn hunits =>
    have hp : p ∈ inv.row env := by
      rw [hrow]
      exact List.mem_append_right _ List.mem_cons_self
    have hbefore : ∀ r ∈ pre, r ≠ p := fun r hr => (row_split hrow hr List.mem_cons_self).1
    have hself : inv'.at_ env p = some { item with count := n } := by
      rw [hat, Function.update_self]
    have hgone : ∀ q ∈ pre, inv.counted env fight itemEntry unequip_check q = true →
        inv'.at_ env q = none := by
      intro q hq hcount
      rw [hat, Function.update_of_ne (hbefore q hq)]
      exact if_pos (Or.inl (List.mem_filter.mpr ⟨hq, hcount⟩))
    have hrest : ∀ q ∈ post, inv'.at_ env q = inv.at_ env q := by
      intro q hq
      have hne : p ≠ q := (row_split_cons hrow hq).1
      rw [hat, Function.update_of_ne hne.symm]
      exact cleared_of_before fun r hr =>
        row_split hrow (List.mem_of_mem_filter hr) (List.mem_cons_of_mem _ hq)
    refine ⟨?_, ?_, ?_⟩
    · have hpre := units_eq_zero env inv fight itemEntry unequip_check hgone
      have hpost := units_congr env inv fight itemEntry unequip_check hrest
      have hnow : inv'.unitsAt env p = n := by rw [unitsAt, hself]; rfl
      have hwas : inv.unitsAt env p = item.count := by rw [unitsAt, hitem]; rfl
      rw [hrow, units_append, units_append, units_cons, units_cons, if_pos hcounted,
        if_pos hcounted, hpre, hpost, hnow, hwas]
      omega
    · intro q a ha hq hcount
      rw [hrow, List.mem_append, List.mem_cons] at hq
      rcases hq with hq | rfl | hq
      · exact Or.inl (hgone q hq hcount)
      · rw [hitem] at ha
        cases ha
        exact Or.inr ⟨n, hn, hself⟩
      · exact Or.inr ⟨a.count, le_refl _, (hrest q hq).trans ha⟩
    · intro q hq
      have hne : q ≠ p := by
        rintro rfl
        exact hq ⟨hp, hcounted⟩
      have hno : q ∉ pre.filter (inv.counted env fight itemEntry unequip_check) :=
        fun h => hq ⟨mem_row_of_filter hrow h, List.of_mem_filter h⟩
      rw [hat, Function.update_of_ne hne]
      rcases cleared_frame (fun r => mem_row_of_filter hrow) hno with h | ⟨hnone, hbag, hin⟩
      · exact Or.inl h
      · rw [Function.update_of_ne (hbefore _ (List.mem_of_mem_filter hin))]
        exact Or.inr ⟨hnone, hbag, List.of_mem_filter hin, if_pos (Or.inl hin)⟩

/-! ## 7. One position -/

/-- What stands in the way is asked for in the inventory as it is when the scan comes there. -/
def Asks (env : Env) (inv : Inventory) (fight : Fight) (itemEntry count : ℕ) (unequip_check : Bool)
    (may : Inventory → Pos → Bool) (p : Pos) : Prop :=
  ∀ pre post s, inv.row env = pre ++ (p :: post) →
    Scanned env inv fight itemEntry count unequip_check pre s → inv.at_ env p ≠ none →
      (may s.1 p = true ↔ inv.mayGo env fight itemEntry unequip_check p = true)

/-- What may not be taken off is small enough not to be reached by what is left to destroy. -/
def HeldSmall (env : Env) (inv : Inventory) (fight : Fight) (itemEntry count : ℕ)
    (unequip_check : Bool) : Prop :=
  ∀ pre p post, inv.row env = pre ++ (p :: post) →
    (inv.at_ env p).any (sought itemEntry) = true →
      inv.mayGo env fight itemEntry unequip_check p = false →
        count ≤ inv.units env fight itemEntry unequip_check inv pre ∨
          inv.units env fight itemEntry unequip_check inv pre + inv.unitsAt env p ≤ count

/-- No sum of counts exceeds what a `uint32` holds. -/
def NoWrap (env : Env) (inv : Inventory) (fight : Fight) (itemEntry count : ℕ)
    (unequip_check : Bool) : Prop :=
  inv.units env fight itemEntry unequip_check inv (inv.row env) < 2 ^ 32 ∨
    ∀ p, inv.counted env fight itemEntry unequip_check p = true →
      inv.unitsAt env p + count < 2 ^ 32

section Scans

variable (hrange : ∀ q item, inv.at_ env q = some item → item.count < 2 ^ 32)
  (hcount : count < 2 ^ 32) (hwrap : NoWrap env inv fight itemEntry count unequip_check)
  (hheld : HeldSmall env inv fight itemEntry count unequip_check)

include hrange hcount hwrap hheld in
theorem along_destroyAt {may : Inventory → Pos → Bool}
    (hmay : Asks env inv fight itemEntry count unequip_check may p) :
    Along (inv.row env) (Scanned env inv fight itemEntry count unequip_check)
      (Spent env inv fight itemEntry count unequip_check) [p]
      (fun s => destroyAt env itemEntry count may s p) := by
  intro pre post s hrow hs
  dsimp only
  have hbefore : ∀ r ∈ pre, Before r p := fun r hr => row_split hrow hr List.mem_cons_self
  have hat : s.1.at_ env p = inv.at_ env p := hs.at_of_before hbefore
  have hunits : inv.units env fight itemEntry unequip_check inv (pre ++ [p]) =
      inv.units env fight itemEntry unequip_check inv pre +
        if inv.counted env fight itemEntry unequip_check p = true then inv.unitsAt env p
        else 0 := by
    rw [units_append, units_cons]
    rfl
  have hfilter : (pre ++ [p]).filter (inv.counted env fight itemEntry unequip_check) =
      pre.filter (inv.counted env fight itemEntry unequip_check) ++
        if inv.counted env fight itemEntry unequip_check p = true then [p] else [] := by
    rw [List.filter_append, List.filter_singleton, Bool.cond_eq_ite]
  -- what does not count is passed over
  have hpass : inv.counted env fight itemEntry unequip_check p = false →
      Scanned env inv fight itemEntry count unequip_check (pre ++ [p]) s := by
    intro hno
    rw [if_neg (by rw [hno]; decide)] at hunits hfilter
    rw [List.append_nil] at hfilter
    exact ⟨by rw [hfilter]; exact hs.at_eq, hs.own_eq, by rw [hunits]; exact hs.rem_eq, hs.rem_lt⟩
  cases hitem : inv.at_ env p with
  | none =>
    unfold destroyAt
    rw [hat, hitem]
    exact hpass (by rw [counted, hitem]; rfl)
  | some item =>
    have hasks := hmay pre post s hrow hs (by rw [hitem]; nofun)
    have hrem := hs.rem_eq
    have hlt := hs.rem_lt
    rw [hitem] at hat
    unfold destroyAt
    rw [hat]
    dsimp only
    by_cases hsought : item.entry = itemEntry ∧ ¬ item.inTrade = true
    · have hany : (inv.at_ env p).any (sought itemEntry) = true := by
        rw [hitem, Option.any_some, sought, decide_eq_true_eq]
        exact hsought
      have hunitsAt : inv.unitsAt env p = item.count := by
        rw [unitsAt, hitem]
        rfl
      have hmodify := at_modifyItem_entry hat (f := fun item =>
        { item with count := (item.count + 2 ^ 32 - count + s.2) % 2 ^ 32 }) fun _ => rfl
      rw [if_pos hsought]
      cases hgo : inv.mayGo env fight itemEntry unequip_check p with
      | false =>
        have hno : inv.counted env fight itemEntry unequip_check p = false := by
          rw [counted, hgo, Bool.and_false]
        have hnot : may s.1 p = false := by
          rw [← Bool.not_eq_true, hasks, hgo]
          decide
        rw [hnot]
        simp only [Bool.false_eq_true, if_false]
        by_cases hle : (item.count + s.2) % 2 ^ 32 ≤ count
        · rw [if_pos hle]
          exact hpass hno
        · -- nothing is left to destroy, and the stack stays as it is
          rw [if_neg hle]
          have hsmall := hheld pre p post hrow hany hgo
          have hlow := hrange p item hitem
          rw [← hrem, hunitsAt] at hsmall
          have hzero : count = 0 ∧ s.2 = 0 := by
            have hmod := Nat.mod_le (item.count + s.2) (2 ^ 32)
            omega
          have hsame : (item.count + 2 ^ 32 - count + s.2) % 2 ^ 32 = item.count := by
            rw [hzero.1, hzero.2]
            omega
          refine Spent.whole hrow ?_ ?_
          · rw [hmodify, ← hs.at_eq, hsame]
            exact Function.update_eq_self_iff.mpr hat.symm
          · rw [← hrem, hzero.1, hzero.2, Nat.zero_min]
      | true =>
        have hyes : inv.counted env fight itemEntry unequip_check p = true := by
          rw [counted, hany, hgo, Bool.and_self]
        rw [if_pos hyes, hunitsAt] at hunits
        rw [if_pos hyes] at hfilter
        have hmayYes : may s.1 p = true := hasks.mpr hgo
        have htotal : inv.units env fight itemEntry unequip_check inv (inv.row env) =
            s.2 + (item.count + inv.units env fight itemEntry unequip_check inv post) := by
          rw [hrow, List.singleton_append, units_append, units_cons, if_pos hyes, hunitsAt, hrem]
        have hfits : item.count + s.2 < 2 ^ 32 := by
          rcases hwrap with hsmall | hsmall
          · omega
          · have hp := hsmall p hyes
            omega
        rw [Nat.mod_eq_of_lt hfits, hmayYes]
        have hmod : (s.2 + item.count) % 2 ^ 32 = s.2 + item.count :=
          Nat.mod_eq_of_lt (by omega)
        simp only [if_true, hmod]
        by_cases hle : item.count + s.2 ≤ count
        · rw [if_pos hle]
          have hcleared : (s.1.destroyItem env p).at_ env = cleared (inv.at_ env)
              ((pre ++ [p]).filter (inv.counted env fight itemEntry unequip_check)) := by
            rw [at_destroyItem hat, hs.at_eq, cleared_cleared, hfilter]
          by_cases hdone : count ≤ s.2 + item.count
          · rw [if_pos hdone]
            have hrow' : inv.row env = (pre ++ [p]) ++ post := by rw [hrow, List.append_assoc]
            refine Spent.whole hrow' hcleared ?_
            omega
          · rw [if_neg hdone]
            refine ⟨hcleared, fun slot hslot => ?_, by omega, Or.inl (by omega)⟩
            rcases m_items_destroyItem hat hslot with h | h
            · rw [h]
              exact hs.own_eq slot hslot
            · exact Or.inr h
        · rw [if_neg hle]
          have hn : (item.count + 2 ^ 32 - count + s.2) % 2 ^ 32 = item.count + s.2 - count := by
            omega
          refine Spent.last (n := item.count + s.2 - count) hrow hitem hyes ?_ ?_ ?_ ?_
          · rw [hmodify, hs.at_eq, hn]
          · omega
          · omega
          · omega
    · rw [if_neg hsought]
      refine hpass ?_
      rw [counted, hitem, Option.any_some, sought, decide_eq_false hsought, Bool.false_and]

/-! ## 8. The scans -/

theorem asks_true (h : p.isEquipmentPos = false) :
    Asks env inv fight itemEntry count unequip_check (fun _ _ => true) p := by
  intro pre post s _ _ _
  simp [mayGo, h]

theorem at_inner {slot j : ℕ} {pItem : ItemOrBag} (hslot : BagSlot slot)
    (hpItem : inv.m_items slot = some pItem) (hbag : pItem.isBag env = true)
    (hj : j < pItem.getBagSize env) : inv.at_ env ⟨slot, j⟩ = pItem.m_bagslot j := by
  rw [at_, getItemByPos_bag hslot.ne_bag0, getBagByPos_slot hslot, hpItem, Option.filter_some,
    if_pos hbag, Option.bind_some, ItemOrBag.getItemByPos, if_pos hj]
  cases pItem.m_bagslot j <;> rfl

theorem mem_of_inner {slot j : ℕ} {item : Item}
    (hrow : inv.row env = pre ++ (⟨INVENTORY_SLOT_BAG_0, slot⟩ :: post)) (hslot : BagSlot slot)
    (hitem : inv.at_ env ⟨slot, j⟩ = some item) : ⟨slot, j⟩ ∈ pre := by
  have hmem : ⟨INVENTORY_SLOT_BAG_0, slot⟩ ∈ inv.row env := by
    rw [hrow]
    exact List.mem_append_right _ List.mem_cons_self
  have hinner : ⟨slot, j⟩ ∈ inv.row env := by
    have hplace := place_of_at hitem
    rcases hplace with ⟨hbag, -⟩ | ⟨pBag, hbag, hj⟩
    · exact absurd hbag hslot.ne_bag0
    · have hworn : ⟨slot, j⟩ ∈ inventoryBags.flatMap (inv.bagSlots env) :=
        List.mem_flatMap.mpr ⟨slot, mem_inventoryBags hmem hslot, mem_bagSlots.mpr
          ⟨rfl, pBag, hbag, hj⟩⟩
      exact List.mem_append_right _ (List.mem_append_right _ (List.mem_append_left _ hworn))
  rw [hrow, List.mem_append, List.mem_cons] at hinner
  rcases hinner with hpre | heq | hpost
  · exact hpre
  · exact absurd (Pos.mk.inj heq).1 hslot.ne_bag0
  · exact absurd ⟨rfl, rfl⟩ (row_split_cons hrow hpost).2

theorem isEmpty_of_scanned {s : Inventory × ℕ} {slot : ℕ} {pItem it : ItemOrBag}
    (hrow : inv.row env = pre ++ (⟨INVENTORY_SLOT_BAG_0, slot⟩ :: post))
    (hs : Scanned env inv fight itemEntry count unequip_check pre s)
    (hpItem : inv.m_items slot = some pItem) (hit : s.1.m_items slot = some it)
    (hbag : pItem.isBag env = true) (hsame : it.toItem = pItem.toItem) :
    it.isEmpty env = (List.range (pItem.getBagSize env)).all fun j =>
      (pItem.m_bagslot j).isNone || (inv.at_ env ⟨slot, j⟩).any (sought itemEntry) := by
  have hsize : it.getBagSize env = pItem.getBagSize env := congrArg (Item.getBagSize env) hsame
  have hisbag : it.isBag env = true := (congrArg (Item.isBag env) hsame).trans hbag
  rw [ItemOrBag.isEmpty, hsize, Bool.eq_iff_iff, List.all_eq_true, List.all_eq_true]
  refine forall₂_congr fun j hj => ?_
  have hj := List.mem_range.mp hj
  by_cases hslot : BagSlot slot
  · have hat := at_inner hslot hpItem hbag hj
    have hnow : cleared (inv.at_ env)
        (pre.filter (inv.counted env fight itemEntry unequip_check)) ⟨slot, j⟩ =
          it.m_bagslot j := by
      rw [← hs.at_eq]
      exact at_inner hslot hit hisbag (hsize.symm ▸ hj)
    have hout : ⟨INVENTORY_SLOT_BAG_0, slot⟩ ∉
        pre.filter (inv.counted env fight itemEntry unequip_check) := fun h =>
      (row_split hrow (List.mem_of_mem_filter h) List.mem_cons_self).1 rfl
    have hgo : inv.mayGo env fight itemEntry unequip_check ⟨slot, j⟩ = true := by
      simp [mayGo, Pos.isEquipmentPos, hslot.ne_bag0]
    rw [← hnow]
    cases hinner : inv.at_ env ⟨slot, j⟩ with
    | none =>
      rw [← hat, hinner]
      simp [cleared, hinner]
    | some item =>
      have hmem : ⟨slot, j⟩ ∈ pre.filter (inv.counted env fight itemEntry unequip_check) ↔
          sought itemEntry item = true := by
        rw [List.mem_filter, counted, hgo, hinner, Bool.and_true, Option.any_some]
        exact and_iff_right (mem_of_inner hrow hslot hinner)
      rw [← hat, hinner, cleared]
      simp only [hmem, hout, or_false, hinner, Option.isNone_some, Bool.false_or, Option.any_some]
      cases sought itemEntry item <;> simp
  · -- a slot that is no bag's: nothing in it is looked at
    have heq : it = pItem := by
      rcases hs.own_eq slot hslot with h | h
      · rw [hit, hpItem] at h
        exact Option.some.inj h
      · rw [hit] at h
        cases h
    have hne : slot ≠ INVENTORY_SLOT_BAG_0 := by
      rintro rfl
      have hmem : ⟨INVENTORY_SLOT_BAG_0, INVENTORY_SLOT_BAG_0⟩ ∈ inv.row env := by
        rw [hrow]
        exact List.mem_append_right _ List.mem_cons_self
      exact not_mem_row hmem
    have hnone : inv.at_ env ⟨slot, j⟩ = none := at_eq_none_of_not_bagSlot hne hslot
    rw [heq, hnone]
    simp

theorem asks_canUnequipItem {slot : ℕ} (hslot : slot < INVENTORY_SLOT_BAG_END) :
    Asks env inv fight itemEntry count unequip_check
      (fun inv p => !unequip_check || inv.canUnequipItem env fight p false = .OK)
      ⟨INVENTORY_SLOT_BAG_0, slot⟩ := by
  intro pre post s hrow hs hne
  have hown : Own slot := by
    simp only [Own, INVENTORY_SLOT_BAG_END, BANK_SLOT_BAG_END] at hslot ⊢
    omega
  have hequip : Pos.isEquipmentPos ⟨INVENTORY_SLOT_BAG_0, slot⟩ = true := by
    simp only [Pos.isEquipmentPos, EQUIPMENT_SLOT_END, INVENTORY_SLOT_BAG_START,
      INVENTORY_SLOT_BAG_END, true_and, decide_eq_true_eq] at hslot ⊢
    omega
  have hat := hs.at_of_before (q := ⟨INVENTORY_SLOT_BAG_0, slot⟩) fun r hr =>
    row_split hrow hr List.mem_cons_self
  obtain ⟨pItem, hpItem⟩ := Option.ne_none_iff_exists'.mp (mt at_eq_none.mpr hne)
  have hit := hat
  rw [at_, at_, hpItem, getItemByPos_own hown] at hit
  obtain ⟨it, hit, hsame⟩ := Option.map_eq_some_iff.mp hit
  have htemplate : it.getTemplate env = pItem.getTemplate env :=
    congrArg (Item.getTemplate env) hsame
  have hloot : it.lootGenerated = pItem.lootGenerated := congrArg Item.lootGenerated hsame
  have hisbag : it.isBag env = pItem.isBag env := congrArg (Item.isBag env) hsame
  have hcan : s.1.canUnequipItem env fight ⟨INVENTORY_SLOT_BAG_0, slot⟩ false = .OK ↔
      inv.mayUnequip env fight itemEntry ⟨INVENTORY_SLOT_BAG_0, slot⟩ = true := by
    rw [canUnequipItem, if_neg (by rw [hequip]; simp), getItemByPos_own hown, hit, mayUnequip,
      hpItem]
    dsimp only
    have hleft : it.isNotEmptyBag env = !(!pItem.isBag env ||
        (List.range (pItem.getBagSize env)).all fun j =>
          (pItem.m_bagslot j).isNone || (inv.at_ env ⟨slot, j⟩).any (sought itemEntry)) := by
      rw [ItemOrBag.isNotEmptyBag, hisbag]
      cases hbag : pItem.isBag env with
      | false => rfl
      | true =>
        rw [getItemByPos_own hown] at hpItem
        rw [isEmpty_of_scanned hrow hs hpItem hit hbag hsame]
        rfl
    rw [htemplate, hloot, hleft, Option.all_some]
    generalize (!pItem.isBag env || _) = emptied
    cases pItem.getTemplate env with
    | none => simp
    | some pProto =>
      dsimp only
      rw [Option.any_some]
      generalize pProto.canChangeEquipStateInCombat = change
      cases pItem.lootGenerated <;> cases change <;> cases fight.isInCombat <;>
        cases fight.inArenaInProgress <;> cases emptied <;> simp
  cases unequip_check with
  | false => simp [mayGo]
  | true =>
    simp only [mayGo, hequip, Bool.not_true, Bool.false_or, Bool.and_self, decide_eq_true_eq]
    exact hcan

include hrange hcount hwrap hheld in
theorem along_destroyInSlots {may : Inventory → Pos → Bool} {a b : ℕ}
    (hmay : ∀ p ∈ slotsOf INVENTORY_SLOT_BAG_0 a b,
      Asks env inv fight itemEntry count unequip_check may p) :
    Along (inv.row env) (Scanned env inv fight itemEntry count unequip_check)
      (Spent env inv fight itemEntry count unequip_check) (slotsOf INVENTORY_SLOT_BAG_0 a b)
      (destroyInSlots env itemEntry count may a b) := by
  have hall := Along.foldlM (slotsOf INVENTORY_SLOT_BAG_0 a b) fun p hp =>
    along_destroyAt hrange hcount hwrap hheld (hmay p hp)
  rw [List.flatMap_singleton'] at hall
  exact hall

theorem bagSlots_of_scanned {s : Inventory × ℕ} {bag : ℕ}
    (hrow : inv.row env = pre ++ (inv.bagSlots env bag ++ post))
    (hs : Scanned env inv fight itemEntry count unequip_check pre s) :
    s.1.bagSlots env bag = inv.bagSlots env bag := by
  by_cases hslot : BagSlot bag
  · have hslots : ∀ i : Inventory, i.bagSlots env bag =
        (((i.at_ env ⟨INVENTORY_SLOT_BAG_0, bag⟩).filter (·.isBag env)).map fun item =>
          slotsOf bag 0 (item.getBagSize env)).getD [] := by
      intro i
      rw [bagSlots, getBagByPos_slot hslot, at_, getItemByPos_own hslot.own]
      cases i.m_items bag with
      | none => rfl
      | some it => by_cases hit : it.isBag env <;> simp [Option.filter_some, hit]
    rw [hslots, hslots, hs.at_eq, cleared]
    split
    · next hgone =>
      have hnil : inv.bagSlots env bag = [] := by
        refine List.eq_nil_iff_forall_not_mem.mpr fun q hq => ?_
        rcases hgone with h | h
        · have hbefore := row_split hrow (List.mem_of_mem_filter h) (List.mem_append_left _ hq)
          exact hbefore.2 ⟨rfl, (mem_bagSlots.mp hq).1⟩
        · have hmem : ⟨INVENTORY_SLOT_BAG_0, INVENTORY_SLOT_BAG_0⟩ ∈ inv.row env := by
            rw [hrow]
            exact List.mem_append_left _ (List.mem_of_mem_filter h)
          exact not_mem_row hmem
      rw [← hslots, hnil]
      rfl
    · rfl
  · have hnone : ∀ i : Inventory, i.getBagByPos env bag = none := fun i => if_neg hslot
    rw [bagSlots, bagSlots, hnone, hnone]

include hrange hcount hwrap hheld in
theorem along_destroyInBags {bags : List ℕ}
    (hbags : INVENTORY_SLOT_BAG_0 ∉ bags) :
    Along (inv.row env) (Scanned env inv fight itemEntry count unequip_check)
      (Spent env inv fight itemEntry count unequip_check) (bags.flatMap (inv.bagSlots env))
      (destroyInBags env itemEntry count bags) := by
  refine Along.foldlM bags fun bag hbag => ?_
  have hne : bag ≠ INVENTORY_SLOT_BAG_0 := by
    rintro rfl
    exact hbags hbag
  have hall := Along.foldlM (inv.bagSlots env bag) fun p hp =>
    along_destroyAt hrange hcount hwrap hheld (asks_true (p := p) (by
      simp [Pos.isEquipmentPos, (mem_bagSlots.mp hp).1, hne]))
  rw [List.flatMap_singleton'] at hall
  intro pre post s hrow hs
  have hslots := bagSlots_of_scanned hrow hs
  dsimp only
  rw [hslots]
  exact hall pre post s hrow hs

end Scans

theorem destroyItemCount_spent
    (hrange : ∀ q item, inv.at_ env q = some item → item.count < 2 ^ 32) (hcount : count < 2 ^ 32)
    (hwrap : NoWrap env inv fight itemEntry count unequip_check)
    (hheld : HeldSmall env inv fight itemEntry count unequip_check) :
    Spent env inv fight itemEntry count unequip_check
      (inv.destroyItemCount env fight itemEntry count unequip_check) := by
  have own : ∀ a b, (∀ p ∈ slotsOf INVENTORY_SLOT_BAG_0 a b, p.isEquipmentPos = false) →
      Along (inv.row env) (Scanned env inv fight itemEntry count unequip_check)
        (Spent env inv fight itemEntry count unequip_check) (slotsOf INVENTORY_SLOT_BAG_0 a b)
        (destroyInSlots env itemEntry count (fun _ _ => true) a b) :=
    fun a b h => along_destroyInSlots hrange hcount hwrap hheld fun p hp => asks_true (h p hp)
  have bags : ∀ bags : List ℕ, INVENTORY_SLOT_BAG_0 ∉ bags →
      Along (inv.row env) (Scanned env inv fight itemEntry count unequip_check)
        (Spent env inv fight itemEntry count unequip_check) (bags.flatMap (inv.bagSlots env))
        (destroyInBags env itemEntry count bags) :=
    fun bags h => along_destroyInBags hrange hcount hwrap hheld h
  have worn : Along (inv.row env) (Scanned env inv fight itemEntry count unequip_check)
      (Spent env inv fight itemEntry count unequip_check)
      (slotsOf INVENTORY_SLOT_BAG_0 EQUIPMENT_SLOT_START INVENTORY_SLOT_BAG_END)
      (destroyInSlots env itemEntry count
        (fun inv p => !unequip_check || inv.canUnequipItem env fight p false = .OK)
        EQUIPMENT_SLOT_START INVENTORY_SLOT_BAG_END) := by
    refine along_destroyInSlots hrange hcount hwrap hheld fun p hp => ?_
    obtain ⟨bag, slot⟩ := p
    obtain ⟨hbag, -, hslot⟩ := mem_slotsOf.mp hp
    obtain rfl : bag = INVENTORY_SLOT_BAG_0 := hbag
    exact asks_canUnequipItem hslot
  have hall : Along (inv.row env) (Scanned env inv fight itemEntry count unequip_check)
      (Spent env inv fight itemEntry count unequip_check) (inv.row env)
      (destroyScans env fight itemEntry count unequip_check) :=
    (own INVENTORY_SLOT_ITEM_START INVENTORY_SLOT_ITEM_END (by decide)).bind
      ((own KEYRING_SLOT_START CURRENCYTOKEN_SLOT_END (by decide)).bind
        ((bags inventoryBags (by decide)).bind (worn.bind
          ((own BANK_SLOT_ITEM_START BANK_SLOT_ITEM_END (by decide)).bind
            (bags bankBags (by decide))))))
  have hstart : Scanned env inv fight itemEntry count unequip_check [] (inv, 0) :=
    ⟨(cleared_nil _).symm, fun _ _ => Or.inl rfl, rfl, Or.inr rfl⟩
  have hend := hall.row hstart
  unfold destroyItemCount
  cases hscans : destroyScans env fight itemEntry count unequip_check (inv, 0) with
  | error inv' =>
    rw [hscans] at hend
    exact hend
  | ok s =>
    rw [hscans] at hend
    have hrem := hend.rem_eq
    have hlt := hend.rem_lt
    refine Spent.whole (List.append_nil _).symm hend.at_eq ?_
    omega

/-- **What `DestroyItemCount` does**: as much as the count of what counts is gone, and nothing else
but what was in a worn bag that counted. -/
theorem destroyItemCount_destroys
    (hrange : ∀ q item, inv.at_ env q = some item → item.count < 2 ^ 32) (hcount : count < 2 ^ 32)
    (hwrap : NoWrap env inv fight itemEntry count unequip_check)
    (hheld : HeldSmall env inv fight itemEntry count unequip_check) :
    Destroyed env inv fight itemEntry count unequip_check
      (inv.destroyItemCount env fight itemEntry count unequip_check) :=
  (destroyItemCount_spent hrange hcount hwrap hheld).destroyed

end Units

/-! ## 9. A worn bag of the entry -/

def wornBag : Inventory where
  guid := 1
  m_items := fun slot =>
    if slot = 19 then
      some { single 5 2 with
        m_bagslot := fun j => if j = 0 then some (single 6 1).toItem else none }
    else none

theorem count_wornBag {q : Pos} {item : Item} (h : wornBag.at_ smallStore q = some item) :
    item.count = 1 := by
  obtain ⟨bag, slot⟩ := q
  by_cases hbag : bag = INVENTORY_SLOT_BAG_0
  · subst hbag
    by_cases hown : Own slot
    · rw [at_, getItemByPos_own hown, wornBag] at h
      dsimp only at h
      split_ifs at h
      · cases h
        rfl
      · cases h
    · rw [at_of_not_own hown] at h
      cases h
  · rw [at_, getItemByPos_bag hbag, Option.map_bind, Option.bind_eq_some_iff] at h
    obtain ⟨pBag, hpBag, h⟩ := h
    have hitem := (getBagByPos_eq_some.mp hpBag).2.1
    rw [wornBag] at hitem
    dsimp only at hitem
    split_ifs at hitem
    cases hitem
    simp only [Function.comp, ItemOrBag.getItemByPos] at h
    split_ifs at h <;> cases h
    rfl

theorem range_wornBag (q : Pos) (item : Item) (h : wornBag.at_ smallStore q = some item) :
    item.count < 2 ^ 32 := by
  rw [count_wornBag h]
  decide

/-- The bag is destroyed, and what is in it is gone with it. -/
theorem destroyItemCount_loses_another :
    ¬ ∀ (env : Env) (inv : Inventory) (fight : Fight) (itemEntry count : ℕ) (unequip_check : Bool),
      (∀ q item, inv.at_ env q = some item → item.count < 2 ^ 32) → count < 2 ^ 32 →
        (inv.destroyItemCount env fight itemEntry count unequip_check).total env itemEntry +
            min count (∑ p ∈ places with inv.counted env fight itemEntry unequip_check p = true,
              inv.unitsAt env p) = inv.total env itemEntry ∧
          ∀ e ≠ itemEntry,
            (inv.destroyItemCount env fight itemEntry count unequip_check).total env e =
              inv.total env e := by
  intro hall
  have hkeeps := (hall smallStore wornBag ⟨false, false⟩ 2 1 false range_wornBag (by decide)).2 1
    (by decide)
  have hrun : wornBag.destroyItemCount smallStore ⟨false, false⟩ 2 1 false =
      wornBag.destroyItem smallStore ⟨INVENTORY_SLOT_BAG_0, 19⟩ := by
    rfl
  have hat : wornBag.at_ smallStore ⟨INVENTORY_SLOT_BAG_0, 19⟩ = some (single 5 2).toItem := by
    rfl
  rw [hrun] at hkeeps
  refine absurd hkeeps (Nat.ne_of_lt ?_)
  unfold total
  rw [at_destroyItem hat]
  have hinner : (⟨19, 0⟩ : Pos) ∈ wornBag.bagSlots smallStore 19 := by decide
  unfold Stacking.stockOn
  refine Finset.sum_lt_sum (fun p _ => ?_) ⟨⟨19, 0⟩, mem_places_of_bagSlots hinner, by decide⟩
  unfold cleared
  split
  · exact Nat.zero_le _
  · exact le_refl _

/-- The item in the bag is destroyed, and the bag stays. -/
theorem destroyItemCount_destroys_wornBag :
    Destroyed smallStore wornBag ⟨false, false⟩ 1 1 false
      (wornBag.destroyItemCount smallStore ⟨false, false⟩ 1 1 false) := by
  refine destroyItemCount_destroys range_wornBag (by decide) (Or.inr fun p _ => ?_)
    fun pre p post _ _ hgo => ?_
  · have hunits : wornBag.unitsAt smallStore p ≤ 1 := by
      unfold unitsAt
      cases hp : wornBag.at_ smallStore p with
      | none => exact Nat.zero_le _
      | some item => exact (count_wornBag hp).le
    omega
  · simp [mayGo] at hgo

end Inventory

end FunPvp.Items
