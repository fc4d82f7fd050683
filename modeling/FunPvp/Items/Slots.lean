/-
# What is at the positions of an inventory

The player's own slots and the slots of his bags are one family of slots: `at_` gives the item at a
position, and assigning a slot changes it there and nowhere else. So the stacks of `Lib.Stacks`
apply.

A bag's slot is left out. An item that comes there brings its own slots with it.
-/
import FunPvp.Lib.Stacks
import FunPvp.Items.Inventory

namespace FunPvp.Items

open FunPvp.Lib

/-- Items as stacks: the kind is the entry, the limit the template's. -/
def Env.stacking (env : Env) : Stacking Item ℕ where
  kind := fun item => item.entry
  count := fun item => item.count
  cap := fun entry => ((env.getItemTemplate entry).map (·.getMaxStackSize)).getD 0

def places : Finset Pos :=
  (slotsOf INVENTORY_SLOT_BAG_0 0 PLAYER_SLOT_END ++
    (inventoryBags ++ bankBags).flatMap fun bag => slotsOf bag 0 MAX_BAG_SIZE).toFinset

theorem mem_slotsOf {bag a b : ℕ} {p : Pos} :
    p ∈ slotsOf bag a b ↔ p.bag = bag ∧ a ≤ p.slot ∧ p.slot < b := by
  obtain ⟨c, s⟩ := p
  simp only [slotsOf, List.mem_map, List.mem_range'_1, Pos.mk.injEq]
  constructor
  · rintro ⟨i, hi, rfl, rfl⟩
    omega
  · rintro ⟨rfl, ha, hb⟩
    exact ⟨s, by omega, rfl, rfl⟩

namespace Inventory

variable {env : Env} {inv : Inventory} {p q : Pos} {item : Item} {e : ℕ}

/-! ## 1. Positions and bags -/

def Own (slot : ℕ) : Prop :=
  slot < BANK_SLOT_BAG_END ∨ (KEYRING_SLOT_START ≤ slot ∧ slot < CURRENCYTOKEN_SLOT_END)

def BagSlot (slot : ℕ) : Prop :=
  (INVENTORY_SLOT_BAG_START ≤ slot ∧ slot < INVENTORY_SLOT_BAG_END) ∨
    (BANK_SLOT_BAG_START ≤ slot ∧ slot < BANK_SLOT_BAG_END)

instance (slot : ℕ) : Decidable (Own slot) := by
  unfold Own
  infer_instance

instance (slot : ℕ) : Decidable (BagSlot slot) := by
  unfold BagSlot
  infer_instance

theorem BagSlot.own {slot : ℕ} (h : BagSlot slot) : Own slot := by
  simp only [BagSlot, Own, INVENTORY_SLOT_BAG_START, INVENTORY_SLOT_BAG_END, BANK_SLOT_BAG_START,
    BANK_SLOT_BAG_END] at *
  omega

theorem BagSlot.ne_bag0 {slot : ℕ} (h : BagSlot slot) : slot ≠ INVENTORY_SLOT_BAG_0 := by
  simp only [BagSlot, INVENTORY_SLOT_BAG_0, INVENTORY_SLOT_BAG_START, INVENTORY_SLOT_BAG_END,
    BANK_SLOT_BAG_START, BANK_SLOT_BAG_END] at *
  omega

theorem isBagPos_iff : p.isBagPos ↔ p.bag = INVENTORY_SLOT_BAG_0 ∧ BagSlot p.slot := by
  simp only [Pos.isBagPos, BagSlot, decide_eq_true_eq]
  tauto

theorem getBagByPos_slot {bag : ℕ} (h : BagSlot bag) :
    inv.getBagByPos env bag = (inv.m_items bag).filter fun item => item.isBag env :=
  if_pos h

theorem getBagByPos_eq_some {bag : ℕ} {pBag : ItemOrBag} :
    inv.getBagByPos env bag = some pBag ↔
      BagSlot bag ∧ inv.m_items bag = some pBag ∧ pBag.isBag env = true := by
  unfold getBagByPos
  split
  · next h => simp [BagSlot, h, Option.filter_eq_some_iff]
  · next h => simp [BagSlot, h]

theorem getBagByPos_bag0 : inv.getBagByPos env INVENTORY_SLOT_BAG_0 = none := by
  cases h : inv.getBagByPos env INVENTORY_SLOT_BAG_0 with
  | none => rfl
  | some pBag => exact absurd rfl (getBagByPos_eq_some.mp h).1.ne_bag0

theorem getItemByPos_own {slot : ℕ} (h : Own slot) :
    inv.getItemByPos env ⟨INVENTORY_SLOT_BAG_0, slot⟩ = inv.m_items slot :=
  if_pos ⟨rfl, h⟩

theorem getItemByPos_else {bag slot : ℕ} (h : ¬ (bag = INVENTORY_SLOT_BAG_0 ∧ Own slot)) :
    inv.getItemByPos env ⟨bag, slot⟩ = (inv.getBagByPos env bag).bind fun pBag =>
      (pBag.getItemByPos env slot).map Item.alone :=
  if_neg h

theorem getItemByPos_bag {bag slot : ℕ} (h : bag ≠ INVENTORY_SLOT_BAG_0) :
    inv.getItemByPos env ⟨bag, slot⟩ = (inv.getBagByPos env bag).bind fun pBag =>
      (pBag.getItemByPos env slot).map Item.alone :=
  getItemByPos_else fun hp => h hp.1

theorem at_of_not_own {slot : ℕ} (h : ¬ Own slot) :
    inv.at_ env ⟨INVENTORY_SLOT_BAG_0, slot⟩ = none := by
  rw [at_, getItemByPos_else fun hp => h hp.2, getBagByPos_bag0]
  rfl

def Place (env : Env) (inv : Inventory) (p : Pos) : Prop :=
  (p.bag = INVENTORY_SLOT_BAG_0 ∧ Own p.slot) ∨
    ∃ pBag, inv.getBagByPos env p.bag = some pBag ∧ p.slot < pBag.getBagSize env

/-- A position that exists and is no bag's slot. -/
def Storable (env : Env) (inv : Inventory) (p : Pos) : Prop := inv.Place env p ∧ ¬ p.isBagPos

theorem place_of_at (h : inv.at_ env p = some item) : inv.Place env p := by
  obtain ⟨bag, slot⟩ := p
  by_cases hown : bag = INVENTORY_SLOT_BAG_0 ∧ Own slot
  · exact Or.inl hown
  · right
    rw [at_, getItemByPos_else hown] at h
    simp only [Option.map_eq_some_iff, Option.bind_eq_some_iff, ItemOrBag.getItemByPos] at h
    obtain ⟨it, ⟨pBag, hbag, inner, hinner, -⟩, -⟩ := h
    refine ⟨pBag, hbag, ?_⟩
    by_contra hsize
    simp [hsize] at hinner

theorem getBagSize_le (item : Item) : item.getBagSize env ≤ MAX_BAG_SIZE := by
  unfold Item.getBagSize
  cases item.getTemplate env with
  | none => exact Nat.zero_le _
  | some t => exact t.containerSlots_le

theorem Place.mem_places (h : inv.Place env p) : p ∈ places := by
  simp only [places, List.mem_toFinset, List.mem_append, List.mem_flatMap, mem_slotsOf]
  rcases h with ⟨hbag, hown⟩ | ⟨pBag, hbag, hslot⟩
  · refine Or.inl ⟨hbag, Nat.zero_le _, ?_⟩
    simp only [Own, BANK_SLOT_BAG_END, KEYRING_SLOT_START, CURRENCYTOKEN_SLOT_END,
      PLAYER_SLOT_END] at *
    omega
  · refine Or.inr ⟨p.bag, ?_, rfl, Nat.zero_le _, hslot.trans_le (getBagSize_le _)⟩
    have hslots := (getBagByPos_eq_some.mp hbag).1
    simp only [BagSlot, INVENTORY_SLOT_BAG_START, INVENTORY_SLOT_BAG_END, BANK_SLOT_BAG_START,
      BANK_SLOT_BAG_END] at hslots
    simp only [inventoryBags, bankBags, List.mem_cons, List.not_mem_nil, or_false]
    omega

theorem mem_bagSlots {bag : ℕ} : p ∈ inv.bagSlots env bag ↔
    p.bag = bag ∧ ∃ pBag, inv.getBagByPos env bag = some pBag ∧ p.slot < pBag.getBagSize env := by
  unfold bagSlots
  cases inv.getBagByPos env bag with
  | none => simp
  | some pBag => simp [mem_slotsOf]

theorem mem_places_of_bagSlots {bag : ℕ} (h : p ∈ inv.bagSlots env bag) : p ∈ places := by
  obtain ⟨rfl, pBag, hbag, hslot⟩ := mem_bagSlots.mp h
  exact Place.mem_places (Or.inr ⟨pBag, hbag, hslot⟩)

/-- How many of an entry there are, what is in bags included. -/
def total (env : Env) (inv : Inventory) (entry : ℕ) : ℕ :=
  env.stacking.stockOn places (inv.at_ env) entry

/-! ## 2. Assigning a slot -/

/-- **A slot that is assigned has what is assigned, and the others have what they had.** -/
theorem at_setSlot (h : inv.Storable env p) (x : Option ItemOrBag) :
    (inv.setSlot env p x).at_ env = Function.update (inv.at_ env) p (x.map (·.toItem)) := by
  obtain ⟨bag, slot⟩ := p
  obtain ⟨hplace, hnot⟩ := h
  rcases hplace with ⟨hbag, hown⟩ | ⟨pBag, hbag, hslot⟩
  · -- one of the player's own slots, so the bags stay
    obtain rfl : bag = INVENTORY_SLOT_BAG_0 := hbag
    have hslot : ¬ BagSlot slot := fun hb => hnot (isBagPos_iff.mpr ⟨rfl, hb⟩)
    have hset : inv.setSlot env ⟨INVENTORY_SLOT_BAG_0, slot⟩ x =
        { inv with m_items := Function.update inv.m_items slot x } := if_pos rfl
    have hbags : ∀ b, (inv.setSlot env ⟨INVENTORY_SLOT_BAG_0, slot⟩ x).getBagByPos env b =
        inv.getBagByPos env b := by
      intro b
      rw [hset]
      unfold getBagByPos
      split
      · next hb =>
        have hne : b ≠ slot := fun heq => hslot (heq ▸ hb)
        simp [Function.update_of_ne hne]
      · rfl
    funext q
    obtain ⟨b, s⟩ := q
    by_cases hb : b = INVENTORY_SLOT_BAG_0
    · subst hb
      by_cases hs : s = slot
      · subst hs
        rw [Function.update_self, at_, getItemByPos_own hown, hset]
        simp
      · rw [Function.update_of_ne (by simpa using hs)]
        by_cases hos : Own s
        · rw [at_, at_, getItemByPos_own hos, getItemByPos_own hos, hset]
          simp [Function.update_of_ne hs]
        · rw [at_of_not_own hos, at_of_not_own hos]
    · have hne : (⟨b, s⟩ : Pos) ≠ ⟨INVENTORY_SLOT_BAG_0, slot⟩ := by simp [hb]
      rw [Function.update_of_ne hne, at_, at_, getItemByPos_bag hb, getItemByPos_bag hb, hbags]
  · -- a slot of a bag, which stays the same bag
    obtain ⟨hbs, hitem, hisbag⟩ := getBagByPos_eq_some.mp hbag
    have hne0 := hbs.ne_bag0
    change slot < pBag.getBagSize env at hslot
    change inv.m_items bag = some pBag at hitem
    change inv.getBagByPos env bag = some pBag at hbag
    let pBag' : ItemOrBag :=
      { pBag with m_bagslot := Function.update pBag.m_bagslot slot (x.map (·.toItem)) }
    have hset : inv.setSlot env ⟨bag, slot⟩ x =
        { inv with m_items := Function.update inv.m_items bag (some pBag') } := by
      rw [setSlot, if_neg hne0]
      simp only [hbag]
      rfl
    have hbags : ∀ b, b ≠ bag → (inv.setSlot env ⟨bag, slot⟩ x).getBagByPos env b =
        inv.getBagByPos env b := by
      intro b hb
      rw [hset]
      unfold getBagByPos
      simp [Function.update_of_ne hb]
    have hself : (inv.setSlot env ⟨bag, slot⟩ x).getBagByPos env bag = some pBag' := by
      rw [hset]
      exact getBagByPos_eq_some.mpr ⟨hbs, Function.update_self _ _ _, hisbag⟩
    funext q
    obtain ⟨b, s⟩ := q
    by_cases hb : b = INVENTORY_SLOT_BAG_0
    · subst hb
      have hne : (⟨INVENTORY_SLOT_BAG_0, s⟩ : Pos) ≠ ⟨bag, slot⟩ := by simp [Ne.symm hne0]
      rw [Function.update_of_ne hne]
      by_cases hos : Own s
      · rw [at_, at_, getItemByPos_own hos, getItemByPos_own hos, hset]
        by_cases hs : s = bag
        · subst hs
          simp [hitem, pBag']
        · simp [Function.update_of_ne hs]
      · rw [at_of_not_own hos, at_of_not_own hos]
    · by_cases hbb : b = bag
      · subst hbb
        rw [at_, getItemByPos_bag hb, hself]
        by_cases hs : s = slot
        · subst hs
          have hsize : s < pBag'.getBagSize env := hslot
          rw [Function.update_self]
          simp only [Option.bind_some, ItemOrBag.getItemByPos, if_pos hsize, pBag',
            Function.update_self]
          cases x <;> rfl
        · rw [Function.update_of_ne (by simpa using hs), at_, getItemByPos_bag hb, hbag]
          simp only [Option.bind_some, ItemOrBag.getItemByPos, pBag', Function.update_of_ne hs]
      · have hne : (⟨b, s⟩ : Pos) ≠ ⟨bag, slot⟩ := by simp [hbb]
        rw [Function.update_of_ne hne, at_, at_, getItemByPos_bag hb, getItemByPos_bag hb,
          hbags b hbb]

theorem at_eq_none : inv.at_ env p = none ↔ inv.getItemByPos env p = none := by
  unfold at_
  rw [Option.map_eq_none_iff]

theorem at_modifyItem (h : inv.Storable env p) (hitem : inv.at_ env p = some item)
    (f : Item → Item) :
    (inv.modifyItem env p f).at_ env = Function.update (inv.at_ env) p (some (f item)) := by
  obtain ⟨it, hit, rfl⟩ := Option.map_eq_some_iff.mp hitem
  rw [modifyItem, hit]
  exact at_setSlot h _

theorem at_removeItem (h : inv.Storable env p) :
    (inv.removeItem env p).at_ env = Function.update (inv.at_ env) p none := by
  unfold removeItem
  split
  · next hnone => rw [← at_eq_none.mpr hnone, Function.update_eq_self]
  · exact at_setSlot h none

end Inventory

end FunPvp.Items
