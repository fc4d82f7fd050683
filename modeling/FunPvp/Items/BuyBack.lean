/-
# The buyback slots

What a player has sold lies in twelve slots until there is no room for it. Which slot is free and
which one the oldest is nowhere kept as such: there is a cursor, the items themselves, and the
timestamps of the slots, which are 0 where there is no item. `AddItemToBuyBackSlot` takes the slot
of the cursor if that is free; else it looks for the least timestamp, beginning with that of the
first slot, and does not ask whether there is an item in that one.
-/
import FunPvp.Items.Inventory
import FunPvp.Lib.Run

namespace FunPvp.Items

open Lib

/-! ## 1. The slots -/

/-- What is used of an item that is sold; there may be no template for it. -/
structure SoldItem where
  guid : UInt64
  sellPrice : Option UInt32
  count : UInt32
deriving DecidableEq

/-- What happens to an item that leaves its slot: it is taken from the world and, if `del` is set,
marked as removed. -/
structure Release where
  item : SoldItem
  del : Bool
deriving DecidableEq

/-- The part of `Player` that has to do with the slots. The fields are numbered from the first
slot on; `released` has what has left a slot so far. -/
structure BuyBack where
  items : ℕ → Option SoldItem := fun _ => none
  currentBuybackSlot : ℕ := BUYBACK_SLOT_START
  vendorBuybackSlot : ℕ → UInt64 := fun _ => 0
  buybackPrice : ℕ → UInt32 := fun _ => 0
  buybackTimestamp : ℕ → UInt32 := fun _ => 0
  released : List Release := []

def IsBuyBackSlot (slot : ℕ) : Prop := BUYBACK_SLOT_START ≤ slot ∧ slot < BUYBACK_SLOT_END

instance (slot : ℕ) : Decidable (IsBuyBackSlot slot) := inferInstanceAs (Decidable (_ ∧ _))

namespace BuyBack

def timestamp (s : BuyBack) (slot : ℕ) : UInt32 :=
  s.buybackTimestamp (slot - BUYBACK_SLOT_START)

/-- The end of `RemoveItemFromBuyBackSlot`: the cursor goes to the slot that is free now, unless it
is at a free one. -/
def settleCursor (slot : ℕ) (s : BuyBack) : BuyBack :=
  if s.items s.currentBuybackSlot ≠ none then { s with currentBuybackSlot := slot } else s

def removeItemFromBuyBackSlot (slot : ℕ) (del : Bool) (s : BuyBack) : BuyBack :=
  if IsBuyBackSlot slot then
    let eslot := slot - BUYBACK_SLOT_START
    settleCursor slot { s with
      released := s.released ++ (s.items slot).toList.map (⟨·, del⟩)
      items := Function.update s.items slot none
      vendorBuybackSlot := Function.update s.vendorBuybackSlot eslot 0
      buybackPrice := Function.update s.buybackPrice eslot 0
      buybackTimestamp := Function.update s.buybackTimestamp eslot 0 }
  else s

/-- The search of `AddItemToBuyBackSlot`. -/
def oldestLoop (s : BuyBack) : List ℕ → UInt32 → ℕ → ℕ
  | [], _, oldestSlot => oldestSlot
  | i :: rest, oldestTime, oldestSlot =>
    if s.items i = none then i
    else if oldestTime > s.timestamp i then oldestLoop s rest (s.timestamp i) i
    else oldestLoop s rest oldestTime oldestSlot

def slotForItem (s : BuyBack) : ℕ :=
  if s.items s.currentBuybackSlot ≠ none then
    oldestLoop s
      (List.range' (BUYBACK_SLOT_START + 1) (BUYBACK_SLOT_END - (BUYBACK_SLOT_START + 1)))
      (s.timestamp BUYBACK_SLOT_START) BUYBACK_SLOT_START
  else s.currentBuybackSlot

/-- `AddItemToBuyBackSlot`, at the time `base`, for a player who has logged in at `logintime`. -/
def addItemToBuyBackSlot (pItem : Option SoldItem) (base logintime : ℤ) (s : BuyBack) : BuyBack :=
  match pItem with
  | none => s
  | some item =>
    let slot := s.slotForItem
    let s := s.removeItemFromBuyBackSlot slot true
    let etime := UInt32.ofInt (base - logintime + 30 * 3600)
    let eslot := slot - BUYBACK_SLOT_START
    { s with
      items := Function.update s.items slot (some item)
      vendorBuybackSlot := Function.update s.vendorBuybackSlot eslot item.guid
      buybackPrice := Function.update s.buybackPrice eslot
        (match item.sellPrice with
          | some sellPrice => sellPrice * item.count
          | none => 0)
      buybackTimestamp := Function.update s.buybackTimestamp eslot etime
      currentBuybackSlot :=
        if s.currentBuybackSlot < BUYBACK_SLOT_END - 1 then s.currentBuybackSlot + 1
        else s.currentBuybackSlot }

end BuyBack

inductive BuyBackCall
  | add (pItem : Option SoldItem) (base logintime : ℤ)
  | remove (slot : ℕ) (del : Bool)
deriving DecidableEq

def BuyBack.step (s : BuyBack) : BuyBackCall → BuyBack
  | .add pItem base logintime => s.addItemToBuyBackSlot pItem base logintime
  | .remove slot del => s.removeItemFromBuyBackSlot slot del

/-! ## 2. What the slots are for -/

/-- The item comes to lie in one of the slots, and nothing happens to the others. If there was an
item in the slot then there was one in each of them, none had an older timestamp, and that item has
been removed. -/
structure Stored (s : BuyBack) (item : SoldItem) (s' : BuyBack) : Prop where
  slot : ∃ slot, IsBuyBackSlot slot ∧ s'.items = Function.update s.items slot (some item) ∧
    s'.released = s.released ++ (s.items slot).toList.map (⟨·, true⟩) ∧
    (s.items slot ≠ none → ∀ i, IsBuyBackSlot i →
      s.items i ≠ none ∧ s.timestamp slot ≤ s.timestamp i)

/-- The slot is free, and the others are as before. -/
structure Freed (s : BuyBack) (slot : ℕ) (del : Bool) (s' : BuyBack) : Prop where
  items : s'.items = Function.update s.items slot none
  released : s'.released = s.released ++ (s.items slot).toList.map (⟨·, del⟩)

/-- **What a call does.** -/
def Keeps (s : BuyBack) : BuyBackCall → Prop
  | .add (some item) base logintime => Stored s item (s.step (.add (some item) base logintime))
  | .add none base logintime => s.step (.add none base logintime) = s
  | .remove slot del =>
    if IsBuyBackSlot slot then Freed s slot del (s.step (.remove slot del))
    else s.step (.remove slot del) = s

/-! ## 3. The invariant -/

/-- The cursor is at one of the slots, and a slot without an item has the timestamp 0. -/
structure BuyBack.Inv (s : BuyBack) : Prop where
  cursor : IsBuyBackSlot s.currentBuybackSlot
  free : ∀ slot, IsBuyBackSlot slot → s.items slot = none → s.timestamp slot = 0

theorem BuyBack.inv_init : BuyBack.Inv {} := ⟨by decide, fun _ _ _ => rfl⟩

section Timestamps

variable {s : BuyBack} {slot i : ℕ}

theorem eslot_inj (hslot : IsBuyBackSlot slot) (hi : IsBuyBackSlot i) :
    i - BUYBACK_SLOT_START = slot - BUYBACK_SLOT_START ↔ i = slot := by
  have hle := hslot.1
  have hle' := hi.1
  omega

theorem update_timestamp (hslot : IsBuyBackSlot slot) (hi : IsBuyBackSlot i) (t : UInt32) :
    Function.update s.buybackTimestamp (slot - BUYBACK_SLOT_START) t (i - BUYBACK_SLOT_START) =
      if i = slot then t else s.timestamp i := by
  rw [Function.update_apply]
  exact if_congr (eslot_inj hslot hi) rfl rfl

/-- The best slot of those that have been looked at: it has the least timestamp, and if any of them
is free, it is. -/
structure Best (s : BuyBack) (seen : List ℕ) (slot : ℕ) : Prop where
  mem : slot ∈ seen
  least : ∀ i ∈ seen, s.timestamp slot ≤ s.timestamp i
  free : ∀ i ∈ seen, s.items i = none → s.items slot = none

/-- A slot with an older timestamp is better. No slot that has been looked at can be free then,
for its timestamp would be 0. -/
theorem Best.older (hfree : ∀ i, IsBuyBackSlot i → s.items i = none → s.timestamp i = 0)
    {seen : List ℕ} (hseen : ∀ i ∈ seen, IsBuyBackSlot i) (h : Best s seen slot)
    (hlt : s.timestamp slot > s.timestamp i) : Best s (seen ++ [i]) i where
  mem := by simp
  least j hj := by
    rcases List.mem_append.mp hj with hj | hj
    · exact UInt32.le_trans (UInt32.le_of_lt hlt) (h.least j hj)
    · rw [List.mem_singleton.mp hj]
      exact UInt32.le_refl _
  free j hj hnone := by
    rcases List.mem_append.mp hj with hj | hj
    · have hzero := hfree j (hseen j hj) hnone
      have hle := h.least j hj
      rw [hzero, UInt32.le_iff_toNat_le] at hle
      rw [gt_iff_lt, UInt32.lt_iff_toNat_lt] at hlt
      exact absurd (hlt.trans_le hle) (Nat.not_lt_zero _)
    · rwa [List.mem_singleton.mp hj] at hnone

theorem Best.notOlder {seen : List ℕ} (h : Best s seen slot) (hitem : s.items i ≠ none)
    (hle : ¬ s.timestamp slot > s.timestamp i) : Best s (seen ++ [i]) slot where
  mem := List.mem_append_left _ h.mem
  least j hj := by
    rcases List.mem_append.mp hj with hj | hj
    · exact h.least j hj
    · rw [List.mem_singleton.mp hj]
      exact UInt32.not_lt.mp hle
  free j hj hnone := by
    rcases List.mem_append.mp hj with hj | hj
    · exact h.free j hj hnone
    · rw [List.mem_singleton.mp hj] at hnone
      exact absurd hnone hitem

theorem oldestLoop_spec (hfree : ∀ i, IsBuyBackSlot i → s.items i = none → s.timestamp i = 0)
    {todo seen : List ℕ} (hslots : ∀ i ∈ seen ++ todo, IsBuyBackSlot i) (h : Best s seen slot) :
    s.oldestLoop todo (s.timestamp slot) slot ∈ seen ++ todo ∧
      (s.items (s.oldestLoop todo (s.timestamp slot) slot) ≠ none →
        Best s (seen ++ todo) (s.oldestLoop todo (s.timestamp slot) slot)) := by
  induction todo generalizing seen slot with
  | nil =>
    rw [BuyBack.oldestLoop, List.append_nil]
    exact ⟨h.mem, fun _ => h⟩
  | cons i rest ih =>
    have hsplit : seen ++ i :: rest = (seen ++ [i]) ++ rest := by simp
    rw [BuyBack.oldestLoop, hsplit]
    rw [hsplit] at hslots
    by_cases hnone : s.items i = none
    · rw [if_pos hnone]
      exact ⟨by simp, fun hne => absurd hnone hne⟩
    · rw [if_neg hnone]
      by_cases hlt : s.timestamp slot > s.timestamp i
      · rw [if_pos hlt]
        exact ih hslots (h.older hfree
          (fun j hj => hslots j (List.mem_append_left _ (List.mem_append_left _ hj))) hlt)
      · rw [if_neg hlt]
        exact ih hslots (h.notOlder hnone hlt)

end Timestamps

theorem mem_slots {i : ℕ} :
    i ∈ [BUYBACK_SLOT_START] ++ List.range' (BUYBACK_SLOT_START + 1)
      (BUYBACK_SLOT_END - (BUYBACK_SLOT_START + 1)) ↔ IsBuyBackSlot i := by
  rw [List.mem_append, List.mem_singleton, List.mem_range'_1, IsBuyBackSlot,
    BUYBACK_SLOT_START, BUYBACK_SLOT_END]
  omega

theorem BuyBack.Inv.slotForItem_spec {s : BuyBack} (h : s.Inv) :
    IsBuyBackSlot s.slotForItem ∧
      (s.items s.slotForItem ≠ none → ∀ i, IsBuyBackSlot i →
        s.items i ≠ none ∧ s.timestamp s.slotForItem ≤ s.timestamp i) := by
  unfold BuyBack.slotForItem
  by_cases hcursor : s.items s.currentBuybackSlot ≠ none
  · rw [if_pos hcursor]
    have hstart : Best s [BUYBACK_SLOT_START] BUYBACK_SLOT_START := by
      refine ⟨by simp, fun i hi => ?_, fun i hi hnone => ?_⟩
      · rw [List.mem_singleton.mp hi]
        exact UInt32.le_refl _
      · rwa [List.mem_singleton.mp hi] at hnone
    obtain ⟨hmem, hbest⟩ := oldestLoop_spec h.free (fun i hi => mem_slots.mp hi) hstart
    refine ⟨mem_slots.mp hmem, fun hne i hi => ?_⟩
    have hmin := hbest hne
    exact ⟨fun hnone => hne (hmin.free i (mem_slots.mpr hi) hnone),
      hmin.least i (mem_slots.mpr hi)⟩
  · rw [if_neg hcursor]
    exact ⟨h.cursor, fun hne => absurd hne hcursor⟩

/-! ## 4. The calls -/

section Calls

variable {s : BuyBack} {slot : ℕ}

theorem BuyBack.settleCursor_frame (slot : ℕ) (s : BuyBack) :
    (s.settleCursor slot).items = s.items ∧
      (s.settleCursor slot).buybackTimestamp = s.buybackTimestamp ∧
      (s.settleCursor slot).released = s.released := by
  unfold BuyBack.settleCursor
  split <;> exact ⟨rfl, rfl, rfl⟩

theorem BuyBack.settleCursor_cursor (hslot : IsBuyBackSlot slot)
    (h : IsBuyBackSlot s.currentBuybackSlot) :
    IsBuyBackSlot (s.settleCursor slot).currentBuybackSlot := by
  unfold BuyBack.settleCursor
  split
  · exact hslot
  · exact h

theorem freed_remove (hslot : IsBuyBackSlot slot) (del : Bool) (s : BuyBack) :
    Freed s slot del (s.removeItemFromBuyBackSlot slot del) := by
  rw [BuyBack.removeItemFromBuyBackSlot, if_pos hslot]
  obtain ⟨hitems, -, hreleased⟩ := BuyBack.settleCursor_frame slot { s with
    released := s.released ++ (s.items slot).toList.map (⟨·, del⟩)
    items := Function.update s.items slot none
    vendorBuybackSlot := Function.update s.vendorBuybackSlot (slot - BUYBACK_SLOT_START) 0
    buybackPrice := Function.update s.buybackPrice (slot - BUYBACK_SLOT_START) 0
    buybackTimestamp := Function.update s.buybackTimestamp (slot - BUYBACK_SLOT_START) 0 }
  exact ⟨hitems, hreleased⟩

theorem timestamp_remove (hslot : IsBuyBackSlot slot) (del : Bool) (s : BuyBack) {i : ℕ}
    (hi : IsBuyBackSlot i) :
    (s.removeItemFromBuyBackSlot slot del).timestamp i = if i = slot then 0 else s.timestamp i := by
  rw [BuyBack.timestamp, BuyBack.removeItemFromBuyBackSlot, if_pos hslot,
    (BuyBack.settleCursor_frame slot _).2.1]
  exact update_timestamp hslot hi 0

theorem BuyBack.Inv.remove (h : s.Inv) (slot : ℕ) (del : Bool) :
    (s.removeItemFromBuyBackSlot slot del).Inv := by
  by_cases hslot : IsBuyBackSlot slot
  · refine ⟨?_, fun i hi hnone => ?_⟩
    · rw [BuyBack.removeItemFromBuyBackSlot, if_pos hslot]
      exact BuyBack.settleCursor_cursor hslot h.cursor
    · rw [timestamp_remove hslot del s hi]
      rw [(freed_remove hslot del s).items, Function.update_apply] at hnone
      split
      · rfl
      · next hne =>
        rw [if_neg hne] at hnone
        exact h.free i hi hnone
  · rw [BuyBack.removeItemFromBuyBackSlot, if_neg hslot]
    exact h

theorem BuyBack.Inv.step (h : s.Inv) (call : BuyBackCall) : (s.step call).Inv := by
  cases call with
  | remove slot del => exact h.remove slot del
  | add pItem base logintime =>
    cases pItem with
    | none => exact h
    | some item =>
      obtain ⟨hslot, -⟩ := h.slotForItem_spec
      have hremoved := h.remove s.slotForItem true
      refine ⟨?_, fun i hi hnone => ?_⟩
      · change IsBuyBackSlot (if _ < BUYBACK_SLOT_END - 1 then _ + 1 else _)
        obtain ⟨hle, hlt⟩ := hremoved.cursor
        split
        · next hnext => exact ⟨Nat.le_succ_of_le hle, Nat.add_lt_of_lt_sub hnext⟩
        · exact ⟨hle, hlt⟩
      · change Function.update (s.removeItemFromBuyBackSlot s.slotForItem true).buybackTimestamp
          (s.slotForItem - BUYBACK_SLOT_START) _ (i - BUYBACK_SLOT_START) = 0
        change Function.update (s.removeItemFromBuyBackSlot s.slotForItem true).items
          s.slotForItem (some item) i = none at hnone
        rw [Function.update_apply] at hnone
        rw [update_timestamp hslot hi]
        split at hnone
        · cases hnone
        · next hne =>
          rw [if_neg hne]
          exact hremoved.free i hi hnone

theorem BuyBack.Inv.keeps (h : s.Inv) (call : BuyBackCall) : Keeps s call := by
  cases call with
  | remove slot del =>
    rw [Keeps]
    split
    · next hslot => exact freed_remove hslot del s
    · next hslot => exact if_neg hslot
  | add pItem base logintime =>
    cases pItem with
    | none => rfl
    | some item =>
      obtain ⟨hslot, hevicts⟩ := h.slotForItem_spec
      have hfreed := freed_remove hslot true s
      refine ⟨s.slotForItem, hslot, ?_, hfreed.released, hevicts⟩
      change Function.update (s.removeItemFromBuyBackSlot s.slotForItem true).items
        s.slotForItem (some item) = _
      rw [hfreed.items, Function.update_idem]

end Calls

/-- **The buyback slots**: in every sequence of calls an item is stored in a free slot, or in the
oldest one when none is free, whose item is removed; and the cursor stays at one of the slots. -/
theorem buyBack_runs (calls : List BuyBackCall) :
    Steps BuyBack.step Keeps {} calls ∧
      States BuyBack.step (fun s => IsBuyBackSlot s.currentBuybackSlot) {} calls := by
  have hany : Steps BuyBack.step (fun _ _ => True) {} calls :=
    Steps.of_forall (fun _ _ => trivial) calls
  refine ⟨Steps.of_inv (I := BuyBack.Inv) (fun s call hs _ => hs.step call)
    (fun s call hs _ => hs.keeps call) BuyBack.inv_init hany, ?_⟩
  exact (States.of_steps (I := BuyBack.Inv) (fun s call hs _ => hs.step call) BuyBack.inv_init
    hany).imp fun s hs => hs.cursor

end FunPvp.Items
