/-
# Item moves keep what is in the bank

The slots of a bank are slots that hold stacks, and what `CanStore` books is a booking of them:
it is computed on the bank as it is before the move, but it is one that fits the bank as it is
when the source has been removed (`bankCanStore_fits`). For an item that moves as a whole this is
because its own slot counts as free, for the two items of a swap because the other's does, and for
a part that is split off because taking some from a stack leaves no less room on it.

`StoreItem` carries a booking out (`storeLoop_stores`), so the stock of the destination grows by
what the source has lost. Nothing is written before both bookings of a swap are made.
-/
import FunPvp.Lib.SignedLimit
import FunPvp.Lib.Stacks
import FunPvp.Guilds.BankMove

namespace FunPvp.Guilds

open FunPvp.Lib

/-! ## 1. Stack sizes -/

theorem ItemTemplate.maxStackSize_bounds (proto : ItemTemplate) :
    1 ≤ proto.getMaxStackSize.toNat ∧ proto.getMaxStackSize.toNat < 2 ^ 31 := by
  unfold ItemTemplate.getMaxStackSize
  split
  · decide
  · rename_i h
    rw [not_or, Int32.not_le] at h
    have hpos := pos_iff_toInt_pos.mp h.2
    have hnat := toNat_of_pos h.2
    have hlt := proto.stackable.toInt_lt
    omega

def MoveEnv.stacking {Bags : Type*} (env : MoveEnv Bags) : Stacking Item UInt32 where
  kind := Item.entry
  count := fun item => item.count.toNat
  cap := fun entry => (env.getItemTemplate entry).getMaxStackSize.toNat

variable {Bags : Type*} {env : MoveEnv Bags}

theorem count_pos_of_capped {ι : Type*} {b : ι → Option Item} {i : ι} {item : Item}
    (h : env.stacking.Capped b) (hi : b i = some item) : 0 < item.count :=
  UInt32.lt_iff_toNat_lt.mpr (h i item hi).1

theorem count_le_of_capped {ι : Type*} {b : ι → Option Item} {i : ι} {item : Item}
    (h : env.stacking.Capped b) (hi : b i = some item) :
    item.count ≤ env.getMaxStackCount item :=
  UInt32.le_iff_toNat_le.mpr (h i item hi).2

theorem MoveEnv.cap_bounds (entry : UInt32) :
    1 ≤ env.stacking.cap entry ∧ env.stacking.cap entry < 2 ^ 31 :=
  (env.getItemTemplate entry).maxStackSize_bounds

/-! ## 2. The slots of a bank -/

abbrev Pos := UInt8 × UInt8

namespace Guild

def bank (g : Guild) : Pos → Option Item := fun p => g.getItem p.1 p.2

def HasSlot (g : Guild) (p : Pos) : Prop :=
  p.1.toNat < g.bankTabs.length ∧ p.2 < GUILD_BANK_MAX_SLOTS

theorem hasSlot_of_bank {g : Guild} {p : Pos} {item : Item} (h : g.bank p = some item) :
    g.HasSlot p := by
  obtain ⟨tab, htab, hitem⟩ := Option.bind_eq_some_iff.mp h
  refine ⟨(List.getElem?_eq_some_iff.mp htab).1, ?_⟩
  unfold BankTab.getItem at hitem
  split at hitem
  · assumption
  · exact absurd hitem (by simp)

theorem bank_setItem {g : Guild} {p : Pos} (h : g.HasSlot p) (item : Option Item) :
    (g.setItem p.1 p.2 item).2.bank = Function.update g.bank p item := by
  have hslot : ¬ p.2 ≥ GUILD_BANK_MAX_SLOTS := by
    rw [ge_iff_le, UInt8.not_le]
    exact h.2
  obtain ⟨tab, htab⟩ : ∃ tab, g.bankTabs[p.1.toNat]? = some tab :=
    ⟨_, List.getElem?_eq_getElem h.1⟩
  have hget : ∀ q : Pos, (g.setItem p.1 p.2 item).2.bank q =
      ((g.bankTabs.modify p.1.toNat fun tab =>
        { tab with items := Function.update tab.items p.2 item })[q.1.toNat]?).bind
          fun tab => tab.getItem q.2 := by
    intro q
    unfold bank getItem setItem
    rw [if_neg hslot]
  funext q
  rw [hget, List.getElem?_modify]
  by_cases htq : p.1 = q.1
  · rw [← htq, htab]
    by_cases hsq : p.2 = q.2
    · have hpq : p = q := Prod.ext htq hsq
      subst hpq
      rw [Function.update_self]
      simp [BankTab.getItem, h.2]
    · have hpq : q ≠ p := fun hpq => hsq (congrArg Prod.snd hpq).symm
      rw [Function.update_of_ne hpq]
      unfold bank getItem
      rw [← htq, htab]
      simp [BankTab.getItem, Function.update_of_ne (Ne.symm hsq)]
  · have hpq : q ≠ p := fun hpq => htq (congrArg Prod.fst hpq).symm
    have hnat : p.1.toNat ≠ q.1.toNat := fun hnat => htq (UInt8.toNat_inj.mp hnat)
    rw [Function.update_of_ne hpq]
    simp [hnat, bank, getItem]

end Guild

namespace MoveState

/-! ## 3. Bookings -/

/-- The slots a booking names, and how many go into each. -/
def booked (container : UInt8) (vec : List ItemPosCount) : List (Pos × ℕ) :=
  vec.map fun itemPos => ((container, itemPos.pos.toUInt8), itemPos.count.toNat)

/-- The bank a booking is made for: the slot of the item to store is free, and in a swap the slot
asked for is. -/
def freed (g : Guild) (container slotId : UInt8) (pItem : ItemPtr) (swap : Bool) :
    Pos → Option Item :=
  fun p => if pItem.slot = some p ∨ (swap = true ∧ p = (container, slotId)) then none else g.bank p

/-- What has been booked of an item's stack fits, is in slots of the tab, and what is left to book
is the rest. -/
structure Booked (env : MoveEnv Bags) (b : Pos → Option Item) (container : UInt8) (pItem : Item)
    (r : Reservation) : Prop where
  fits : env.stacking.Fits b pItem.entry (booked container r.vec)
  sum : ((booked container r.vec).map Prod.snd).sum + r.count.toNat = pItem.count.toNat
  slots : ∀ itemPos ∈ r.vec, itemPos.pos.toNat < GUILD_BANK_MAX_SLOTS.toNat

section Booking

variable {g : Guild} {b : Pos → Option Item} {container slotId skipSlotId : UInt8} {pItem : ItemPtr}
  {item : Item} {r r' : Reservation} {swap merge : Bool} {slots : List UInt8}
  {vec : List ItemPosCount}

theorem Booked.start : Booked env b container item ⟨[], item.count⟩ where
  fits := Stacking.Fits.nil
  sum := by
    simp [booked]
  slots := by
    intro itemPos hp
    exact absurd hp List.not_mem_nil

theorem mem_booked_iff (hslots : ∀ itemPos ∈ vec, itemPos.pos.toNat < GUILD_BANK_MAX_SLOTS.toNat) :
    (container, slotId) ∈ (booked container vec).map Prod.fst ↔
      ∃ itemPos ∈ vec, itemPos.pos = slotId.toUInt16 := by
  rw [booked, List.map_map, List.mem_map]
  refine exists_congr fun itemPos => and_congr_right fun hmem => ?_
  have hlt : itemPos.pos.toNat < 98 := hslots itemPos hmem
  constructor
  · intro h
    have hpos : itemPos.pos.toUInt8 = slotId := congrArg Prod.snd h
    rw [← hpos]
    refine UInt16.toNat_inj.mp ?_
    rw [UInt8.toNat_toUInt16, UInt16.toNat_toUInt8]
    omega
  · intro h
    refine Prod.ext rfl ?_
    change itemPos.pos.toUInt8 = slotId
    rw [h, UInt8.toUInt8_toUInt16]

theorem Booked.reserve {n : UInt32} (h : Booked env b container item r)
    (hslot : slotId < GUILD_BANK_MAX_SLOTS) (hle : n ≤ r.count)
    (hroom : env.stacking.Room item.entry n.toNat (b (container, slotId))) :
    Booked env b container item (r.reserve slotId n) := by
  unfold Reservation.reserve
  dsimp only
  split
  · exact h
  · rename_i hnew
    have hbooked : booked container (r.vec ++ [⟨slotId.toUInt16, n⟩]) =
        booked container r.vec ++ [((container, slotId), n.toNat)] := by
      simp [booked]
    have hfree : (container, slotId) ∉ (booked container r.vec).map Prod.fst := by
      rw [mem_booked_iff h.slots]
      rintro ⟨itemPos, hmem, hpos⟩
      refine hnew (List.any_eq_true.mpr ⟨itemPos, hmem, ?_⟩)
      exact decide_eq_true hpos
    refine ⟨?_, ?_, ?_⟩
    · rw [hbooked]
      exact h.fits.concat hfree hroom
    · have hsum := h.sum
      have hlen : n.toNat ≤ r.count.toNat := UInt32.le_iff_toNat_le.mp hle
      rw [hbooked, List.map_append, List.sum_append, UInt32.toNat_sub_of_le _ _ hle]
      simp only [List.map_cons, List.map_nil, List.sum_singleton]
      omega
    · intro itemPos hmem
      rcases List.mem_append.mp hmem with hmem | hmem
      · exact h.slots itemPos hmem
      · rw [List.mem_singleton.mp hmem, UInt8.toNat_toUInt16]
        exact UInt8.lt_iff_toNat_lt.mp hslot

theorem Booked.reserveSpace (h : Booked env b container item r)
    (hslot : slotId < GUILD_BANK_MAX_SLOTS) (hcount : r.count > 0)
    (hr : reserveSpace env slotId item (b (container, slotId)) r = some r') :
    Booked env b container item r' := by
  have hcap := env.cap_bounds item.entry
  have hpos : 0 < r.count.toNat := UInt32.lt_iff_toNat_lt.mp hcount
  have hmax : (env.getMaxStackCount item).toNat = env.stacking.cap item.entry := rfl
  unfold MoveState.reserveSpace at hr
  split at hr
  · rename_i itemDest hdest
    split at hr
    · exact absurd hr (by simp)
    · rename_i hnot
      rw [not_or, not_not, UInt32.not_le, UInt32.lt_iff_toNat_lt] at hnot
      rw [Option.some.injEq] at hr
      subst hr
      have hmin := UInt32.toNat_min (env.getMaxStackCount item - itemDest.count) r.count
      rw [UInt32.toNat_sub_of_le _ _ (UInt32.le_iff_toNat_le.mpr hnot.2.le)] at hmin
      refine h.reserve hslot ?_ ?_
      · rw [UInt32.le_iff_toNat_le, hmin]
        exact min_le_right _ _
      · rw [hdest, hmin]
        refine ⟨hnot.1, ?_, ?_⟩
        · rw [Nat.lt_min]
          omega
        · have hcnt : env.stacking.count itemDest = itemDest.count.toNat := rfl
          rw [hcnt]
          omega
  · rename_i hdest
    rw [Option.some.injEq] at hr
    subst hr
    have hmin := UInt32.toNat_min (env.getMaxStackCount item) r.count
    refine h.reserve hslot ?_ ?_
    · rw [UInt32.le_iff_toNat_le, hmin]
      exact min_le_right _ _
    · rw [hdest, hmin]
      refine ⟨?_, ?_⟩
      · rw [Nat.lt_min]
        omega
      · rw [← hmax]
        exact min_le_left _ _

theorem Booked.scan (hseen : ∀ slotId, slotId ≠ skipSlotId →
      itemDest g container slotId pItem = b (container, slotId))
    (hslots : ∀ slotId ∈ slots, slotId < GUILD_BANK_MAX_SLOTS)
    (h : Booked env b container pItem.item r) :
    Booked env b container pItem.item
      (canStoreItemInTab env g container pItem skipSlotId merge slots r) := by
  induction slots generalizing r with
  | nil => exact h
  | cons slotId slots ih =>
    have hrest := fun s hs => hslots s (List.mem_cons_of_mem _ hs)
    unfold canStoreItemInTab
    split
    · rename_i hcount
      split
      · exact ih hrest h
      · rename_i hcand
        rw [not_or] at hcand
        refine ih hrest ?_
        rw [hseen slotId hcand.1]
        cases hr : MoveState.reserveSpace env slotId pItem.item (b (container, slotId)) r with
        | none => exact h
        | some r' => exact h.reserveSpace (hslots slotId List.mem_cons_self) hcount hr
    · exact h

theorem lt_of_mem_bankSlots (h : slotId ∈ bankSlots) : slotId < GUILD_BANK_MAX_SLOTS := by
  obtain ⟨n, hn, rfl⟩ := List.mem_map.mp h
  have hlt : n < 98 := List.mem_range.mp hn
  refine UInt8.lt_iff_toNat_lt.mpr ?_
  have hsize : n < UInt8.size := hlt.trans (by decide)
  rw [UInt8.toNat_ofNat_of_lt' hsize]
  exact hlt

theorem itemDest_eq_freed {s : UInt8} (hs : s ≠ slotId) :
    itemDest g container s pItem = freed g container slotId pItem swap (container, s) := by
  unfold itemDest freed
  have hne : ¬ (swap = true ∧ (container, s) = (container, slotId)) := by
    rintro ⟨-, he⟩
    exact hs (congrArg Prod.snd he)
  simp only [hne, or_false]
  rfl

theorem slotItem_eq_freed :
    (if swap then none else itemDest g container slotId pItem) =
      freed g container slotId pItem swap (container, slotId) := by
  cases swap with
  | true => simp [freed]
  | false =>
    unfold itemDest freed
    simp only [Bool.false_eq_true, false_and, or_false, if_false]
    rfl

theorem Booked.reserveAll
    (h : Booked env (freed g container slotId pItem swap) container pItem.item r) :
    Booked env (freed g container slotId pItem swap) container pItem.item
      (reserveAll env g container slotId pItem r) := by
  have hseen : ∀ s, s ≠ slotId → itemDest g container s pItem =
      freed g container slotId pItem swap (container, s) := fun s hs => itemDest_eq_freed hs
  unfold MoveState.reserveAll
  dsimp only
  refine Booked.scan hseen (fun s hs => lt_of_mem_bankSlots hs) ?_
  split
  · exact h.scan hseen fun s hs => lt_of_mem_bankSlots hs
  · exact h

/-- **What `CanStore` returns is a booking of the whole stack** in slots of a tab that exists, and
it fits the bank in which the item's own slot is free, and that of the item it is swapped with. -/
theorem bankCanStore_fits (hpos : 0 < pItem.item.count)
    (hslot : slotId < GUILD_BANK_MAX_SLOTS ∨ slotId = NULL_SLOT)
    (h : bankCanStore env g container slotId pItem swap = .ok vec) :
    container < g.getPurchasedTabsSize ∧
      Booked env (freed g container slotId pItem swap) container pItem.item ⟨vec, 0⟩ := by
  unfold bankCanStore at h
  split at h
  · exact absurd h (by simp)
  split at h
  · exact absurd h (by simp)
  rename_i htab
  refine ⟨UInt8.not_le.mp htab, ?_⟩
  split at h
  · exact absurd h (by simp)
  rename_i r hr
  have hbooked : Booked env (freed g container slotId pItem swap) container pItem.item r := by
    unfold reserveSlot at hr
    split at hr
    · rename_i hnull
      rw [slotItem_eq_freed] at hr
      exact Booked.start.reserveSpace (hslot.resolve_right hnull) hpos hr
    · rw [Option.some.injEq] at hr
      exact hr ▸ Booked.start
  have hall := hbooked.reserveAll
  dsimp only at h
  split at h
  · rename_i hzero
    rw [Except.ok.injEq] at h
    subst h
    rw [← hzero]
    exact hall
  · exact absurd h (by simp)

theorem bankCanStore_free (hcap : pItem.item.count ≤ env.getMaxStackCount pItem.item)
    (hslot : slotId ≠ NULL_SLOT)
    (hfree : (if swap then none else itemDest g container slotId pItem) = none)
    (h : bankCanStore env g container slotId pItem swap = .ok vec) :
    vec = [⟨slotId.toUInt16, pItem.item.count⟩] := by
  have hreserve : reserveSlot env g container slotId pItem swap ⟨[], pItem.item.count⟩ =
      some ⟨[⟨slotId.toUInt16, pItem.item.count⟩], 0⟩ := by
    have hmin : min (env.getMaxStackCount pItem.item) pItem.item.count = pItem.item.count := by
      refine UInt32.toNat_inj.mp ?_
      rw [UInt32.toNat_min]
      exact Nat.min_eq_right (UInt32.le_iff_toNat_le.mp hcap)
    unfold reserveSlot MoveState.reserveSpace
    rw [if_pos hslot, hfree]
    simp [Reservation.reserve, ItemPosCount.isContainedIn, hmin]
  have hscan : ∀ merge slots, canStoreItemInTab env g container pItem slotId merge slots
      ⟨[⟨slotId.toUInt16, pItem.item.count⟩], 0⟩ =
        ⟨[⟨slotId.toUInt16, pItem.item.count⟩], 0⟩ := by
    intro merge slots
    cases slots with
    | nil => rfl
    | cons s slots =>
      unfold canStoreItemInTab
      exact if_neg (UInt32.lt_irrefl 0)
  unfold bankCanStore at h
  split at h
  · exact absurd h (by simp)
  split at h
  · exact absurd h (by simp)
  rw [hreserve] at h
  simp only [MoveState.reserveAll, hscan, ite_self, if_true, Except.ok.injEq] at h
  exact h.symm

theorem bankCanStore_self (env : MoveEnv Bags) (g : Guild)
    (hself : pItem.slot = some (container, slotId)) :
    bankCanStore env g container slotId pItem true =
      bankCanStore env g container slotId pItem false := by
  have hdest : itemDest g container slotId pItem = none := if_pos hself
  have hslot : ∀ r, reserveSlot env g container slotId pItem true r =
      reserveSlot env g container slotId pItem false r := by
    intro r
    simp [reserveSlot, hdest]
  unfold bankCanStore
  rw [hslot]

end Booking

/-! ## 4. Storing -/

abbrev slots (s : MoveState Bags) : Pos → Option Item := s.guild.bank

/-- What stays of an item while others are stored: it, and at least as many. -/
def Keeps (item item' : Item) : Prop :=
  item'.guid = item.guid ∧ item'.entry = item.entry ∧ item.count ≤ item'.count

theorem Keeps.refl (item : Item) : Keeps item item := ⟨rfl, rfl, UInt32.le_refl _⟩

theorem Keeps.trans {item item' item'' : Item} (h : Keeps item item') (h' : Keeps item' item'') :
    Keeps item item'' :=
  ⟨h'.1.trans h.1, h'.2.1.trans h.2.1, UInt32.le_trans h.2.2 h'.2.2⟩

/-- Every item of `b` is in the same slot of `b'`, and the stacks are no smaller. -/
def KeepsAll (b b' : Pos → Option Item) : Prop :=
  ∀ p item, b p = some item → ∃ item', b' p = some item' ∧ Keeps item item'

section Storing

variable {s : MoveState Bags} {container slotId : UInt8} {item pItem : Item}
  {itemPos : ItemPosCount} {vec : List ItemPosCount}

theorem slots_setItem (s : MoveState Bags) (item : Option Item)
    (h : s.guild.HasSlot (container, slotId)) :
    (s.setItem container slotId item).slots = Function.update s.slots (container, slotId) item :=
  Guild.bank_setItem h item

theorem storeAt_spec (clone : Bool)
    (hslot : s.guild.HasSlot (container, itemPos.pos.toUInt8))
    (hroom : env.stacking.Room pItem.entry itemPos.count.toNat
      (s.slots (container, itemPos.pos.toUInt8))) :
    ∃ a : Item, (storeAt env s container pItem itemPos clone).slots =
        Function.update s.slots (container, itemPos.pos.toUInt8) (some a) ∧
      a.entry = pItem.entry ∧
      a.count.toNat = env.stacking.amount pItem.entry (s.slots (container, itemPos.pos.toUInt8)) +
        itemPos.count.toNat ∧
      ∀ item, s.slots (container, itemPos.pos.toUInt8) = some item → Keeps item a := by
  have hget : s.guild.getItem container itemPos.pos.toUInt8 =
      s.slots (container, itemPos.pos.toUInt8) := rfl
  have hcap := env.cap_bounds pItem.entry
  unfold storeAt
  dsimp only
  rw [hget]
  cases hdest : s.slots (container, itemPos.pos.toUInt8) with
  | some itemDest =>
    rw [hdest] at hroom
    have hcount : (itemDest.count + itemPos.count).toNat =
        itemDest.count.toNat + itemPos.count.toNat := by
      have hle : itemDest.count.toNat + itemPos.count.toNat ≤ env.stacking.cap pItem.entry :=
        hroom.2.2
      rw [UInt32.toNat_add]
      exact Nat.mod_eq_of_lt (by omega)
    refine ⟨{ itemDest with count := itemDest.count + itemPos.count }, slots_setItem s _ hslot,
      hroom.1, ?_, ?_⟩
    · rw [Stacking.amount_some_self hroom.1]
      exact hcount
    · intro item hitem
      rw [Option.some.injEq] at hitem
      subst hitem
      refine ⟨rfl, rfl, UInt32.le_iff_toNat_le.mpr ?_⟩
      change itemDest.count.toNat ≤ (itemDest.count + itemPos.count).toNat
      omega
  | none =>
    rw [hdest] at hroom
    cases clone with
    | false =>
      exact ⟨{ pItem with count := itemPos.count }, slots_setItem s _ hslot, rfl,
        (Nat.zero_add _).symm, fun item hitem => absurd hitem (by simp)⟩
    | true =>
      have hpos : ¬ itemPos.count < 1 := by
        rw [UInt32.not_lt, UInt32.le_iff_toNat_le]
        exact hroom.1
      have hmin : min itemPos.count (env.getMaxStackCount pItem) = itemPos.count := by
        refine UInt32.toNat_inj.mp ?_
        rw [UInt32.toNat_min]
        exact Nat.min_eq_left hroom.2
      unfold cloneItem
      simp only [if_true, if_neg hpos, hmin]
      have hslots := slots_setItem { s with nextItemGuid := s.nextItemGuid + 1 }
        (some { pItem with guid := s.nextItemGuid, count := itemPos.count }) hslot
      exact ⟨_, hslots, rfl, (Nat.zero_add _).symm, fun item hitem => absurd hitem (by simp)⟩

theorem storeLoop_stores (htab : container.toNat < s.guild.bankTabs.length)
    (hslots : ∀ itemPos ∈ vec, itemPos.pos.toNat < GUILD_BANK_MAX_SLOTS.toNat)
    (hfit : env.stacking.Fits s.slots pItem.entry (booked container vec)) :
    env.stacking.Stores pItem.entry s.slots (booked container vec)
        (storeLoop env container pItem s vec).slots ∧
      KeepsAll s.slots (storeLoop env container pItem s vec).slots := by
  induction vec generalizing s with
  | nil => exact ⟨Stacking.Stores.nil, fun p item hp => ⟨item, hp, Keeps.refl item⟩⟩
  | cons itemPos vec ih =>
    have hslot : s.guild.HasSlot (container, itemPos.pos.toUInt8) := by
      have hlt : itemPos.pos.toNat < 98 := hslots itemPos List.mem_cons_self
      refine ⟨htab, UInt8.lt_iff_toNat_lt.mpr ?_⟩
      rw [UInt16.toNat_toUInt8]
      exact (Nat.mod_le _ _).trans_lt hlt
    obtain ⟨a, hat, hentry, hcount, hkeep⟩ := storeAt_spec (!vec.isEmpty) hslot
      (hfit.room ((container, itemPos.pos.toUInt8), itemPos.count.toNat) List.mem_cons_self)
    have hframe : SlotsOnly s.guild (storeAt env s container pItem itemPos (!vec.isEmpty)).guild :=
      slotsOnly_storeAt
    have htail := hfit.tail (a := a)
    rw [← hat] at htail
    obtain ⟨hstores, hkeeps⟩ := ih (hframe.tabs ▸ htab)
      (fun p hp => hslots p (List.mem_cons_of_mem _ hp)) htail
    refine ⟨Stacking.Stores.cons hentry hcount ?_, ?_⟩
    · rw [← hat]
      exact hstores
    · intro p item hp
      by_cases hpi : p = (container, itemPos.pos.toUInt8)
      · subst hpi
        obtain ⟨item', hitem', hk⟩ := hkeeps _ a (by rw [hat, Function.update_self])
        exact ⟨item', hitem', (hkeep item hp).trans hk⟩
      · exact hkeeps p item (by rw [hat, Function.update_of_ne hpi, hp])

theorem storeLoop_single (hslot : s.guild.HasSlot (container, slotId))
    (hfree : s.slots (container, slotId) = none) :
    (storeLoop env container pItem s [⟨slotId.toUInt16, pItem.count⟩]).slots =
      Function.update s.slots (container, slotId) (some pItem) := by
  have hget : s.guild.getItem container slotId = none := hfree
  have hslots := slots_setItem s (some pItem) hslot
  simp only [storeLoop, storeAt, UInt8.toUInt8_toUInt16, hget, List.isEmpty_nil, Bool.not_true,
    Bool.false_eq_true, if_false]
  exact hslots

/-! ## 5. Removing -/

theorem bank_updateMemberWithdrawSlots {g : Guild} {player : ObjectGuid} {tabId : UInt8} :
    (g.updateMemberWithdrawSlots player tabId).bankTabs = g.bankTabs := by
  unfold Guild.updateMemberWithdrawSlots
  split
  · split <;> rfl
  · rfl

theorem slots_removeItem (env : MoveEnv Bags) (player : ObjectGuid) (other : MoveItemData)
    (item : Item) (splitedAmount : UInt32) (hslot : s.guild.HasSlot (container, slotId)) :
    (removeItem env s player other item splitedAmount (.bank container slotId)).slots =
        Function.update s.slots (container, slotId)
          (if splitedAmount ≠ 0 then some { item with count := item.count - splitedAmount }
            else none) ∧
      (removeItem env s player other item splitedAmount
        (.bank container slotId)).guild.bankTabs.length = s.guild.bankTabs.length := by
  have hset := slots_setItem s
    (if splitedAmount ≠ 0 then some { item with count := item.count - splitedAmount } else none)
    hslot
  unfold removeItem
  dsimp only
  split
  · exact ⟨hset, slotsOnly_setItem.tabs⟩
  · rename_i htab
    refine ⟨?_, ?_⟩
    · rw [← hset]
      unfold slots Guild.bank Guild.getItem
      rw [bank_updateMemberWithdrawSlots]
    · rw [bank_updateMemberWithdrawSlots]
      exact slotsOnly_setItem.tabs

end Storing

/-! ## 6. The move -/

/-- What a move from the slot `src` to `dest` keeps: how many there are of each entry, the limits
of the stacks, and every item but the one moved, in its slot or, swapped, in the source's. -/
structure Conserves (env : MoveEnv Bags) (src dest : Pos) (b b' : Pos → Option Item) : Prop where
  stock : ∀ entry, env.stacking.stock b' entry = env.stacking.stock b entry
  capped : env.stacking.Capped b'
  kept : ∀ p item, b p = some item → p ≠ src →
    ∃ p' item', b' p' = some item' ∧ Keeps item item' ∧ (p' = p ∨ (p = dest ∧ p' = src))

section Moving

variable {s : MoveState Bags} {player : ObjectGuid} {src dest : Pos} {item destItem : Item}
  {vec destVec srcVec : List ItemPosCount} {splitedAmount : UInt32}

variable {b : Pos → Option Item} {cloned : Item}

theorem Conserves.refl (hcap : env.stacking.Capped b) :
    Conserves env src dest b b where
  stock := fun _ => rfl
  capped := hcap
  kept := fun p item hp _ => ⟨p, item, hp, Keeps.refl item, Or.inl rfl⟩

theorem storeItem_booked (player : ObjectGuid) (hcap : env.stacking.Capped s.slots)
    (htab : dest.1.toNat < s.guild.bankTabs.length)
    (hbooked : Booked env s.slots dest.1 item ⟨vec, 0⟩) :
    let b' := (storeItem env s player item vec (.bank dest.1 dest.2)).slots
    (∀ entry, env.stacking.stock b' entry =
        env.stacking.stock s.slots entry + env.stacking.amount entry (some item)) ∧
      env.stacking.Capped b' ∧ KeepsAll s.slots b' := by
  intro b'
  obtain ⟨hstores, hkeeps⟩ := storeLoop_stores htab hbooked.slots hbooked.fits
  have hb' : b' = (storeLoop env dest.1 item s vec).slots := by
    change (storeItem env s player item vec (.bank dest.1 dest.2)).slots = _
    unfold storeItem
    dsimp only
    rw [if_pos htab]
  rw [hb']
  refine ⟨?_, hstores.capped hbooked.fits hcap, hkeeps⟩
  intro entry
  have hsum : ((booked dest.1 vec).map Prod.snd).sum = item.count.toNat := hbooked.sum
  rw [hstores.stock hbooked.fits, hsum]
  rfl

theorem tab_lt {g : Guild} {container : UInt8} (h : container < g.getPurchasedTabsSize) :
    container.toNat < g.bankTabs.length := by
  have hlt := UInt8.lt_iff_toNat_lt.mp h
  unfold Guild.getPurchasedTabsSize at hlt
  rw [UInt8.toNat_ofNat'] at hlt
  exact hlt.trans_le (Nat.mod_le _ _)

theorem freed_whole : freed s.guild dest.1 dest.2 ⟨item, some src⟩ false =
    Function.update s.slots src none := by
  funext p
  unfold freed
  by_cases hp : p = src
  · subst hp
    simp
  · have hne : ¬ some src = some p := fun he => hp (Option.some.inj he).symm
    rw [Function.update_of_ne hp]
    simp [hne]

theorem freed_clone : freed s.guild dest.1 dest.2 ⟨item, none⟩ false = s.slots := by
  funext p
  simp [freed]

theorem moveWhole_conserves (hcap : env.stacking.Capped s.slots) (hitem : s.slots src = some item)
    (hdest : dest.2 < GUILD_BANK_MAX_SLOTS ∨ dest.2 = NULL_SLOT)
    (hvec : bankCanStore env s.guild dest.1 dest.2 ⟨item, some src⟩ false = .ok vec) :
    Conserves env src dest s.slots (storeItem env
      (removeItem env s player (.bank dest.1 dest.2) item 0 (.bank src.1 src.2))
      player item vec (.bank dest.1 dest.2)).slots := by
  have hpos := count_pos_of_capped hcap hitem
  obtain ⟨htab, hbooked⟩ := bankCanStore_fits hpos hdest hvec
  obtain ⟨hslots, htabs⟩ := slots_removeItem env player (.bank dest.1 dest.2) item 0
    (Guild.hasSlot_of_bank hitem)
  set s₁ := removeItem env s player (.bank dest.1 dest.2) item 0 (.bank src.1 src.2)
  have hslots₁ : s₁.slots = Function.update s.slots src none := hslots
  rw [freed_whole, ← hslots₁] at hbooked
  have hcap₁ : env.stacking.Capped s₁.slots := by
    rw [hslots₁]
    exact hcap.update_none
  obtain ⟨hstock, hcap₂, hkeeps⟩ := storeItem_booked player hcap₁
    (htabs ▸ tab_lt htab) hbooked
  refine ⟨?_, hcap₂, ?_⟩
  · intro entry
    have hupd := Stacking.stock_update (S := env.stacking) (b := s.slots) (i := src)
      (e := entry) none
    rw [hitem, ← hslots₁, Stacking.amount_none] at hupd
    rw [hstock, hupd, Nat.add_zero]
  · intro p item' hp hne
    obtain ⟨item'', hitem'', hk⟩ := hkeeps p item' (by rw [hslots₁, Function.update_of_ne hne, hp])
    exact ⟨p, item'', hitem'', hk, Or.inl rfl⟩

theorem Booked.of_split {container : UInt8} {cloned rest : Item}
    {r : Reservation} (h : Booked env b container cloned r) (hitem : b src = some item)
    (hentry : rest.entry = item.entry) (hcount : rest.count ≤ item.count) :
    Booked env (Function.update b src (some rest)) container cloned r where
  fits := by
    refine h.fits.congr fun p _ hroom => ?_
    by_cases hp : p.1 = src
    · rw [hp, hitem] at hroom
      rw [hp, Function.update_self]
      exact hroom.of_some hentry (UInt32.le_iff_toNat_le.mp hcount)
    · rw [Function.update_of_ne hp]
      exact hroom
  sum := h.sum
  slots := h.slots

theorem movePart_conserves (player : ObjectGuid) (hcap : env.stacking.Capped s.slots)
    (hitem : s.slots src = some item)
    (hdest : dest.2 < GUILD_BANK_MAX_SLOTS ∨ dest.2 = NULL_SLOT)
    (hpos : splitedAmount ≠ 0) (hlt : splitedAmount < item.count)
    (hentry : cloned.entry = item.entry) (hcount : cloned.count = splitedAmount)
    (hvec : bankCanStore env s.guild dest.1 dest.2 ⟨cloned, none⟩ false = .ok vec) :
    let b' := (storeItem env
      (removeItem env s player (.bank dest.1 dest.2) item splitedAmount (.bank src.1 src.2))
      player cloned vec (.bank dest.1 dest.2)).slots
    Conserves env src dest s.slots b' ∧
      ∃ item', b' src = some item' ∧ item'.guid = item.guid := by
  have hposn : 0 < splitedAmount.toNat := Nat.pos_of_ne_zero fun h0 => hpos (UInt32.toNat_inj.mp h0)
  have hltn := UInt32.lt_iff_toNat_lt.mp hlt
  have hsub := UInt32.toNat_sub_of_le _ _ (UInt32.le_of_lt hlt)
  have hclonepos : 0 < cloned.count := by
    rw [hcount]
    exact UInt32.lt_iff_toNat_lt.mpr hposn
  obtain ⟨htab, hbooked⟩ := bankCanStore_fits hclonepos hdest hvec
  obtain ⟨hslots, htabs⟩ := slots_removeItem env player (.bank dest.1 dest.2) item splitedAmount
    (Guild.hasSlot_of_bank hitem)
  rw [if_pos hpos] at hslots
  set s₁ := removeItem env s player (.bank dest.1 dest.2) item splitedAmount (.bank src.1 src.2)
  set rest : Item := { item with count := item.count - splitedAmount }
  have hslots₁ : s₁.slots = Function.update s.slots src (some rest) := hslots
  have hrest : rest.count.toNat = item.count.toNat - splitedAmount.toNat := hsub
  rw [freed_clone] at hbooked
  have hbooked₁ : Booked env s₁.slots dest.1 cloned ⟨vec, 0⟩ := by
    rw [hslots₁]
    refine hbooked.of_split hitem rfl (UInt32.le_iff_toNat_le.mpr ?_)
    omega
  have hitemcap := hcap src item hitem
  have hcap₁ : env.stacking.Capped s₁.slots := by
    rw [hslots₁]
    refine hcap.update_some ?_ ?_
    · change 0 < rest.count.toNat
      omega
    · change rest.count.toNat ≤ env.stacking.cap item.entry
      have hle : item.count.toNat ≤ env.stacking.cap item.entry := hitemcap.2
      omega
  obtain ⟨hstock, hcap₂, hkeeps⟩ := storeItem_booked player hcap₁
    (htabs ▸ tab_lt htab) hbooked₁
  refine ⟨⟨?_, hcap₂, ?_⟩, ?_⟩
  · intro entry
    have hupd := Stacking.stock_update (S := env.stacking) (b := s.slots) (i := src)
      (e := entry) (some rest)
    rw [hitem, ← hslots₁] at hupd
    rw [hstock]
    -- what is stored elsewhere is what the stack has lost
    have hamount : env.stacking.amount entry (some item) =
        env.stacking.amount entry (some rest) + env.stacking.amount entry (some cloned) := by
      by_cases he : item.entry = entry
      · rw [Stacking.amount_some_self (S := env.stacking) he,
          Stacking.amount_some_self (S := env.stacking) (a := rest) he,
          Stacking.amount_some_self (S := env.stacking) (a := cloned) (hentry.trans he)]
        change item.count.toNat = rest.count.toNat + cloned.count.toNat
        rw [hcount]
        omega
      · rw [Stacking.amount_some_ne (S := env.stacking) he,
          Stacking.amount_some_ne (S := env.stacking) (a := rest) he,
          Stacking.amount_some_ne (S := env.stacking) (a := cloned) (hentry.trans_ne he)]
    omega
  · intro p item' hp hne
    obtain ⟨item'', hitem'', hk⟩ := hkeeps p item' (by rw [hslots₁, Function.update_of_ne hne, hp])
    exact ⟨p, item'', hitem'', hk, Or.inl rfl⟩
  · obtain ⟨item', hitem', hk⟩ := hkeeps src rest (by rw [hslots₁, Function.update_self])
    exact ⟨item', hitem', hk.1⟩

theorem conserves_swapped (hcap : env.stacking.Capped b)
    (hitem : b src = some item) (hdestItem : b dest = some destItem) (hne : src ≠ dest) :
    Conserves env src dest b
      (Function.update (Function.update b dest (some item)) src (some destItem)) := by
  have hcap₁ := hcap.update_some (i := dest) (hcap src item hitem).1 (hcap src item hitem).2
  refine ⟨?_, hcap₁.update_some (hcap dest destItem hdestItem).1 (hcap dest destItem hdestItem).2,
    ?_⟩
  · intro entry
    have h₁ := Stacking.stock_update (S := env.stacking) (b := b) (i := dest) (e := entry)
      (some item)
    have h₂ := Stacking.stock_update (S := env.stacking)
      (b := Function.update b dest (some item)) (i := src) (e := entry) (some destItem)
    rw [hdestItem] at h₁
    rw [Function.update_of_ne hne, hitem] at h₂
    omega
  · intro p it hp hpne
    by_cases hpd : p = dest
    · subst hpd
      rw [hdestItem, Option.some.injEq] at hp
      subst hp
      exact ⟨src, destItem, Function.update_self .., Keeps.refl _, Or.inr ⟨rfl, rfl⟩⟩
    · refine ⟨p, it, ?_, Keeps.refl it, Or.inl rfl⟩
      rw [Function.update_of_ne hpne, Function.update_of_ne hpd, hp]

theorem slots_storeItem_single {e : Pos} (hslot : s.guild.HasSlot e) (hfree : s.slots e = none)
    (hvec : vec = [⟨e.2.toUInt16, item.count⟩]) :
    (storeItem env s player item vec (.bank e.1 e.2)).slots =
      Function.update s.slots e (some item) := by
  subst hvec
  unfold storeItem
  dsimp only
  rw [if_pos hslot.1]
  exact storeLoop_single hslot hfree

theorem slotId_ne_null {e : Pos} (h : e.2 < GUILD_BANK_MAX_SLOTS) : e.2 ≠ NULL_SLOT := by
  intro he
  rw [he] at h
  exact absurd h (by decide)

theorem swap_conserves (hcap : env.stacking.Capped s.slots) (hitem : s.slots src = some item)
    (hdestItem : s.slots dest = some destItem) (hne : src ≠ dest)
    (hdestVec : bankCanStore env s.guild dest.1 dest.2 ⟨item, some src⟩ true = .ok destVec)
    (hsrcVec : bankCanStore env s.guild src.1 src.2 ⟨destItem, some dest⟩ true = .ok srcVec) :
    let s₂ := removeItem env
      (removeItem env s player (.bank dest.1 dest.2) item 0 (.bank src.1 src.2))
      player (.bank src.1 src.2) destItem 0 (.bank dest.1 dest.2)
    Conserves env src dest s.slots (storeItem env
      (storeItem env s₂ player item destVec (.bank dest.1 dest.2))
      player destItem srcVec (.bank src.1 src.2)).slots := by
  intro s₂
  have hsrc := Guild.hasSlot_of_bank hitem
  have hdest := Guild.hasSlot_of_bank hdestItem
  have hvec₁ := bankCanStore_free (count_le_of_capped hcap hitem)
    (slotId_ne_null hdest.2) rfl hdestVec
  have hvec₂ := bankCanStore_free (count_le_of_capped hcap hdestItem)
    (slotId_ne_null hsrc.2) rfl hsrcVec
  obtain ⟨hslots₁, htabs₁⟩ := slots_removeItem env player (.bank dest.1 dest.2) item 0 hsrc
  have hdest₁ : (removeItem env s player (.bank dest.1 dest.2) item 0
      (.bank src.1 src.2)).guild.HasSlot dest := ⟨htabs₁ ▸ hdest.1, hdest.2⟩
  obtain ⟨hslots₂, htabs₂⟩ := slots_removeItem env player (.bank src.1 src.2) destItem 0 hdest₁
  have hslots : s₂.slots = Function.update (Function.update s.slots src none) dest none :=
    hslots₂.trans (congrArg (fun b => Function.update b dest none) hslots₁)
  have htabs : s₂.guild.bankTabs.length = s.guild.bankTabs.length := htabs₂.trans htabs₁
  have hstore₁ : (storeItem env s₂ player item destVec (.bank dest.1 dest.2)).slots =
      Function.update s₂.slots dest (some item) := by
    refine slots_storeItem_single ⟨htabs ▸ hdest.1, hdest.2⟩ ?_ hvec₁
    rw [hslots, Function.update_self]
  have hframe : SlotsOnly s₂.guild (storeItem env s₂ player item destVec
      (.bank dest.1 dest.2)).guild := slotsOnly_storeItem
  have hstore₂ : (storeItem env (storeItem env s₂ player item destVec (.bank dest.1 dest.2))
      player destItem srcVec (.bank src.1 src.2)).slots =
        Function.update (Function.update s₂.slots dest (some item)) src (some destItem) := by
    rw [← hstore₁]
    refine slots_storeItem_single ⟨hframe.tabs.trans htabs ▸ hsrc.1, hsrc.2⟩ ?_ hvec₂
    rw [hstore₁, hslots, Function.update_of_ne hne, Function.update_of_ne hne,
      Function.update_self]
  have hresult : Function.update (Function.update s₂.slots dest (some item)) src (some destItem) =
      Function.update (Function.update s.slots dest (some item)) src (some destItem) := by
    rw [hslots, Function.update_idem, Function.update_comm hne, Function.update_idem]
  rw [hstore₂, hresult]
  exact conserves_swapped hcap hitem hdestItem hne

theorem moveWhole_self (hcap : env.stacking.Capped s.slots) (hitem : s.slots src = some item)
    (hvec : bankCanStore env s.guild src.1 src.2 ⟨item, some src⟩ false = .ok vec) :
    (storeItem env (removeItem env s player (.bank src.1 src.2) item 0 (.bank src.1 src.2))
      player item vec (.bank src.1 src.2)).slots src = some item := by
  have hsrc := Guild.hasSlot_of_bank hitem
  have hfree : (if false = true then none else itemDest s.guild src.1 src.2 ⟨item, some src⟩) =
      none := if_pos rfl
  have hsingle := bankCanStore_free (count_le_of_capped hcap hitem) (slotId_ne_null hsrc.2) hfree
    hvec
  obtain ⟨hslots, htabs⟩ := slots_removeItem env player (.bank src.1 src.2) item 0 hsrc
  rw [slots_storeItem_single ⟨htabs ▸ hsrc.1, hsrc.2⟩ ?_ hsingle, Function.update_self]
  rw [hslots]
  exact Function.update_self ..

theorem doItemsMove_merged {e : MoveItemData} {pItem pSrcItem : ItemPtr}
    (h : bankCanStore env s.guild dest.1 dest.2 pSrcItem false = .ok vec) :
    (doItemsMove env s player e (.bank dest.1 dest.2) pItem pSrcItem none splitedAmount).1 =
      .moved := by
  have hcan : canStore env s player pSrcItem false (.bank dest.1 dest.2) = .ok vec := h
  unfold doItemsMove
  rw [Option.isSome_none, hcan]

theorem checkItem_spec {n : UInt32} (h : checkItem item splitedAmount = some n) :
    (n = 0 ∧ ¬ splitedAmount < item.count) ∨ (n = splitedAmount ∧ n < item.count) := by
  unfold checkItem at h
  split at h
  · exact absurd h (by simp)
  rename_i hle
  split at h
  · rename_i heq
    rw [Option.some.injEq] at h
    left
    refine ⟨h.symm, ?_⟩
    rw [heq]
    exact UInt32.lt_irrefl _
  · rename_i hne
    rw [Option.some.injEq] at h
    subst h
    right
    exact ⟨rfl, UInt32.lt_of_le_of_ne (UInt32.not_lt.mp hle) hne⟩

/-- The item in the source's slot is still there, if part of its stack is split off or the slot is
also the destination. -/
def Stays (src dest : Pos) (splitedAmount : UInt32) (b b' : Pos → Option Item) : Prop :=
  ∀ item, b src = some item →
    (dest = src ∨ (0 < splitedAmount ∧ splitedAmount < item.count)) →
      ∃ item', b' src = some item' ∧ item'.guid = item.guid

theorem Stays.refl : Stays src dest splitedAmount b b :=
  fun item h _ => ⟨item, h, rfl⟩

/-- What a move between two slots of the bank does to them, whether it succeeds or not. -/
structure MoveKeeps (env : MoveEnv Bags) (src dest : Pos) (splitedAmount : UInt32)
    (s : MoveState Bags) (out : MoveResult × MoveState Bags) : Prop where
  conserves : Conserves env src dest s.slots out.2.slots
  stays : Stays src dest splitedAmount s.slots out.2.slots
  failed : out.1 = .failed → out.2.guild = s.guild

theorem MoveKeeps.fail (hcap : env.stacking.Capped s.slots) {s' : MoveState Bags}
    (h : s'.guild = s.guild) : MoveKeeps env src dest splitedAmount s (.failed, s') := by
  have hslots : s'.slots = s.slots := congrArg Guild.bank h
  refine ⟨?_, ?_, fun _ => h⟩
  · rw [hslots]
    exact Conserves.refl hcap
  · rw [hslots]
    exact Stays.refl

theorem cloneItem_spec {s₁ : MoveState Bags} (hcap : splitedAmount ≤ env.getMaxStackCount item)
    (h : cloneItem env s item splitedAmount = (some cloned, s₁)) :
    s₁.guild = s.guild ∧ cloned.entry = item.entry ∧ cloned.count = splitedAmount := by
  unfold cloneItem at h
  split at h
  · exact absurd (congrArg Prod.fst h) (by simp)
  · rw [Prod.mk.injEq, Option.some.injEq] at h
    obtain ⟨rfl, rfl⟩ := h
    refine ⟨rfl, rfl, UInt32.toNat_inj.mp ?_⟩
    rw [UInt32.toNat_min]
    exact Nat.min_eq_left (UInt32.le_iff_toNat_le.mp hcap)

theorem splitMove_keeps {s₁ : MoveState Bags}
    (hcap : env.stacking.Capped s.slots) (hitem : s.slots src = some item)
    (hdest : dest.2 < GUILD_BANK_MAX_SLOTS ∨ dest.2 = NULL_SLOT)
    (hpos : splitedAmount ≠ 0) (hlt : splitedAmount < item.count)
    (hclone : cloneItem env s item splitedAmount = (some cloned, s₁)) :
    MoveKeeps env src dest splitedAmount s
      (doItemsMove env s₁ player (.bank src.1 src.2) (.bank dest.1 dest.2) ⟨item, some src⟩
        ⟨cloned, none⟩ none splitedAmount) := by
  obtain ⟨hguild, hentry, hcount⟩ := cloneItem_spec
    (UInt32.le_trans (UInt32.le_of_lt hlt) (count_le_of_capped hcap hitem)) hclone
  have hslots : s₁.slots = s.slots := congrArg Guild.bank hguild
  rw [← hslots] at hcap hitem
  unfold doItemsMove
  split
  · exact MoveKeeps.fail (hslots ▸ hcap) hguild
  · rename_i destVec hvec hnone
    obtain ⟨hconserves, hstays⟩ := movePart_conserves player hcap hitem hdest hpos hlt
      hentry hcount hvec
    refine ⟨?_, ?_, ?_⟩
    · rw [← hslots]
      exact hconserves
    · intro item' hitem' _
      rw [← hslots, hitem, Option.some.injEq] at hitem'
      subst hitem'
      exact hstays
    · intro h
      exact absurd h (by simp)
  · rename_i hsome
    exact absurd hsome (by simp)

theorem wholeMove_keeps (hcap : env.stacking.Capped s.slots) (hitem : s.slots src = some item)
    (hdest : dest.2 < GUILD_BANK_MAX_SLOTS ∨ dest.2 = NULL_SLOT)
    (hall : ¬ (0 < splitedAmount ∧ splitedAmount < item.count)) :
    MoveKeeps env src dest splitedAmount s
      (doItemsMove env s player (.bank src.1 src.2) (.bank dest.1 dest.2) ⟨item, some src⟩
        ⟨item, some src⟩ none 0) := by
  unfold doItemsMove
  split
  · exact MoveKeeps.fail hcap rfl
  · rename_i destVec hvec hnone
    refine ⟨moveWhole_conserves hcap hitem hdest hvec, ?_, ?_⟩
    · intro item' hitem' hwhere
      rw [hitem, Option.some.injEq] at hitem'
      subst hitem'
      have hsame := hwhere.resolve_right hall
      subst hsame
      exact ⟨item, moveWhole_self hcap hitem hvec, rfl⟩
    · intro h
      exact absurd h (by simp)
  · rename_i hsome
    exact absurd hsome (by simp)

theorem swapItems_keeps (hcap : env.stacking.Capped s.slots) (hitem : s.slots src = some item)
    (hall : ¬ (0 < splitedAmount ∧ splitedAmount < item.count))
    (hmerge : (doItemsMove env s player (.bank src.1 src.2) (.bank dest.1 dest.2)
      ⟨item, some src⟩ ⟨item, some src⟩ none 0).1 = .failed) :
    MoveKeeps env src dest splitedAmount s
      (swapItems env s player (.bank src.1 src.2) (.bank dest.1 dest.2) ⟨item, some src⟩) := by
  unfold swapItems
  cases hinit : initItem env s player (.bank dest.1 dest.2) with
  | none => exact MoveKeeps.fail hcap rfl
  | some pDestItem =>
    obtain ⟨destItem, hdestItem, rfl⟩ := Option.map_eq_some_iff.mp hinit
    dsimp only
    split
    · exact MoveKeeps.fail hcap rfl
    split
    · exact MoveKeeps.fail hcap rfl
    unfold doItemsMove
    split
    · exact MoveKeeps.fail hcap rfl
    · rename_i hnone
      exact absurd hnone (by simp)
    · rename_i destVec pDestItem hvec hsome
      rw [Option.some.injEq] at hsome
      subst hsome
      dsimp only
      -- an item cannot fail to merge with its own slot and then be swapped with itself
      have hne : src ≠ dest := by
        intro hsame
        subst hsame
        have hself : bankCanStore env s.guild src.1 src.2 ⟨item, some src⟩ false = .ok destVec :=
          (bankCanStore_self env s.guild rfl).symm.trans hvec
        rw [doItemsMove_merged hself] at hmerge
        exact absurd hmerge (by simp)
      split
      · exact MoveKeeps.fail hcap rfl
      · rename_i srcVec hsrcVec
        refine ⟨swap_conserves hcap hitem hdestItem hne hvec hsrcVec, ?_, ?_⟩
        · intro item' hitem' hwhere
          rw [hitem, Option.some.injEq] at hitem'
          subst hitem'
          exact absurd (hwhere.resolve_right hall).symm hne
        · intro h
          exact absurd h (by simp)

/-- **Item moves within the bank keep what is in it.**  Whatever the member's rights: for each
entry there are as many as before, no stack is empty or above its limit, no item in a destination
slot is lost, and a move that fails has changed nothing. -/
theorem moveItems_keeps (env : MoveEnv Bags) (s : MoveState Bags) (player : ObjectGuid)
    (src dest : Pos) (splitedAmount : UInt32) (hcap : env.stacking.Capped s.slots)
    (hdest : dest.2 < GUILD_BANK_MAX_SLOTS ∨ dest.2 = NULL_SLOT) :
    MoveKeeps env src dest splitedAmount s
      (moveItems env s player (.bank src.1 src.2) (.bank dest.1 dest.2) splitedAmount) := by
  unfold moveItems
  cases hinit : initItem env s player (.bank src.1 src.2) with
  | none => exact MoveKeeps.fail hcap rfl
  | some pItem =>
    obtain ⟨item, hitem, rfl⟩ := Option.map_eq_some_iff.mp hinit
    dsimp only
    cases hcheck : checkItem item splitedAmount with
    | none => exact MoveKeeps.fail hcap rfl
    | some n =>
      dsimp only
      split
      · exact MoveKeeps.fail hcap rfl
      split
      · exact MoveKeeps.fail hcap rfl
      split
      · -- part of the stack
        rename_i hpos
        obtain ⟨hzero, -⟩ | ⟨rfl, hlt⟩ := checkItem_spec hcheck
        · exact absurd hzero hpos
        split
        · rename_i s₁ hclone
          have hguild : (cloneItem env s item n).2.guild = s.guild := cloneItem_guild
          rw [hclone] at hguild
          exact MoveKeeps.fail hcap hguild
        · rename_i cloned s₁ hclone
          exact splitMove_keeps hcap hitem hdest hpos hlt hclone
      · -- the whole stack
        rename_i hzero
        have hall : ¬ (0 < splitedAmount ∧ splitedAmount < item.count) := by
          rintro ⟨hpos, hlt⟩
          obtain ⟨-, hnot⟩ | ⟨rfl, -⟩ := checkItem_spec hcheck
          · exact hnot hlt
          · rw [not_not] at hzero
            subst hzero
            exact UInt32.lt_irrefl 0 hpos
        split
        · rename_i s₁ hmove
          have hs := doItemsMove_failed hmove
          subst hs
          exact swapItems_keeps hcap hitem hall (congrArg Prod.fst hmove)
        · exact wholeMove_keeps hcap hitem hdest hall

end Moving

/-! ### A bank with two stacks -/

/-- Every item stacks up to twenty; there are no bags. -/
def pouchEnv : MoveEnv Unit where
  getItemTemplate := fun _ => ⟨20⟩
  initItem := fun _ _ _ _ => none
  canStoreItem := fun _ _ _ _ _ _ => .error (.ofBag 0)
  setCount := fun bags _ _ _ _ => bags
  moveItemFromInventory := fun bags _ _ _ => bags
  moveItemToInventory := fun bags _ _ _ => bags

/-- Fifteen and ten of one entry, in the first two slots of the only tab. -/
def twoStacks : UInt8 → Option Item
  | 0 => some ⟨101, 7, 15, false⟩
  | 1 => some ⟨102, 7, 10, false⟩
  | _ => none

/-- The guild master of a guild whose bank holds the two stacks. -/
def pouch : MoveState Unit where
  guild := ⟨1, [], [Member.new 1 "Thrall" GR_GUILDMASTER], [⟨twoStacks⟩], 0⟩
  bags := ()
  nextItemGuid := 200

theorem pouch_capped : pouchEnv.stacking.Capped pouch.slots := by
  intro p item hp
  obtain ⟨tab, htab, hitem⟩ := Option.bind_eq_some_iff.mp hp
  have htab' : tab = ⟨twoStacks⟩ :=
    List.mem_singleton.mp (List.mem_of_getElem? htab)
  subst htab'
  unfold BankTab.getItem at hitem
  split at hitem
  · change twoStacks p.2 = some item at hitem
    unfold twoStacks at hitem
    split at hitem
    · rw [Option.some.injEq] at hitem
      subst hitem
      decide
    · rw [Option.some.injEq] at hitem
      subst hitem
      decide
    · exact absurd hitem (by simp)
  · exact absurd hitem (by simp)

/-- Moving the first stack onto the second fills it, and leaves the rest where it was. -/
theorem pouch_keeps :
    (moveItems pouchEnv pouch 1 (.bank 0 0) (.bank 0 1) 0).1 = .moved ∧
      MoveKeeps pouchEnv (0, 0) (0, 1) 0 pouch
        (moveItems pouchEnv pouch 1 (.bank 0 0) (.bank 0 1) 0) :=
  ⟨by decide, moveItems_keeps pouchEnv pouch 1 (0, 0) (0, 1) 0 pouch_capped (Or.inl (by decide))⟩

end MoveState

end FunPvp.Guilds
