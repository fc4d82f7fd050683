/-
# When there is no room

`CanStoreItem` goes from pass to pass until everything has a place, and says that the inventory is
full when the last pass has left something. A pass skips the slot and the bag that the call was
for, because they have been looked at before anything else. But within the bags the number of the
slot is all that is compared: with a slot of one bag given, the slots of the same number are
skipped in every other bag.
-/
import FunPvp.Lib.Passes
import FunPvp.Items.Slots

namespace FunPvp.Items

open FunPvp.Lib

namespace Inventory

/-! ## 1. Room -/

section Room

variable (env : Env) (inv : Inventory) (pProto : ItemTemplate) (pItem : Option ItemOrBag)

/-- There is a stack at a position; the moved item counts as gone. -/
def occupied (p : Pos) : Bool := (inv.itemBut env pItem p).isSome

/-- What a position has space for: the rest of a stack of the entry, or a stack in an empty slot. -/
def space (p : Pos) : ℕ := (inv.spaceAt env pProto (inv.occupied env pItem p) pItem p).getD 0

/-- There is a bag, other than the moved item, and the item can go into it. -/
def bagTakes (bag : ℕ) : Bool :=
  (inv.getBagByPos env bag).any fun pBag =>
    !isItem pItem pBag.toItem && (pBag.getTemplate env).any fun t => itemCanGoIntoBag pProto t

/-- One of the player's own slots is for the item: one of the backpack, or one for keys or tokens
that has a stack or is for this kind of item. -/
def slotTakes (occ : Bool) (slot : ℕ) : Prop :=
  (INVENTORY_SLOT_ITEM_START ≤ slot ∧ slot < INVENTORY_SLOT_ITEM_END) ∨
    (KEYRING_SLOT_START ≤ slot ∧ slot < CURRENCYTOKEN_SLOT_END ∧
      (occ = true ∨
        if pProto.isKey then slot < KEYRING_SLOT_END
        else pProto.isCurrencyToken = true ∧ CURRENCYTOKEN_SLOT_START ≤ slot))

instance (occ : Bool) (slot : ℕ) : Decidable (slotTakes pProto occ slot) := by
  unfold slotTakes
  infer_instance

/-- A stack can be put on another one. -/
def mayStack (p : Pos) : Prop := inv.occupied env pItem p = true → pProto.Stackable ≠ 1

instance (p : Pos) : Decidable (inv.mayStack env pProto pItem p) := by
  unfold mayStack
  infer_instance

/-- **The positions of the inventory the item may occupy.** -/
def MayHold (p : Pos) : Prop :=
  inv.mayStack env pProto pItem p ∧
    ((p.bag = INVENTORY_SLOT_BAG_0 ∧ slotTakes pProto (inv.occupied env pItem p) p.slot) ∨
      (p.bag ∈ inventoryBags ∧ inv.bagTakes env pProto pItem p.bag = true ∧
        p ∈ inv.bagSlots env p.bag))

instance (p : Pos) : Decidable (inv.MayHold env pProto pItem p) := by
  unfold MayHold
  infer_instance

/-- The item is not moved at all: it is a loot, is bound to somebody else, or is a bag with
something in it. -/
def stays : Bool :=
  pItem.any (·.lootGenerated) || (pItem.any fun it => it.isBindedNotWith env inv.guid) ||
    pItem.any (·.isNotEmptyBag env)

/-- **The free room for an entry.** -/
def room : ℕ :=
  if inv.stays env pItem then 0
  else ∑ p ∈ places with inv.MayHold env pProto pItem p, inv.space env pProto pItem p

variable (bag slot : ℕ)

/-- What the slot that is given is taken to have space for. -/
def specificSpace (swap : Bool) : ℕ :=
  if bag ≠ NULL_BAG ∧ slot ≠ NULL_SLOT then
    if swap then pProto.getMaxStackSize
    else
      match inv.itemBut env pItem ⟨bag, slot⟩ with
      | none => pProto.getMaxStackSize
      | some item2 => pProto.getMaxStackSize - item2.count
  else 0

/-- The positions that are looked at once the slot that is given has been: the player's own slots;
in the bags that are worn, and in the bag that is given, the slots of another number; and for a key
the tokens' slots too, if the bag is the player himself. -/
def LooksAt (p : Pos) : Prop :=
  inv.mayStack env pProto pItem p ∧ p ≠ ⟨bag, slot⟩ ∧
    ((p.bag = INVENTORY_SLOT_BAG_0 ∧
        (slotTakes pProto (inv.occupied env pItem p) p.slot ∨
          (bag = INVENTORY_SLOT_BAG_0 ∧ pProto.isKey = true ∧ CURRENCYTOKEN_SLOT_START ≤ p.slot ∧
            p.slot < CURRENCYTOKEN_SLOT_END))) ∨
      ((p.bag ∈ inventoryBags ∨ (p.bag = bag ∧ bag ≠ NULL_BAG)) ∧
        inv.bagTakes env pProto pItem p.bag = true ∧ p ∈ inv.bagSlots env p.bag ∧ p.slot ≠ slot))

instance (p : Pos) : Decidable (inv.LooksAt env pProto pItem bag slot p) := by
  unfold LooksAt
  infer_instance

def seenRoom (swap : Bool) : ℕ :=
  inv.specificSpace env pProto pItem bag slot swap +
    ∑ p ∈ places with inv.LooksAt env pProto pItem bag slot p, inv.space env pProto pItem p

end Room

/-! ## 2. A pass -/

section Passes

variable {env : Env} {inv : Inventory} {pProto : ItemTemplate} {pItem : Option ItemOrBag} {p : Pos}
  {merge : Bool} {need : ℕ} {r r₀ : Reserve} {V : Set Pos}

theorem spaceAt_of_ne (h : inv.occupied env pItem p ≠ merge) :
    inv.spaceAt env pProto merge pItem p = none := by
  unfold occupied at h
  unfold spaceAt
  cases hitem : inv.itemBut env pItem p with
  | none =>
    rw [hitem] at h
    cases merge with
    | true => rfl
    | false => exact absurd rfl h
  | some item2 =>
    rw [hitem] at h
    cases merge with
    | true => exact absurd rfl h
    | false => rfl

theorem spaceAt_pos (h : inv.spaceAt env pProto merge pItem p = some need) : 0 < need := by
  unfold spaceAt at h
  split at h
  · split at h
    · rename_i hmerge
      have hlt := (Item.canBeMergedPartlyWith_eq_ok.mp hmerge).2.2
      cases h
      omega
    · cases h
  · cases h
    exact pProto.getMaxStackSize_pos
  · cases h

theorem space_of_spaceAt (h : inv.spaceAt env pProto merge pItem p = some need) :
    inv.occupied env pItem p = merge ∧ inv.space env pProto pItem p = need := by
  have hmerge : inv.occupied env pItem p = merge := by
    by_contra hne
    rw [spaceAt_of_ne hne] at h
    cases h
  refine ⟨hmerge, ?_⟩
  rw [space, hmerge, h]
  rfl

noncomputable def roomIn (env : Env) (inv : Inventory) (pProto : ItemTemplate)
    (pItem : Option ItemOrBag) (V : Set Pos) : ℕ :=
  ∑ p ∈ places, V.indicator (inv.space env pProto pItem) p

theorem roomIn_mono {W : Set Pos} (h : V ⊆ W) :
    inv.roomIn env pProto pItem V ≤ inv.roomIn env pProto pItem W :=
  Finset.sum_le_sum fun p _ => Set.indicator_le_indicator_of_subset h (fun _ => Nat.zero_le _) p

theorem roomIn_insert (hp : p ∈ places) (hnew : p ∉ V) :
    inv.roomIn env pProto pItem (insert p V) =
      inv.space env pProto pItem p + inv.roomIn env pProto pItem V := by
  have hsplit : ∀ q, (insert p V).indicator (inv.space env pProto pItem) q =
      (if p = q then inv.space env pProto pItem q else 0) +
        V.indicator (inv.space env pProto pItem) q := by
    intro q
    by_cases hq : p = q
    · subst hq
      rw [if_pos rfl, Set.indicator_of_mem (Set.mem_insert p V), Set.indicator_of_notMem hnew,
        Nat.add_zero]
    · rw [if_neg hq, Nat.zero_add]
      by_cases hV : q ∈ V
      · rw [Set.indicator_of_mem (Set.mem_insert_of_mem p hV), Set.indicator_of_mem hV]
      · rw [Set.indicator_of_notMem hV, Set.indicator_of_notMem]
        rintro (rfl | hmem)
        · exact hq rfl
        · exact hV hmem
  rw [roomIn, Finset.sum_congr rfl fun q _ => hsplit q, Finset.sum_add_distrib,
    Finset.sum_ite_eq places p, if_pos hp, roomIn]

/-- How the search stands once the positions of `V` have been looked at: what they have room for is
reserved, from `r₀` on, and something is left. -/
structure Covers (env : Env) (inv : Inventory) (pProto : ItemTemplate) (pItem : Option ItemOrBag)
    (r₀ : Reserve) (V : Set Pos) (r : Reserve) : Prop where
  count_add : r.count + inv.roomIn env pProto pItem V = r₀.count
  pos : 0 < r.count
  has_iff : ∀ p ∈ places, r.has p = true ↔
    r₀.has p = true ∨ (p ∈ V ∧ 0 < inv.space env pProto pItem p)

/-- How the search has ended: there has been room for everything. -/
def Ends (env : Env) (inv : Inventory) (pProto : ItemTemplate) (pItem : Option ItemOrBag)
    (r₀ : Reserve) (V : Set Pos) (c : CanStore) : Prop :=
  c.msg = .OK ∧ r₀.count ≤ inv.roomIn env pProto pItem V

theorem Ends.mono (V K : Set Pos) (c : CanStore) (h : Ends env inv pProto pItem r₀ V c) :
    Ends env inv pProto pItem r₀ (V ∪ K) c :=
  ⟨h.1, h.2.trans (roomIn_mono Set.subset_union_left)⟩

theorem has_push (r : Reserve) (p q : Pos) (need : ℕ) :
    (r.push p need).has q = true ↔ r.has q = true ∨ p = q := by
  unfold Reserve.push
  split
  · rename_i hp
    constructor
    · exact Or.inl
    · rintro (h | rfl)
      · exact h
      · exact hp
  · simp [Reserve.has]

theorem Covers.insert_of_eq (h : Covers env inv pProto pItem r₀ V r) (hp : p ∈ places)
    (hzero : p ∈ V ∨ inv.space env pProto pItem p = 0) :
    Covers env inv pProto pItem r₀ (insert p V) r := by
  by_cases hmem : p ∈ V
  · rw [Set.insert_eq_of_mem hmem]
    exact h
  have hspace := hzero.resolve_left hmem
  refine ⟨?_, h.pos, fun q hq => ?_⟩
  · rw [roomIn_insert hp hmem, hspace, Nat.zero_add]
    exact h.count_add
  · rw [h.has_iff q hq, Set.mem_insert_iff]
    constructor
    · rintro (hr | ⟨hV, hpos⟩)
      · exact Or.inl hr
      · exact Or.inr ⟨Or.inr hV, hpos⟩
    · rintro (hr | ⟨rfl | hV, hpos⟩)
      · exact Or.inl hr
      · omega
      · exact Or.inr ⟨hV, hpos⟩

theorem Covers.push (h : Covers env inv pProto pItem r₀ V r) (hp : p ∈ places)
    (hnew : ¬ r.has p = true) (hspace : inv.space env pProto pItem p = need) (hneed : 0 < need) :
    if (r.push p need).count = 0 then r₀.count ≤ inv.roomIn env pProto pItem (insert p V)
    else Covers env inv pProto pItem r₀ (insert p V) (r.push p need) := by
  have hmem : p ∉ V := fun hV =>
    hnew ((h.has_iff p hp).mpr (Or.inr ⟨hV, hspace ▸ hneed⟩))
  have hcount : (r.push p need).count = r.count - min need r.count := by
    rw [Reserve.push, if_neg hnew]
  have hadd := h.count_add
  have hpos := h.pos
  rw [hcount, roomIn_insert hp hmem, hspace]
  split
  · omega
  · refine ⟨?_, by rw [hcount]; omega, fun q hq => ?_⟩
    · rw [hcount, roomIn_insert hp hmem, hspace]
      omega
    · rw [has_push, h.has_iff q hq, Set.mem_insert_iff]
      constructor
      · rintro ((hr | ⟨hV, hq'⟩) | rfl)
        · exact Or.inl hr
        · exact Or.inr ⟨Or.inr hV, hq'⟩
        · exact Or.inr ⟨Or.inl rfl, hspace ▸ hneed⟩
      · rintro (hr | ⟨rfl | hV, hq'⟩)
        · exact Or.inl (Or.inl hr)
        · exact Or.inr rfl
        · exact Or.inl (Or.inr ⟨hV, hq'⟩)

theorem union_cons {ps : List Pos} (hmerge : inv.occupied env pItem p = merge) :
    V ∪ {q | q ∈ p :: ps ∧ inv.occupied env pItem q = merge} =
      insert p V ∪ {q | q ∈ ps ∧ inv.occupied env pItem q = merge} := by
  ext q
  simp only [Set.mem_union, Set.mem_insert_iff, Set.mem_ofPred_eq, List.mem_cons]
  constructor
  · rintro (hV | ⟨rfl | hq, ho⟩)
    · exact Or.inl (Or.inr hV)
    · exact Or.inl (Or.inl rfl)
    · exact Or.inr ⟨hq, ho⟩
  · rintro ((rfl | hV) | ⟨hq, ho⟩)
    · exact Or.inr ⟨Or.inl rfl, hmerge⟩
    · exact Or.inl hV
    · exact Or.inr ⟨Or.inr hq, ho⟩

/-- A part of the search looks at the positions `K`. -/
abbrev Finds (env : Env) (inv : Inventory) (pProto : ItemTemplate) (pItem : Option ItemOrBag)
    (r₀ : Reserve) (K : Set Pos) (m : Reserve → Except CanStore Reserve) : Prop :=
  Searches (Covers env inv pProto pItem r₀) (Ends env inv pProto pItem r₀) K m

theorem searches_scanSlots (merge : Bool) (ps : List Pos) (hplaces : ∀ p ∈ ps, p ∈ places)
    (hnew : ∀ p ∈ ps, r₀.has p = false) :
    Finds env inv pProto pItem r₀
      {p | p ∈ ps ∧ inv.occupied env pItem p = merge}
      (fun r => ended 0 (inv.scanSlots env pProto merge pItem ps r)) := by
  have hscan : ∀ (ps : List Pos), (∀ p ∈ ps, p ∈ places) → (∀ p ∈ ps, r₀.has p = false) →
      ∀ (V : Set Pos) (r : Reserve), Covers env inv pProto pItem r₀ V r →
      if (inv.scanSlots env pProto merge pItem ps r).count = 0 then
        r₀.count ≤ inv.roomIn env pProto pItem
          (V ∪ {p | p ∈ ps ∧ inv.occupied env pItem p = merge})
      else Covers env inv pProto pItem r₀ (V ∪ {p | p ∈ ps ∧ inv.occupied env pItem p = merge})
        (inv.scanSlots env pProto merge pItem ps r) := by
    intro ps
    induction ps with
    | nil =>
      intro _ _ V r h
      have hempty : V ∪ {p | p ∈ ([] : List Pos) ∧ inv.occupied env pItem p = merge} = V := by
        ext p
        simp
      rw [hempty, scanSlots, if_neg h.pos.ne']
      exact h
    | cons p ps ih =>
      intro hplaces hnew V r h
      have hp := hplaces p List.mem_cons_self
      have hrest := ih (fun q hq => hplaces q (List.mem_cons_of_mem _ hq))
        (fun q hq => hnew q (List.mem_cons_of_mem _ hq))
      rw [scanSlots]
      cases hspace : inv.spaceAt env pProto merge pItem p with
      | none =>
        dsimp only
        by_cases hmerge : inv.occupied env pItem p = merge
        · rw [union_cons hmerge]
          refine hrest _ r (h.insert_of_eq hp (Or.inr ?_))
          rw [space, hmerge, hspace]
          rfl
        · have hset : {q | q ∈ p :: ps ∧ inv.occupied env pItem q = merge} =
              {q | q ∈ ps ∧ inv.occupied env pItem q = merge} := by
            ext q
            simp only [Set.mem_ofPred_eq, List.mem_cons]
            constructor
            · rintro ⟨rfl | hq, ho⟩
              · exact absurd ho hmerge
              · exact ⟨hq, ho⟩
            · rintro ⟨hq, ho⟩
              exact ⟨Or.inr hq, ho⟩
          rw [hset]
          exact hrest V r h
      | some need =>
        obtain ⟨hmerge, hneed⟩ := space_of_spaceAt hspace
        rw [union_cons hmerge]
        dsimp only
        split
        · rename_i hhas
          refine hrest _ r (h.insert_of_eq hp (Or.inl ?_))
          rcases (h.has_iff p hp).mp hhas with hr | ⟨hV, -⟩
          · rw [hnew p List.mem_cons_self] at hr
            cases hr
          · exact hV
        · rename_i hhas
          have hpush := h.push hp hhas hneed (spaceAt_pos hspace)
          split
          · rename_i hzero
            rw [if_pos hzero] at hpush
            exact hpush.trans (roomIn_mono Set.subset_union_left)
          · rename_i hzero
            rw [if_neg hzero] at hpush
            exact hrest _ _ hpush
  intro V r h
  have hend := hscan ps hplaces hnew V r h
  dsimp only
  unfold ended
  by_cases hzero : (inv.scanSlots env pProto merge pItem ps r).count = 0
  · rw [if_pos hzero] at hend
    simp only [if_pos hzero]
    exact ⟨rfl, hend⟩
  · rw [if_neg hzero] at hend
    simp only [if_neg hzero]
    exact hend

/-! ## 3. The passes of `CanStoreItem` -/

variable {bag slot i a b : ℕ} {non_specialized : Bool} {skip_bag : ℕ}

def plainBag (env : Env) (inv : Inventory) (bag : ℕ) : Bool :=
  (inv.getBagByPos env bag).any fun pBag => (pBag.getTemplate env).any (·.isPlainContainer)

theorem isNotEmptyBag_of_stays (h : inv.stays env pItem = false) :
    pItem.any (·.isNotEmptyBag env) = false := by
  rw [stays, Bool.or_eq_false_iff] at h
  exact h.2

theorem canStoreItem_InBag_neg (merge : Bool) (slot : ℕ)
    (h : ¬ (i ≠ skip_bag ∧ inv.bagTakes env pProto pItem i = true ∧
      inv.plainBag env i = non_specialized)) (r : Reserve) :
    ∃ res, res ≠ .OK ∧ inv.canStoreItem_InBag env i pProto merge non_specialized pItem skip_bag slot
      r = (res, r) := by
  unfold canStoreItem_InBag
  unfold bagTakes plainBag at h
  by_cases hskip : i = skip_bag
  · exact ⟨_, by decide, if_pos hskip⟩
  rw [if_neg hskip]
  cases hbag : inv.getBagByPos env i with
  | none => exact ⟨_, by decide, rfl⟩
  | some pBag =>
    rw [hbag] at h
    dsimp only
    by_cases hself : isItem pItem pBag.toItem = true
    · exact ⟨_, by decide, if_pos hself⟩
    rw [if_neg hself]
    by_cases hempty : pItem.any (·.isNotEmptyBag env) = true
    · exact ⟨_, by decide, if_pos hempty⟩
    rw [if_neg hempty]
    cases htemplate : pBag.getTemplate env with
    | none => exact ⟨_, by decide, rfl⟩
    | some t =>
      dsimp only
      by_cases hplain : non_specialized ≠ t.isPlainContainer
      · exact ⟨_, by decide, if_pos hplain⟩
      rw [if_neg hplain]
      by_cases hfits : itemCanGoIntoBag pProto t = true
      · refine absurd ⟨hskip, ?_, ?_⟩ h
        · simp only [Option.any_some, htemplate, Bool.and_eq_true, Bool.not_eq_true']
          exact ⟨by simpa using hself, hfits⟩
        · simp only [Option.any_some, htemplate]
          exact (not_not.mp hplain).symm
      · exact ⟨_, by decide, if_pos hfits⟩

theorem canStoreItem_InBag_pos (hstay : inv.stays env pItem = false) (hskip : i ≠ skip_bag)
    (htakes : inv.bagTakes env pProto pItem i = true)
    (hplain : inv.plainBag env i = non_specialized) (r : Reserve) :
    inv.canStoreItem_InBag env i pProto merge non_specialized pItem skip_bag slot r =
      (.OK, inv.scanSlots env pProto merge pItem
        ((inv.bagSlots env i).filter fun p => p.slot ≠ slot) r) := by
  have hempty := isNotEmptyBag_of_stays hstay
  unfold canStoreItem_InBag bagSlots
  unfold bagTakes at htakes
  unfold plainBag at hplain
  rw [if_neg hskip]
  cases hbag : inv.getBagByPos env i with
  | none =>
    rw [hbag] at htakes
    cases htakes
  | some pBag =>
    rw [hbag, Option.any_some] at htakes hplain
    obtain ⟨hself, hfits⟩ := Bool.and_eq_true_iff.mp htakes
    dsimp only
    rw [if_neg (by simpa using hself), if_neg (by rw [hempty]; decide)]
    cases htemplate : pBag.getTemplate env with
    | none =>
      rw [htemplate] at hfits
      cases hfits
    | some t =>
      rw [htemplate, Option.any_some] at hfits hplain
      dsimp only
      rw [if_neg (by rw [hplain]; exact fun hne => hne rfl), if_neg (by rw [hfits]; decide)]

theorem bagFamily_of_special (htakes : inv.bagTakes env pProto pItem i = true)
    (hplain : inv.plainBag env i = false) : pProto.BagFamily ≠ 0 := by
  intro hzero
  unfold bagTakes at htakes
  unfold plainBag at hplain
  cases hbag : inv.getBagByPos env i with
  | none =>
    rw [hbag] at htakes
    cases htakes
  | some pBag =>
    rw [hbag, Option.any_some] at htakes hplain
    cases htemplate : pBag.getTemplate env with
    | none => simp [htemplate] at htakes
    | some t =>
      rw [htemplate, Option.any_some] at htakes hplain
      simp [itemCanGoIntoBag, ItemTemplate.inFamily, hplain, hzero] at htakes

theorem bagFamily_of_inFamily {mask : UInt32} (h : pProto.inFamily mask = true) :
    pProto.BagFamily ≠ 0 := by
  intro hzero
  simp [ItemTemplate.inFamily, hzero] at h

section Chain

variable (hstay : inv.stays env pItem = false)
  (hr₀ : ∀ p ∈ places, r₀.has p = true → p = ⟨bag, slot⟩)

include hstay hr₀

theorem searches_inSlots (hb : b ≤ PLAYER_SLOT_END) :
    Finds env inv pProto pItem r₀
      {p | p.bag = INVENTORY_SLOT_BAG_0 ∧ (a ≤ p.slot ∧ p.slot < b) ∧ p ≠ ⟨bag, slot⟩ ∧
        inv.occupied env pItem p = merge}
      (inv.inSlots env bag slot pProto pItem 0 a b merge) := by
  have hplaces : ∀ p ∈ slotsOf INVENTORY_SLOT_BAG_0 a b, p ∈ places := by
    intro p hp
    obtain ⟨hbag, -, hlt⟩ := mem_slotsOf.mp hp
    rw [places, List.mem_toFinset, List.mem_append, mem_slotsOf]
    exact Or.inl ⟨hbag, Nat.zero_le _, hlt.trans_le hb⟩
  have hiff : ∀ p, p ∈ (slotsOf INVENTORY_SLOT_BAG_0 a b).filter (fun p =>
      ¬ (INVENTORY_SLOT_BAG_0 = bag ∧ p.slot = slot)) ↔
      p.bag = INVENTORY_SLOT_BAG_0 ∧ (a ≤ p.slot ∧ p.slot < b) ∧ p ≠ ⟨bag, slot⟩ := by
    intro p
    obtain ⟨c, j⟩ := p
    rw [List.mem_filter, mem_slotsOf, decide_eq_true_eq]
    constructor
    · rintro ⟨⟨rfl, hrange⟩, hskip⟩
      refine ⟨rfl, hrange, fun heq => hskip ?_⟩
      obtain ⟨rfl, rfl⟩ := Pos.mk.inj heq
      exact ⟨rfl, rfl⟩
    · rintro ⟨rfl, hrange, hne⟩
      refine ⟨⟨rfl, hrange⟩, fun heq => hne ?_⟩
      exact Pos.mk.injEq .. ▸ heq
  have hscan : Finds env inv pProto pItem r₀ _ _ :=
    searches_scanSlots merge ((slotsOf INVENTORY_SLOT_BAG_0 a b).filter fun p =>
      ¬ (INVENTORY_SLOT_BAG_0 = bag ∧ p.slot = slot))
    (fun p hp => hplaces p (List.mem_of_mem_filter hp)) (fun p hp => by
      by_contra hhas
      exact ((hiff p).mp hp).2.2
        (hr₀ p (hplaces p (List.mem_of_mem_filter hp)) (by simpa using hhas)))
  refine (hscan.congr fun r => ?_).of_eq ?_
  · unfold inSlots strict canStoreItem_InInventorySlots
    simp only [isNotEmptyBag_of_stays hstay, Bool.false_eq_true, if_false, ne_eq,
      not_true_eq_false]
  · ext p
    rw [Set.mem_ofPred_eq, Set.mem_ofPred_eq, hiff]
    tauto

omit hstay in
theorem searches_bagSlots (i : ℕ) (merge : Bool) :
    Finds env inv pProto pItem r₀
      {p | p ∈ inv.bagSlots env i ∧ p.slot ≠ slot ∧ inv.occupied env pItem p = merge}
      (fun r => ended 0 (inv.scanSlots env pProto merge pItem
        ((inv.bagSlots env i).filter fun p => p.slot ≠ slot) r)) := by
  have hscan : Finds env inv pProto pItem r₀ _ _ :=
    searches_scanSlots merge ((inv.bagSlots env i).filter fun p => p.slot ≠ slot)
    (fun p hp => mem_places_of_bagSlots (List.mem_of_mem_filter hp)) (fun p hp => by
      by_contra hhas
      have hp₀ := hr₀ p (mem_places_of_bagSlots (List.mem_of_mem_filter hp)) (by simpa using hhas)
      have hslot := (List.mem_filter.mp hp).2
      rw [hp₀] at hslot
      simp at hslot)
  refine hscan.of_eq ?_
  ext p
  simp only [Set.mem_ofPred_eq, List.mem_filter, decide_eq_true_eq, and_assoc]

theorem searches_inBag (i : ℕ) (merge non_specialized : Bool) :
    Finds env inv pProto pItem r₀
      {p | (i ≠ bag ∧ inv.bagTakes env pProto pItem i = true ∧
        inv.plainBag env i = non_specialized) ∧
        p ∈ inv.bagSlots env i ∧ p.slot ≠ slot ∧ inv.occupied env pItem p = merge}
      (fun r => tolerant 0 (inv.canStoreItem_InBag env i pProto merge non_specialized pItem bag slot
        r)) := by
  by_cases h : i ≠ bag ∧ inv.bagTakes env pProto pItem i = true ∧
      inv.plainBag env i = non_specialized
  · refine ((searches_bagSlots hr₀ i merge).congr fun r => ?_).of_eq ?_
    · rw [canStoreItem_InBag_pos hstay h.1 h.2.1 h.2.2, tolerant]
      simp only [ne_eq, not_true_eq_false, if_false]
    · ext p
      simp only [Set.mem_ofPred_eq, and_iff_right h]
  · refine (Searches.ok.congr fun r => ?_).of_eq ?_
    · obtain ⟨res, hres, heq⟩ := canStoreItem_InBag_neg merge slot h r
      rw [heq, tolerant, if_pos hres]
    · ext p
      simp only [Set.mem_ofPred_eq, Set.mem_empty_iff_false, iff_false]
      exact fun hp => h hp.1

theorem searches_inBags (merge non_specialized : Bool) :
    Finds env inv pProto pItem r₀
      {p | p.bag ∈ inventoryBags ∧ p.bag ≠ bag ∧ inv.bagTakes env pProto pItem p.bag = true ∧
        inv.plainBag env p.bag = non_specialized ∧ p ∈ inv.bagSlots env p.bag ∧ p.slot ≠ slot ∧
        inv.occupied env pItem p = merge}
      (inv.inBags env bag slot pProto pItem 0 merge non_specialized) := by
  refine (Searches.foldlM Ends.mono inventoryBags fun i _ =>
    searches_inBag hstay hr₀ i merge non_specialized).of_eq ?_
  ext p
  simp only [Set.mem_ofPred_eq]
  constructor
  · rintro ⟨hbag, hne, htakes, hplain, hslots, hslot, ho⟩
    exact ⟨p.bag, hbag, ⟨hne, htakes, hplain⟩, hslots, hslot, ho⟩
  · rintro ⟨i, hi, ⟨hne, htakes, hplain⟩, hslots, hslot, ho⟩
    obtain ⟨rfl, -⟩ := mem_bagSlots.mp hslots
    exact ⟨hi, hne, htakes, hplain, hslots, hslot, ho⟩

theorem searches_inEitherBag (hbag : bag ≠ NULL_BAG)
    (htakes : inv.bagTakes env pProto pItem bag = true) (merge : Bool) :
    Finds env inv pProto pItem r₀
      {p | p ∈ inv.bagSlots env bag ∧ p.slot ≠ slot ∧ inv.occupied env pItem p = merge}
      (fun r => strict 0 (inv.inEitherBag env bag pProto merge pItem slot r)) := by
  refine (searches_bagSlots hr₀ bag merge).congr fun r => ?_
  have heither : inv.inEitherBag env bag pProto merge pItem slot r =
      (.OK, inv.scanSlots env pProto merge pItem
        ((inv.bagSlots env bag).filter fun p => p.slot ≠ slot) r) := by
    unfold inEitherBag
    cases hplain : inv.plainBag env bag with
    | false =>
      rw [canStoreItem_InBag_pos hstay hbag htakes hplain]
      simp only [ne_eq, not_true_eq_false, if_false]
    | true =>
      have hspecial : ¬ (bag ≠ NULL_BAG ∧ inv.bagTakes env pProto pItem bag = true ∧
          inv.plainBag env bag = false) := by
        rw [hplain]
        exact fun h => absurd h.2.2 (by decide)
      obtain ⟨res, hres, heq⟩ := canStoreItem_InBag_neg merge slot hspecial r
      rw [heq]
      simp only [if_pos hres]
      exact canStoreItem_InBag_pos hstay hbag htakes hplain r
  rw [heither, strict]
  simp only [ne_eq, not_true_eq_false, if_false]

theorem searches_inInventory :
    Finds env inv pProto pItem r₀
      {p | inv.mayStack env pProto pItem p ∧ p ≠ ⟨bag, slot⟩ ∧ p.bag = INVENTORY_SLOT_BAG_0 ∧
        (slotTakes pProto (inv.occupied env pItem p) p.slot ∨
          (pProto.isKey = true ∧ CURRENCYTOKEN_SLOT_START ≤ p.slot ∧
            p.slot < CURRENCYTOKEN_SLOT_END))}
      (inv.inInventory env bag slot pProto pItem 0) := by
  have own : ∀ a b merge, b ≤ PLAYER_SLOT_END → Finds env inv pProto pItem r₀ _ (inv.inSlots env bag slot pProto pItem 0 a b merge) :=
    fun a b merge hb => searches_inSlots hstay hr₀ hb
  have htokens := own CURRENCYTOKEN_SLOT_START CURRENCYTOKEN_SLOT_END false (by decide)
  have hmerge := Searches.ite (c := pProto.Stackable ≠ 1)
    ((own KEYRING_SLOT_START CURRENCYTOKEN_SLOT_END true (by decide)).bind Ends.mono
      (own INVENTORY_SLOT_ITEM_START INVENTORY_SLOT_ITEM_END true (by decide))) Searches.ok
  have hspecial := Searches.ite (c := pProto.isKey = true)
    ((own KEYRING_SLOT_START KEYRING_SLOT_END false (by decide)).bind Ends.mono htokens)
    (Searches.ite (c := pProto.isCurrencyToken = true) htokens Searches.ok)
  have hfree := own INVENTORY_SLOT_ITEM_START INVENTORY_SLOT_ITEM_END false (by decide)
  refine ((hmerge.bind Ends.mono (hspecial.bind Ends.mono hfree)).congr fun r => ?_).of_eq ?_
  · unfold inInventory
    dsimp only
    split_ifs <;> simp only [bind_assoc]
  · clear * -
    ext p
    split_ifs <;>
      simp only [Set.mem_union, Set.mem_ofPred_eq, Set.mem_empty_iff_false, mayStack, slotTakes,
        INVENTORY_SLOT_ITEM_START, INVENTORY_SLOT_ITEM_END, KEYRING_SLOT_START, KEYRING_SLOT_END,
        CURRENCYTOKEN_SLOT_START, CURRENCYTOKEN_SLOT_END] <;>
      cases inv.occupied env pItem p <;> grind

theorem searches_inEquippedBag (hbag : bag ≠ NULL_BAG)
    (htakes : inv.bagTakes env pProto pItem bag = true) :
    Finds env inv pProto pItem r₀
      {p | inv.mayStack env pProto pItem p ∧ p ∈ inv.bagSlots env bag ∧ p.slot ≠ slot}
      (inv.inEquippedBag env bag slot pProto pItem 0) := by
  have hmerge := Searches.ite (c := pProto.Stackable ≠ 1)
    (searches_inEitherBag hstay hr₀ hbag htakes true) Searches.ok
  have hfree := searches_inEitherBag hstay hr₀ hbag htakes false
  refine ((hmerge.bind Ends.mono hfree).congr fun r => ?_).of_eq ?_
  · unfold inEquippedBag
    dsimp only
    split_ifs <;> rfl
  · clear * -
    ext p
    split_ifs <;>
      simp only [Set.mem_union, Set.mem_ofPred_eq, Set.mem_empty_iff_false, mayStack] <;>
      cases inv.occupied env pItem p <;> grind

theorem searches_searchStack :
    Finds env inv pProto pItem r₀
      {p | (pProto.Stackable ≠ 1 ∧ inv.occupied env pItem p = true) ∧
        ((p.bag = INVENTORY_SLOT_BAG_0 ∧ p ≠ ⟨bag, slot⟩ ∧ slotTakes pProto true p.slot) ∨
          (p.bag ∈ inventoryBags ∧ p.bag ≠ bag ∧ inv.bagTakes env pProto pItem p.bag = true ∧
            p ∈ inv.bagSlots env p.bag ∧ p.slot ≠ slot))}
      (inv.searchStack env bag slot pProto pItem 0) := by
  have own : ∀ a b, b ≤ PLAYER_SLOT_END → Finds env inv pProto pItem r₀ _ (inv.inSlots env bag slot pProto pItem 0 a b true) :=
    fun a b hb => searches_inSlots hstay hr₀ hb
  have worn : ∀ non_specialized, Finds env inv pProto pItem r₀ _
      (inv.inBags env bag slot pProto pItem 0 true non_specialized) :=
    fun non_specialized => searches_inBags hstay hr₀ true non_specialized
  have hspecial := Searches.ite (c := pProto.BagFamily ≠ 0) (worn false) Searches.ok
  have hall := (own KEYRING_SLOT_START CURRENCYTOKEN_SLOT_END (by decide)).bind Ends.mono
    ((own INVENTORY_SLOT_ITEM_START INVENTORY_SLOT_ITEM_END (by decide)).bind Ends.mono
      (hspecial.bind Ends.mono (worn true)))
  refine ((Searches.ite (c := pProto.Stackable ≠ 1) hall Searches.ok).congr fun r => ?_).of_eq ?_
  · unfold searchStack
    dsimp only
    split_ifs <;> rfl
  · have hfamily : ∀ i, inv.bagTakes env pProto pItem i = true → inv.plainBag env i = false →
        pProto.BagFamily ≠ 0 := fun i => bagFamily_of_special
    clear * - hfamily
    ext p
    have hp := hfamily p.bag
    split_ifs <;>
      simp only [Set.mem_union, Set.mem_ofPred_eq, Set.mem_empty_iff_false, slotTakes,
        INVENTORY_SLOT_ITEM_START, INVENTORY_SLOT_ITEM_END, KEYRING_SLOT_START, KEYRING_SLOT_END,
        CURRENCYTOKEN_SLOT_START, CURRENCYTOKEN_SLOT_END] <;>
      cases inv.occupied env pItem p <;> cases hplain : inv.plainBag env p.bag <;> grind

theorem searches_searchFree :
    Finds env inv pProto pItem r₀
      {p | inv.occupied env pItem p = false ∧
        ((p.bag = INVENTORY_SLOT_BAG_0 ∧ p ≠ ⟨bag, slot⟩ ∧ slotTakes pProto false p.slot) ∨
          (p.bag ∈ inventoryBags ∧ p.bag ≠ bag ∧ inv.bagTakes env pProto pItem p.bag = true ∧
            p ∈ inv.bagSlots env p.bag ∧ p.slot ≠ slot))}
      (fun r => inv.searchSpecialBag env bag slot pProto pItem 0 r >>= fun r =>
        inv.searchFreeSlot env bag slot pProto pItem 0 r) := by
  have own : ∀ a b, b ≤ PLAYER_SLOT_END → Finds env inv pProto pItem r₀ _ (inv.inSlots env bag slot pProto pItem 0 a b false) :=
    fun a b hb => searches_inSlots hstay hr₀ hb
  have worn : ∀ non_specialized, Finds env inv pProto pItem r₀ _
      (inv.inBags env bag slot pProto pItem 0 false non_specialized) :=
    fun non_specialized => searches_inBags hstay hr₀ false non_specialized
  have hslots := Searches.ite (c := pProto.isKey = true)
    (own KEYRING_SLOT_START KEYRING_SLOT_END (by decide))
    (Searches.ite (c := pProto.isCurrencyToken = true)
      (own CURRENCYTOKEN_SLOT_START CURRENCYTOKEN_SLOT_END (by decide)) Searches.ok)
  have hspecial := Searches.ite (c := pProto.BagFamily ≠ 0)
    (hslots.bind Ends.mono (worn false)) Searches.ok
  have hplain := (own INVENTORY_SLOT_ITEM_START INVENTORY_SLOT_ITEM_END (by decide)).bind Ends.mono
    (worn true)
  refine ((hspecial.bind Ends.mono hplain).congr fun r => ?_).of_eq ?_
  · unfold searchSpecialBag searchFreeSlot
    simp only [isNotEmptyBag_of_stays hstay, Bool.false_eq_true, if_false]
    split_ifs <;> rfl
  · have hfamily : ∀ i, inv.bagTakes env pProto pItem i = true → inv.plainBag env i = false →
        pProto.BagFamily ≠ 0 := fun i => bagFamily_of_special
    have hkey : pProto.isKey = true → pProto.BagFamily ≠ 0 := bagFamily_of_inFamily
    have htoken : pProto.isCurrencyToken = true → pProto.BagFamily ≠ 0 := bagFamily_of_inFamily
    clear * - hfamily hkey htoken
    ext p
    have hp := hfamily p.bag
    split_ifs <;>
      simp only [Set.mem_union, Set.mem_ofPred_eq, Set.mem_empty_iff_false, slotTakes,
        INVENTORY_SLOT_ITEM_START, INVENTORY_SLOT_ITEM_END, KEYRING_SLOT_START, KEYRING_SLOT_END,
        CURRENCYTOKEN_SLOT_START, CURRENCYTOKEN_SLOT_END] <;>
      cases inv.occupied env pItem p <;> cases hplain : inv.plainBag env p.bag <;> grind

theorem searches_all (hbag : bag = NULL_BAG ∨ bag = INVENTORY_SLOT_BAG_0 ∨
    inv.bagTakes env pProto pItem bag = true) :
    Finds env inv pProto pItem r₀
      {p | inv.LooksAt env pProto pItem bag slot p}
      (fun r => inv.inSpecificBag env bag slot pProto pItem 0 r >>= fun r =>
        inv.searchStack env bag slot pProto pItem 0 r >>= fun r =>
          inv.searchSpecialBag env bag slot pProto pItem 0 r >>= fun r =>
            inv.searchFreeSlot env bag slot pProto pItem 0 r) := by
  have hstack : Finds env inv pProto pItem r₀ _
      (inv.searchStack env bag slot pProto pItem 0) := searches_searchStack hstay hr₀
  have hrest := hstack.bind Ends.mono (searches_searchFree hstay hr₀)
  have hnull : inv.bagTakes env pProto pItem INVENTORY_SLOT_BAG_0 = false := by
    rw [bagTakes, getBagByPos_bag0]
    rfl
  have hslots : ∀ p : Pos, p.slot ≠ slot → p ≠ ⟨bag, slot⟩ := by
    rintro p hne rfl
    exact hne rfl
  by_cases hnone : bag = NULL_BAG
  · refine ((Searches.ok.bind Ends.mono hrest).congr fun r => ?_).of_eq ?_
    · rw [inSpecificBag, if_pos hnone]
    · have hworn : ∀ p : Pos, p.bag ∈ inventoryBags → p.bag ≠ bag := by
        rintro p hp rfl
        rw [hnone] at hp
        exact absurd hp (by decide)
      clear * - hslots hnone hworn
      ext p
      have hp := hslots p
      have hp' := hworn p
      simp only [Set.mem_union, Set.mem_ofPred_eq, Set.mem_empty_iff_false, LooksAt, mayStack,
        NULL_BAG, INVENTORY_SLOT_BAG_0] at hnone ⊢
      cases inv.occupied env pItem p <;> grind
  by_cases hown : bag = INVENTORY_SLOT_BAG_0
  · refine (((searches_inInventory hstay hr₀).bind Ends.mono hrest).congr fun r => ?_).of_eq ?_
    · rw [inSpecificBag, if_neg hnone, if_pos hown]
    · clear * - hslots hnone hown hnull
      ext p
      have hp := hslots p
      have hworn : p.bag ∈ inventoryBags → p.bag ≠ INVENTORY_SLOT_BAG_0 := by
        intro hmem heq
        rw [heq] at hmem
        exact absurd hmem (by decide)
      have htakes : p.bag = INVENTORY_SLOT_BAG_0 → inv.bagTakes env pProto pItem p.bag = false := by
        intro heq
        rw [heq, hnull]
      simp only [Set.mem_union, Set.mem_ofPred_eq, LooksAt, mayStack]
      cases inv.occupied env pItem p <;> grind
  · have htakes := (hbag.resolve_left hnone).resolve_left hown
    refine (((searches_inEquippedBag hstay hr₀ hnone htakes).bind Ends.mono hrest).congr
      fun r => ?_).of_eq ?_
    · rw [inSpecificBag, if_neg hnone, if_neg hown]
    · clear * - hslots hnone hown htakes
      ext p
      have hp := hslots p
      have hmem : p ∈ inv.bagSlots env bag → p.bag = bag := fun h => (mem_bagSlots.mp h).1
      simp only [Set.mem_union, Set.mem_ofPred_eq, LooksAt, mayStack]
      by_cases hsame : p.bag = bag
      · rw [hsame]
        cases inv.occupied env pItem p <;> grind
      · cases inv.occupied env pItem p <;> grind

end Chain

theorem roomIn_eq (bag slot : ℕ) :
    inv.roomIn env pProto pItem {p | inv.LooksAt env pProto pItem bag slot p} =
      ∑ p ∈ places with inv.LooksAt env pProto pItem bag slot p, inv.space env pProto pItem p := by
  rw [Finset.sum_filter, roomIn]
  refine Finset.sum_congr rfl fun p _ => ?_
  by_cases hp : inv.LooksAt env pProto pItem bag slot p
  · rw [if_pos hp]
    exact Set.indicator_of_mem (s := {p | inv.LooksAt env pProto pItem bag slot p}) hp _
  · rw [if_neg hp]
    exact Set.indicator_of_notMem (s := {p | inv.LooksAt env pProto pItem bag slot p}) hp _

/-! ## 4. The slot that is given -/

theorem canStoreItem_InSpecificSlot_cases (swap : Bool) (r : Reserve) :
    (inv.canStoreItem_InSpecificSlot env ⟨bag, slot⟩ pProto swap pItem r).1 ≠ .OK ∨
      inv.canStoreItem_InSpecificSlot env ⟨bag, slot⟩ pProto swap pItem r =
        (.OK, r.push ⟨bag, slot⟩ (if swap then pProto.getMaxStackSize
          else match inv.itemBut env pItem ⟨bag, slot⟩ with
            | none => pProto.getMaxStackSize
            | some item2 => pProto.getMaxStackSize - item2.count)) := by
  have hin : (canStoreItem_InSpecificSlot.inSlot env inv pProto ⟨bag, slot⟩ r).1 ≠ .OK ∨
      canStoreItem_InSpecificSlot.inSlot env inv pProto ⟨bag, slot⟩ r =
        (.OK, r.push ⟨bag, slot⟩ pProto.getMaxStackSize) := by
    unfold canStoreItem_InSpecificSlot.inSlot
    split
    · split_ifs
      · exact Or.inl nofun
      · exact Or.inl nofun
      · exact Or.inl nofun
      · exact Or.inr rfl
    split
    · exact Or.inl nofun
    split
    · exact Or.inl nofun
    · split_ifs
      · exact Or.inl nofun
      · exact Or.inr rfl
      · exact Or.inl nofun
  unfold canStoreItem_InSpecificSlot
  dsimp only
  by_cases hempty : pItem.any (·.isNotEmptyBag env) = true ∧ ¬ Pos.isBagPos ⟨bag, slot⟩ = true
  · rw [if_pos hempty]
    exact Or.inl nofun
  rw [if_neg hempty]
  cases swap with
  | true =>
    simp only [if_true]
    exact hin
  | false =>
    simp only [Bool.false_eq_true, if_false]
    cases inv.itemBut env pItem ⟨bag, slot⟩ with
    | none => exact hin
    | some item2 =>
      dsimp only
      by_cases hres : item2.canBeMergedPartlyWith pProto ≠ .OK
      · rw [if_pos hres]
        exact Or.inl hres
      · rw [if_neg hres]
        exact Or.inr rfl

variable {count : ℕ} {swap : Bool}

theorem inSpecificSlot_cases (hcount : 0 < count) :
    (∃ c, inv.inSpecificSlot env bag slot pProto pItem 0 swap ⟨[], count⟩ = .error c ∧
        (c.msg = .OK → count ≤ inv.specificSpace env pProto pItem bag slot swap)) ∨
      ∃ r, inv.inSpecificSlot env bag slot pProto pItem 0 swap ⟨[], count⟩ = .ok r ∧
        r.count + inv.specificSpace env pProto pItem bag slot swap = count ∧ 0 < r.count ∧
          ∀ p, r.has p = true → p = ⟨bag, slot⟩ := by
  unfold inSpecificSlot specificSpace
  by_cases hgiven : bag ≠ NULL_BAG ∧ slot ≠ NULL_SLOT
  · rw [if_pos hgiven, if_pos hgiven]
    rcases @canStoreItem_InSpecificSlot_cases env inv pProto pItem bag slot swap ⟨[], count⟩ with
      hres | heq
    · refine Or.inl ⟨_, if_pos hres, fun hok => absurd hok hres⟩
    · rw [heq]
      generalize hspace : (if swap then pProto.getMaxStackSize
        else match inv.itemBut env pItem ⟨bag, slot⟩ with
          | none => pProto.getMaxStackSize
          | some item2 => pProto.getMaxStackSize - item2.count) = need
      have hnew : ¬ Reserve.has ⟨[], count⟩ ⟨bag, slot⟩ = true := by simp [Reserve.has]
      have hpush : (Reserve.push ⟨[], count⟩ ⟨bag, slot⟩ need).count = count - min need count := by
        rw [Reserve.push, if_neg hnew]
      rw [strict]
      simp only [ne_eq, not_true_eq_false, if_false]
      rw [ended]
      by_cases hzero : (Reserve.push ⟨[], count⟩ ⟨bag, slot⟩ need).count = 0
      · rw [if_pos hzero]
        refine Or.inl ⟨_, rfl, fun _ => ?_⟩
        omega
      · rw [if_neg hzero]
        refine Or.inr ⟨_, rfl, by omega, by omega, fun p hp => ?_⟩
        rcases (has_push _ _ _ _).mp hp with h | h
        · simp [Reserve.has] at h
        · exact h.symm
  · rw [if_neg hgiven, if_neg hgiven]
    exact Or.inr ⟨_, rfl, rfl, hcount, fun p hp => by simp [Reserve.has] at hp⟩

/-! ## 5. When `CanStoreItem` says that the inventory is full -/

/-- The stages for the slot and the bag that are given do not refuse the item. -/
def Accepts (env : Env) (inv : Inventory) (bag slot : ℕ) (pProto : ItemTemplate)
    (pItem : Option ItemOrBag) (count : ℕ) (swap : Bool) : Prop :=
  ∀ c, (inv.inSpecificSlot env bag slot pProto pItem 0 swap ⟨[], count⟩ >>= fun r =>
    inv.inSpecificBag env bag slot pProto pItem 0 r) = .error c → c.msg = .OK

/-- There is no limit to how many one carries. -/
def Unlimited (pProto : ItemTemplate) : Prop :=
  (pProto.MaxCount ≤ 0 ∧ pProto.ItemLimitCategory = 0) ∨ pProto.MaxCount = 2147483647

instance (pProto : ItemTemplate) : Decidable (Unlimited pProto) := by
  unfold Unlimited
  infer_instance

theorem inSpecificBag_refuses (hnone : bag ≠ NULL_BAG) (hown : bag ≠ INVENTORY_SLOT_BAG_0)
    (htakes : ¬ inv.bagTakes env pProto pItem bag = true) (r : Reserve) :
    ∃ c, inv.inSpecificBag env bag slot pProto pItem 0 r = .error c ∧ c.msg ≠ .OK := by
  have heither : ∀ merge r, ∃ res, res ≠ .OK ∧
      inv.inEitherBag env bag pProto merge pItem slot r = (res, r) := by
    intro merge r
    have hneg : ∀ non_specialized, ¬ (bag ≠ NULL_BAG ∧
        inv.bagTakes env pProto pItem bag = true ∧
        inv.plainBag env bag = non_specialized) := fun _ h => htakes h.2.1
    obtain ⟨res, hres, heq⟩ := canStoreItem_InBag_neg merge slot (hneg false) r
    obtain ⟨res', hres', heq'⟩ := canStoreItem_InBag_neg merge slot (hneg true) r
    refine ⟨res', hres', ?_⟩
    unfold inEitherBag
    rw [heq]
    simp only [if_pos hres]
    exact heq'
  have hstrict : ∀ merge r, ∃ c,
      strict 0 (inv.inEitherBag env bag pProto merge pItem slot r) = .error c ∧ c.msg ≠ .OK := by
    intro merge r
    obtain ⟨res, hres, heq⟩ := heither merge r
    rw [heq]
    exact ⟨_, if_pos hres, hres⟩
  rw [inSpecificBag, if_neg hnone, if_neg hown]
  unfold inEquippedBag
  dsimp only
  split_ifs
  · obtain ⟨c, hc, hmsg⟩ := hstrict true r
    exact ⟨c, by rw [hc]; rfl, hmsg⟩
  · exact hstrict false r

def ofSearch : Except CanStore Reserve → CanStore
  | .error c => c
  | .ok r => ⟨.INVENTORY_FULL, r.dest, r.count⟩

theorem msg_eq_full_iff {entry : ℕ} (ht : env.getItemTemplate entry = some pProto)
    (hlimit : Unlimited pProto) (hcount : 0 < count)
    (haccepts : Accepts env inv bag slot pProto pItem count swap)
    (hstay : inv.stays env pItem = false) :
    (inv.canStoreItemOf env bag slot [] entry count pItem swap).msg = .INVENTORY_FULL ↔
      inv.seenRoom env pProto pItem bag slot swap < count := by
  obtain ⟨hgone, -⟩ := Bool.or_eq_false_iff.mp hstay
  obtain ⟨hloot, hbound⟩ := Bool.or_eq_false_iff.mp hgone
  have hsimilar : inv.canTakeMoreSimilarItems env entry count pItem = (.OK, 0) := by
    unfold canTakeMoreSimilarItems
    rw [ht]
    dsimp only
    rw [if_neg (by rw [hloot]; decide)]
    exact if_pos hlimit
  have hsearch : inv.canStoreItemOf env bag slot [] entry count pItem swap =
      ofSearch (inv.search env bag slot pProto pItem 0 swap ⟨[], count⟩) := by
    unfold canStoreItemOf
    rw [ht]
    dsimp only
    rw [if_neg (by rw [hloot]; decide), if_neg (by rw [hbound]; decide), hsimilar]
    rfl
  have hsplit : inv.search env bag slot pProto pItem 0 swap ⟨[], count⟩ =
      (inv.inSpecificSlot env bag slot pProto pItem 0 swap ⟨[], count⟩ >>= fun r =>
        inv.inSpecificBag env bag slot pProto pItem 0 r >>= fun r =>
          inv.searchStack env bag slot pProto pItem 0 r >>= fun r =>
            inv.searchSpecialBag env bag slot pProto pItem 0 r >>= fun r =>
              inv.searchFreeSlot env bag slot pProto pItem 0 r) := rfl
  rw [hsearch, hsplit, seenRoom]
  rcases @inSpecificSlot_cases env inv pProto pItem bag slot count swap hcount with
    ⟨c, hc, hroom⟩ | ⟨r₀, hr, hadd, hpos, hhas⟩
  · have hok := haccepts c (by rw [hc]; rfl)
    have hle := hroom hok
    rw [hc]
    change c.msg = _ ↔ _
    rw [hok]
    exact iff_of_false (by simp) (by omega)
  · have hgiven : bag = NULL_BAG ∨ bag = INVENTORY_SLOT_BAG_0 ∨
        inv.bagTakes env pProto pItem bag = true := by
      by_contra hno
      push Not at hno
      obtain ⟨c, hc, hmsg⟩ :=
        @inSpecificBag_refuses env inv pProto pItem bag slot hno.1 hno.2.1 hno.2.2 r₀
      exact hmsg (haccepts c (by rw [hr]; exact hc))
    have hstart : Covers env inv pProto pItem r₀ ∅ r₀ := by
      refine ⟨?_, hpos, fun p _ => ?_⟩
      · simp [roomIn]
      · simp
    have hall := searches_all hstay (fun p _ => hhas p) hgiven ∅ r₀ hstart
    rw [Set.empty_union] at hall
    rw [hr]
    change (ofSearch (inv.inSpecificBag env bag slot pProto pItem 0 r₀ >>= fun r =>
        inv.searchStack env bag slot pProto pItem 0 r >>= fun r =>
          inv.searchSpecialBag env bag slot pProto pItem 0 r >>= fun r =>
            inv.searchFreeSlot env bag slot pProto pItem 0 r)).msg = _ ↔ _
    revert hall
    dsimp only
    cases (inv.inSpecificBag env bag slot pProto pItem 0 r₀ >>= fun r =>
        inv.searchStack env bag slot pProto pItem 0 r >>= fun r =>
          inv.searchSpecialBag env bag slot pProto pItem 0 r >>= fun r =>
            inv.searchFreeSlot env bag slot pProto pItem 0 r) with
    | error c =>
      rintro ⟨hok, hle⟩
      rw [roomIn_eq] at hle
      change c.msg = _ ↔ _
      rw [hok]
      exact iff_of_false (by simp) (by omega)
    | ok r =>
      intro hcovers
      have hcount' := hcovers.count_add
      have hpos' := hcovers.pos
      rw [roomIn_eq] at hcount'
      exact iff_of_true rfl (by omega)

/-- **When `CanStoreItem` finds the room there is.**  It never says that the inventory is full where
there is room for all, exactly if it is not so that the free room is enough, and what is looked at
is not. -/
theorem canStoreItemOf_finds_room_iff {entry : ℕ} (ht : env.getItemTemplate entry = some pProto)
    (hlimit : Unlimited pProto) (hcount : 0 < count)
    (haccepts : Accepts env inv bag slot pProto pItem count swap) :
    ((inv.canStoreItemOf env bag slot [] entry count pItem swap).msg = .INVENTORY_FULL →
        inv.room env pProto pItem < count) ↔
      ¬ (inv.seenRoom env pProto pItem bag slot swap < count ∧
        count ≤ inv.room env pProto pItem) := by
  cases hstay : inv.stays env pItem with
  | true =>
    have hroom : inv.room env pProto pItem = 0 := if_pos hstay
    rw [hroom]
    exact iff_of_true (fun _ => hcount) (by omega)
  | false =>
    rw [msg_eq_full_iff ht hlimit hcount haccepts hstay, not_and, not_le]

end Passes

theorem room_le_seenRoom (env : Env) (inv : Inventory) (pProto : ItemTemplate)
    (pItem : Option ItemOrBag) (bag : ℕ) (swap : Bool) :
    inv.room env pProto pItem ≤ inv.seenRoom env pProto pItem bag NULL_SLOT swap := by
  unfold room seenRoom
  split
  · exact Nat.zero_le _
  refine (Finset.sum_le_sum_of_subset fun p hp => ?_).trans (Nat.le_add_left _ _)
  obtain ⟨hplace, hstack, hholds⟩ := Finset.mem_filter.mp hp
  have hslot : p.slot ≠ NULL_SLOT := by
    rcases hholds with ⟨-, htakes⟩ | ⟨-, -, hslots⟩
    · simp only [slotTakes, INVENTORY_SLOT_ITEM_START, INVENTORY_SLOT_ITEM_END,
        KEYRING_SLOT_START, CURRENCYTOKEN_SLOT_END, NULL_SLOT] at htakes ⊢
      omega
    · obtain ⟨-, pBag, -, hlt⟩ := mem_bagSlots.mp hslots
      have hsize : pBag.getBagSize env ≤ MAX_BAG_SIZE := getBagSize_le pBag.toItem
      simp only [MAX_BAG_SIZE, NULL_SLOT] at hsize ⊢
      omega
  refine Finset.mem_filter.mpr ⟨hplace, hstack, ?_, ?_⟩
  · rintro rfl
    exact hslot rfl
  · rcases hholds with ⟨hbag, htakes⟩ | ⟨hbag, htakes, hslots⟩
    · exact Or.inl ⟨hbag, Or.inl htakes⟩
    · exact Or.inr ⟨Or.inl hbag, htakes, hslots, hslot⟩

/-! ## 6. Two bags of one slot -/

def plainTemplate (entry inventoryType containerSlots : ℕ) (h : containerSlots ≤ MAX_BAG_SIZE) :
    ItemTemplate where
  ItemId := entry
  Class := ITEM_CLASS_CONTAINER
  SubClass := ITEM_SUBCLASS_CONTAINER
  InventoryType := inventoryType
  MaxCount := 0
  Stackable := 1
  ContainerSlots := containerSlots
  BagFamily := 0
  ItemLimitCategory := 0
  GemProperties := false
  bindToAccount := false
  Bonding := .other
  containerSlots_le := h

/-- An item, number 1, and a bag of one slot, number 2. -/
def smallStore : Env where
  getItemTemplate := fun entry =>
    if entry = 1 then some (plainTemplate 1 0 0 (by decide))
    else if entry = 2 then some (plainTemplate 2 INVTYPE_BAG 1 (by decide))
    else none
  itemLimitCategory := fun _ => none
  itemId_eq := by
    intro entry t h
    split_ifs at h with h₁ h₂
    · cases h
      exact h₁.symm
    · cases h
      exact h₂.symm

def single (guid entry : ℕ) : ItemOrBag :=
  Item.alone
    { guid := guid
      entry := entry
      count := 1
      owner := 1
      lootGenerated := false
      soulBound := false
      bopTradeable := false
      allowedGUIDs := []
      gems := []
      inTrade := false }

/-- A backpack that is full, and two bags that are empty. -/
def twoBags : Inventory where
  guid := 1
  m_items := fun slot =>
    if INVENTORY_SLOT_ITEM_START ≤ slot ∧ slot < INVENTORY_SLOT_ITEM_END then some (single slot 1)
    else if slot = 19 ∨ slot = 20 then some (single slot 2)
    else none

theorem accepts_twoBags : Accepts smallStore twoBags 19 0 (plainTemplate 1 0 0 (by decide)) none 2
    false := by
  have hok : (twoBags.inSpecificSlot smallStore 19 0 (plainTemplate 1 0 0 (by decide)) none 0 false
      ⟨[], 2⟩ >>= fun r => twoBags.inSpecificBag smallStore 19 0
        (plainTemplate 1 0 0 (by decide)) none 0 r) = .ok ⟨[⟨⟨19, 0⟩, 1⟩], 1⟩ := by
    rfl
  intro c hc
  rw [hok] at hc
  cases hc

theorem room_twoBags : 2 ≤ twoBags.room smallStore (plainTemplate 1 0 0 (by decide)) none := by
  have hsub : ({⟨19, 0⟩, ⟨20, 0⟩} : Finset Pos) ⊆ places.filter fun p =>
      twoBags.MayHold smallStore (plainTemplate 1 0 0 (by decide)) none p := by
    have hfirst : (⟨19, 0⟩ : Pos) ∈ twoBags.bagSlots smallStore 19 := by decide
    have hsecond : (⟨20, 0⟩ : Pos) ∈ twoBags.bagSlots smallStore 20 := by decide
    intro p hp
    rcases Finset.mem_insert.mp hp with rfl | hp
    · exact Finset.mem_filter.mpr ⟨mem_places_of_bagSlots hfirst, by decide⟩
    · rw [Finset.mem_singleton.mp hp]
      exact Finset.mem_filter.mpr ⟨mem_places_of_bagSlots hsecond, by decide⟩
  have hsum := Finset.sum_le_sum_of_subset (f := twoBags.space smallStore
    (plainTemplate 1 0 0 (by decide)) none) hsub
  rw [Finset.sum_pair (by decide)] at hsum
  have hspace : ∀ bag ∈ [19, 20], twoBags.space smallStore (plainTemplate 1 0 0 (by decide)) none
      ⟨bag, 0⟩ = 1 := by
    decide
  rw [hspace 19 (by decide), hspace 20 (by decide)] at hsum
  rw [room, if_neg (by decide)]
  exact hsum

/-- Two are put into the first bag: the second one's only slot is skipped. -/
theorem canStoreNewItem_misses_room :
    ¬ ∀ (env : Env) (inv : Inventory) (bag slot entry count : ℕ) (pProto : ItemTemplate)
      (pItem : Option ItemOrBag) (swap : Bool), env.getItemTemplate entry = some pProto →
      Unlimited pProto → 0 < count → Accepts env inv bag slot pProto pItem count swap →
      (inv.canStoreItemOf env bag slot [] entry count pItem swap).msg = .INVENTORY_FULL →
        inv.room env pProto pItem < count := by
  intro hall
  have hlt := hall smallStore twoBags 19 0 1 2 (plainTemplate 1 0 0 (by decide)) none false rfl
    (by decide) (by decide) accepts_twoBags (by decide +kernel)
  exact absurd room_twoBags (Nat.not_le.mpr hlt)

/-- Without a slot, the two bags are found. -/
theorem canStoreItemOf_finds_room_twoBags :
    (twoBags.canStoreItemOf smallStore NULL_BAG NULL_SLOT [] 1 2 none false).msg ≠
      .INVENTORY_FULL ∨ twoBags.room smallStore (plainTemplate 1 0 0 (by decide)) none < 2 := by
  have haccepts : Accepts smallStore twoBags NULL_BAG NULL_SLOT (plainTemplate 1 0 0 (by decide))
      none 2 false := by
    intro c hc
    cases hc
  refine imp_iff_not_or.mp
    ((canStoreItemOf_finds_room_iff rfl (by decide) (by decide) haccepts).mpr fun h => ?_)
  have hle := room_le_seenRoom smallStore twoBags (plainTemplate 1 0 0 (by decide)) none NULL_BAG
    false
  exact absurd (h.2.trans hle) (Nat.not_le.mpr h.1)

end Inventory

end FunPvp.Items
