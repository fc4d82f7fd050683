/-
# The stores of the auction houses

The entries of the houses, the items in `mAitems`, the pending lists and the rows of the database
are kept apart, and every request changes several of them. Within them every live auction has its
item and its row, no two auctions have the same item, and a pending list points to live auctions.

What breaks this is the end of an auction that is still pending: the entry is deleted, and the list
keeps the pointer (`buyout_dangles`). In every run in which only auctions end that are not pending
the stores stay consistent, and an auction that has ended never gets a row again
(`run_consistent`).
-/
import FunPvp.Lib.Loop
import FunPvp.Lib.Run
import FunPvp.Auctions.AuctionHouseMgr

namespace FunPvp.Auctions

open FunPvp.Lib

namespace AuctionHouseMgr

variable {P : Type} {env : Env P} {m m' m'' : AuctionHouseMgr P}

/-! ## 1. What is consistent -/

def ids (m : AuctionHouseMgr P) : List ℕ := m.auctions.map (·.id)

def guids (m : AuctionHouseMgr P) : List ℕ := m.auctions.map (·.itemGUIDLow)

/-- Pending auctions are live, live auctions have their items, no two of them the same, and every
row is of a live auction. -/
structure Consistent (m : AuctionHouseMgr P) : Prop where
  pending_live : ∀ p ∈ m.pending, ∀ id ∈ p.auctions, id ∈ m.ids
  has_item : ∀ guid ∈ m.guids, ∃ item ∈ m.aItems, item.guid = guid
  guids_nodup : m.guids.Nodup
  row_live : ∀ id ∈ m.rows, id ∈ m.ids

/-- What all the stores keep. Ids and guids are given out in ascending order, the rows are those
of the live auctions, and there is no pending list without an auction. -/
structure Sound (m : AuctionHouseMgr P) : Prop where
  ids_nodup : m.ids.Nodup
  guids_nodup : m.guids.Nodup
  id_lt : ∀ id ∈ m.ids, id < m.nextAuctionId
  has_item : ∀ guid ∈ m.guids, ∃ item ∈ m.aItems, item.guid = guid
  aItem_lt : ∀ item ∈ m.aItems, item.guid < m.nextItemGuid
  inventory_lt : ∀ player, ∀ item ∈ m.inventory player, item.guid < m.nextItemGuid
  rows_eq : m.rows = m.ids.toFinset
  pending_live : ∀ p ∈ m.pending, ∀ id ∈ p.auctions, id ∈ m.ids
  pending_ne : ∀ p ∈ m.pending, p.auctions ≠ []

theorem Sound.consistent (h : m.Sound) : m.Consistent :=
  ⟨h.pending_live, h.has_item, h.guids_nodup, fun id hid => by simpa [h.rows_eq] using hid⟩

variable {id : ℕ} {a : AuctionEntry P} {player : P} {auctioneer : Option House} {auctionId : ℕ}
  {auction : AuctionEntry P}

theorem exists_deref (h : id ∈ m.ids) : ∃ a, m.deref id = some a := by
  obtain ⟨a, ha, rfl⟩ := List.mem_map.mp h
  cases hfind : m.deref a.id with
  | none => simpa using List.find?_eq_none.mp hfind a ha
  | some b => exact ⟨b, rfl⟩

theorem mem_of_deref (h : m.deref id = some a) :
    a ∈ m.auctions ∧ a.id = id :=
  ⟨List.mem_of_find?_eq_some h, by simpa using List.find?_some h⟩

theorem mem_of_getAuction {house : House}
    (h : m.getAuction house id = some a) : a ∈ m.auctions ∧ a.id = id := by
  have hfound := List.find?_some h
  exact ⟨List.mem_of_find?_eq_some h, (by simpa using hfound : a.house = house ∧ a.id = id).2⟩

/-! ## 2. What leaves the stores alone -/

/-- Gold and mails may differ, and what is recorded. -/
structure SameStores (m m' : AuctionHouseMgr P) : Prop where
  auctions : m'.auctions = m.auctions
  aItems : m'.aItems = m.aItems
  pending : m'.pending = m.pending
  rows : m'.rows = m.rows
  nextAuctionId : m'.nextAuctionId = m.nextAuctionId
  nextItemGuid : m'.nextItemGuid = m.nextItemGuid
  inventory : m'.inventory = m.inventory

theorem SameStores.refl (m : AuctionHouseMgr P) : SameStores m m :=
  ⟨rfl, rfl, rfl, rfl, rfl, rfl, rfl⟩

theorem SameStores.trans (h : SameStores m m') (h' : SameStores m' m'') : SameStores m m'' :=
  ⟨h'.auctions.trans h.auctions, h'.aItems.trans h.aItems, h'.pending.trans h.pending,
    h'.rows.trans h.rows, h'.nextAuctionId.trans h.nextAuctionId,
    h'.nextItemGuid.trans h.nextItemGuid, h'.inventory.trans h.inventory⟩

theorem sameStores_sendMail (env : Env P) (receiver : P) (money : UInt32) (item : Option ℕ) :
    SameStores m (m.sendMail env receiver money item) := by
  unfold sendMail
  split
  · exact ⟨rfl, rfl, rfl, rfl, rfl, rfl, rfl⟩
  · exact SameStores.refl m

theorem sameStores_sendBidBack (a : AuctionEntry P) : SameStores m (m.sendBidBack env a) := by
  unfold sendBidBack
  split
  · exact SameStores.refl m
  · exact sameStores_sendMail _ _ _ _

/-- Besides gold and mails, only the item of one auction may be gone. -/
structure ItemGone (guid : ℕ) (m m' : AuctionHouseMgr P) : Prop where
  auctions : m'.auctions = m.auctions
  aItems : (m'.aItems.filter fun i => ¬ i.guid = guid) = m.aItems.filter fun i => ¬ i.guid = guid
  pending : m'.pending = m.pending
  rows : m'.rows = m.rows
  nextAuctionId : m'.nextAuctionId = m.nextAuctionId
  nextItemGuid : m'.nextItemGuid = m.nextItemGuid
  inventory : m'.inventory = m.inventory

theorem SameStores.itemGone (h : SameStores m m') (guid : ℕ) : ItemGone guid m m' :=
  ⟨h.auctions, by rw [h.aItems], h.pending, h.rows, h.nextAuctionId, h.nextItemGuid, h.inventory⟩

theorem ItemGone.of_sameStores {guid : ℕ} (h : SameStores m m') (h' : ItemGone guid m' m'') :
    ItemGone guid m m'' :=
  ⟨h'.auctions.trans h.auctions, by rw [h'.aItems, h.aItems], h'.pending.trans h.pending,
    h'.rows.trans h.rows, h'.nextAuctionId.trans h.nextAuctionId,
    h'.nextItemGuid.trans h.nextItemGuid, h'.inventory.trans h.inventory⟩

theorem itemGone_sendItem (env : Env P) (receiver : Option P) (guid : ℕ) :
    ItemGone guid m (m.sendItem env receiver guid) := by
  have hremove : ItemGone guid m (m.removeAItem guid) := by
    refine ⟨rfl, ?_, rfl, rfl, rfl, rfl, rfl⟩
    simp [removeAItem, List.filter_filter]
  unfold sendItem
  split
  · exact (SameStores.refl m).itemGone guid
  · split
    · exact hremove
    · split
      · exact (sameStores_sendMail _ _ _ _).itemGone guid
      · exact hremove

/-! ## 3. The end of an auction -/

/-- The auction is gone from all the stores but the pending lists. -/
structure Closed (a : AuctionEntry P) (m m' : AuctionHouseMgr P) : Prop where
  auctions : m'.auctions = m.auctions.filter fun b => ¬ b.id = a.id
  aItems : m'.aItems = m.aItems.filter fun i => ¬ i.guid = a.itemGUIDLow
  pending : m'.pending = m.pending
  rows : m'.rows = m.rows.erase a.id
  nextAuctionId : m'.nextAuctionId = m.nextAuctionId
  nextItemGuid : m'.nextItemGuid = m.nextItemGuid
  inventory : m'.inventory = m.inventory

theorem ItemGone.closeAuction (h : ItemGone a.itemGUIDLow m m') :
    Closed a m (m'.closeAuction a) :=
  ⟨by simp [AuctionHouseMgr.closeAuction, removeAuction, removeAItem, deleteFromDB, h.auctions],
    h.aItems, h.pending,
    by simp [AuctionHouseMgr.closeAuction, removeAuction, removeAItem, deleteFromDB, h.rows],
    h.nextAuctionId, h.nextItemGuid, h.inventory⟩

theorem Sound.closed (h : m.Sound) {a : AuctionEntry P} (ha : a ∈ m.auctions)
    (hpending : ∀ p ∈ m.pending, a.id ∉ p.auctions) (hclosed : Closed a m m') : m'.Sound := by
  have hids : m'.ids = m.ids.filter fun id => ¬ id = a.id := by
    simp [ids, hclosed.auctions, List.filter_map, Function.comp_def]
  have hguids : m'.guids.Sublist m.guids := by
    simpa [guids, hclosed.auctions] using (List.filter_sublist).map _
  refine ⟨hids ▸ h.ids_nodup.filter _, h.guids_nodup.sublist hguids, ?_, ?_, ?_, ?_, ?_, ?_, ?_⟩
  · intro id hid
    rw [hids] at hid
    exact hclosed.nextAuctionId ▸ h.id_lt id (List.mem_of_mem_filter hid)
  · intro guid hguid
    obtain ⟨item, hitem, rfl⟩ := h.has_item guid (hguids.subset hguid)
    refine ⟨item, ?_, rfl⟩
    obtain ⟨b, hb, hbguid⟩ := List.mem_map.mp hguid
    rw [hclosed.auctions] at hb
    obtain ⟨hb, hne⟩ := List.mem_filter.mp hb
    rw [hclosed.aItems]
    refine List.mem_filter.mpr ⟨hitem, ?_⟩
    -- the other auctions have other items
    have hguid : ¬ item.guid = a.itemGUIDLow := by
      intro heq
      have := List.inj_on_of_nodup_map h.guids_nodup hb ha (hbguid.trans heq)
      simp [this] at hne
    simpa using hguid
  · intro item hitem
    rw [hclosed.aItems] at hitem
    exact hclosed.nextItemGuid ▸ h.aItem_lt item (List.mem_of_mem_filter hitem)
  · intro player item hitem
    rw [hclosed.inventory] at hitem
    exact hclosed.nextItemGuid ▸ h.inventory_lt player item hitem
  · rw [hclosed.rows, h.rows_eq, hids]
    ext id
    simp [and_comm]
  · intro p hp id hid
    rw [hclosed.pending] at hp
    rw [hids]
    refine List.mem_filter.mpr ⟨h.pending_live p hp id hid, ?_⟩
    have hne : ¬ id = a.id := by
      rintro rfl
      exact hpending p hp hid
    simpa using hne
  · intro p hp
    rw [hclosed.pending] at hp
    exact h.pending_ne p hp

/-! ## 4. Steps that end no auction -/

/-- The entries are the same up to bids, deposits and times, and so are the rows; pending lists may
be gone. -/
structure SameAuctions (m m' : AuctionHouseMgr P) : Prop where
  ids : m'.ids = m.ids
  guids : m'.guids = m.guids
  aItems : m'.aItems = m.aItems
  pending : ∀ p ∈ m'.pending, ∃ q ∈ m.pending, p.auctions = q.auctions
  rows : m'.rows = m.rows
  nextAuctionId : m'.nextAuctionId = m.nextAuctionId
  nextItemGuid : m'.nextItemGuid = m.nextItemGuid
  inventory : m'.inventory = m.inventory

theorem SameStores.sameAuctions (h : SameStores m m') : SameAuctions m m' :=
  ⟨by rw [ids, h.auctions]; rfl, by rw [guids, h.auctions]; rfl, h.aItems,
    fun p hp => ⟨p, h.pending ▸ hp, rfl⟩, h.rows, h.nextAuctionId, h.nextItemGuid, h.inventory⟩

theorem SameAuctions.trans (h : SameAuctions m m') (h' : SameAuctions m' m'') :
    SameAuctions m m'' := by
  refine ⟨h'.ids.trans h.ids, h'.guids.trans h.guids, h'.aItems.trans h.aItems, fun p hp => ?_,
    h'.rows.trans h.rows, h'.nextAuctionId.trans h.nextAuctionId,
    h'.nextItemGuid.trans h.nextItemGuid, h'.inventory.trans h.inventory⟩
  obtain ⟨q, hq, hpq⟩ := h'.pending p hp
  obtain ⟨r, hr, hqr⟩ := h.pending q hq
  exact ⟨r, hr, hpq.trans hqr⟩

theorem Sound.sameAuctions (h : m.Sound) (hsame : SameAuctions m m') : m'.Sound := by
  refine ⟨hsame.ids ▸ h.ids_nodup, hsame.guids ▸ h.guids_nodup, ?_, ?_, ?_, ?_, ?_, ?_, ?_⟩
  · rw [hsame.ids, hsame.nextAuctionId]
    exact h.id_lt
  · rw [hsame.guids, hsame.aItems]
    exact h.has_item
  · rw [hsame.aItems, hsame.nextItemGuid]
    exact h.aItem_lt
  · rw [hsame.inventory, hsame.nextItemGuid]
    exact h.inventory_lt
  · rw [hsame.rows, hsame.ids]
    exact h.rows_eq
  · intro p hp
    obtain ⟨q, hq, hpq⟩ := hsame.pending p hp
    rw [hpq, hsame.ids]
    exact h.pending_live q hq
  · intro p hp
    obtain ⟨q, hq, hpq⟩ := hsame.pending p hp
    rw [hpq]
    exact h.pending_ne q hq

theorem sameAuctions_modifyAuction (id : ℕ) {f : AuctionEntry P → AuctionEntry P}
    (hid : ∀ a, (f a).id = a.id) (hguid : ∀ a, (f a).itemGUIDLow = a.itemGUIDLow) :
    SameAuctions m (m.modifyAuction id f) := by
  have hcases : ∀ a : AuctionEntry P, (if a.id = id then f a else a).id = a.id ∧
      (if a.id = id then f a else a).itemGUIDLow = a.itemGUIDLow := by
    intro a
    split
    · exact ⟨hid a, hguid a⟩
    · exact ⟨rfl, rfl⟩
  refine ⟨?_, ?_, rfl, fun p hp => ⟨p, hp, rfl⟩, rfl, rfl, rfl, rfl⟩
  · simp [ids, modifyAuction, Function.comp_def, hcases]
  · simp [guids, modifyAuction, Function.comp_def, hcases]

theorem sameAuctions_replaceRow (hid : id ∈ m.rows) :
    SameAuctions m ((m.deleteFromDB id).saveToDB id) :=
  ⟨rfl, rfl, rfl, fun p hp => ⟨p, hp, rfl⟩, Finset.insert_erase hid, rfl, rfl, rfl⟩

theorem exists_pending_deref {p : PendingAuctions P}
    (hp : ∀ id ∈ p.auctions, id ∈ m.ids) (hne : p.auctions ≠ []) :
    ∃ first entries, p.auctions.mapM m.deref = some (first :: entries) ∧
      ∀ a ∈ first :: entries, a ∈ m.auctions := by
  obtain ⟨l, hl⟩ := exists_mapM_eq_some fun id hid => exists_deref (hp id hid)
  have hmap := mapM_eq_some_iff.mp hl
  cases l with
  | nil => exact absurd (List.map_eq_nil_iff.mp hmap) hne
  | cons first entries =>
    refine ⟨first, entries, hl, fun a ha => ?_⟩
    have hmem : some a ∈ p.auctions.map m.deref := by
      rw [hmap]
      exact List.mem_map_of_mem ha
    obtain ⟨id, -, hid⟩ := List.mem_map.mp hmem
    exact (mem_of_deref hid).1

theorem sameAuctions_expireNow (entries : List (AuctionEntry P)) (now : ℕ)
    (hrows : ∀ a ∈ entries, a.id ∈ m.rows) :
    SameAuctions m (entries.foldl (fun m a =>
      ((m.modifyAuction a.id fun a => { a with expireTime := now }).deleteFromDB a.id).saveToDB
        a.id) m) := by
  induction entries generalizing m with
  | nil => exact (SameStores.refl m).sameAuctions
  | cons a entries ih =>
    have htime : SameAuctions m (m.modifyAuction a.id fun a => { a with expireTime := now }) :=
      sameAuctions_modifyAuction _ (fun _ => rfl) fun _ => rfl
    have hone := htime.trans (sameAuctions_replaceRow (hrows a List.mem_cons_self))
    refine hone.trans (ih fun b hb => ?_)
    rw [hone.rows]
    exact hrows b (List.mem_cons_of_mem _ hb)

theorem sameAuctions_writeShares (shares : List (ℕ × UInt32)) (paid : ℕ)
    (hrows : ∀ share ∈ shares, share.1 ∈ m.rows) :
    SameAuctions m (shares.foldl writeShare (m, paid)).1 := by
  induction shares generalizing m paid with
  | nil => exact (SameStores.refl m).sameAuctions
  | cons share shares ih =>
    have hdeposit : SameAuctions m
        (m.modifyAuction share.1 fun a => { a with deposit := share.2 }) :=
      sameAuctions_modifyAuction _ (fun _ => rfl) fun _ => rfl
    have hrow : share.1 ∈ m.rows := hrows share List.mem_cons_self
    have hone : SameAuctions m (writeShare (m, paid) share).1 :=
      hdeposit.trans ⟨rfl, rfl, rfl, fun p hp => ⟨p, hp, rfl⟩, Finset.insert_erase hrow, rfl, rfl, rfl⟩
    refine hone.trans (ih _ fun s hs => ?_)
    rw [hone.rows]
    exact hrows s (List.mem_cons_of_mem _ hs)

theorem mem_depositShares {total remain : UInt32} {size : ℕ} {l : List ℕ} {share : ℕ × UInt32}
    (h : share ∈ depositShares total size remain l) : share.1 ∈ l := by
  induction l generalizing remain with
  | nil => simp [depositShares] at h
  | cons id l ih =>
    cases l with
    | nil => simp_all [depositShares]
    | cons id' l =>
      rcases List.mem_cons.mp h with rfl | h
      · exact List.mem_cons_self
      · exact List.mem_cons_of_mem _ (ih h)

theorem Sound.skipGuids (h : m.Sound) {n : ℕ} (hn : m.nextItemGuid ≤ n) :
    ({ m with nextItemGuid := n } : AuctionHouseMgr P).Sound :=
  ⟨h.ids_nodup, h.guids_nodup, h.id_lt, h.has_item, fun i hi => (h.aItem_lt i hi).trans_le hn,
    fun q i hi => (h.inventory_lt q i hi).trans_le hn, h.rows_eq, h.pending_live, h.pending_ne⟩

/-! ## 5. Expiry -/

theorem closed_expire (auction : AuctionEntry P) : Closed auction m (m.expire env auction) := by
  unfold expire
  refine ItemGone.closeAuction ?_
  split
  · exact itemGone_sendItem _ _ _
  · exact ItemGone.of_sameStores (sameStores_sendMail _ _ _ _) (itemGone_sendItem _ _ _)

theorem expireAll_rule (env : Env P) {I : AuctionHouseMgr P → Prop} {l : List (AuctionEntry P)}
    (hstep : ∀ m₁ a, I m₁ → m₁.auctions.Sublist m.auctions → a ∈ l → a ∈ m₁.auctions →
      I (m₁.expire env a)) (hm : I m) (hl : ∀ a ∈ l, a ∈ m.auctions)
    (hnodup : (l.map (·.id)).Nodup) :
    I (l.foldl (expire env) m) ∧ (l.foldl (expire env) m).auctions.Sublist m.auctions := by
  induction l generalizing m with
  | nil => exact ⟨hm, List.Sublist.refl _⟩
  | cons a l ih =>
    have hclosed : Closed a m (m.expire env a) := closed_expire a
    have hsub : (m.expire env a).auctions.Sublist m.auctions := by
      rw [hclosed.auctions]
      exact List.filter_sublist
    obtain ⟨hnotMem, hnodup⟩ := List.nodup_cons.mp hnodup
    have hrest : ∀ b ∈ l, b ∈ (m.expire env a).auctions := by
      intro b hb
      rw [hclosed.auctions]
      refine List.mem_filter.mpr ⟨hl b (List.mem_cons_of_mem _ hb), ?_⟩
      have hne : ¬ b.id = a.id := fun heq =>
        hnotMem (List.mem_map.mpr ⟨b, hb, heq⟩)
      simpa using hne
    have hone : I (m.expire env a) :=
      hstep m a hm (List.Sublist.refl _) List.mem_cons_self (hl a List.mem_cons_self)
    obtain ⟨hI, hsub'⟩ := ih (fun m₁ b h₁ hs hb => hstep m₁ b h₁ (hs.trans hsub)
      (List.mem_cons_of_mem _ hb)) hone hrest hnodup
    exact ⟨hI, hsub'.trans hsub⟩

theorem update_rule (env : Env P) (curTime : ℕ) {I : AuctionHouseMgr P → Prop} (hnodup : m.ids.Nodup)
    (hstep : ∀ m₁ a, I m₁ → m₁.auctions.Sublist m.auctions → a ∈ m₁.auctions →
      a.expireTime ≤ curTime + 60 → I (m₁.expire env a)) (hm : I m) :
    I (m.update env curTime) ∧ (m.update env curTime).auctions.Sublist m.auctions := by
  have hhouse : ∀ (house : House) {m₁ : AuctionHouseMgr P}, I m₁ →
      m₁.auctions.Sublist m.auctions → I (m₁.updateHouse env house curTime) ∧
        (m₁.updateHouse env house curTime).auctions.Sublist m.auctions := by
    intro house m₁ h₁ hsub
    have hexp : ∀ a ∈ m₁.expiring house curTime,
        a ∈ m₁.auctions ∧ a.expireTime ≤ curTime + 60 := by
      intro a ha
      obtain ⟨ha, hcond⟩ := List.mem_filter.mp ha
      simp only [not_lt, decide_eq_true_eq] at hcond
      exact ⟨ha, hcond.2⟩
    have hids : ((m₁.expiring house curTime).map (·.id)).Sublist m.ids :=
      ((List.filter_sublist).trans hsub).map _
    obtain ⟨hI, hsub'⟩ := expireAll_rule env (I := I)
      (fun m₂ a h₂ hs ha hmem => hstep m₂ a h₂ (hs.trans hsub) hmem (hexp a ha).2) h₁
      (fun a ha => (hexp a ha).1) (hnodup.sublist hids)
    exact ⟨hI, hsub'.trans hsub⟩
  obtain ⟨h₁, hsub₁⟩ := hhouse .horde hm (List.Sublist.refl _)
  obtain ⟨h₂, hsub₂⟩ := hhouse .alliance h₁ hsub₁
  exact hhouse .neutral h₂ hsub₂

theorem Sound.update (h : m.Sound) (env : Env P) (curTime : ℕ)
    (hpending : ∀ a ∈ m.auctions, a.expireTime ≤ curTime + 60 → ∀ p ∈ m.pending,
      a.id ∉ p.auctions) :
    (m.update env curTime).Sound ∧ (m.update env curTime).nextAuctionId = m.nextAuctionId ∧
      (m.update env curTime).auctions.Sublist m.auctions := by
  have hstep : ∀ (m₁ : AuctionHouseMgr P) (a : AuctionEntry P),
      (m₁.Sound ∧ m₁.pending = m.pending ∧ m₁.nextAuctionId = m.nextAuctionId) →
      m₁.auctions.Sublist m.auctions → a ∈ m₁.auctions → a.expireTime ≤ curTime + 60 →
      (m₁.expire env a).Sound ∧ (m₁.expire env a).pending = m.pending ∧
        (m₁.expire env a).nextAuctionId = m.nextAuctionId := by
    rintro m₁ a ⟨h₁, hp₁, hn₁⟩ hsub ha htime
    have hclosed : Closed a m₁ (m₁.expire env a) := closed_expire a
    exact ⟨h₁.closed ha (fun p hp => hpending a (hsub.subset ha) htime p (hp₁ ▸ hp)) hclosed,
      hclosed.pending.trans hp₁, hclosed.nextAuctionId.trans hn₁⟩
  obtain ⟨⟨hsound, -, hnext⟩, hsub⟩ := update_rule env curTime
    (I := fun m₁ => m₁.Sound ∧ m₁.pending = m.pending ∧ m₁.nextAuctionId = m.nextAuctionId)
    h.ids_nodup hstep ⟨h, rfl, rfl⟩
  exact ⟨hsound, hnext, hsub⟩

theorem mem_selectItems {items : List (ℕ × UInt32)} {found : List (Item × UInt32)}
    (h : m.selectItems player items = some found) :
    ∀ i ∈ found, i.1 ∈ m.inventory player ∧ m.getAItem i.1.guid = none := by
  simp only [selectItems, Option.bind_eq_bind, Option.bind_eq_some_iff] at h
  obtain ⟨found', hfound, hall⟩ := h
  split at hall
  · next hcond =>
    obtain rfl := Option.some.inj hall
    intro i hi
    have hmem : some i ∈ items.map fun i =>
        ((m.inventory player).find? fun item => item.guid = i.1).map fun item => (item, i.2) := by
      rw [mapM_eq_some_iff.mp hfound]
      exact List.mem_map_of_mem hi
    obtain ⟨j, -, hj⟩ := List.mem_map.mp hmem
    obtain ⟨item, hitem, rfl⟩ := Option.map_eq_some_iff.mp hj
    refine ⟨List.mem_of_find?_eq_some hitem, ?_⟩
    have hi' := List.all_eq_true.mp hcond _ hi
    simp only [Bool.and_eq_true, Option.isNone_iff_eq_none] at hi'
    exact hi'.1.1.1
  · simp at hall

/-- A step keeps the stores sound, and a live auction was live before or is new. -/
structure Goes (m m' : AuctionHouseMgr P) : Prop where
  sound : m'.Sound
  ids : ∀ id ∈ m'.ids, id ∈ m.ids ∨ m.nextAuctionId ≤ id
  next : m.nextAuctionId ≤ m'.nextAuctionId

theorem Sound.goes_refl (h : m.Sound) : Goes m m := ⟨h, fun _ hid => Or.inl hid, le_refl _⟩

theorem SameAuctions.goes (h : SameAuctions m m') (hm : m.Sound) : Goes m m' :=
  ⟨hm.sameAuctions h, fun _ hid => Or.inl (h.ids ▸ hid), h.nextAuctionId.ge⟩

theorem Closed.goes (h : Closed a m m') (hm : m.Sound)
    (ha : a ∈ m.auctions) (hpending : ∀ p ∈ m.pending, a.id ∉ p.auctions) : Goes m m' := by
  refine ⟨hm.closed ha hpending h, fun id hid => Or.inl ?_, h.nextAuctionId.ge⟩
  obtain ⟨b, hb, rfl⟩ := List.mem_map.mp hid
  rw [h.auctions] at hb
  exact List.mem_map_of_mem (List.mem_of_mem_filter hb)

/-! ## 6. Requests that end no auction -/

variable [LinearOrder P]

theorem sameStores_modifyMoney (player : P) (amount : Int32) :
    SameStores m (m.modifyMoney player amount) :=
  ⟨rfl, rfl, rfl, rfl, rfl, rfl, rfl⟩

theorem sameStores_payFor (player : P) (a : AuctionEntry P) (amount : UInt32) :
    SameStores m (m.payFor player a amount) :=
  ⟨rfl, rfl, rfl, rfl, rfl, rfl, rfl⟩

theorem sameAuctions_erasePending (player : P) : SameAuctions m (m.erasePending player) :=
  ⟨rfl, rfl, rfl, fun p hp => ⟨p, List.mem_of_mem_filter hp, rfl⟩, rfl, rfl, rfl, rfl⟩

theorem sameStores_payBid (player : P) (auction : AuctionEntry P) (price : UInt32) :
    SameStores m (m.payBid env player auction price) := by
  unfold payBid
  split
  · exact sameStores_payFor _ _ _
  · split
    · exact sameStores_payFor _ _ _
    · exact (sameStores_sendBidBack auction).trans (sameStores_payFor _ _ _)

theorem sameStores_payBuyout (env : Env P) (player : P) (auction : AuctionEntry P) :
    SameStores m (m.payBuyout env player auction) := by
  unfold payBuyout
  dsimp only
  split
  · exact sameStores_payFor _ _ _
  · split
    · exact (sameStores_payFor _ _ _).trans (sameStores_sendBidBack auction)
    · exact sameStores_payFor _ _ _

theorem sameAuctions_placeBid (player : P) (auction : AuctionEntry P) (price : UInt32) :
    SameAuctions m (m.placeBid env player auction price) :=
  (sameStores_payBid player auction price).sameAuctions.trans
    (sameAuctions_modifyAuction _ (fun _ => rfl) fun _ => rfl)

theorem Sound.pendingAuctionProcess (h : m.Sound) {p : PendingAuctions P}
    (hp : ∀ id ∈ p.auctions, id ∈ m.ids) (hne : p.auctions ≠ []) :
    ∃ m', m.pendingAuctionProcess env p = some m' ∧ SameAuctions m m' := by
  obtain ⟨first, entries, hl, -⟩ := exists_pending_deref hp hne
  refine ⟨_, by simp only [AuctionHouseMgr.pendingAuctionProcess, hl]; rfl, ?_⟩
  have hmoney := sameStores_modifyMoney (m := m) p.player
    (-(m.totalDeposit env first (first :: entries)).toInt32)
  refine (hmoney.sameAuctions.trans (sameAuctions_writeShares _ _ fun share hshare => ?_)).trans
    (sameAuctions_erasePending _)
  rw [hmoney.rows, h.rows_eq, List.mem_toFinset]
  exact hp _ (mem_depositShares hshare)

theorem Sound.updatePending (h : m.Sound) {p : PendingAuctions P} (online : P → Bool) (now : ℕ)
    (hp : ∀ id ∈ p.auctions, id ∈ m.ids) (hne : p.auctions ≠ []) :
    ∃ m', m.updatePending env online now p = some m' ∧ SameAuctions m m' := by
  unfold AuctionHouseMgr.updatePending
  split
  · split
    · exact h.pendingAuctionProcess hp hne
    · refine ⟨_, rfl, rfl, rfl, rfl, fun q hq => ?_, rfl, rfl, rfl, rfl⟩
      obtain ⟨r, hr, rfl⟩ := List.mem_map.mp hq
      refine ⟨r, hr, ?_⟩
      split <;> rfl
  · obtain ⟨first, entries, hl, hlive⟩ := exists_pending_deref hp hne
    refine ⟨_, by rw [hl]; rfl, ?_⟩
    refine (sameAuctions_expireNow _ now fun a ha => ?_).trans (sameAuctions_erasePending _)
    rw [h.rows_eq, List.mem_toFinset]
    exact List.mem_map_of_mem (hlive a ha)

theorem Sound.updatePendingAuctions (h : m.Sound) (env : Env P) (online : P → Bool) (now : ℕ) :
    ∃ m', m.updatePendingAuctions env online now = some m' ∧ SameAuctions m m' := by
  refine exists_foldlM_eq_some (I := SameAuctions m) (SameStores.refl m).sameAuctions
    fun p hp m₁ hm₁ => ?_
  have hlive : ∀ id ∈ p.auctions, id ∈ m₁.ids := by
    rw [hm₁.ids]
    exact h.pending_live p hp
  obtain ⟨m', hm', hsame⟩ := (h.sameAuctions hm₁).updatePending online now hlive (h.pending_ne p hp)
  exact ⟨m', hm', hm₁.trans hsame⟩

/-- A bid is accepted on a live auction of another player, if it is higher and can be paid. -/
structure BidAccepted (m : AuctionHouseMgr P) (player : P) (auction : AuctionEntry P)
    (price : UInt32) : Prop where
  mem : auction ∈ m.auctions
  owner_ne : auction.owner ≠ player
  bid_lt : auction.bid < price
  price_le : price ≤ m.gold player

theorem bidAccepted_some {price : UInt32} {sameAccount : Bool}
    (h : m.bidAccepted env player auctioneer auctionId price sameAccount = some auction) :
    m.BidAccepted player auction price := by
  unfold bidAccepted at h
  split at h
  · simp at h
  · simp only [Option.bind_eq_bind, Option.bind_eq_some_iff] at h
    obtain ⟨house, -, a, ha, h⟩ := h
    split at h
    · simp at h
    · next howner =>
      split at h
      · simp at h
      · next hbid =>
        split at h
        · simp at h
        · split at h
          · simp at h
          · next hmoney =>
            obtain rfl := Option.some.inj h
            rw [not_or] at howner hbid
            exact ⟨(mem_of_getAuction ha).1, howner.1, UInt32.not_le.mp hbid.1,
              UInt32.not_lt.mp hmoney⟩

/-- An auction is cancelled by its owner, if he has the cut for the bid that is on it. -/
structure CancelAccepted (env : Env P) (m : AuctionHouseMgr P) (player : P)
    (auction : AuctionEntry P) : Prop where
  mem : auction ∈ m.auctions
  owner : auction.owner = player
  cut_le : auction.bidder.isSome → auction.getAuctionCut env ≤ m.gold player

theorem cancelAccepted_some (h : m.cancelAccepted env player auctioneer auctionId = some auction) :
    CancelAccepted env m player auction := by
  unfold cancelAccepted at h
  simp only [Option.bind_eq_bind, Option.bind_eq_some_iff] at h
  obtain ⟨house, -, a, ha, h⟩ := h
  split at h
  · simp at h
  · next howner =>
    split at h
    · simp at h
    · split at h
      · simp at h
      · next hcut =>
        obtain rfl := Option.some.inj h
        refine ⟨(mem_of_getAuction ha).1, not_not.mp howner, fun hbidder => ?_⟩
        exact UInt32.not_lt.mp fun hlt => hcut ⟨hbidder, hlt⟩

/-! ## 7. Buying out and cancelling -/

theorem closed_buyout (player : P) (auction : AuctionEntry P) :
    Closed auction m (m.buyout env player auction) := by
  have hmails := ((sameStores_payBuyout (m := m) env player auction).trans
    (sameStores_sendMail env auction.owner 0 none)).trans
      (sameStores_sendMail env auction.owner (auction.buyout + auction.deposit -
        (auction.bidBy player auction.buyout).getAuctionCut env) none)
  have hclosed := (ItemGone.of_sameStores hmails
    (itemGone_sendItem env (some player) auction.itemGUIDLow)).closeAuction (a := auction)
  exact ⟨hclosed.auctions, hclosed.aItems, hclosed.pending, hclosed.rows, hclosed.nextAuctionId,
    hclosed.nextItemGuid, hclosed.inventory⟩

theorem closed_cancel (h : m.cancelAccepted env player auctioneer auctionId = some auction) :
    Closed auction m (m.handleAuctionRemoveItem env player auctioneer auctionId) := by
  unfold handleAuctionRemoveItem
  rw [h]
  dsimp only
  have hmail : ∀ {m' : AuctionHouseMgr P}, SameStores m m' → Closed auction m
      (({ m' with mails := m'.mails ++ [⟨player, 0, some auction.itemGUIDLow⟩] } :
        AuctionHouseMgr P).closeAuction auction) := by
    intro m' h'
    have hsame : SameStores m'
        { m' with mails := m'.mails ++ [⟨player, 0, some auction.itemGUIDLow⟩] } :=
      ⟨rfl, rfl, rfl, rfl, rfl, rfl, rfl⟩
    exact ((h'.trans hsame).itemGone _).closeAuction
  refine hmail ?_
  split
  · exact (sameStores_sendBidBack auction).trans (sameStores_modifyMoney _ _)
  · exact SameStores.refl m

/-! ## 8. Selling -/

theorem takeItems_inventory (player : P) (found : List (Item × UInt32)) :
    (m.takeItems player found) =
        { m with inventory := (m.takeItems player found).inventory } ∧
      ∀ q, ∀ item ∈ (m.takeItems player found).inventory q,
        ∃ old ∈ m.inventory q, old.guid = item.guid := by
  unfold takeItems
  induction found generalizing m with
  | nil => exact ⟨rfl, fun q item hitem => ⟨item, hitem, rfl⟩⟩
  | cons i found ih =>
    rw [List.foldl_cons]
    obtain ⟨hsame, hold⟩ := ih (m := { m with
      inventory := Function.update m.inventory player <|
        if i.1.count = i.2 then (m.inventory player).filter fun item => ¬ item.guid = i.1.guid
        else (m.inventory player).map fun item =>
          if item.guid = i.1.guid then { item with count := item.count - i.2 } else item })
    refine ⟨hsame, fun q item hitem => ?_⟩
    obtain ⟨old, hmem, heq⟩ := hold q item hitem
    by_cases hq : q = player
    · subst hq
      simp only [Function.update_self] at hmem
      split at hmem
      · exact ⟨old, List.mem_of_mem_filter hmem, heq⟩
      · obtain ⟨older, holder, rfl⟩ := List.mem_map.mp hmem
        refine ⟨older, holder, ?_⟩
        rw [← heq]
        split <;> rfl
    · simp only [Function.update_of_ne hq] at hmem
      exact ⟨old, hmem, heq⟩

theorem Sound.takeItems (h : m.Sound) (player : P) (found : List (Item × UInt32)) :
    (m.takeItems player found).Sound := by
  obtain ⟨hsame, hold⟩ := takeItems_inventory (m := m) player found
  rw [hsame]
  refine ⟨h.ids_nodup, h.guids_nodup, h.id_lt, h.has_item, h.aItem_lt, fun q item hitem => ?_,
    h.rows_eq, h.pending_live, h.pending_ne⟩
  obtain ⟨old, hmem, heq⟩ := hold q item hitem
  exact heq ▸ h.inventory_lt q old hmem

theorem mem_pendingAuctionAdd {p : PendingAuctions P}
    (hp : p ∈ (m.pendingAuctionAdd player id).pending) :
    (∃ q ∈ m.pending, p.auctions = q.auctions ∨ p.auctions = q.auctions ++ [id]) ∨
      p.auctions = [id] := by
  simp only [pendingAuctionAdd] at hp
  split at hp
  · obtain ⟨q, hq, rfl⟩ := List.mem_map.mp hp
    refine Or.inl ⟨q, hq, ?_⟩
    split
    · exact Or.inr rfl
    · exact Or.inl rfl
  · rcases List.mem_append.mp hp with hp | hp
    · rcases List.mem_append.mp hp with hp | hp
      · exact Or.inl ⟨p, (List.takeWhile_sublist _).subset hp, Or.inl rfl⟩
      · exact Or.inr (by rw [List.mem_singleton.mp hp])
    · exact Or.inl ⟨p, (List.dropWhile_sublist _).subset hp, Or.inl rfl⟩

theorem Sound.startAuction (h : m.Sound) (player : P) {item : Item} {a : AuctionEntry P}
    (hitem : item.guid < m.nextItemGuid) (hfree : m.getAItem item.guid = none)
    (hid : a.id = m.nextAuctionId) (hguid : a.itemGUIDLow = item.guid) :
    ∃ m', m.startAuction player item a = some m' ∧ m'.Sound ∧ m'.ids = m.ids ++ [a.id] ∧
      m.nextAuctionId ≤ m'.nextAuctionId := by
  have hnew : a.id ∉ m.ids := fun hmem => absurd (h.id_lt _ hmem) (by omega)
  have hnot : ∀ i ∈ m.aItems, i.guid ≠ item.guid := by
    simpa [getAItem, List.find?_eq_none] using hfree
  have hnewItem : a.itemGUIDLow ∉ m.guids := by
    intro hmem
    obtain ⟨i, hi, heq⟩ := h.has_item _ hmem
    exact hnot i hi (heq.trans hguid)
  refine ⟨_, by simp only [AuctionHouseMgr.startAuction, addAItem, hfree, Option.isNone_none,
    if_true, Option.map_some]; rfl, ?_, by simp [ids, saveToDB, pendingAuctionAdd, addAuction],
    Nat.le_succ _⟩
  have hids : (m.auctions ++ [a]).map (·.id) = m.ids ++ [a.id] := List.map_append
  have hguids : (m.auctions ++ [a]).map (·.itemGUIDLow) = m.guids ++ [a.itemGUIDLow] :=
    List.map_append
  have hlive : ∀ id ∈ m.ids, id ∈ (m.auctions ++ [a]).map (·.id) := by
    intro id hmem
    rw [hids]
    exact List.mem_append_left _ hmem
  have hself : a.id ∈ (m.auctions ++ [a]).map (·.id) := by simp
  constructor
  · show ((m.auctions ++ [a]).map (·.id)).Nodup
    rw [hids]
    exact List.nodup_append.mpr ⟨h.ids_nodup, List.nodup_singleton _, by
      rintro id hmem _ hself rfl
      exact hnew (List.mem_singleton.mp hself ▸ hmem)⟩
  · show ((m.auctions ++ [a]).map (·.itemGUIDLow)).Nodup
    rw [hguids]
    exact List.nodup_append.mpr ⟨h.guids_nodup, List.nodup_singleton _, by
      rintro id hmem _ hself rfl
      exact hnewItem (List.mem_singleton.mp hself ▸ hmem)⟩
  · show ∀ id ∈ (m.auctions ++ [a]).map (·.id), id < m.nextAuctionId + 1
    rw [hids]
    intro id hmem
    rcases List.mem_append.mp hmem with hmem | hmem
    · exact (h.id_lt id hmem).trans (Nat.lt_succ_self _)
    · rw [List.mem_singleton.mp hmem, hid]
      exact Nat.lt_succ_self _
  · show ∀ guid ∈ (m.auctions ++ [a]).map (·.itemGUIDLow), ∃ i ∈ m.aItems ++ [item], i.guid = guid
    rw [hguids]
    intro guid hmem
    rcases List.mem_append.mp hmem with hmem | hmem
    · obtain ⟨i, hi, heq⟩ := h.has_item guid hmem
      exact ⟨i, List.mem_append_left _ hi, heq⟩
    · exact ⟨item, by simp, by rw [List.mem_singleton.mp hmem, hguid]⟩
  · intro i hi
    rcases List.mem_append.mp hi with hi | hi
    · exact h.aItem_lt i hi
    · rw [List.mem_singleton.mp hi]
      exact hitem
  · exact h.inventory_lt
  · show insert a.id m.rows = ((m.auctions ++ [a]).map (·.id)).toFinset
    rw [hids, h.rows_eq]
    ext id
    simp
  · intro p hp id hmem
    show id ∈ (m.auctions ++ [a]).map (·.id)
    rcases mem_pendingAuctionAdd hp with ⟨q, hq, heq | heq⟩ | heq
    · exact hlive id (h.pending_live q hq id (heq ▸ hmem))
    · rw [heq] at hmem
      rcases List.mem_append.mp hmem with hmem | hmem
      · exact hlive id (h.pending_live q hq id hmem)
      · exact List.mem_singleton.mp hmem ▸ hself
    · rw [heq] at hmem
      exact List.mem_singleton.mp hmem ▸ hself
  · intro p hp
    rcases mem_pendingAuctionAdd hp with ⟨q, hq, heq | heq⟩ | heq
    · exact heq ▸ h.pending_ne q hq
    · simp [heq]
    · simp [heq]

/-! ## 9. Runs -/

def ending (env : Env P) (m : AuctionHouseMgr P) : Event P → List ℕ
  | .placeBid player auctioneer auctionId price sameAccount =>
    match m.bidAccepted env player auctioneer auctionId price sameAccount with
    | none => []
    | some auction => if price < auction.buyout ∨ auction.buyout = 0 then [] else [auction.id]
  | .removeItem player auctioneer auctionId =>
    match m.cancelAccepted env player auctioneer auctionId with
    | none => []
    | some auction => [auction.id]
  | .update curTime => (m.auctions.filter fun a => a.expireTime ≤ curTime + 60).map (·.id)
  | _ => []

/-- No auction ends that is on a pending list. -/
def EndsProcessed (env : Env P) (st : Option (AuctionHouseMgr P)) (e : Event P) : Prop :=
  match st with
  | none => True
  | some m => ∀ id ∈ m.ending env e, ∀ p ∈ m.pending, id ∉ p.auctions

instance (env : Env P) (st : Option (AuctionHouseMgr P)) (e : Event P) :
    Decidable (EndsProcessed env st e) :=
  match st with
  | none => isTrue trivial
  | some m => inferInstanceAs (Decidable (∀ id ∈ m.ending env e, ∀ p ∈ m.pending, id ∉ p.auctions))

/-- What `HandleAuctionSellItem` puts up: an item that is in no auction, which is the player's or a
clone under a new guid, in an entry without a bid. -/
structure PutUp (m : AuctionHouseMgr P) (player : P) (sold : Item) (n : ℕ) (a : AuctionEntry P) :
    Prop where
  next_le : m.nextItemGuid ≤ n
  guid_lt : sold.guid < n
  free : m.getAItem sold.guid = none
  id : a.id = m.nextAuctionId
  guid : a.itemGUIDLow = sold.guid
  owner : a.owner = player
  bid : a.bid = 0
  bidder : a.bidder = none

/-- The request is refused, or something is put up and the items are taken. -/
def SellsTo (m : AuctionHouseMgr P) (player : P) (r : Option (AuctionHouseMgr P)) : Prop :=
  r = some m ∨ ∃ sold n a found, m.PutUp player sold n a ∧
    r = (({ m with nextItemGuid := n } : AuctionHouseMgr P).startAuction player sold a).map
      fun m => m.takeItems player found

theorem SellsTo.ite {c : Prop} [Decidable c] {x y : Option (AuctionHouseMgr P)}
    (hx : c → SellsTo m player x) (hy : ¬ c → SellsTo m player y) :
    SellsTo m player (if c then x else y) := by
  by_cases h : c
  · rw [if_pos h]
    exact hx h
  · rw [if_neg h]
    exact hy h

theorem Sound.sellsTo (h : m.Sound) (env : Env P) (player : P) (auctioneer : Option (House × UInt32))
    (items : List (ℕ × UInt32)) (bid buyout etime : UInt32) (now : ℕ) :
    SellsTo m player (m.handleAuctionSellItem env player auctioneer items bid buyout etime now) := by
  have hsame : SellsTo m player (some m) := Or.inl rfl
  unfold AuctionHouseMgr.handleAuctionSellItem
  iterate 4 refine SellsTo.ite (fun _ => hsame) fun _ => ?_
  cases auctioneer with
  | none => exact hsame
  | some auctioneer =>
    refine SellsTo.ite (fun _ => hsame) fun _ => ?_
    cases hfound : m.selectItems player items with
    | none => exact hsame
    | some found =>
      cases found with
      | nil => exact hsame
      | cons i found =>
        obtain ⟨item, count⟩ := i
        iterate 4 refine SellsTo.ite (fun _ => hsame) fun _ => ?_
        obtain ⟨hmem, hfree⟩ := mem_selectItems hfound _ List.mem_cons_self
        refine Or.inr ⟨_, _, _, _, ?_, rfl⟩
        by_cases hwhole : found = [] ∧ item.count = count
        · simp only [if_pos hwhole]
          exact ⟨le_refl _, h.inventory_lt player item hmem, hfree, rfl, rfl, rfl, rfl, rfl⟩
        · simp only [if_neg hwhole]
          refine ⟨Nat.le_succ _, Nat.lt_succ_self _, ?_, rfl, rfl, rfl, rfl, rfl⟩
          refine List.find?_eq_none.mpr fun i hi => ?_
          have hlt := h.aItem_lt i hi
          simpa using hlt.ne

theorem Sound.handleAuctionSellItem (h : m.Sound) (player : P)
    (auctioneer : Option (House × UInt32)) (items : List (ℕ × UInt32))
    (bid buyout etime : UInt32) (now : ℕ) :
    ∃ m', m.handleAuctionSellItem env player auctioneer items bid buyout etime now = some m' ∧
      Goes m m' := by
  rcases h.sellsTo env player auctioneer items bid buyout etime now with
    hm | ⟨sold, n, a, found, hput, hm⟩
  · exact ⟨m, hm, h.goes_refl⟩
  · obtain ⟨m₁, hm₁, hsound, hids, hnext⟩ :=
      (h.skipGuids hput.next_le).startAuction player hput.guid_lt hput.free hput.id hput.guid
    obtain ⟨htake, -⟩ := takeItems_inventory (m := m₁) player found
    refine ⟨_, by rw [hm, hm₁]; rfl, hsound.takeItems _ _, ?_, ?_⟩
    · intro id hmem
      rw [htake] at hmem
      change id ∈ m₁.ids at hmem
      rw [hids] at hmem
      rcases List.mem_append.mp hmem with hmem | hmem
      · exact Or.inl hmem
      · exact Or.inr (by rw [List.mem_singleton.mp hmem, hput.id])
    · rw [htake]
      exact hnext

theorem Sound.step (h : m.Sound) {e : Event P} (he : EndsProcessed env (some m) e) :
    ∃ m', AuctionHouseMgr.step env (some m) e = some m' ∧ Goes m m' := by
  replace he : ∀ id ∈ m.ending env e, ∀ p ∈ m.pending, id ∉ p.auctions := he
  cases e with
  | sellItem player auctioneer items bid buyout etime now =>
    exact h.handleAuctionSellItem player auctioneer items bid buyout etime now
  | placeBid player auctioneer auctionId price sameAccount =>
    refine ⟨_, rfl, ?_⟩
    unfold handleAuctionPlaceBid
    simp only [ending] at he
    cases hbid : m.bidAccepted env player auctioneer auctionId price sameAccount with
    | none => exact h.goes_refl
    | some auction =>
      rw [hbid] at he
      dsimp only at he ⊢
      split
      · exact (sameAuctions_placeBid player auction price).goes h
      · next hbuyout =>
        rw [if_neg hbuyout] at he
        exact (closed_buyout player auction).goes h (bidAccepted_some hbid).mem
          (he _ (List.mem_singleton_self _))
  | removeItem player auctioneer auctionId =>
    refine ⟨_, rfl, ?_⟩
    simp only [ending] at he
    cases hcancel : m.cancelAccepted env player auctioneer auctionId with
    | none =>
      have hm : m.handleAuctionRemoveItem env player auctioneer auctionId = m := by
        rw [handleAuctionRemoveItem, hcancel]
      rw [hm]
      exact h.goes_refl
    | some auction =>
      rw [hcancel] at he
      exact (closed_cancel hcancel).goes h (cancelAccepted_some hcancel).mem
        (he _ (List.mem_singleton_self _))
  | updatePendingAuctions online now =>
    obtain ⟨m', hm', hsame⟩ := h.updatePendingAuctions env online now
    exact ⟨m', hm', hsame.goes h⟩
  | update curTime =>
    obtain ⟨hsound, hnext, hsub⟩ := h.update env curTime fun a ha htime =>
      he _ (List.mem_map_of_mem (List.mem_filter.mpr ⟨ha, by simpa using htime⟩))
    exact ⟨_, rfl, hsound, fun id hid => Or.inl ((hsub.map _).subset hid), hnext.ge⟩

end AuctionHouseMgr

/-- What the server starts with: the auctions and their items as `LoadAuctions` and
`LoadAuctionItems` read them, what the players have, and the next ids of `SetHighestGuids`. -/
structure Tables (P : Type) where
  rows : List (AuctionEntry P × Item)
  inventory : P → List Item
  gold : P → UInt32
  nextAuctionId : ℕ
  nextItemGuid : ℕ
  charged : ℕ → ℕ
  ids_nodup : (rows.map (·.1.id)).Nodup
  guids_nodup : (rows.map (·.2.guid)).Nodup
  item_eq : ∀ r ∈ rows, r.2.guid = r.1.itemGUIDLow
  id_lt : ∀ r ∈ rows, r.1.id < nextAuctionId
  item_lt : ∀ r ∈ rows, r.2.guid < nextItemGuid
  inventory_lt : ∀ player, ∀ item ∈ inventory player, item.guid < nextItemGuid

/-- The manager after loading; nothing is pending. -/
def Tables.load {P : Type} (t : Tables P) : AuctionHouseMgr P where
  auctions := t.rows.map (·.1)
  aItems := t.rows.map (·.2)
  pending := []
  rows := (t.rows.map (·.1.id)).toFinset
  nextAuctionId := t.nextAuctionId
  nextItemGuid := t.nextItemGuid
  inventory := t.inventory
  gold := t.gold
  mails := []
  charged := t.charged
  paid := fun id => ((t.rows.find? fun r => r.1.id = id).map fun r => r.1.bid.toNat).getD 0

theorem Tables.sound_load {P : Type} (t : Tables P) : t.load.Sound := by
  have hguids : t.load.guids = t.rows.map (·.2.guid) := by
    simp only [AuctionHouseMgr.guids, Tables.load, List.map_map]
    exact List.map_congr_left fun r hr => (t.item_eq r hr).symm
  have hids : t.load.ids = t.rows.map (·.1.id) := by
    simp [AuctionHouseMgr.ids, Tables.load, Function.comp_def]
  refine ⟨hids ▸ t.ids_nodup, hguids ▸ t.guids_nodup, ?_, ?_, ?_, t.inventory_lt, ?_, ?_, ?_⟩
  · intro id hid
    rw [hids] at hid
    obtain ⟨r, hr, rfl⟩ := List.mem_map.mp hid
    exact t.id_lt r hr
  · intro guid hguid
    rw [hguids] at hguid
    obtain ⟨r, hr, rfl⟩ := List.mem_map.mp hguid
    exact ⟨r.2, List.mem_map_of_mem hr, rfl⟩
  · intro item hitem
    obtain ⟨r, hr, rfl⟩ := List.mem_map.mp hitem
    exact t.item_lt r hr
  · rw [hids]
    rfl
  · exact fun p hp => absurd hp List.not_mem_nil
  · exact fun p hp => absurd hp List.not_mem_nil

/-- A manager, and the auctions that have been sold, cancelled or have expired. -/
structure History (P : Type) where
  mgr : Option (AuctionHouseMgr P)
  ended : Finset ℕ

namespace History

open AuctionHouseMgr

variable {P : Type} {env : Env P}

def live (h : History P) : Finset ℕ :=
  match h.mgr with
  | none => ∅
  | some m => m.ids.toFinset

/-- One event; the auctions that are not live any more have ended. -/
def step [LinearOrder P] (env : Env P) (h : History P) (e : Event P) : History P where
  mgr := AuctionHouseMgr.step env h.mgr e
  ended := h.ended ∪ (h.live \ live ⟨AuctionHouseMgr.step env h.mgr e, ∅⟩)

/-- The stores are consistent, and an auction that has ended has no row. -/
def Consistent (h : History P) : Prop :=
  ∃ m, h.mgr = some m ∧ m.Consistent ∧ ∀ id ∈ h.ended, id ∉ m.rows

/-- The stores are sound, and the ids of the auctions that have ended are not used again. -/
def Sound (h : History P) : Prop :=
  ∃ m, h.mgr = some m ∧ m.Sound ∧ ∀ id ∈ h.ended, id ∉ m.ids ∧ id < m.nextAuctionId

theorem Sound.consistent {h : History P} (hs : h.Sound) : h.Consistent := by
  obtain ⟨m, hm, hsound, hended⟩ := hs
  refine ⟨m, hm, hsound.consistent, fun id hid hrow => (hended id hid).1 ?_⟩
  simpa [hsound.rows_eq] using hrow

variable [LinearOrder P]

theorem Sound.step {h : History P} (hs : h.Sound) {e : Event P}
    (he : EndsProcessed env h.mgr e) : (h.step env e).Sound := by
  obtain ⟨m, hm, hsound, hended⟩ := hs
  rw [hm] at he
  obtain ⟨m', hm', hgoes⟩ := hsound.step he
  refine ⟨m', by rw [History.step, hm, hm'], hgoes.sound, fun id hid => ?_⟩
  have hold : id ∉ m'.ids ∧ id < m.nextAuctionId := by
    simp only [History.step, hm, hm', Finset.mem_union] at hid
    rcases hid with hid | hid
    · obtain ⟨hnot, hlt⟩ := hended id hid
      refine ⟨fun hmem => ?_, hlt⟩
      rcases hgoes.ids id hmem with hmem | hge
      · exact hnot hmem
      · omega
    · simp only [live, hm, Finset.mem_sdiff, List.mem_toFinset] at hid
      exact ⟨hid.2, hsound.id_lt id hid.1⟩
  exact ⟨hold.1, hold.2.trans_le hgoes.next⟩

/-- **The stores are consistent in every run in which no pending auction ends.**  No auction that has
been sold, cancelled or has expired has a row, then or later. -/
theorem run_consistent (env : Env P) (t : Tables P) (evs : List (Event P))
    (hevs : Steps (step env) (fun h e => EndsProcessed env h.mgr e) ⟨some t.load, ∅⟩ evs) :
    States (step env) Consistent ⟨some t.load, ∅⟩ evs :=
  (States.of_steps (fun _ _ hs he => Sound.step hs he)
    ⟨t.load, rfl, t.sound_load, fun _ hid => absurd hid (Finset.notMem_empty _)⟩ hevs).imp
    fun _ hs => hs.consistent

end History

/-! ## 10. Two runs -/

open AuctionHouseMgr

/-- Flat rates: the deposit is 100, and there is no cut. -/
def flatEnv : Env Bool where
  getAuctionDeposit := fun _ _ _ _ => 100
  percentCut := fun _ _ => 0
  percentOutBid := fun bid => bid / 20
  auctionTime := id
  accountExists := fun _ => true

def oneItem : Tables Bool where
  rows := []
  inventory := fun p => if p then [⟨1, 7, 1, 1, true⟩] else []
  gold := fun _ => 1000
  nextAuctionId := 1
  nextItemGuid := 2
  charged := fun _ => 0
  ids_nodup := by simp
  guids_nodup := by simp
  item_eq := by simp
  id_lt := by simp
  item_lt := by simp
  inventory_lt := by simp

/-- The item is put up for auction, for a bid of 10 or a buyout of 500. -/
def sellIt : Event Bool := .sellItem true (some (.neutral, 7)) [(1, 1)] 10 500 720 0

/-- It is sold, the deposit is charged, a bid is placed, and the auction expires. -/
theorem sold_consistent :
    States (History.step flatEnv) History.Consistent ⟨some oneItem.load, ∅⟩
      [sellIt, .updatePendingAuctions (fun _ => true) 0, .updatePendingAuctions (fun _ => true) 0,
        .placeBid false (some .neutral) 1 20 false, .update 50000] := by
  refine History.run_consistent flatEnv oneItem _ ⟨?_, ?_, ?_, ?_, ?_, trivial⟩ <;>
    decide +kernel

/-- **A buyout leaves a pointer to a deleted entry** if the seller has not been charged yet. -/
theorem buyout_dangles :
    ¬ ∀ (env : Env Bool) (t : Tables Bool) (evs : List (Event Bool)),
      States (History.step env) History.Consistent ⟨some t.load, ∅⟩ evs := by
  intro h
  obtain ⟨m, hm, hconsistent, -⟩ :=
    (h flatEnv oneItem [sellIt, .placeBid false (some .neutral) 1 500 false]).exec
  have hids : some m.ids = some [] := by
    rw [← Option.map_some, ← hm]
    decide +kernel
  have hpending : some m.pending = some [⟨true, [1], 0⟩] := by
    rw [← Option.map_some, ← hm]
    decide +kernel
  have hlive := hconsistent.pending_live ⟨true, [1], 0⟩
    (by rw [Option.some.inj hpending]; simp) 1 (by simp)
  rw [Option.some.inj hids] at hlive
  exact List.not_mem_nil hlive

end FunPvp.Auctions
