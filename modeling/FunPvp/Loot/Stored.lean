/-
# What is stored, and how often

`StoreLootItem` asks `LootItemInSlot` whether the item is still there. For a quest item or a
conditional item the answer is read from the entry of the player who asks, but taking an item that
only one may have marks the item and the entry of the player who took it: another player's entry
stays as it was, and he can take the item again. For a free for all item that is not on the
player's list the answer is read from the item, which is never marked.

If every item that is stored was not taken yet, and free for all items are stored by players who
have them on their lists, nothing is handed out twice (`run_handedOutOnce`).
-/
import FunPvp.Loot.Slots

namespace FunPvp.Looting

open FunPvp.Lib

/-! ## 1. What the stores of an event meet -/

namespace LootState

variable (C : Loot → ObjectGuid → Loot.SlotItem → Bool)

/-- If `StoreLootItem` stores an item, it is one with `C` in this loot, for this player. -/
def storeMeets (s : LootState) (lootSlot : ℕ) (p : Looter) (canStore : Bool) : Bool :=
  (s.storable lootSlot p canStore).all (C s.loot p.guid)

/-- All items the loop over the slots stores are ones with `C`. -/
def currencyMeets (p : Looter) (isCurrency : UInt32 → Bool) (canStore : ℕ → Bool) :
    List ℕ → LootState → Bool
  | [], _ => true
  | i :: slots, s =>
    if s.autoStores p isCurrency i then
      s.storeMeets C i p (canStore i) &&
        currencyMeets p isCurrency canStore slots (s.storeLootItem i p (canStore i))
    else currencyMeets p isCurrency canStore slots s

/-- All items that are stored in an event are ones with `C`. -/
def storesMeet (s : LootState) : LootEvent → Bool
  | .fill p presentAtLooting isCurrency canStore =>
    let s := { s with loot := s.loot.fillLists p presentAtLooting }
    !presentAtLooting ||
      currencyMeets C p isCurrency canStore (List.range (s.loot.getMaxSlotInLootFor p.guid)) s
  | .store lootSlot p canStore => s.storeMeets C lootSlot.toNat p canStore
  | _ => true

variable {C} {P : LootState → Prop} {s : LootState} {p : Looter}

theorem storeMeets_iff {lootSlot : ℕ} {canStore : Bool} :
    s.storeMeets C lootSlot p canStore = true ↔
      ∀ found, s.storable lootSlot p canStore = some found →
        C s.loot p.guid found = true := by
  rw [storeMeets, Option.all_eq_true]

theorem processCurrency_of_meets {isCurrency : UInt32 → Bool} {canStore : ℕ → Bool}
    (hstore : ∀ s i, P s → s.storeMeets C i p (canStore i) = true →
      P (s.storeLootItem i p (canStore i)))
    {slots : List ℕ} (h : P s) (hmeets : currencyMeets C p isCurrency canStore slots s = true) :
    P (processCurrency p isCurrency canStore slots s) := by
  induction slots generalizing s with
  | nil => exact h
  | cons i slots ih =>
    rw [currencyMeets] at hmeets
    rw [processCurrency]
    split
    · rename_i hauto
      rw [if_pos hauto, Bool.and_eq_true] at hmeets
      exact ih (hstore s i h hmeets.1) hmeets.2
    · rename_i hauto
      rw [if_neg hauto] at hmeets
      exact ih h hmeets

end LootState

/-! ## 2. Taken -/

def Loot.itemsOf (l : Loot) (quest : Bool) : List LootItem := if quest then l.questItems else l.items

/-- The lists on which the free for all items among them are marked for each player. -/
def Loot.listsOf (l : Loot) (quest : Bool) : QuestItemMap :=
  if quest then l.playerQuestItems else l.playerFFAItems

def QuestItemMap.Marked (m : QuestItemMap) (guid : ObjectGuid) (index : ℕ) : Prop :=
  ∃ ql q, m.get guid = some ql ∧ q ∈ ql ∧ q.index = index ∧ q.isLooted = true

/-- The player has had the item: a free for all item is marked on his list, another one has the
mark itself. -/
def Loot.Taken (l : Loot) (e : ObjectGuid × Bool × ℕ) : Prop :=
  ∃ item, (l.itemsOf e.2.1)[e.2.2]? = some item ∧
    if item.freeforall then (l.listsOf e.2.1).Marked e.1 e.2.2 else item.isLooted = true

/-- A later state of a loot: nothing that is taken is there again. -/
structure Loot.Later (l l' : Loot) : Prop where
  freeforall : ∀ quest, (l'.itemsOf quest).map LootItem.freeforall =
    (l.itemsOf quest).map LootItem.freeforall
  looted : ∀ {quest : Bool} {index : ℕ} {item item' : LootItem}, (l.itemsOf quest)[index]? = some item →
    (l'.itemsOf quest)[index]? = some item' → item.isLooted = true → item'.isLooted = true
  marked : ∀ {quest guid index}, (l.listsOf quest).Marked guid index →
    (l'.listsOf quest).Marked guid index

namespace QuestItemMap

variable {m : QuestItemMap} {guid g : ObjectGuid} {pos index : ℕ} {ks : List ℕ}

theorem get_take (m : QuestItemMap) (guid : ObjectGuid) (pos : ℕ) (g : ObjectGuid) :
    (m.take guid pos).get g =
      (m.get g).map fun ql =>
        if g = guid then ql.modify pos fun qitem => { qitem with isLooted := true } else ql := by
  induction m with
  | nil => rfl
  | cons e m ih =>
    rw [take, List.map_cons]
    rw [take] at ih
    rw [get, get, List.find?_cons, List.find?_cons]
    by_cases hg : e.1 = g
    · obtain rfl := hg
      by_cases hguid : e.1 = guid
      · simp [hguid]
      · simp [hguid]
    · have hkey : ∀ ql : List QuestItem, ((if e.1 = guid then (e.1, ql) else e).1 == g) = false := by
        intro ql
        split
        · simpa using hg
        · simpa using hg
      rw [hkey, show (e.1 == g) = false by simpa using hg]
      exact ih

theorem get_add (hks : ks ≠ [] ∨ g ≠ guid) :
    (m.add guid ks).get g = if g = guid then some (ks.map (QuestItem.mk · false)) else m.get g := by
  rw [add]
  split
  · rename_i hnil
    rw [if_neg (hks.resolve_left fun h => h hnil)]
  · by_cases hg : guid = g
    · obtain rfl := hg
      simp [get]
    · rw [get, List.find?_cons, show (guid == g) = false by simpa using hg, if_neg (Ne.symm hg)]
      rfl

theorem Marked.take (h : m.Marked g index) (guid : ObjectGuid) (pos : ℕ) :
    (m.take guid pos).Marked g index := by
  obtain ⟨ql, q, hget, hq, hindex, hlooted⟩ := h
  by_cases hg : g = guid
  · obtain ⟨k, hk⟩ := List.getElem?_of_mem hq
    refine ⟨ql.modify pos fun qitem => { qitem with isLooted := true },
      if pos = k then { q with isLooted := true } else q, ?_, ?_, ?_, ?_⟩
    · rw [get_take, hget, Option.map_some, if_pos hg]
    · refine List.mem_of_getElem? (i := k) ?_
      rw [List.getElem?_modify, hk]
      rfl
    · split <;> exact hindex
    · split
      · rfl
      · exact hlooted
  · exact ⟨ql, q, by rw [get_take, hget, Option.map_some, if_neg hg], hq, hindex, hlooted⟩

theorem marked_take {ql : List QuestItem} {q : QuestItem} (hget : m.get guid = some ql)
    (hpos : ql[pos]? = some q) : (m.take guid pos).Marked guid q.index := by
  refine ⟨ql.modify pos fun qitem => { qitem with isLooted := true },
    { q with isLooted := true }, ?_, ?_, rfl, rfl⟩
  · rw [get_take, hget, Option.map_some, if_pos rfl]
  · refine List.mem_of_getElem? (i := pos) ?_
    rw [List.getElem?_modify, hpos]
    simp

theorem Marked.add (h : m.Marked g index) (hnone : m.get guid = none) (ks : List ℕ) :
    (m.add guid ks).Marked g index := by
  obtain ⟨ql, q, hget, hrest⟩ := h
  have hg : g ≠ guid := by
    rintro rfl
    exact nomatch hget.symm.trans hnone
  exact ⟨ql, q, by rw [get_add (Or.inr hg), if_neg hg, hget], hrest⟩

end QuestItemMap

/-! ## 3. Nothing that is taken is there again -/

namespace Loot

variable {l l' l'' : Loot} {p : Looter}

theorem Later.refl (l : Loot) : Later l l :=
  ⟨fun _ => rfl, fun h h' hlooted => Option.some.inj (h.symm.trans h') ▸ hlooted, fun h => h⟩

theorem Later.trans (h : Later l l') (h' : Later l' l'') : Later l l'' := by
  refine ⟨fun quest => (h'.freeforall quest).trans (h.freeforall quest), ?_,
    fun hm => h'.marked (h.marked hm)⟩
  intro quest index item item'' hitem hitem'' hlooted
  have hget := congrArg (fun kinds => kinds[index]?) (h.freeforall quest)
  simp only [List.getElem?_map, hitem, Option.map_some] at hget
  obtain ⟨item', hitem', -⟩ := Option.map_eq_some_iff.mp hget
  exact h'.looted hitem' hitem'' (h.looted hitem hitem' hlooted)

theorem Later.taken (h : Later l l') {e : ObjectGuid × Bool × ℕ} (he : l.Taken e) :
    l'.Taken e := by
  obtain ⟨item, hitem, htaken⟩ := he
  have hget := congrArg (fun kinds => kinds[e.2.2]?) (h.freeforall e.2.1)
  simp only [List.getElem?_map, hitem, Option.map_some] at hget
  obtain ⟨item', hitem', hffa⟩ := Option.map_eq_some_iff.mp hget
  refine ⟨item', hitem', ?_⟩
  rw [hffa]
  split at htaken
  · rename_i hfree
    rw [if_pos hfree]
    exact h.marked htaken
  · rename_i hfree
    rw [if_neg hfree]
    exact h.looted hitem hitem' htaken

theorem Later.countDown (h : Later l l') : Later l l'.countDown :=
  ⟨h.freeforall, h.looted, h.marked⟩

theorem Later.of_modify {f : LootItem → LootItem}
    (hf : ∀ item, (f item).freeforall = item.freeforall ∧
      (item.isLooted = true → (f item).isLooted = true)) (quest : Bool) {i : ℕ}
    (hitems : l'.itemsOf quest = (l.itemsOf quest).modify i f)
    (hothers : l'.itemsOf (!quest) = l.itemsOf (!quest))
    (hlists : ∀ quest', l'.listsOf quest' = l.listsOf quest') : Later l l' := by
  have hcases : ∀ quest', quest' = quest ∨ quest' = !quest := by
    intro quest'
    cases quest' <;> cases quest <;> simp
  refine ⟨fun quest' => ?_, ?_, fun {quest'} guid index hm => by rwa [hlists]⟩
  · rcases hcases quest' with rfl | rfl
    · rw [hitems]
      refine List.ext_getElem? fun k => ?_
      rw [List.getElem?_map, List.getElem?_map, List.getElem?_modify]
      cases (l.itemsOf quest')[k]? with
      | none => rfl
      | some item =>
        simp only [Option.map_eq_map, Option.map_some]
        split
        · rw [(hf item).1]
        · rfl
    · rw [hothers]
  · intro quest' index item item' hitem hitem' hlooted
    rcases hcases quest' with rfl | rfl
    · rw [hitems, List.getElem?_modify, hitem] at hitem'
      obtain rfl := Option.some.inj hitem'
      dsimp only
      split
      · exact (hf item).2 hlooted
      · exact hlooted
    · rw [hothers, hitem] at hitem'
      exact Option.some.inj hitem' ▸ hlooted

theorem Later.modifyItem {f : LootItem → LootItem}
    (hf : ∀ item, (f item).freeforall = item.freeforall ∧
      (item.isLooted = true → (f item).isLooted = true)) (l : Loot) (i : ℕ) :
    Later l (l.modifyItem i f) :=
  Later.of_modify hf false rfl rfl fun quest => by cases quest <;> rfl

theorem Later.modifyQuestItem {f : LootItem → LootItem}
    (hf : ∀ item, (f item).freeforall = item.freeforall ∧
      (item.isLooted = true → (f item).isLooted = true)) (l : Loot) (i : ℕ) :
    Later l (l.modifyQuestItem i f) :=
  Later.of_modify hf true rfl rfl fun quest => by cases quest <;> rfl

theorem Later.modifyItemAt {f : LootItem → LootItem}
    (hf : ∀ item, (f item).freeforall = item.freeforall ∧
      (item.isLooted = true → (f item).isLooted = true)) (l : Loot) (slot : ℕ) :
    Later l (l.modifyItemAt slot f) := by
  rw [Loot.modifyItemAt]
  split
  · exact Later.modifyQuestItem hf l _
  · exact Later.modifyItem hf l _

theorem Later.of_marked (hitems : ∀ quest, (l'.itemsOf quest).map LootItem.unmarked =
      (l.itemsOf quest).map LootItem.unmarked)
    (hmarked : ∀ {quest guid index}, (l.listsOf quest).Marked guid index →
      (l'.listsOf quest).Marked guid index) : Later l l' := by
  refine ⟨fun quest => ?_, ?_, hmarked⟩
  · have hmap := congrArg (List.map LootItem.freeforall) (hitems quest)
    rwa [List.map_map, List.map_map] at hmap
  · intro quest index item item' hitem hitem' hlooted
    have hget := congrArg (fun items => items[index]?) (hitems quest)
    simp only [List.getElem?_map, hitem, hitem', Option.map_some] at hget
    have hflag := congrArg LootItem.isLooted (Option.some.inj hget)
    exact hflag.trans hlooted

theorem Later.takeSlot (l : Loot) (guid : ObjectGuid) (s : SlotItem) :
    Later l (l.takeSlot guid s) := by
  rw [Loot.takeSlot]
  have hmark : ∀ l₁ : Loot, Later l l₁ →
      Later l (if s.item.freeforall then l₁
        else if s.quest then l₁.modifyQuestItem s.index fun item => { item with isLooted := true }
        else l₁.modifyItem s.index fun item => { item with isLooted := true }).countDown := by
    intro l₁ hl₁
    refine Later.countDown ?_
    split
    · exact hl₁
    split
    · refine hl₁.trans (Later.modifyQuestItem ?_ l₁ s.index)
      exact fun _ => ⟨rfl, fun _ => rfl⟩
    · refine hl₁.trans (Later.modifyItem ?_ l₁ s.index)
      exact fun _ => ⟨rfl, fun _ => rfl⟩
  refine hmark _ ?_
  split
  · refine Later.of_marked (fun _ => rfl) fun {quest} g index hm => ?_
    cases quest with
    | true => exact hm.take _ _
    | false => exact hm
  · refine Later.of_marked (fun _ => rfl) fun {quest} g index hm => ?_
    cases quest with
    | true => exact hm
    | false => exact hm.take _ _
  · exact Later.of_marked (fun _ => rfl) fun {quest} g index hm => by cases quest <;> exact hm
  · exact Later.refl l

theorem Later.fillLists (l : Loot) (p : Looter) (presentAtLooting : Bool) :
    Later l (l.fillLists p presentAtLooting) := by
  -- what a filling does to the lists, with the items as they were
  have hfill : ∀ l₁ l₂ l₃ : Loot, Later l l₁ → l₂.unmarked = l₃ →
      l₃.items = l₁.unmarked.items → l₃.questItems = l₁.unmarked.questItems →
      (∀ {quest guid index}, (l₁.listsOf quest).Marked guid index →
        (l₃.listsOf quest).Marked guid index) → Later l l₂ := by
    rintro l₁ l₂ _ hl₁ rfl hitems hquestItems hmarked
    refine hl₁.trans (Later.of_marked (fun quest => ?_) fun {quest} guid index hm => ?_)
    · cases quest with
      | true => exact hquestItems
      | false => exact hitems
    · have hm' := hmarked hm
      cases quest <;> exact hm'
  refine fillLists_induct (P := Later l) ?_ ?_ ?_ (Later.refl l)
  · intro l₁ hl₁ hnone
    refine hfill l₁ _ _ hl₁ (fillQuestLoot_unmarked l₁ p) rfl rfl fun {quest} guid index hm => ?_
    cases quest with
    | true => exact hm.add hnone _
    | false => exact hm
  · intro l₁ hl₁ hnone
    refine hfill l₁ _ _ hl₁ (fillFFALoot_unmarked l₁ p) rfl rfl fun {quest} guid index hm => ?_
    cases quest with
    | true => exact hm
    | false => exact hm.add hnone _
  · intro l₁ hl₁ hnone
    refine hfill l₁ _ _ hl₁ (fillConditional_unmarked l₁ p presentAtLooting) rfl rfl
      fun {quest} guid index hm => ?_
    cases quest <;> exact hm

/-! ## 4. One store -/

/-- What is stored was still there: an item only one may have is not taken, and a free for all item
is on the player's list. -/
def SlotItem.sound (s : SlotItem) : Bool :=
  if s.item.freeforall then s.quest || s.ffaitem.isSome else !s.item.isLooted

section InSlot

variable {guid : ObjectGuid} {slot : ℕ} {s : SlotItem}

theorem InSlot.item (h : l.InSlot guid slot s) :
    (l.itemsOf s.quest)[s.index]? = some s.item := by
  cases h with
  | quest hget hpos hfree hitem => exact hitem
  | ffa hitem => exact hitem
  | ffaUnlisted hitem => exact hitem
  | conditional hitem => exact hitem
  | conditionalUnlisted hitem => exact hitem
  | plain hitem => exact hitem

theorem not_marked {m : QuestItemMap} {ql : List QuestItem} {q : QuestItem} {pos : ℕ}
    (hget : m.get guid = some ql) (hnodup : (ql.map QuestItem.index).Nodup)
    (hpos : ql[pos]? = some q) (hfree : q.isLooted = false) : ¬ m.Marked guid q.index := by
  rintro ⟨ql', q', hget', hq', hindex, hlooted⟩
  obtain rfl : ql = ql' := Option.some.inj (hget.symm.trans hget')
  obtain rfl := List.inj_on_of_nodup_map hnodup hq' (List.mem_of_getElem? hpos) hindex
  exact nomatch hlooted.symm.trans hfree

theorem InSlot.not_marked (h : l.InSlot guid slot s) (hl : l.WellFormed) (hsound : s.sound = true)
    (hffa : s.item.freeforall = true) : ¬ (l.listsOf s.quest).Marked guid s.index := by
  rw [SlotItem.sound, if_pos hffa] at hsound
  cases h with
  | quest hget hpos hfree hitem =>
    exact Loot.not_marked hget (hl.quest_of_mem (QuestItemMap.mem_of_get hget)).1 hpos hfree
  | ffa hitem hffa hget hpos hindex hfree =>
    obtain rfl := hindex
    exact Loot.not_marked hget (hl.ffa_of_mem (QuestItemMap.mem_of_get hget)).1 hpos hfree
  | ffaUnlisted => exact nomatch hsound
  | conditional hitem hfalse => exact nomatch hfalse.symm.trans hffa
  | conditionalUnlisted hitem hfalse => exact nomatch hfalse.symm.trans hffa
  | plain hitem hfalse => exact nomatch hfalse.symm.trans hffa

theorem InSlot.taken (h : l.InSlot guid slot s) (hsound : s.sound = true) :
    (l.takeSlot guid s).Taken (guid, s.quest, s.index) := by
  have hitem := h.item
  -- the item as it is afterwards
  have hflag : ∀ l₁ : Loot, (l₁.itemsOf s.quest)[s.index]? = some s.item →
      s.item.freeforall = false →
      (if s.item.freeforall then l₁
        else if s.quest then l₁.modifyQuestItem s.index fun item => { item with isLooted := true }
        else l₁.modifyItem s.index fun item => { item with isLooted := true }).countDown.Taken
          (guid, s.quest, s.index) := by
    intro l₁ hget hffa
    rw [if_neg (by simp [hffa])]
    cases hquest : s.quest with
    | true =>
      rw [hquest] at hget
      refine ⟨{ s.item with isLooted := true }, ?_, by simp [hffa]⟩
      change (l₁.questItems.modify _ _)[s.index]? = _
      rw [List.getElem?_modify, show l₁.questItems[s.index]? = _ from hget]
      simp
    | false =>
      rw [hquest] at hget
      refine ⟨{ s.item with isLooted := true }, ?_, by simp [hffa]⟩
      change (l₁.items.modify _ _)[s.index]? = _
      rw [List.getElem?_modify, show l₁.items[s.index]? = _ from hget]
      simp
  rw [SlotItem.sound] at hsound
  cases h with
  | @quest ql pos q item hget hpos hfree hitem =>
    cases hffa : item.freeforall with
    | true =>
      refine ⟨item, ?_, ?_⟩
      · rw [takeSlot]
        simpa [hffa, itemsOf, countDown] using hitem
      · rw [if_pos hffa, takeSlot]
        simpa [hffa, listsOf, countDown] using QuestItemMap.marked_take hget hpos
    | false => exact hflag _ hitem hffa
  | @ffa slot item ql pos q hitem hffa hget hpos hindex hfree =>
    refine ⟨item, ?_, ?_⟩
    · rw [takeSlot]
      simpa [hffa, itemsOf, countDown] using hitem
    · obtain rfl := hindex
      rw [if_pos hffa, takeSlot]
      simpa [hffa, listsOf, countDown] using QuestItemMap.marked_take hget hpos
  | ffaUnlisted hitem hffa =>
    rw [if_pos hffa] at hsound
    cases hsound
  | conditional hitem hffa => exact hflag _ hitem hffa
  | conditionalUnlisted hitem hffa => exact hflag _ hitem hffa
  | plain hitem hffa => exact hflag _ hitem hffa

end InSlot

end Loot

/-! ## 5. Every run -/

/-- Whether the item an entry of the log names is free for all. -/
def Loot.freeForAll (l : Loot) (x : Bool × ℕ) : Bool :=
  ((l.itemsOf x.1)[x.2]?).any LootItem.freeforall

theorem Loot.Later.freeForAll_eq {l l' : Loot} (h : l.Later l') (x : Bool × ℕ) :
    l'.freeForAll x = l.freeForAll x := by
  have hget := congrArg (fun kinds => kinds[x.2]?.any id) (h.freeforall x.1)
  simpa [Loot.freeForAll, Option.any_map] using hget

namespace LootState

variable {s : LootState} {p : Looter}

/-- Nothing has been handed out twice: an item has been stored twice only if it is free for all,
and then by different players. -/
def HandedOutOnce (s : LootState) : Prop :=
  s.stored.Pairwise fun e e' => e.2 = e'.2 → s.loot.freeForAll e.2 = true ∧ e.1 ≠ e'.1

instance (s : LootState) : Decidable s.HandedOutOnce :=
  inferInstanceAs (Decidable (List.Pairwise _ _))

/-- Whatever has been stored is taken. -/
structure StoredInv (s : LootState) : Prop where
  wellFormed : s.loot.WellFormed
  taken : ∀ e ∈ s.stored, s.loot.Taken e
  once : s.HandedOutOnce

theorem inSlot_of_storable {lootSlot : ℕ} {canStore : Bool} {found : Loot.SlotItem}
    (h : s.storable lootSlot p canStore = some found) :
    s.loot.InSlot p.guid lootSlot found := by
  rw [storable] at h
  split at h
  · exact nomatch h
  rename_i found' hfound
  split at h
  · exact nomatch h
  split at h
  · exact nomatch h
  split at h
  · obtain rfl := Option.some.inj h
    exact Loot.inSlot_of_some hfound
  · exact nomatch h

theorem StoredInv.later (h : s.StoredInv) {l : Loot} (hl : s.loot.Later l)
    (hwell : l.WellFormed) : ({ s with loot := l } : LootState).StoredInv := by
  refine ⟨hwell, fun e he => hl.taken (h.taken e he), h.once.imp fun hpair heq => ?_⟩
  rw [hl.freeForAll_eq]
  exact hpair heq

theorem StoredInv.storeLootItem (h : s.StoredInv) {lootSlot : ℕ} {canStore : Bool}
    (hsound : s.storeMeets (fun _ _ => Loot.SlotItem.sound) lootSlot p canStore = true) :
    (s.storeLootItem lootSlot p canStore).StoredInv := by
  rw [LootState.storeLootItem]
  split
  · exact h
  rename_i found hstorable
  have hfound := storeMeets_iff.mp hsound found hstorable
  have hslot := inSlot_of_storable hstorable
  have hlater := h.later (Loot.Later.takeSlot s.loot p.guid found)
    (h.wellFormed.of_shape (Loot.shape_takeSlot _ _ _))
  refine ⟨hlater.wellFormed, ?_, ?_⟩
  · intro e he
    rcases List.mem_cons.mp he with rfl | he
    · exact hslot.taken hfound
    · exact hlater.taken e he
  · refine List.pairwise_cons.mpr ⟨fun e he heq => ?_, hlater.once⟩
    obtain ⟨item, hitem, htaken⟩ := h.taken e he
    have heq' : e.2 = (found.quest, found.index) := heq.symm
    rw [heq'] at hitem htaken
    obtain rfl : item = found.item := Option.some.inj (hitem.symm.trans hslot.item)
    cases hffa : found.item.freeforall with
    | true =>
      rw [if_pos hffa] at htaken
      refine ⟨?_, ?_⟩
      · rw [(Loot.Later.takeSlot s.loot p.guid found).freeForAll_eq, Loot.freeForAll, hslot.item]
        exact hffa
      · intro hguid
        rw [← (show p.guid = e.1 from hguid)] at htaken
        exact hslot.not_marked h.wellFormed hfound hffa htaken
    | false =>
      rw [hffa, if_neg Bool.false_ne_true] at htaken
      rw [Loot.SlotItem.sound, hffa, htaken] at hfound
      cases hfound

theorem StoredInv.step (h : s.StoredInv) (e : LootEvent)
    (hsound : s.storesMeet (fun _ _ => Loot.SlotItem.sound) e = true) : (s.step e).StoredInv := by
  have hwell := step_wellFormed h.wellFormed e
  cases e with
  | fill p presentAtLooting isCurrency canStore =>
    have hfilled := h.later (Loot.Later.fillLists s.loot p presentAtLooting)
      (h.wellFormed.fillLists p presentAtLooting)
    rw [LootState.step, fillNotNormalLootFor]
    rw [storesMeet] at hsound
    dsimp only at hsound ⊢
    split
    · exact hfilled
    · rename_i hpresent
      rw [Bool.eq_false_iff.mpr hpresent, Bool.false_or] at hsound
      exact processCurrency_of_meets (fun s i h hmeets => h.storeLootItem hmeets) hfilled hsound
  | store lootSlot p canStore => exact h.storeLootItem hsound
  | masterGive slotid target canStore =>
    rw [LootState.step, lootMasterGive]
    split
    · exact h
    split
    · exact h
    split
    · exact h
    · refine h.later (Loot.Later.countDown (Loot.Later.modifyItemAt ?_ _ _))
        (h.wellFormed.of_shape ((Loot.shape_countDown _).trans (Loot.shape_modifyItemAt ?_ _ _)))
      · exact fun _ => ⟨rfl, fun _ => rfl⟩
      · exact fun _ => rfl
  | rollWon itemSlot =>
    refine h.later (Loot.Later.countDown (Loot.Later.modifyItemAt ?_ _ _)) hwell
    exact fun _ => ⟨rfl, fun _ => rfl⟩
  | setBlocked slot blocked =>
    refine h.later (Loot.Later.modifyItemAt ?_ _ _) hwell
    exact fun _ => ⟨rfl, fun h => h⟩
  | setUnderthreshold slot =>
    refine h.later (Loot.Later.modifyItemAt ?_ _ _) hwell
    exact fun _ => ⟨rfl, fun h => h⟩
  | takeMoney => exact h.later ⟨fun _ => rfl, (Loot.Later.refl s.loot).looted, fun h => h⟩ hwell
  | setRoundRobinPlayer player =>
    exact h.later ⟨fun _ => rfl, (Loot.Later.refl s.loot).looted, fun h => h⟩ hwell

/-- **Nothing is handed out twice**, in a run in which every item that is stored was not taken yet,
and every free for all item that is stored is on the player's list. -/
theorem run_handedOutOnce (h : s.Unlisted) {evs : List LootEvent}
    (hsound : Steps step (fun s e => s.storesMeet (fun _ _ => Loot.SlotItem.sound) e = true) s evs) :
    States step HandedOutOnce s evs := by
  have hinv : s.StoredInv := by
    refine ⟨h.wellFormed, ?_, ?_⟩
    · rw [h.stored]
      exact fun _ he => (nomatch he)
    · rw [HandedOutOnce, h.stored]
      exact List.Pairwise.nil
  exact (States.of_steps (fun _ e hs hsound => hs.step e hsound) hinv hsound).imp
    fun _ hs => hs.once

/-- A quest item, a conditional item and a free for all item. -/
def listedLoot : LootState :=
  generated (fun id => some ⟨if id = 3 then ITEM_PROTO_FLAG_MULTI_DROP else 0, 0, 1⟩) 0
    [⟨⟨1, true, []⟩, 1, fun _ => 0, fun _ => 0⟩, ⟨⟨2, false, [7]⟩, 1, fun _ => 0, fun _ => 0⟩,
      ⟨⟨3, false, []⟩, 1, fun _ => 0, fun _ => 0⟩]

/-- Two players take what is there, each item once and the free for all item both. -/
theorem listedLoot_handedOutOnce :
    let evs : List LootEvent :=
      [.fill (loner 1) true (fun _ => false) fun _ => true,
        .fill (loner 2) true (fun _ => false) fun _ => true, .store 2 (loner 1) true,
        .store 0 (loner 2) true, .store 1 (loner 1) true, .store 1 (loner 2) true,
        .store 1 (loner 2) true]
    listedLoot.Unlisted ∧
      Steps step (fun s e => s.storesMeet (fun _ _ => Loot.SlotItem.sound) e = true) listedLoot evs ∧
      States step HandedOutOnce listedLoot evs := by
  have hsound : Steps step (fun s e => s.storesMeet (fun _ _ => Loot.SlotItem.sound) e = true)
      listedLoot [.fill (loner 1) true (fun _ => false) fun _ => true,
        .fill (loner 2) true (fun _ => false) fun _ => true, .store 2 (loner 1) true,
        .store 0 (loner 2) true, .store 1 (loner 1) true, .store 1 (loner 2) true,
        .store 1 (loner 2) true] := by
    refine ⟨?_, ?_, ?_, ?_, ?_, ?_, ?_, trivial⟩ <;> decide +kernel
  exact ⟨generated_unlisted _ _ _, hsound, run_handedOutOnce (generated_unlisted _ _ _) hsound⟩

/-- Two players have the same quest item on their lists, and both take it. -/
theorem handedOutOnce_fails :
    ¬ ∀ (s : LootState), s.Unlisted → ∀ evs, States step HandedOutOnce s evs := by
  intro hall
  have hlast := (hall listedLoot (generated_unlisted _ _ _)
    [.fill (loner 1) true (fun _ => false) fun _ => true,
      .fill (loner 2) true (fun _ => false) fun _ => true, .store 2 (loner 1) true,
      .store 2 (loner 2) true]).exec
  revert hlast
  decide +kernel

end LootState

end FunPvp.Looting
