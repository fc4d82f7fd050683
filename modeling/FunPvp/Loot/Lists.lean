/-
# The lists of a loot

Whatever happens to a loot, its items keep their kinds and the lists of the players keep their
entries; only flags and counters change (`Loot.shape`). So what a list says of the items it names
is settled when it is filled: each item once, and of the kind the list is for
(`Shape.WellFormed`).
-/
import FunPvp.Lib.Counters
import FunPvp.Lib.Run
import FunPvp.Loot.Loot

namespace FunPvp.Looting

open FunPvp.Lib

/-! ## 1. Positions that pass a test -/

/-- The positions, from `i` on, of the items that pass a test. -/
def indicesFrom (P : LootItem → Bool) : ℕ → List LootItem → List ℕ
  | _, [] => []
  | i, item :: items =>
    if P item then i :: indicesFrom P (i + 1) items else indicesFrom P (i + 1) items

section IndicesFrom

variable {P : LootItem → Bool} {i k : ℕ} {items : List LootItem}

theorem mem_indicesFrom :
    k ∈ indicesFrom P i items ↔ i ≤ k ∧ ∃ item, items[k - i]? = some item ∧ P item = true := by
  induction items generalizing i with
  | nil => simp [indicesFrom]
  | cons item items ih =>
    have hrest : k ∈ indicesFrom P (i + 1) items ↔
        i < k ∧ ∃ item', (item :: items)[k - i]? = some item' ∧ P item' = true := by
      rw [ih]
      constructor
      · rintro ⟨hle, item', hget, hP⟩
        refine ⟨hle, item', ?_, hP⟩
        rw [show k - i = (k - (i + 1)) + 1 by omega, List.getElem?_cons_succ]
        exact hget
      · rintro ⟨hlt, item', hget, hP⟩
        refine ⟨hlt, item', ?_, hP⟩
        rwa [show k - i = (k - (i + 1)) + 1 by omega, List.getElem?_cons_succ] at hget
    rw [indicesFrom]
    split
    · rename_i hP
      rw [List.mem_cons, hrest]
      constructor
      · rintro (rfl | ⟨hlt, hex⟩)
        · exact ⟨le_rfl, item, by simp, hP⟩
        · exact ⟨le_of_lt hlt, hex⟩
      · rintro ⟨hle, hex⟩
        rcases eq_or_lt_of_le hle with rfl | hlt
        · exact Or.inl rfl
        · exact Or.inr ⟨hlt, hex⟩
    · rename_i hP
      rw [hrest]
      constructor
      · exact fun ⟨hlt, hex⟩ => ⟨le_of_lt hlt, hex⟩
      · rintro ⟨hle, item', hget, hP'⟩
        refine ⟨lt_of_le_of_ne hle ?_, item', hget, hP'⟩
        rintro rfl
        rw [Nat.sub_self, List.getElem?_cons_zero] at hget
        exact hP (Option.some.inj hget ▸ hP')

theorem nodup_indicesFrom : (indicesFrom P i items).Nodup := by
  induction items generalizing i with
  | nil => exact List.nodup_nil
  | cons item items ih =>
    rw [indicesFrom]
    split
    · refine List.nodup_cons.mpr ⟨fun hmem => ?_, ih⟩
      have hle := (mem_indicesFrom.mp hmem).1
      omega
    · exact ih

end IndicesFrom

/-! ## 2. What never changes -/

/-- Whether an item is free for all, and whether it is there without conditions. -/
def LootItem.kind (item : LootItem) : Bool × Bool := (item.freeforall, item.conditions.isEmpty)

def QuestItemMap.indices (m : QuestItemMap) : List (ObjectGuid × List ℕ) :=
  m.map fun e => (e.1, e.2.map QuestItem.index)

/-- The kinds of the items and the entries of the lists. -/
structure Shape where
  items : List (Bool × Bool)
  questItems : List (Bool × Bool)
  quest : List (ObjectGuid × List ℕ)
  ffa : List (ObjectGuid × List ℕ)
  conditional : List (ObjectGuid × List ℕ)

def Loot.shape (l : Loot) : Shape where
  items := l.items.map LootItem.kind
  questItems := l.questItems.map LootItem.kind
  quest := QuestItemMap.indices l.playerQuestItems
  ffa := QuestItemMap.indices l.playerFFAItems
  conditional := QuestItemMap.indices l.playerNonQuestNonFFAConditionalItems

/-- Each player has one list of a kind, each item is on it once, and it is an item the list is for;
a slot number is a byte. -/
structure Shape.WellFormed (sh : Shape) : Prop where
  length_lt : sh.items.length + sh.questItems.length < 256
  quest_keys : (sh.quest.map Prod.fst).Nodup
  quest : ∀ e ∈ sh.quest, e.2.Nodup ∧ ∀ i ∈ e.2, i < sh.questItems.length
  ffa_keys : (sh.ffa.map Prod.fst).Nodup
  ffa : ∀ e ∈ sh.ffa, e.2.Nodup ∧ ∀ i ∈ e.2, ∃ plain, sh.items[i]? = some (true, plain)
  conditional_keys : (sh.conditional.map Prod.fst).Nodup
  conditional : ∀ e ∈ sh.conditional, e.2.Nodup ∧ ∀ i ∈ e.2, sh.items[i]? = some (false, false)

def Loot.WellFormed (l : Loot) : Prop := l.shape.WellFormed

theorem Loot.WellFormed.of_shape {l l' : Loot} (h : l.WellFormed) (hshape : l'.shape = l.shape) :
    l'.WellFormed := by
  rw [Loot.WellFormed, hshape]
  exact h

namespace QuestItemMap

variable {m : QuestItemMap} {guid : ObjectGuid} {ql : List QuestItem}

theorem mem_of_get (h : m.get guid = some ql) : (guid, ql) ∈ m := by
  obtain ⟨e, he, rfl⟩ := Option.map_eq_some_iff.mp h
  have hguid : e.1 = guid := by simpa using List.find?_some he
  rw [← hguid]
  exact List.mem_of_find?_eq_some he

theorem not_mem_of_get (h : m.get guid = none) : guid ∉ m.map Prod.fst := by
  intro hmem
  obtain ⟨e, he, heq⟩ := List.mem_map.mp hmem
  have hnone := List.find?_eq_none.mp (Option.map_eq_none_iff.mp h) e he
  exact hnone (by simpa using heq)

theorem mem_indices (h : (guid, ql) ∈ m) : (guid, ql.map QuestItem.index) ∈ m.indices :=
  List.mem_map_of_mem h

@[simp] theorem keys_indices (m : QuestItemMap) : m.indices.map Prod.fst = m.map Prod.fst := by
  simp [indices, Function.comp_def]

@[simp] theorem indices_take (m : QuestItemMap) (guid : ObjectGuid) (pos : ℕ) :
    (m.take guid pos).indices = m.indices := by
  rw [indices, indices, take, List.map_map]
  refine List.map_congr_left fun e _ => ?_
  rw [Function.comp_apply]
  split
  · dsimp only
    refine congrArg (Prod.mk e.1) ?_
    refine List.ext_getElem? fun k => ?_
    rw [List.getElem?_map, List.getElem?_map, List.getElem?_modify]
    cases e.2[k]? with
    | none => rfl
    | some q =>
      simp only [Option.map_eq_map, Option.map_some]
      split <;> rfl
  · rfl

end QuestItemMap

namespace Loot

variable {l : Loot} {p : Looter}

variable {f : LootItem → LootItem}

theorem map_kind_modify (hf : ∀ item, (f item).kind = item.kind) (items : List LootItem) (i : ℕ) :
    (items.modify i f).map LootItem.kind = items.map LootItem.kind := by
  refine List.ext_getElem? fun k => ?_
  rw [List.getElem?_map, List.getElem?_map, List.getElem?_modify]
  cases items[k]? with
  | none => rfl
  | some item =>
    simp only [Option.map_eq_map, Option.map_some]
    split
    · rw [hf]
    · rfl

theorem shape_modifyItem (hf : ∀ item, (f item).kind = item.kind)
    (l : Loot) (i : ℕ) : (l.modifyItem i f).shape = l.shape := by
  rw [shape, shape, modifyItem]
  simp only [map_kind_modify hf]

theorem shape_modifyQuestItem (hf : ∀ item, (f item).kind = item.kind)
    (l : Loot) (i : ℕ) : (l.modifyQuestItem i f).shape = l.shape := by
  rw [shape, shape, modifyQuestItem]
  simp only [map_kind_modify hf]

theorem shape_modifyItemAt (hf : ∀ item, (f item).kind = item.kind)
    (l : Loot) (slot : ℕ) : (l.modifyItemAt slot f).shape = l.shape := by
  rw [modifyItemAt]
  split
  · exact shape_modifyQuestItem hf l _
  · exact shape_modifyItem hf l _

@[simp] theorem shape_countDown (l : Loot) : l.countDown.shape = l.shape := rfl

theorem shape_takeSlot (l : Loot) (guid : ObjectGuid) (s : SlotItem) :
    (l.takeSlot guid s).shape = l.shape := by
  rw [takeSlot]
  have hmark : ∀ l' : Loot, l'.shape = l.shape →
      (if s.item.freeforall then l'
        else if s.quest then l'.modifyQuestItem s.index fun item => { item with isLooted := true }
        else l'.modifyItem s.index fun item => { item with isLooted := true }).shape = l.shape := by
    intro l' hl'
    split
    · exact hl'
    split
    · exact (shape_modifyQuestItem (by exact fun _ => rfl) l' _).trans hl'
    · exact (shape_modifyItem (by exact fun _ => rfl) l' _).trans hl'
  rw [shape_countDown]
  refine hmark _ ?_
  split <;> simp [shape]

/-! What a well formed loot has on a list. -/

section OfMem

variable {guid : ObjectGuid} {ql : List QuestItem}

theorem WellFormed.quest_of_mem (h : l.WellFormed) (hmem : (guid, ql) ∈ l.playerQuestItems) :
    (ql.map QuestItem.index).Nodup ∧ ∀ q ∈ ql, ∃ item, l.questItems[q.index]? = some item := by
  obtain ⟨hnodup, hlt⟩ := h.quest _ (QuestItemMap.mem_indices hmem)
  refine ⟨hnodup, fun q hq => ?_⟩
  have hq' := hlt q.index (List.mem_map_of_mem hq)
  rw [shape, List.length_map] at hq'
  exact ⟨_, List.getElem?_eq_getElem hq'⟩

theorem WellFormed.ffa_of_mem (h : l.WellFormed) (hmem : (guid, ql) ∈ l.playerFFAItems) :
    (ql.map QuestItem.index).Nodup ∧
      ∀ q ∈ ql, ∃ item, l.items[q.index]? = some item ∧ item.freeforall = true := by
  obtain ⟨hnodup, hkind⟩ := h.ffa _ (QuestItemMap.mem_indices hmem)
  refine ⟨hnodup, fun q hq => ?_⟩
  obtain ⟨plain, hget⟩ := hkind q.index (List.mem_map_of_mem hq)
  rw [shape, List.getElem?_map] at hget
  obtain ⟨item, hitem, heq⟩ := Option.map_eq_some_iff.mp hget
  exact ⟨item, hitem, congrArg Prod.fst heq⟩

theorem WellFormed.conditional_of_mem (h : l.WellFormed)
    (hmem : (guid, ql) ∈ l.playerNonQuestNonFFAConditionalItems) :
    (ql.map QuestItem.index).Nodup ∧ ∀ q ∈ ql, ∃ item, l.items[q.index]? = some item ∧
      item.freeforall = false ∧ item.conditions.isEmpty = false := by
  obtain ⟨hnodup, hkind⟩ := h.conditional _ (QuestItemMap.mem_indices hmem)
  refine ⟨hnodup, fun q hq => ?_⟩
  have hget := hkind q.index (List.mem_map_of_mem hq)
  rw [shape, List.getElem?_map] at hget
  obtain ⟨item, hitem, heq⟩ := Option.map_eq_some_iff.mp hget
  exact ⟨item, hitem, congrArg Prod.fst heq, congrArg Prod.snd heq⟩

end OfMem

/-! ## 3. The lists that are filled -/

end Loot

def LootItem.unmarked (item : LootItem) : LootItem :=
  { item with allowedGUIDs := [], isBlocked := false, isCounted := false }

namespace Loot

/-- A loot without what the loops of the filling functions write. -/
def unmarked (l : Loot) : Loot :=
  { l with
    items := l.items.map LootItem.unmarked
    questItems := l.questItems.map LootItem.unmarked
    unlootedCount := 0 }

variable {f : LootItem → LootItem}

theorem map_unmarked_modify
    (hf : ∀ item, (f item).unmarked = item.unmarked) (items : List LootItem) (i : ℕ) :
    (items.modify i f).map LootItem.unmarked = items.map LootItem.unmarked := by
  refine List.ext_getElem? fun k => ?_
  rw [List.getElem?_map, List.getElem?_map, List.getElem?_modify]
  cases items[k]? with
  | none => rfl
  | some item =>
    simp only [Option.map_eq_map, Option.map_some]
    split
    · rw [hf]
    · rfl

theorem unmarked_modifyItem (hf : ∀ item, (f item).unmarked = item.unmarked) (l : Loot) (i : ℕ) :
    (l.modifyItem i f).unmarked = l.unmarked := by
  rw [unmarked, unmarked, modifyItem]
  simp only [map_unmarked_modify hf]

theorem unmarked_modifyQuestItem
    (hf : ∀ item, (f item).unmarked = item.unmarked) (l : Loot) (i : ℕ) :
    (l.modifyQuestItem i f).unmarked = l.unmarked := by
  rw [unmarked, unmarked, modifyQuestItem]
  simp only [map_unmarked_modify hf]

theorem length_items_of_unmarked {l l' : Loot} (h : l'.unmarked = l.unmarked) :
    l'.items.length = l.items.length := by
  have hlen := congrArg (fun l => l.items.length) h
  simpa [unmarked] using hlen

theorem shape_unmarked (l : Loot) : l.unmarked.shape = l.shape := by
  simp [shape, unmarked, Function.comp_def, LootItem.kind, LootItem.unmarked]

def ffaTest (p : Looter) (item : LootItem) : Bool :=
  !item.isLooted && item.freeforall && p.allowed item

/-- What gets on the quest list of a player, as long as there are slots. -/
def questTest (p : Looter) (item : LootItem) : Bool := !item.isLooted && p.lists item

def conditionalTest (p : Looter) (item : LootItem) : Bool :=
  !item.isLooted && !item.freeforall && p.lists item && !item.conditions.isEmpty

theorem fillFFAFrom_spec (p : Looter) (items : List LootItem) (i : ℕ) (ql : List QuestItem)
    (l : Loot) :
    (fillFFAFrom p i items (ql, l)).1 =
        ql ++ (indicesFrom (ffaTest p) i items).map (QuestItem.mk · false) ∧
      (fillFFAFrom p i items (ql, l)).2.unmarked = l.unmarked ∧
      (fillFFAFrom p i items (ql, l)).2.unlootedCount =
        l.unlootedCount + UInt8.ofNat (indicesFrom (ffaTest p) i items).length := by
  induction items generalizing i ql l with
  | nil => simp [fillFFAFrom, indicesFrom]
  | cons item items ih =>
    rw [fillFFAFrom, indicesFrom, ffaTest]
    split
    · obtain ⟨hql, hmarks, hcount⟩ := ih (i + 1) (ql ++ [⟨i, false⟩]) l.countUp
      refine ⟨by rw [hql]; simp, hmarks, ?_⟩
      rw [hcount, List.length_cons, UInt8.ofNat_add, UInt8.add_comm (UInt8.ofNat _),
        ← UInt8.add_assoc]
      rfl
    · exact ih (i + 1) ql l

theorem fillConditionalFrom_spec (p : Looter) (presentAtLooting : Bool) (items : List LootItem)
    (i : ℕ) (ql : List QuestItem) (l : Loot) :
    (fillConditionalFrom p presentAtLooting i items (ql, l)).1 =
        ql ++ (indicesFrom (conditionalTest p) i items).map (QuestItem.mk · false) ∧
      (fillConditionalFrom p presentAtLooting i items (ql, l)).2.unmarked = l.unmarked := by
  induction items generalizing i ql l with
  | nil => simp [fillConditionalFrom, indicesFrom]
  | cons item items ih =>
    rw [fillConditionalFrom, indicesFrom, conditionalTest]
    have hallowed : (if presentAtLooting then
        l.modifyItem i fun item => item.addAllowedLooter p.guid else l).unmarked = l.unmarked := by
      split
      · exact unmarked_modifyItem (by exact fun _ => rfl) l i
      · rfl
    generalize (if presentAtLooting then
        l.modifyItem i fun item => item.addAllowedLooter p.guid else l) = l' at hallowed ⊢
    by_cases hlists : (!item.isLooted && !item.freeforall && p.lists item) = true
    · rw [if_pos hlists, hlists, Bool.true_and]
      dsimp only
      split
      · have hcounted : (if !item.isCounted then
            l'.countUp.modifyItem i fun item => { item with isCounted := true } else l').unmarked =
              l.unmarked := by
          split
          · exact (unmarked_modifyItem (by exact fun _ => rfl) _ i).trans hallowed
          · exact hallowed
        obtain ⟨hql, hmarks⟩ := ih (i + 1) (ql ++ [⟨i, false⟩]) (if !item.isCounted then
            l'.countUp.modifyItem i fun item => { item with isCounted := true } else l')
        exact ⟨by rw [hql]; simp, hmarks.trans hcounted⟩
      · obtain ⟨hql, hmarks⟩ := ih (i + 1) ql l'
        exact ⟨hql, hmarks.trans hallowed⟩
    · rw [if_neg hlists, Bool.eq_false_iff.mpr hlists, Bool.false_and]
      exact ih (i + 1) ql l

def countsOnList (item : LootItem) : Bool := item.freeforall || !item.isBlocked

/-- The places a player's window has for quest items: the loop of `FillQuestLoot` stops when the
last of them is taken, which it never is when the items have more than their places already. -/
def questRoom (l : Loot) : ℕ :=
  if l.items.length ≤ MAX_NR_LOOT_ITEMS then MAX_NR_LOOT_ITEMS - l.items.length
  else l.questItems.length

/-- The quest items `FillQuestLoot` puts on a player's list. -/
def questSlots (l : Loot) (p : Looter) : List ℕ :=
  (indicesFrom (questTest p) 0 l.questItems).take l.questRoom

theorem fillQuestFrom_spec (p : Looter) (all items : List LootItem) (i room : ℕ)
    (ql : List QuestItem) (l : Loot) (hall : ∀ j, items[j]? = all[i + j]?)
    (hroom : l.items.length + ql.length + room = MAX_NR_LOOT_ITEMS ∧ 0 < room ∨
      MAX_NR_LOOT_ITEMS < l.items.length ∧ items.length ≤ room) :
    (fillQuestFrom p i items (ql, l)).1 =
        ql ++ ((indicesFrom (questTest p) i items).take room).map (QuestItem.mk · false) ∧
      (fillQuestFrom p i items (ql, l)).2.unmarked = l.unmarked ∧
      (fillQuestFrom p i items (ql, l)).2.unlootedCount =
        l.unlootedCount + UInt8.ofNat (((indicesFrom (questTest p) i items).take room).countP
          fun k => (all[k]?).any countsOnList) := by
  induction items generalizing i ql l room with
  | nil => simp [fillQuestFrom, indicesFrom]
  | cons item items ih =>
    rw [List.length_cons] at hroom
    have hitem : all[i]? = some item := by simpa using (hall 0).symm
    have hrest : ∀ j, items[j]? = all[i + 1 + j]? := fun j => by
      rw [Nat.add_assoc, Nat.add_comm 1 j, ← hall (j + 1), List.getElem?_cons_succ]
    rw [fillQuestFrom, indicesFrom, questTest]
    split
    · have hcounted : (if item.freeforall || !item.isBlocked then l.countUp else l).unmarked =
          l.unmarked := by
        split <;> rfl
      have hcount : (if item.freeforall || !item.isBlocked then l.countUp else l).unlootedCount =
          l.unlootedCount + UInt8.ofNat (if countsOnList item then 1 else 0) := by
        rw [countsOnList]
        split
        · rfl
        · exact (UInt8.add_zero _).symm
      dsimp only
      generalize (if item.freeforall || !item.isBlocked then l.countUp else l) = l₁
        at hcounted hcount ⊢
      have hblocked : (if Looter.blocks p then
          l₁.modifyQuestItem i fun item => { item with isBlocked := true } else l₁).unmarked =
            l.unmarked := by
        split
        · exact (unmarked_modifyQuestItem (by exact fun _ => rfl) l₁ i).trans hcounted
        · exact hcounted
      have hcount₂ : (if Looter.blocks p then
          l₁.modifyQuestItem i fun item => { item with isBlocked := true } else l₁).unlootedCount =
            l.unlootedCount + UInt8.ofNat (if countsOnList item then 1 else 0) := by
        split
        · exact hcount
        · exact hcount
      generalize (if Looter.blocks p then
          l₁.modifyQuestItem i fun item => { item with isBlocked := true } else l₁) = l₂
          at hblocked hcount₂ ⊢
      have hlength := length_items_of_unmarked hblocked
      obtain ⟨room, rfl⟩ : ∃ n, room = n + 1 := ⟨room - 1, by omega⟩
      rw [List.take_succ_cons, List.countP_cons, hitem, Option.any_some]
      split
      · rename_i hfull
        rw [hlength, List.length_append, List.length_singleton] at hfull
        obtain rfl : room = 0 := by omega
        exact ⟨by simp, hblocked, by simpa using hcount₂⟩
      · rename_i hfull
        rw [hlength, List.length_append, List.length_singleton] at hfull
        obtain ⟨hql, hmarks, hcounts⟩ := ih (i + 1) room (ql ++ [⟨i, false⟩]) l₂ hrest (by
          rw [hlength, List.length_append, List.length_singleton]
          omega)
        refine ⟨by rw [hql]; simp, hmarks.trans hblocked, ?_⟩
        rw [hcounts, hcount₂, UInt8.ofNat_add, UInt8.add_assoc]
        exact congrArg _ (UInt8.add_comm _ _)
    · exact ih (i + 1) room ql l hrest (by omega)

end Loot

def QuestItemMap.add (m : QuestItemMap) (guid : ObjectGuid) (ks : List ℕ) : QuestItemMap :=
  if ks = [] then m else (guid, ks.map (QuestItem.mk · false)) :: m

def addIndices (m : List (ObjectGuid × List ℕ)) (guid : ObjectGuid) (ks : List ℕ) :
    List (ObjectGuid × List ℕ) :=
  if ks = [] then m else (guid, ks) :: m

@[simp] theorem QuestItemMap.indices_add (m : QuestItemMap) (guid : ObjectGuid) (ks : List ℕ) :
    (m.add guid ks).indices = addIndices m.indices guid ks := by
  rw [add, addIndices]
  split
  · rfl
  · simp [indices, Function.comp_def]

namespace Loot

variable {l : Loot} {p : Looter}

/-- The items `FillFFALoot` puts on a player's list. -/
def ffaSlots (l : Loot) (p : Looter) : List ℕ := indicesFrom (ffaTest p) 0 l.items

/-- The items `FillNonQuestNonFFAConditionalLoot` puts on a player's list. -/
def conditionalSlots (l : Loot) (p : Looter) : List ℕ := indicesFrom (conditionalTest p) 0 l.items

theorem fillFFALoot_unmarked (l : Loot) (p : Looter) :
    (l.fillFFALoot p).unmarked =
      { l.unmarked with playerFFAItems := l.playerFFAItems.add p.guid (l.ffaSlots p) } := by
  obtain ⟨hql, hmarks, -⟩ := fillFFAFrom_spec p l.items 0 [] l
  rw [List.nil_append] at hql
  rw [fillFFALoot, QuestItemMap.add, ffaSlots]
  generalize fillFFAFrom p 0 l.items ([], l) = r at hql hmarks
  obtain ⟨ql, l'⟩ := r
  dsimp only at hql hmarks
  rw [hql]
  cases indicesFrom (ffaTest p) 0 l.items with
  | nil => exact hmarks
  | cons k ks =>
    have hmap := congrArg playerFFAItems hmarks
    rw [if_neg (by simp)]
    simp only [List.map_cons]
    rw [← hmarks, show l.playerFFAItems = l'.playerFFAItems from hmap.symm]
    rfl

theorem fillConditional_unmarked (l : Loot) (p : Looter) (presentAtLooting : Bool) :
    (l.fillNonQuestNonFFAConditionalLoot p presentAtLooting).unmarked =
      { l.unmarked with
        playerNonQuestNonFFAConditionalItems :=
          l.playerNonQuestNonFFAConditionalItems.add p.guid (l.conditionalSlots p) } := by
  obtain ⟨hql, hmarks⟩ := fillConditionalFrom_spec p presentAtLooting l.items 0 [] l
  rw [List.nil_append] at hql
  rw [fillNonQuestNonFFAConditionalLoot, QuestItemMap.add, conditionalSlots]
  generalize fillConditionalFrom p presentAtLooting 0 l.items ([], l) = r at hql hmarks
  obtain ⟨ql, l'⟩ := r
  dsimp only at hql hmarks
  rw [hql]
  cases indicesFrom (conditionalTest p) 0 l.items with
  | nil => exact hmarks
  | cons k ks =>
    have hmap := congrArg playerNonQuestNonFFAConditionalItems hmarks
    rw [if_neg (by simp)]
    simp only [List.map_cons]
    rw [← hmarks, show l.playerNonQuestNonFFAConditionalItems =
      l'.playerNonQuestNonFFAConditionalItems from hmap.symm]
    rfl

theorem questRoom_spec (hfull : l.items.length ≠ MAX_NR_LOOT_ITEMS) :
    l.items.length + ([] : List QuestItem).length + l.questRoom = MAX_NR_LOOT_ITEMS ∧
        0 < l.questRoom ∨
      MAX_NR_LOOT_ITEMS < l.items.length ∧ l.questItems.length ≤ l.questRoom := by
  rw [questRoom, List.length_nil]
  split
  · left
    constructor <;> omega
  · right
    constructor <;> omega

theorem fillQuestLoot_unmarked (l : Loot) (p : Looter) :
    (l.fillQuestLoot p).unmarked =
      { l.unmarked with playerQuestItems := l.playerQuestItems.add p.guid (l.questSlots p) } := by
  rw [fillQuestLoot]
  split
  · rename_i hfull
    rw [questSlots, questRoom, hfull, if_pos le_rfl, Nat.sub_self, List.take_zero,
      QuestItemMap.add, if_pos rfl]
    rfl
  rename_i hfull
  obtain ⟨hql, hmarks, -⟩ := fillQuestFrom_spec p l.questItems l.questItems 0 l.questRoom [] l
    (fun j => by rw [Nat.zero_add]) (questRoom_spec hfull)
  rw [List.nil_append] at hql
  rw [QuestItemMap.add, questSlots]
  generalize fillQuestFrom p 0 l.questItems ([], l) = r at hql hmarks
  obtain ⟨ql, l'⟩ := r
  dsimp only at hql hmarks
  rw [hql]
  cases (indicesFrom (questTest p) 0 l.questItems).take l.questRoom with
  | nil => exact hmarks
  | cons k ks =>
    have hmap := congrArg playerQuestItems hmarks
    rw [if_neg (by simp)]
    simp only [List.map_cons]
    rw [← hmarks, show l.playerQuestItems = l'.playerQuestItems from hmap.symm]
    rfl

theorem fillLists_induct {P : Loot → Prop} {presentAtLooting : Bool}
    (hquest : ∀ l, P l → l.playerQuestItems.get p.guid = none → P (l.fillQuestLoot p))
    (hffa : ∀ l, P l → l.playerFFAItems.get p.guid = none → P (l.fillFFALoot p))
    (hconditional : ∀ l, P l → l.playerNonQuestNonFFAConditionalItems.get p.guid = none →
      P (l.fillNonQuestNonFFAConditionalLoot p presentAtLooting))
    (h : P l) : P (l.fillLists p presentAtLooting) := by
  have h₁ : P (if (l.playerQuestItems.get p.guid).isNone then l.fillQuestLoot p else l) := by
    split
    · exact hquest l h (Option.isNone_iff_eq_none.mp ‹_›)
    · exact h
  rw [fillLists]
  generalize (if (l.playerQuestItems.get p.guid).isNone then l.fillQuestLoot p else l) = l₁ at h₁ ⊢
  have h₂ : P (if (l₁.playerFFAItems.get p.guid).isNone then l₁.fillFFALoot p else l₁) := by
    split
    · exact hffa l₁ h₁ (Option.isNone_iff_eq_none.mp ‹_›)
    · exact h₁
  generalize (if (l₁.playerFFAItems.get p.guid).isNone then l₁.fillFFALoot p else l₁) = l₂ at h₂ ⊢
  split
  · exact hconditional l₂ h₂ (Option.isNone_iff_eq_none.mp ‹_›)
  · exact h₂

/-! ## 4. Filling keeps the lists well formed -/

theorem nodup_questSlots (l : Loot) (p : Looter) : (l.questSlots p).Nodup :=
  nodup_indicesFrom.sublist (List.take_sublist _ _)

theorem mem_questSlots {k : ℕ} (h : k ∈ l.questSlots p) :
    ∃ item, l.questItems[k]? = some item ∧ questTest p item = true := by
  obtain ⟨-, item, hget, htest⟩ := mem_indicesFrom.mp (List.mem_of_mem_take h)
  exact ⟨item, hget, htest⟩

theorem mem_ffaSlots {k : ℕ} :
    k ∈ l.ffaSlots p ↔ ∃ item, l.items[k]? = some item ∧ ffaTest p item = true := by
  rw [ffaSlots, mem_indicesFrom, Nat.sub_zero]
  exact and_iff_right (Nat.zero_le k)

theorem mem_conditionalSlots {k : ℕ} :
    k ∈ l.conditionalSlots p ↔
      ∃ item, l.items[k]? = some item ∧ conditionalTest p item = true := by
  rw [conditionalSlots, mem_indicesFrom, Nat.sub_zero]
  exact and_iff_right (Nat.zero_le k)

end Loot

section AddIndices

variable {m : List (ObjectGuid × List ℕ)} {guid : ObjectGuid} {ks : List ℕ}

theorem nodup_keys_addIndices (h : (m.map Prod.fst).Nodup) (hkey : guid ∉ m.map Prod.fst) :
    ((addIndices m guid ks).map Prod.fst).Nodup := by
  rw [addIndices]
  split
  · exact h
  · exact List.nodup_cons.mpr ⟨hkey, h⟩

theorem forall_addIndices {P : List ℕ → Prop} (h : ∀ e ∈ m, P e.2) (hks : P ks) :
    ∀ e ∈ addIndices m guid ks, P e.2 := by
  intro e he
  rw [addIndices] at he
  split at he
  · exact h e he
  · rcases List.mem_cons.mp he with rfl | he
    · exact hks
    · exact h e he

end AddIndices

namespace Loot

variable {l : Loot} {p : Looter}

theorem WellFormed.fillQuestLoot (h : l.WellFormed)
    (hnone : l.playerQuestItems.get p.guid = none) : (l.fillQuestLoot p).WellFormed := by
  have hshape : (l.fillQuestLoot p).shape =
      { l.shape with quest := addIndices l.shape.quest p.guid (l.questSlots p) } := by
    rw [← shape_unmarked (l.fillQuestLoot p), fillQuestLoot_unmarked, ← shape_unmarked l]
    simp [shape, unmarked]
  rw [WellFormed, hshape]
  refine { h with quest_keys := ?_, quest := ?_ }
  · refine nodup_keys_addIndices h.quest_keys ?_
    rw [shape, QuestItemMap.keys_indices]
    exact QuestItemMap.not_mem_of_get hnone
  · refine forall_addIndices (P := fun ks => ks.Nodup ∧ ∀ i ∈ ks, i < l.shape.questItems.length)
      h.quest ⟨l.nodup_questSlots p, fun k hk => ?_⟩
    obtain ⟨item, hget, -⟩ := mem_questSlots hk
    rw [shape, List.length_map]
    exact (List.getElem?_eq_some_iff.mp hget).1

theorem WellFormed.fillFFALoot (h : l.WellFormed)
    (hnone : l.playerFFAItems.get p.guid = none) : (l.fillFFALoot p).WellFormed := by
  have hshape : (l.fillFFALoot p).shape =
      { l.shape with ffa := addIndices l.shape.ffa p.guid (l.ffaSlots p) } := by
    rw [← shape_unmarked (l.fillFFALoot p), fillFFALoot_unmarked, ← shape_unmarked l]
    simp [shape, unmarked]
  rw [WellFormed, hshape]
  refine { h with ffa_keys := ?_, ffa := ?_ }
  · refine nodup_keys_addIndices h.ffa_keys ?_
    rw [shape, QuestItemMap.keys_indices]
    exact QuestItemMap.not_mem_of_get hnone
  · refine forall_addIndices
      (P := fun ks => ks.Nodup ∧ ∀ i ∈ ks, ∃ plain, l.shape.items[i]? = some (true, plain))
      h.ffa ⟨nodup_indicesFrom, fun k hk => ?_⟩
    obtain ⟨item, hget, htest⟩ := mem_ffaSlots.mp hk
    have hffa : item.freeforall = true := by
      rw [ffaTest] at htest
      simp only [Bool.and_eq_true] at htest
      exact htest.1.2
    exact ⟨item.conditions.isEmpty, by simp [shape, hget, LootItem.kind, hffa]⟩

theorem WellFormed.fillConditional (h : l.WellFormed) (presentAtLooting : Bool)
    (hnone : l.playerNonQuestNonFFAConditionalItems.get p.guid = none) :
    (l.fillNonQuestNonFFAConditionalLoot p presentAtLooting).WellFormed := by
  have hshape : (l.fillNonQuestNonFFAConditionalLoot p presentAtLooting).shape =
      { l.shape with
        conditional := addIndices l.shape.conditional p.guid (l.conditionalSlots p) } := by
    rw [← shape_unmarked (l.fillNonQuestNonFFAConditionalLoot p presentAtLooting),
      fillConditional_unmarked, ← shape_unmarked l]
    simp [shape, unmarked]
  rw [WellFormed, hshape]
  refine { h with conditional_keys := ?_, conditional := ?_ }
  · refine nodup_keys_addIndices h.conditional_keys ?_
    rw [shape, QuestItemMap.keys_indices]
    exact QuestItemMap.not_mem_of_get hnone
  · refine forall_addIndices
      (P := fun ks => ks.Nodup ∧ ∀ i ∈ ks, l.shape.items[i]? = some (false, false))
      h.conditional ⟨nodup_indicesFrom, fun k hk => ?_⟩
    obtain ⟨item, hget, htest⟩ := mem_conditionalSlots.mp hk
    have hkind : item.kind = (false, false) := by
      rw [conditionalTest] at htest
      simp only [Bool.and_eq_true, Bool.not_eq_true'] at htest
      rw [LootItem.kind, htest.1.1.2, htest.2]
    simp [shape, hget, hkind]

theorem WellFormed.fillLists (h : l.WellFormed) (p : Looter) (presentAtLooting : Bool) :
    (l.fillLists p presentAtLooting).WellFormed :=
  fillLists_induct (fun _ h hnone => h.fillQuestLoot hnone) (fun _ h hnone => h.fillFFALoot hnone)
    (fun _ h hnone => h.fillConditional presentAtLooting hnone) h

end Loot

/-! ## 5. Every run -/

namespace LootState

variable {s : LootState} {p : Looter}

/-- A loot nobody has a list of yet, with no more items than slots have numbers. -/
structure Unlisted (s : LootState) : Prop where
  length_lt : s.loot.items.length + s.loot.questItems.length < 256
  quest : s.loot.playerQuestItems = []
  ffa : s.loot.playerFFAItems = []
  conditional : s.loot.playerNonQuestNonFFAConditionalItems = []
  stored : s.stored = []

theorem Unlisted.wellFormed (h : s.Unlisted) : s.loot.WellFormed where
  length_lt := by
    rw [Loot.shape, List.length_map, List.length_map]
    exact h.length_lt
  quest_keys := by simp [Loot.shape, h.quest, QuestItemMap.indices]
  quest := by simp [Loot.shape, h.quest, QuestItemMap.indices]
  ffa_keys := by simp [Loot.shape, h.ffa, QuestItemMap.indices]
  ffa := by simp [Loot.shape, h.ffa, QuestItemMap.indices]
  conditional_keys := by simp [Loot.shape, h.conditional, QuestItemMap.indices]
  conditional := by simp [Loot.shape, h.conditional, QuestItemMap.indices]

theorem processCurrency_induct {P : LootState → Prop} {isCurrency : UInt32 → Bool}
    {canStore : ℕ → Bool} (hstore : ∀ s i, P s → P (s.storeLootItem i p (canStore i)))
    {slots : List ℕ} (h : P s) : P (processCurrency p isCurrency canStore slots s) := by
  induction slots generalizing s with
  | nil => exact h
  | cons i slots ih =>
    rw [processCurrency]
    split
    · exact ih (hstore s i h)
    · exact ih h

theorem storeLootItem_wellFormed (h : s.loot.WellFormed) (lootSlot : ℕ) (p : Looter)
    (canStore : Bool) : (s.storeLootItem lootSlot p canStore).loot.WellFormed := by
  rw [storeLootItem]
  split
  · exact h
  · exact h.of_shape (Loot.shape_takeSlot _ _ _)

theorem step_wellFormed (h : s.loot.WellFormed) (e : LootEvent) : (s.step e).loot.WellFormed := by
  cases e with
  | fill p presentAtLooting isCurrency canStore =>
    have hlists := h.fillLists p presentAtLooting
    rw [step, fillNotNormalLootFor]
    dsimp only
    split
    · exact hlists
    · exact processCurrency_induct (P := fun s => s.loot.WellFormed)
        (fun s i h => storeLootItem_wellFormed h i p _) hlists
  | store lootSlot p canStore => exact storeLootItem_wellFormed h _ _ _
  | masterGive slotid target canStore =>
    rw [step, lootMasterGive]
    split
    · exact h
    split
    · exact h
    split
    · exact h
    · refine h.of_shape ((Loot.shape_countDown _).trans (Loot.shape_modifyItemAt ?_ _ _))
      exact fun _ => rfl
  | rollWon itemSlot =>
    refine h.of_shape ((Loot.shape_countDown _).trans (Loot.shape_modifyItemAt ?_ _ _))
    exact fun _ => rfl
  | setBlocked slot blocked =>
    refine h.of_shape (Loot.shape_modifyItemAt ?_ _ _)
    exact fun _ => rfl
  | setUnderthreshold slot =>
    refine h.of_shape (Loot.shape_modifyItemAt ?_ _ _)
    exact fun _ => rfl
  | takeMoney => exact h
  | setRoundRobinPlayer player => exact h

theorem run_wellFormed (h : s.Unlisted) (evs : List LootEvent) :
    States step (fun s => s.loot.WellFormed) s evs :=
  States.of_steps (C := fun _ _ => True) (fun _ e h _ => step_wellFormed h e) h.wellFormed
    (Steps.of_forall (fun _ _ => trivial) evs)

end LootState

/-! ## 6. The loot that is generated -/

section Generated

variable {drop : Loot.Drop} {l : Loot}

def LootItem.plain (item : LootItem) : Bool := !item.freeforall && item.conditions.isEmpty

/-- Nobody has a list, both kinds of items keep to their limits and are as they were made, and the
plain ones are counted. -/
structure Loot.Fresh (l : Loot) : Prop where
  items_le : l.items.length ≤ MAX_NR_LOOT_ITEMS
  quest_le : l.questItems.length ≤ MAX_NR_QUEST_ITEMS
  quest : l.playerQuestItems = []
  ffa : l.playerFFAItems = []
  conditional : l.playerNonQuestNonFFAConditionalItems = []
  made : ∀ item ∈ l.items ++ l.questItems,
    item.isLooted = false ∧ item.isBlocked = false ∧ item.isCounted = false
  counts : Counts LootItem.plain l.items l.unlootedCount

theorem Loot.Fresh.addStacks (h : l.Fresh) (proto : ItemTemplate) (n i : ℕ) (count : UInt32) :
    (addStacks drop proto n i count l).Fresh := by
  induction n generalizing i count l with
  | zero => exact h
  | succ n ih =>
    rw [Loot.addStacks]
    cases hneeds : drop.item.needsQuest with
    | true =>
      simp only [if_true, Bool.not_true, Bool.false_and, Bool.false_eq_true, if_false]
      split
      · rename_i hroom
        refine ih ?_ _ _
        refine { h with quest_le := ?_, made := ?_ }
        · rw [List.length_append, List.length_singleton]
          omega
        · intro item hitem
          rw [← List.append_assoc, List.mem_append, List.mem_singleton] at hitem
          rcases hitem with hitem | rfl
          · exact h.made item hitem
          · exact ⟨rfl, rfl, rfl⟩
      · exact h
    | false =>
      simp only [Bool.false_eq_true, if_false, Bool.not_false, Bool.true_and]
      split
      · rename_i hroom
        have hle : ∀ item, (l.items ++ [item]).length ≤ MAX_NR_LOOT_ITEMS := by
          intro item
          rw [List.length_append, List.length_singleton]
          omega
        have hmade : ∀ item : LootItem,
            item.isLooted = false ∧ item.isBlocked = false ∧ item.isCounted = false →
            ∀ item' ∈ (l.items ++ [item]) ++ l.questItems,
              item'.isLooted = false ∧ item'.isBlocked = false ∧ item'.isCounted = false := by
          intro item hitem item' hmem
          rw [List.append_assoc, List.mem_append, List.mem_append, List.mem_singleton] at hmem
          rcases hmem with hmem | rfl | hmem
          · exact h.made item' (List.mem_append_left _ hmem)
          · exact hitem
          · exact h.made item' (List.mem_append_right _ hmem)
        split
        · rename_i hplain
          refine ih ?_ _ _
          refine { h with items_le := hle _, made := hmade _ ⟨rfl, rfl, rfl⟩, counts := ?_ }
          refine (h.counts.cons ?_).perm (List.perm_append_singleton _ _).symm
          simpa [LootItem.plain, LootItem.ofStoreItem, and_comm] using hplain
        · rename_i hplain
          refine ih ?_ _ _
          refine { h with items_le := hle _, made := hmade _ ⟨rfl, rfl, rfl⟩, counts := ?_ }
          refine (h.counts.cons_of_neg ?_).perm (List.perm_append_singleton _ _).symm
          rw [Bool.eq_false_iff]
          simpa [LootItem.plain, LootItem.ofStoreItem, and_comm] using hplain
      · exact h

theorem Loot.fresh_process (getItemTemplate : UInt32 → Option ItemTemplate) (gold : UInt32)
    (drops : List Loot.Drop) : (Loot.process getItemTemplate gold drops).Fresh := by
  have hall : ∀ l : Loot, l.Fresh → (drops.foldl (addItem getItemTemplate) l).Fresh := by
    induction drops with
    | nil => exact fun l h => h
    | cons drop drops ih =>
      intro l h
      refine ih _ ?_
      rw [addItem]
      split
      · exact h
      · exact h.addStacks _ _ _ _
  exact hall _ ⟨Nat.zero_le _, Nat.zero_le _, rfl, rfl, rfl, by simp [empty], Counts.nil⟩

theorem LootState.generated_unlisted (getItemTemplate : UInt32 → Option ItemTemplate)
    (gold : UInt32) (drops : List Loot.Drop) :
    (LootState.generated getItemTemplate gold drops).Unlisted := by
  have h := Loot.fresh_process getItemTemplate gold drops
  refine ⟨?_, h.quest, h.ffa, h.conditional, rfl⟩
  have hle := Nat.add_le_add h.items_le h.quest_le
  exact lt_of_le_of_lt hle (by decide)

def loner (guid : ObjectGuid) : Looter := { guid := guid, group := none, allowed := fun _ => true }

end Generated

end FunPvp.Looting
