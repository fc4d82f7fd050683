/-
# The slots of a loot window

A slot of a player's loot window is a position among the items, or after them a position on his
quest list. Whether the item is still there is read from four different places: the item's own
flag, or the flag of the player's quest, free for all or conditional entry (`InSlot`).
-/
import FunPvp.Loot.Lists

namespace FunPvp.Looting

open FunPvp.Lib

/-! ## 1. The entry for an item -/

section FindEntry

variable {m : QuestItemMap} {guid : ObjectGuid} {index pos : ℕ} {looted : Bool}
  {ql : List QuestItem} {q : QuestItem}

theorem Loot.findEntry_some (h : findEntry m guid index = some (pos, looted)) :
    ∃ ql q, m.get guid = some ql ∧ ql[pos]? = some q ∧ q.index = index ∧ q.isLooted = looted := by
  rw [findEntry] at h
  split at h
  · exact nomatch h
  rename_i ql hget
  split at h
  · exact nomatch h
  rename_i pos' hpos'
  obtain ⟨q, hq, heq⟩ := Option.map_eq_some_iff.mp h
  obtain ⟨rfl, rfl⟩ := Prod.mk.inj heq
  obtain ⟨hlt, hindex, -⟩ := List.findIdx?_eq_some_iff_getElem.mp hpos'
  rw [List.getElem?_eq_getElem hlt] at hq
  obtain rfl := Option.some.inj hq
  exact ⟨ql, _, hget, List.getElem?_eq_getElem hlt, by simpa using hindex, rfl⟩

theorem Loot.findEntry_none (h : findEntry m guid index = none) (hget : m.get guid = some ql) :
    ∀ q ∈ ql, q.index ≠ index := by
  rw [findEntry, hget] at h
  dsimp only at h
  split at h
  · rename_i hnone
    intro q hq
    simpa using List.findIdx?_eq_none_iff.mp hnone q hq
  · rename_i pos hpos
    obtain ⟨hlt, -, -⟩ := List.findIdx?_eq_some_iff_getElem.mp hpos
    rw [List.getElem?_eq_getElem hlt] at h
    exact nomatch h

theorem Loot.findEntry_of_mem (hget : m.get guid = some ql) (hnodup : (ql.map QuestItem.index).Nodup)
    (hq : q ∈ ql) : ∃ pos, findEntry m guid q.index = some (pos, q.isLooted) := by
  cases hfind : findEntry m guid q.index with
  | none => exact absurd rfl (Loot.findEntry_none hfind hget q hq)
  | some found =>
    obtain ⟨pos, looted⟩ := found
    obtain ⟨ql', q', hget', hpos, hindex, rfl⟩ := Loot.findEntry_some hfind
    obtain rfl : ql = ql' := Option.some.inj (hget.symm.trans hget')
    have hq' : q' ∈ ql := List.mem_of_getElem? hpos
    exact ⟨pos, by rw [List.inj_on_of_nodup_map hnodup hq' hq hindex]⟩

end FindEntry

/-! ## 2. What a slot says -/

/-- The item in a slot of a player's window, and where `LootItemInSlot` has read that it is still
there. -/
inductive Loot.InSlot (l : Loot) (guid : ObjectGuid) : ℕ → SlotItem → Prop
  | quest {ql : List QuestItem} {pos : ℕ} {q : QuestItem} {item : LootItem}
      (hget : l.playerQuestItems.get guid = some ql) (hpos : ql[pos]? = some q)
      (hfree : q.isLooted = false) (hitem : l.questItems[q.index]? = some item) :
      InSlot l guid (l.items.length + pos) ⟨item, true, q.index, some pos, none, none⟩
  | ffa {slot : ℕ} {item : LootItem} {ql : List QuestItem} {pos : ℕ} {q : QuestItem}
      (hitem : l.items[slot]? = some item) (hffa : item.freeforall = true)
      (hget : l.playerFFAItems.get guid = some ql) (hpos : ql[pos]? = some q)
      (hindex : q.index = slot) (hfree : q.isLooted = false) :
      InSlot l guid slot ⟨item, false, slot, none, some pos, none⟩
  | ffaUnlisted {slot : ℕ} {item : LootItem} {ql : List QuestItem}
      (hitem : l.items[slot]? = some item) (hffa : item.freeforall = true)
      (hget : l.playerFFAItems.get guid = some ql) (hunlisted : ∀ q ∈ ql, q.index ≠ slot)
      (hfree : item.isLooted = false) :
      InSlot l guid slot ⟨item, false, slot, none, none, none⟩
  | conditional {slot : ℕ} {item : LootItem} {ql : List QuestItem} {pos : ℕ} {q : QuestItem}
      (hitem : l.items[slot]? = some item) (hffa : item.freeforall = false)
      (hconditions : item.conditions.isEmpty = false)
      (hget : l.playerNonQuestNonFFAConditionalItems.get guid = some ql) (hpos : ql[pos]? = some q)
      (hindex : q.index = slot) (hfree : q.isLooted = false) :
      InSlot l guid slot ⟨item, false, slot, none, none, some pos⟩
  | conditionalUnlisted {slot : ℕ} {item : LootItem}
      (hitem : l.items[slot]? = some item) (hffa : item.freeforall = false)
      (hconditions : item.conditions.isEmpty = false) (hfree : item.isLooted = false) :
      InSlot l guid slot ⟨item, false, slot, none, none, none⟩
  | plain {slot : ℕ} {item : LootItem}
      (hitem : l.items[slot]? = some item) (hffa : item.freeforall = false)
      (hconditions : item.conditions.isEmpty = true) (hfree : item.isLooted = false) :
      InSlot l guid slot ⟨item, false, slot, none, none, none⟩

namespace Loot

variable {l : Loot} {guid : ObjectGuid} {slot : ℕ} {s : SlotItem}

theorem inSlot_of_some (h : l.lootItemInSlot slot guid = some s) : l.InSlot guid slot s := by
  rw [lootItemInSlot] at h
  split at h
  · rename_i hslot
    dsimp only at h
    split at h
    · exact nomatch h
    rename_i ql hget
    split at h
    · exact nomatch h
    rename_i q hq
    split at h
    · exact nomatch h
    rename_i hfree
    obtain ⟨item, hitem, rfl⟩ := Option.map_eq_some_iff.mp h
    have hquest := InSlot.quest hget hq (Bool.eq_false_iff.mpr hfree) hitem
    rwa [Nat.add_sub_cancel' hslot] at hquest
  split at h
  · exact nomatch h
  rename_i item hitem
  split at h
  · rename_i hffa
    split at h
    · exact nomatch h
    rename_i hsome
    rw [Option.isNone_iff_eq_none] at hsome
    obtain ⟨ql, hget⟩ := Option.ne_none_iff_exists'.mp hsome
    dsimp only at h
    split at h
    · exact nomatch h
    rename_i hfree
    cases hfound : findEntry l.playerFFAItems guid slot with
    | none =>
      rw [hfound] at h hfree
      obtain rfl := Option.some.inj h
      exact .ffaUnlisted hitem hffa hget (findEntry_none hfound hget) (Bool.eq_false_iff.mpr hfree)
    | some found =>
      rw [hfound] at h hfree
      obtain rfl := Option.some.inj h
      obtain ⟨ql', q, hget', hpos, hindex, hlooted⟩ := findEntry_some hfound
      exact .ffa hitem hffa hget' hpos hindex (hlooted.trans (Bool.eq_false_iff.mpr hfree))
  rename_i hffa
  rw [Bool.not_eq_true] at hffa
  split at h
  · rename_i hconditions
    rw [Bool.not_eq_true'] at hconditions
    dsimp only at h
    split at h
    · exact nomatch h
    rename_i hfree
    cases hfound : findEntry l.playerNonQuestNonFFAConditionalItems guid slot with
    | none =>
      rw [hfound] at h hfree
      obtain rfl := Option.some.inj h
      exact .conditionalUnlisted hitem hffa hconditions (Bool.eq_false_iff.mpr hfree)
    | some found =>
      rw [hfound] at h hfree
      obtain rfl := Option.some.inj h
      obtain ⟨ql, q, hget, hpos, hindex, hlooted⟩ := findEntry_some hfound
      exact .conditional hitem hffa hconditions hget hpos hindex
        (hlooted.trans (Bool.eq_false_iff.mpr hfree))
  rename_i hconditions
  split at h
  · exact nomatch h
  rename_i hfree
  obtain rfl := Option.some.inj h
  exact .plain hitem hffa (by simpa using hconditions) (Bool.eq_false_iff.mpr hfree)

section Listed

variable {item : LootItem} {ql : List QuestItem} {pos : ℕ} {q : QuestItem}

theorem inSlot_plain (hitem : l.items[slot]? = some item) (hffa : item.freeforall = false)
    (hconditions : item.conditions.isEmpty = true) (hfree : item.isLooted = false) :
    ∃ s, l.lootItemInSlot slot guid = some s ∧ s.item = item := by
  have hlt : ¬ slot ≥ l.items.length := not_le.mpr (List.getElem?_eq_some_iff.mp hitem).1
  rw [lootItemInSlot, if_neg hlt, hitem]
  simp [hffa, hconditions, hfree]

theorem inSlot_quest (hget : l.playerQuestItems.get guid = some ql) (hpos : ql[pos]? = some q)
    (hfree : q.isLooted = false) (hitem : l.questItems[q.index]? = some item) :
    ∃ s, l.lootItemInSlot (l.items.length + pos) guid = some s ∧ s.item = item := by
  rw [lootItemInSlot, if_pos (Nat.le_add_right _ _)]
  simp [hget, hpos, hfree, hitem]

theorem inSlot_ffa (hl : l.WellFormed) (hget : l.playerFFAItems.get guid = some ql) (hq : q ∈ ql)
    (hfree : q.isLooted = false) (hitem : l.items[q.index]? = some item) :
    ∃ s, l.lootItemInSlot q.index guid = some s ∧ s.item = item := by
  have hlt : ¬ q.index ≥ l.items.length := not_le.mpr (List.getElem?_eq_some_iff.mp hitem).1
  obtain ⟨hnodup, hkind⟩ := hl.ffa_of_mem (QuestItemMap.mem_of_get hget)
  obtain ⟨item', hitem', hffa⟩ := hkind q hq
  obtain rfl := Option.some.inj (hitem.symm.trans hitem')
  obtain ⟨pos, hfound⟩ := findEntry_of_mem hget hnodup hq
  rw [lootItemInSlot, if_neg hlt, hitem]
  simp [hffa, hget, hfound, hfree]

theorem inSlot_conditional (hl : l.WellFormed)
    (hget : l.playerNonQuestNonFFAConditionalItems.get guid = some ql) (hq : q ∈ ql)
    (hfree : q.isLooted = false) (hitem : l.items[q.index]? = some item) :
    ∃ s, l.lootItemInSlot q.index guid = some s ∧ s.item = item := by
  have hlt : ¬ q.index ≥ l.items.length := not_le.mpr (List.getElem?_eq_some_iff.mp hitem).1
  obtain ⟨hnodup, hkind⟩ := hl.conditional_of_mem (QuestItemMap.mem_of_get hget)
  obtain ⟨item', hitem', hffa, hconditions⟩ := hkind q hq
  obtain rfl := Option.some.inj (hitem.symm.trans hitem')
  obtain ⟨pos, hfound⟩ := findEntry_of_mem hget hnodup hq
  rw [lootItemInSlot, if_neg hlt, hitem]
  simp [hffa, hconditions, hfound, hfree]

end Listed

end Loot

end FunPvp.Looting
