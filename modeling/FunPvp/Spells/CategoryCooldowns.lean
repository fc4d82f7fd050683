/-
# Which category is on cooldown

`_categoryCooldowns` points into `_spellCooldowns`, and only `EraseCooldown` takes a pointer out on
account of the entry: the one of the category that stands in the entry it erases. So an entry that
is written over with another category, by `LockSpellSchool` or a restored duel state, leaves a
pointer that is wrong and later dangles; and the cooldown of a category ends with the first entry of
the category that is erased, even if another one lasts longer.

`categories_right` says that a run in which no step does either is right in every state.
-/
import FunPvp.Spells.SpellHistory
import FunPvp.Lib.Run
import FunPvp.Lib.Loop

namespace FunPvp.Spells

open FunPvp.Lib

namespace SpellHistory

variable {s s' : SpellHistory} {now : TimePoint} {id id' : SpellId} {c : CategoryId}
  {ptr : EntryPtr} {node node' : CooldownNode} {entry : CooldownEntry}

/-! ## 1. Coherence -/

/-- Each node has an address of its own, and each pointer is one to a live entry of its
category. -/
structure Coherent (s : SpellHistory) : Prop where
  addr_inj : ∀ {id id' node node'}, s.spellCooldowns.lookup id = some node →
    s.spellCooldowns.lookup id' = some node' → node.addr = node'.addr → id = id'
  fresh : ∀ {id node}, s.spellCooldowns.lookup id = some node → node.addr < s.next
  pointers : ∀ {c ptr}, s.categoryCooldowns.lookup c = some ptr →
    ∃ id node, s.spellCooldowns.lookup id = some node ∧ node.addr = ptr ∧
      node.entry.CategoryId = c
  zero : s.categoryCooldowns.lookup 0 = none

theorem Coherent.new : new.Coherent where
  addr_inj := fun h => by simp [SpellHistory.new] at h
  fresh := fun h => by simp [SpellHistory.new] at h
  pointers := fun h => by simp [SpellHistory.new] at h
  zero := rfl

theorem Coherent.node_eq (h : s.Coherent) (hnode : s.spellCooldowns.lookup id = some node)
    (hnode' : s.spellCooldowns.lookup id' = some node') (haddr : node.addr = node'.addr) :
    id = id' ∧ node = node' := by
  obtain rfl := h.addr_inj hnode hnode' haddr
  exact ⟨rfl, Option.some.inj (hnode.symm.trans hnode')⟩

theorem Coherent.category_eq (h : s.Coherent) (hnode : s.spellCooldowns.lookup id = some node)
    (hptr : s.categoryCooldowns.lookup c = some node.addr) : node.entry.CategoryId = c := by
  obtain ⟨id', node', hnode', haddr, hc⟩ := h.pointers hptr
  obtain ⟨-, rfl⟩ := h.node_eq hnode' hnode haddr
  exact hc

theorem Coherent.deref_addr (h : s.Coherent) (hnode : s.spellCooldowns.lookup id = some node) :
    s.deref node.addr = .ok node.entry := by
  have hmem : (⟨id, node⟩ : Sigma fun _ : SpellId => CooldownNode) ∈ s.spellCooldowns.entries :=
    AList.mem_lookup_iff.mp hnode
  unfold deref
  cases hfind : s.spellCooldowns.entries.find? fun x => decide (x.2.addr = node.addr) with
  | none =>
    have hnone := List.find?_eq_none.mp hfind _ hmem
    exact absurd (decide_eq_true rfl) hnone
  | some x =>
    have haddr : x.2.addr = node.addr := by simpa using List.find?_some hfind
    have hx : s.spellCooldowns.lookup x.1 = some x.2 :=
      AList.mem_lookup_iff.mpr (List.mem_of_find?_eq_some hfind)
    obtain ⟨-, heq⟩ := h.node_eq hx hnode haddr
    dsimp only
    rw [heq]

theorem Coherent.deref (h : s.Coherent) (hptr : s.categoryCooldowns.lookup c = some ptr) :
    ∃ id node, s.spellCooldowns.lookup id = some node ∧ node.addr = ptr ∧
      node.entry.CategoryId = c ∧ s.deref ptr = .ok node.entry := by
  obtain ⟨id, node, hnode, rfl, hc⟩ := h.pointers hptr
  exact ⟨id, node, hnode, rfl, hc, h.deref_addr hnode⟩

/-! ## 2. What was started last -/

/-- The spell that started the cooldown of a category last, and the end it set, unless it was
reset since. -/
abbrev Started := CategoryId → Option (SpellId × TimePoint)

def Started.start (started : Started) (entry : CooldownEntry) : Started :=
  if entry.CategoryId ≠ 0 then
    Function.update started entry.CategoryId (some (entry.SpellId, entry.CategoryEnd))
  else started

def Started.reset (started : Started) (isReset : SpellId → Bool) : Started := fun c =>
  (started c).filter fun start => !isReset start.1

theorem Started.reset_eq_some {started : Started} {isReset : SpellId → Bool} {till : TimePoint}
    (h : started.reset isReset c = some (id, till)) :
    started c = some (id, till) ∧ isReset id = false := by
  obtain ⟨hstart, hreset⟩ := Option.filter_eq_some_iff.mp h
  exact ⟨hstart, by simpa using hreset⟩

/-- A cooldown that still runs is the one its category points to, and the entry says so. -/
structure Cooling (now : TimePoint) (s : SpellHistory) (started : Started) : Prop where
  zero : started 0 = none
  runs : ∀ {c id till}, started c = some (id, till) → now < till →
    ∃ node, s.spellCooldowns.lookup id = some node ∧
      s.categoryCooldowns.lookup c = some node.addr ∧ till ≤ node.entry.CategoryEnd

variable {started : Started} {isReset : SpellId → Bool}

theorem Cooling.later (h : Cooling now s started) {now' : TimePoint} (hnow : now ≤ now') :
    Cooling now' s started where
  zero := h.zero
  runs := fun hstart hlt => h.runs hstart (lt_of_le_of_lt hnow hlt)

theorem Cooling.reset (h : Cooling now s started) (isReset : SpellId → Bool) :
    Cooling now s (started.reset isReset) where
  zero := by
    unfold Started.reset
    rw [h.zero]
    rfl
  runs := fun hstart => h.runs (Started.reset_eq_some hstart).1

/-! ## 3. Writing an entry -/

/-- The entry of the spell is the one of a category other than the one that is written. -/
def WritesOver (s : SpellHistory) (id : SpellId) (categoryId : CategoryId) : Prop :=
  ∃ node c, s.spellCooldowns.lookup id = some node ∧
    s.categoryCooldowns.lookup c = some node.addr ∧ c ≠ categoryId

theorem assign_lookup_self (s : SpellHistory) (id : SpellId) (entry : CooldownEntry) :
    (s.assign id entry).1.spellCooldowns.lookup id = some ⟨(s.assign id entry).2, entry⟩ := by
  unfold assign
  split
  · exact AList.lookup_insert _
  · exact AList.lookup_insert _

theorem assign_lookup_of_ne (hne : id' ≠ id) :
    (s.assign id entry).1.spellCooldowns.lookup id' = s.spellCooldowns.lookup id' := by
  unfold assign
  split
  · exact AList.lookup_insert_ne hne
  · exact AList.lookup_insert_ne hne

@[simp] theorem assign_categoryCooldowns :
    (s.assign id entry).1.categoryCooldowns = s.categoryCooldowns := by
  unfold assign
  split
  · rfl
  · rfl

@[simp] theorem assign_spellCooldownsBeforeDuel :
    (s.assign id entry).1.spellCooldownsBeforeDuel = s.spellCooldownsBeforeDuel := by
  unfold assign
  split
  · rfl
  · rfl

theorem assign_next_le : s.next ≤ (s.assign id entry).1.next := by
  unfold assign
  split
  · exact le_rfl
  · exact Nat.le_succ _

theorem assign_addr (s : SpellHistory) (id : SpellId) (entry : CooldownEntry) :
    (∃ node, s.spellCooldowns.lookup id = some node ∧ (s.assign id entry).2 = node.addr) ∨
      (s.spellCooldowns.lookup id = none ∧ (s.assign id entry).2 = s.next) := by
  unfold assign
  split
  · next node hnode => exact Or.inl ⟨node, hnode, rfl⟩
  · next hnone => exact Or.inr ⟨hnone, rfl⟩

theorem Coherent.eq_of_assign_addr (h : s.Coherent)
    (hnode : s.spellCooldowns.lookup id' = some node)
    (haddr : node.addr = (s.assign id entry).2) : id' = id := by
  rcases assign_addr s id entry with ⟨old, hold, hptr⟩ | ⟨-, hptr⟩
  · exact h.addr_inj hnode hold (haddr.trans hptr)
  · exact absurd (haddr.trans hptr) (h.fresh hnode).ne

theorem assign_addr_lt (h : s.Coherent) :
    (s.assign id entry).2 < (s.assign id entry).1.next := by
  unfold assign
  split
  · next node hnode => exact h.fresh hnode
  · exact Nat.lt_succ_self _

theorem Coherent.assign (h : s.Coherent) (hover : ¬ s.WritesOver id entry.CategoryId) :
    (s.assign id entry).1.Coherent where
  addr_inj := by
    intro id₁ id₂ node₁ node₂ h₁ h₂ haddr
    by_cases hid₁ : id₁ = id
    · subst hid₁
      obtain rfl := Option.some.inj ((assign_lookup_self s id₁ entry).symm.trans h₁)
      by_cases hid₂ : id₂ = id₁
      · exact hid₂.symm
      · rw [assign_lookup_of_ne hid₂] at h₂
        exact (h.eq_of_assign_addr h₂ haddr.symm).symm
    · rw [assign_lookup_of_ne hid₁] at h₁
      by_cases hid₂ : id₂ = id
      · subst hid₂
        obtain rfl := Option.some.inj ((assign_lookup_self s id₂ entry).symm.trans h₂)
        exact h.eq_of_assign_addr h₁ haddr
      · rw [assign_lookup_of_ne hid₂] at h₂
        exact h.addr_inj h₁ h₂ haddr
  fresh := by
    intro id' node hnode
    by_cases hid : id' = id
    · subst hid
      obtain rfl := Option.some.inj ((assign_lookup_self s id' entry).symm.trans hnode)
      exact assign_addr_lt h
    · rw [assign_lookup_of_ne hid] at hnode
      exact (h.fresh hnode).trans_le assign_next_le
  pointers := by
    intro c ptr hptr
    rw [assign_categoryCooldowns] at hptr
    obtain ⟨id', node, hnode, rfl, hc⟩ := h.pointers hptr
    by_cases hid : id' = id
    · subst hid
      have hsame : c = entry.CategoryId := by
        by_contra hne
        exact hover ⟨node, c, hnode, hptr, hne⟩
      refine ⟨id', _, assign_lookup_self s id' entry, ?_, hsame.symm⟩
      rcases assign_addr s id' entry with ⟨old, hold, heq⟩ | ⟨hnone, -⟩
      · obtain rfl := Option.some.inj (hold.symm.trans hnode)
        exact heq
      · exact absurd (hnone.symm.trans hnode) nofun
    · exact ⟨id', node, (assign_lookup_of_ne hid).trans hnode, rfl, hc⟩
  zero := by
    rw [assign_categoryCooldowns]
    exact h.zero

theorem Cooling.assign (h : Cooling now s started)
    (hkeep : ∀ node c, s.spellCooldowns.lookup id = some node →
      s.categoryCooldowns.lookup c = some node.addr →
      node.entry.CategoryEnd ≤ entry.CategoryEnd) :
    Cooling now (s.assign id entry).1 started where
  zero := h.zero
  runs := by
    intro c id' till hstart hlt
    obtain ⟨node, hnode, hptr, htill⟩ := h.runs hstart hlt
    rw [assign_categoryCooldowns]
    by_cases hid : id' = id
    · subst hid
      refine ⟨_, assign_lookup_self s id' entry, ?_, htill.trans (hkeep node c hnode hptr)⟩
      rcases assign_addr s id' entry with ⟨old, hold, heq⟩ | ⟨hnone, -⟩
      · obtain rfl := Option.some.inj (hold.symm.trans hnode)
        rw [heq]
        exact hptr
      · exact absurd (hnone.symm.trans hnode) nofun
    · exact ⟨node, (assign_lookup_of_ne hid).trans hnode, hptr, htill⟩

theorem store_spellCooldowns (s : SpellHistory) (entry : CooldownEntry) :
    (s.store entry).spellCooldowns = (s.assign entry.SpellId entry).1.spellCooldowns := by
  unfold store
  dsimp only
  split
  · rfl
  · rfl

theorem store_lookup_of_ne (hne : c ≠ entry.CategoryId) :
    (s.store entry).categoryCooldowns.lookup c = s.categoryCooldowns.lookup c := by
  unfold store
  dsimp only
  split
  · rw [AList.lookup_insert_ne hne, assign_categoryCooldowns]
  · rw [assign_categoryCooldowns]

theorem store_lookup_self (hzero : entry.CategoryId ≠ 0) :
    (s.store entry).categoryCooldowns.lookup entry.CategoryId =
      some (s.assign entry.SpellId entry).2 := by
  unfold store
  dsimp only
  rw [if_pos hzero]
  exact AList.lookup_insert _

theorem store_of_zero (hzero : entry.CategoryId = 0) :
    s.store entry = (s.assign entry.SpellId entry).1 :=
  if_neg (not_not.mpr hzero)

theorem store_next (s : SpellHistory) (entry : CooldownEntry) :
    (s.store entry).next = (s.assign entry.SpellId entry).1.next := by
  unfold store
  dsimp only
  split
  · rfl
  · rfl

theorem Coherent.store (h : s.Coherent) (hover : ¬ s.WritesOver entry.SpellId entry.CategoryId) :
    (s.store entry).Coherent := by
  have hassign := h.assign hover
  refine ⟨?_, ?_, ?_, ?_⟩
  · intro id id' node node' hnode hnode'
    rw [store_spellCooldowns] at hnode hnode'
    exact hassign.addr_inj hnode hnode'
  · intro id node hnode
    rw [store_spellCooldowns] at hnode
    rw [store_next]
    exact hassign.fresh hnode
  · intro c ptr hptr
    rw [store_spellCooldowns]
    by_cases hc : c = entry.CategoryId
    · subst hc
      by_cases hzero : entry.CategoryId = 0
      · rw [store_of_zero hzero] at hptr
        exact hassign.pointers hptr
      · rw [store_lookup_self hzero] at hptr
        exact ⟨_, _, assign_lookup_self s _ entry, Option.some.inj hptr, rfl⟩
    · rw [store_lookup_of_ne hc] at hptr
      exact hassign.pointers (by rw [assign_categoryCooldowns]; exact hptr)
  · by_cases hzero : (0 : CategoryId) = entry.CategoryId
    · rw [store_of_zero hzero.symm]
      exact hassign.zero
    · rw [store_lookup_of_ne hzero]
      exact h.zero

theorem Cooling.store (h : Cooling now s started)
    (hover : ¬ s.WritesOver entry.SpellId entry.CategoryId) :
    Cooling now (s.store entry) (started.start entry) where
  zero := by
    unfold Started.start
    split
    · next hzero => rw [Function.update_of_ne (Ne.symm hzero), h.zero]
    · exact h.zero
  runs := by
    intro c id till hstart hlt
    rw [store_spellCooldowns]
    by_cases hc : c = entry.CategoryId ∧ c ≠ 0
    · obtain ⟨rfl, hzero⟩ := hc
      rw [Started.start, if_pos hzero, Function.update_self] at hstart
      obtain ⟨rfl, rfl⟩ := Prod.mk.inj (Option.some.inj hstart)
      exact ⟨_, assign_lookup_self s _ entry, store_lookup_self hzero, le_rfl⟩
    · have hold : started c = some (id, till) := by
        unfold Started.start at hstart
        split at hstart
        · next hzero =>
          have hne : c ≠ entry.CategoryId := by
            rintro rfl
            exact hc ⟨rfl, hzero⟩
          rwa [Function.update_of_ne hne] at hstart
        · exact hstart
      obtain ⟨node, hnode, hptr, htill⟩ := h.runs hold hlt
      have hne : c ≠ entry.CategoryId := by
        rintro rfl
        refine hc ⟨rfl, fun hzero => ?_⟩
        rw [hzero, h.zero] at hold
        exact absurd hold nofun
      have hid : id ≠ entry.SpellId := by
        rintro rfl
        exact hover ⟨node, c, hnode, hptr, hne⟩
      exact ⟨node, (assign_lookup_of_ne hid).trans hnode, (store_lookup_of_ne hne).trans hptr,
        htill⟩

/-! ## 4. Erasing an entry -/

/-- The entry that is erased takes with it the cooldown of its category, which still runs and is
not reset. -/
def CutsShort (now : TimePoint) (isReset : SpellId → Bool) (s : SpellHistory) (id : SpellId) :
    Prop :=
  ∃ node id' node', s.spellCooldowns.lookup id = some node ∧
    s.spellCooldowns.lookup id' = some node' ∧
    s.categoryCooldowns.lookup node.entry.CategoryId = some node'.addr ∧
    now < node'.entry.CategoryEnd ∧ isReset id' = false

/-- `s'` is `s` with some entries and pointers taken out. -/
structure Shrunk (s s' : SpellHistory) : Prop where
  spells : ∀ {id node}, s'.spellCooldowns.lookup id = some node →
    s.spellCooldowns.lookup id = some node
  categories : ∀ {c ptr}, s'.categoryCooldowns.lookup c = some ptr →
    s.categoryCooldowns.lookup c = some ptr
  before : s'.spellCooldownsBeforeDuel = s.spellCooldownsBeforeDuel
  next : s'.next = s.next

theorem Shrunk.refl (s : SpellHistory) : Shrunk s s := ⟨fun h => h, fun h => h, rfl, rfl⟩

theorem Shrunk.trans {s'' : SpellHistory} (h : Shrunk s s') (h' : Shrunk s' s'') :
    Shrunk s s'' :=
  ⟨fun hl => h.spells (h'.spells hl), fun hl => h.categories (h'.categories hl),
    h'.before.trans h.before, h'.next.trans h.next⟩

theorem CutsShort.of_shrunk (hs : Shrunk s s') (h : CutsShort now isReset s' id) :
    CutsShort now isReset s id := by
  obtain ⟨node, id', node', hnode, hnode', hptr, hlt, hreset⟩ := h
  exact ⟨node, id', node', hs.spells hnode, hs.spells hnode', hs.categories hptr, hlt, hreset⟩

theorem lookup_of_lookup_erase {β : Type*} {m : AList fun _ : ℕ => β} {k k' : ℕ} {b : β}
    (h : (m.erase k').lookup k = some b) : k ≠ k' ∧ m.lookup k = some b := by
  have hne : k ≠ k' := by
    rintro rfl
    rw [AList.lookup_erase] at h
    exact absurd h nofun
  rw [AList.lookup_erase_ne hne] at h
  exact ⟨hne, h⟩

theorem eraseCooldown_of_some (hnode : s.spellCooldowns.lookup id = some node) :
    s.eraseCooldown id =
      { s with
        categoryCooldowns := s.categoryCooldowns.erase node.entry.CategoryId
        spellCooldowns := s.spellCooldowns.erase id } := by
  rw [eraseCooldown, hnode]

theorem shrunk_eraseCooldown (s : SpellHistory) (id : SpellId) : Shrunk s (s.eraseCooldown id) := by
  cases hnode : s.spellCooldowns.lookup id with
  | none =>
    rw [eraseCooldown, hnode]
    exact Shrunk.refl s
  | some node =>
    rw [eraseCooldown_of_some hnode]
    exact ⟨fun h => (lookup_of_lookup_erase h).2, fun h => (lookup_of_lookup_erase h).2, rfl, rfl⟩

theorem Coherent.shrink (h : s.Coherent) (hs : Shrunk s s')
    (hlive : ∀ {c ptr id node}, s'.categoryCooldowns.lookup c = some ptr →
      s.spellCooldowns.lookup id = some node → node.addr = ptr → node.entry.CategoryId = c →
      s'.spellCooldowns.lookup id = some node) : s'.Coherent where
  addr_inj := fun hnode hnode' => h.addr_inj (hs.spells hnode) (hs.spells hnode')
  fresh := fun hnode => hs.next ▸ h.fresh (hs.spells hnode)
  pointers := by
    intro c ptr hptr
    obtain ⟨id, node, hnode, haddr, hc⟩ := h.pointers (hs.categories hptr)
    exact ⟨id, node, hlive hptr hnode haddr hc, haddr, hc⟩
  zero := by
    by_contra hne
    obtain ⟨ptr, hptr⟩ := Option.ne_none_iff_exists'.mp hne
    exact absurd (h.zero.symm.trans (hs.categories hptr)) nofun

/-- **Erasing an entry keeps the store coherent**: if its category points to it, the pointer goes
with it. -/
theorem Coherent.eraseCooldown (h : s.Coherent) (id : SpellId) : (s.eraseCooldown id).Coherent := by
  refine h.shrink (shrunk_eraseCooldown s id) fun {c ptr id' node'} hptr hnode' _ hc => ?_
  cases hnode : s.spellCooldowns.lookup id with
  | none => rwa [SpellHistory.eraseCooldown, hnode]
  | some node =>
    rw [eraseCooldown_of_some hnode] at hptr ⊢
    have hid : id' ≠ id := by
      rintro rfl
      obtain rfl := Option.some.inj (hnode.symm.trans hnode')
      exact (lookup_of_lookup_erase hptr).1 hc.symm
    exact (AList.lookup_erase_ne hid).trans hnode'

theorem Cooling.eraseCooldown (h : Cooling now s started) (hco : s.Coherent)
    (hreset : ∀ {c id till}, started c = some (id, till) → isReset id = false)
    (hcut : ¬ CutsShort now isReset s id) : Cooling now (s.eraseCooldown id) started where
  zero := h.zero
  runs := by
    intro c id' till hstart hlt
    obtain ⟨node', hnode', hptr, htill⟩ := h.runs hstart hlt
    cases hnode : s.spellCooldowns.lookup id with
    | none => exact ⟨node', by rwa [SpellHistory.eraseCooldown, hnode],
        by rwa [SpellHistory.eraseCooldown, hnode], htill⟩
    | some node =>
      rw [eraseCooldown_of_some hnode]
      have hc : c ≠ node.entry.CategoryId := by
        rintro rfl
        exact hcut ⟨node, id', node', hnode, hnode', hptr, hlt.trans_le htill, hreset hstart⟩
      have hid : id' ≠ id := by
        rintro rfl
        obtain rfl := Option.some.inj (hnode.symm.trans hnode')
        exact hc (hco.category_eq hnode hptr).symm
      exact ⟨node', (AList.lookup_erase_ne hid).trans hnode',
        (AList.lookup_erase_ne hc).trans hptr, htill⟩

/-- What the loops of `Update` and `ResetCooldowns` keep. -/
structure Kept (now : TimePoint) (started : Started) (s s' : SpellHistory) : Prop where
  shrunk : Shrunk s s'
  coherent : s'.Coherent
  cooling : Cooling now s' started

theorem Coherent.foldl_eraseIf (h : s.Coherent) (hcool : Cooling now s started)
    (isReset : SpellId → Bool)
    (hreset : ∀ {c id till}, started c = some (id, till) → isReset id = false)
    (predicate : SpellId → CooldownEntry → Bool)
    (hcut : ∀ id node, s.spellCooldowns.lookup id = some node → predicate id node.entry = true →
      ¬ CutsShort now isReset s id) (ids : List SpellId) :
    Kept now started s (ids.foldl (eraseIf predicate) s) := by
  suffices hloop : ∀ s', Kept now started s s' →
      Kept now started s (ids.foldl (eraseIf predicate) s') from
    hloop s ⟨Shrunk.refl s, h, hcool⟩
  induction ids with
  | nil => exact fun s' hs' => hs'
  | cons id ids ih =>
    intro s' hs'
    refine ih _ ?_
    unfold eraseIf
    split
    · exact hs'
    · next node hnode =>
      split
      · next hpred =>
        have hnot : ¬ CutsShort now isReset s' id := fun hc =>
          hcut id node (hs'.shrunk.spells hnode) hpred (hc.of_shrunk hs'.shrunk)
        exact ⟨hs'.shrunk.trans (shrunk_eraseCooldown s' id), hs'.coherent.eraseCooldown id,
          hs'.cooling.eraseCooldown hs'.coherent hreset hnot⟩
      · exact hs'

/-! ## 5. `Update` -/

theorem Coherent.expireCategory (h : s.Coherent) (hcool : Cooling now s started)
    (c : CategoryId) :
    ∃ s', s.expireCategory now c = .ok s' ∧ Kept now started s s' := by
  unfold SpellHistory.expireCategory
  split
  · exact ⟨s, rfl, Shrunk.refl s, h, hcool⟩
  · next ptr hptr =>
    obtain ⟨id, node, hnode, haddr, hc, hderef⟩ := h.deref hptr
    rw [hderef]
    change ∃ s', (if node.entry.CategoryEnd < now then _ else _) = _ ∧ _
    split
    · next hexpired =>
      have hshrunk : Shrunk s { s with categoryCooldowns := s.categoryCooldowns.erase c } :=
        ⟨fun hl => hl, fun hl => (lookup_of_lookup_erase hl).2, rfl, rfl⟩
      refine ⟨_, rfl, hshrunk, h.shrink hshrunk fun _ hl _ _ => hl, hcool.zero, ?_⟩
      intro c' id' till hstart hlt
      obtain ⟨node', hnode', hptr', htill⟩ := hcool.runs hstart hlt
      have hne : c' ≠ c := by
        rintro rfl
        obtain rfl := Option.some.inj (hptr.symm.trans hptr')
        obtain ⟨-, rfl⟩ := h.node_eq hnode hnode' haddr
        exact absurd (hlt.trans_le htill) (not_lt.mpr hexpired.le)
      exact ⟨node', hnode', (AList.lookup_erase_ne hne).trans hptr', htill⟩
    · exact ⟨s, rfl, Shrunk.refl s, h, hcool⟩

/-- **`Update`** reads no pointer that dangles, and keeps the cooldowns if no entry that it erases
cuts one short. -/
theorem Coherent.update (h : s.Coherent) (hcool : Cooling now s started)
    (hcut : ∀ id node, s.spellCooldowns.lookup id = some node → node.entry.CooldownEnd < now →
      ¬ CutsShort now (fun _ => false) s id) :
    ∃ s', s.update now = .ok s' ∧ s'.Coherent ∧ Cooling now s' started := by
  have hloop : ∀ (cs : List CategoryId) (s₁ : SpellHistory), Kept now started s s₁ →
      ∃ s', cs.foldlM (SpellHistory.expireCategory now) s₁ = .ok s' ∧ Kept now started s s' := by
    intro cs
    induction cs with
    | nil => exact fun s₁ h₁ => ⟨s₁, rfl, h₁⟩
    | cons c cs ih =>
      intro s₁ h₁
      obtain ⟨s₂, hs₂, h₂⟩ := h₁.coherent.expireCategory h₁.cooling c
      obtain ⟨s', hs', h'⟩ := ih s₂ ⟨h₁.shrunk.trans h₂.shrunk, h₂.coherent, h₂.cooling⟩
      rw [List.foldlM_cons, hs₂]
      exact ⟨s', hs', h'⟩
  obtain ⟨s₁, hs₁, h₁⟩ := hloop s.categoryCooldowns.keys s ⟨Shrunk.refl s, h, hcool⟩
  have herase := h₁.coherent.foldl_eraseIf h₁.cooling (fun _ => false) (fun _ => rfl)
    (fun _ entry => decide (entry.CooldownEnd < now))
    (fun id node hnode hpred hc => hcut id node (h₁.shrunk.spells hnode)
      (of_decide_eq_true hpred) (hc.of_shrunk h₁.shrunk)) s₁.spellCooldowns.keys
  refine ⟨_, ?_, herase.coherent, herase.cooling⟩
  unfold SpellHistory.update
  rw [hs₁]
  rfl

/-! ## 6. `ModifyCooldown` -/

theorem Coherent.modifyCooldown (h : s.Coherent) (hcool : Cooling now s started)
    {cooldownModMs : ℤ}
    (hcut : ∀ node, s.spellCooldowns.lookup id = some node → cooldownModMs ≠ 0 →
      ¬ node.entry.CooldownEnd + milliseconds cooldownModMs > now →
      ¬ CutsShort now (fun _ => false) s id) :
    (s.modifyCooldown now id cooldownModMs).Coherent ∧
      Cooling now (s.modifyCooldown now id cooldownModMs) started := by
  unfold SpellHistory.modifyCooldown
  split
  · exact ⟨h, hcool⟩
  · next node hnode =>
    split
    · exact ⟨h, hcool⟩
    · next hmod =>
      dsimp only
      split
      · refine ⟨h.assign ?_, hcool.assign fun old c hold _ => ?_⟩
        · rintro ⟨old, c, hold, hptr, hne⟩
          obtain rfl := Option.some.inj (hnode.symm.trans hold)
          exact hne (h.category_eq hnode hptr).symm
        · obtain rfl := Option.some.inj (hnode.symm.trans hold)
          exact le_rfl
      · next hended =>
        exact ⟨h.eraseCooldown id,
          hcool.eraseCooldown h (fun _ => rfl) (hcut node hnode hmod hended)⟩

/-! ## 7. `LockSpellSchool` -/

/-- `s'` is `s` with other entries for the spells `ids`, none of which is the one of a category. -/
structure Relocked (s s' : SpellHistory) (ids : List SpellId) : Prop where
  categories : s'.categoryCooldowns = s.categoryCooldowns
  others : ∀ id ∉ ids, s'.spellCooldowns.lookup id = s.spellCooldowns.lookup id
  pointed : ∀ {id node c}, s.spellCooldowns.lookup id = some node →
    s.categoryCooldowns.lookup c = some node.addr → s'.spellCooldowns.lookup id = some node

theorem Coherent.exists_remaining (h : s.Coherent) (now : TimePoint) (spellInfo : SpellInfo) :
    ∃ n, s.getRemainingCooldown now spellInfo = .ok n := by
  unfold getRemainingCooldown
  dsimp only
  split
  · exact ⟨_, rfl⟩
  · split
    · exact ⟨_, rfl⟩
    · next ptr hptr =>
      obtain ⟨id, node, -, -, -, hderef⟩ := h.deref hptr
      rw [hderef]
      exact ⟨_, rfl⟩

theorem Relocked.remaining_eq {ids : List SpellId} (hr : Relocked s s' ids) (h : s.Coherent)
    (h' : s'.Coherent) {spellInfo : SpellInfo} (hid : spellInfo.Id ∉ ids) :
    s'.getRemainingCooldown now spellInfo = s.getRemainingCooldown now spellInfo := by
  unfold getRemainingCooldown
  rw [hr.others _ hid, hr.categories]
  dsimp only
  split
  · rfl
  · split
    · rfl
    · next ptr hptr =>
      obtain ⟨id, node, hnode, rfl, -, hderef⟩ := h.deref hptr
      rw [hderef, h'.deref_addr (hr.pointed hnode hptr)]

theorem Relocked.locks_eq {ids : List SpellId} (hr : Relocked s s' ids) (h : s.Coherent)
    (h' : s'.Coherent) {spellInfo : SpellInfo} (hid : spellInfo.Id ∉ ids)
    (schoolMask lockoutTime : ℕ) :
    s'.locks now schoolMask lockoutTime spellInfo =
      s.locks now schoolMask lockoutTime spellInfo := by
  unfold locks
  rw [hr.remaining_eq h h' hid]

theorem Coherent.exists_locks (h : s.Coherent) (now : TimePoint) (schoolMask lockoutTime : ℕ)
    (spellInfo : SpellInfo) :
    ∃ locked, s.locks now schoolMask lockoutTime spellInfo = .ok locked := by
  unfold locks
  split
  · exact ⟨_, rfl⟩
  · split
    · exact ⟨_, rfl⟩
    · split
      · exact ⟨_, rfl⟩
      · obtain ⟨n, hn⟩ := h.exists_remaining now spellInfo
        rw [hn]
        exact ⟨_, rfl⟩

theorem Coherent.foldlM_lockSpell (h : s.Coherent) {schoolMask lockoutTime : ℕ}
    {knownSpells : List SpellInfo} (hset : (knownSpells.map SpellInfo.Id).Nodup)
    (hover : ∀ spellInfo ∈ knownSpells, s.locks now schoolMask lockoutTime spellInfo = .ok true →
      ¬ s.WritesOver spellInfo.Id 0) :
    ∀ (ids : List SpellId) {s' : SpellHistory}, Relocked s s' ids → s'.Coherent →
      Cooling now s' started → (∀ spellInfo ∈ knownSpells, spellInfo.Id ∉ ids) →
      ∃ s'', knownSpells.foldlM (lockSpell now schoolMask lockoutTime) s' = .ok s'' ∧
        s''.Coherent ∧ Cooling now s'' started := by
  induction knownSpells with
  | nil => exact fun _ s' _ h' hcool _ => ⟨s', rfl, h', hcool⟩
  | cons spellInfo knownSpells ih =>
    intro ids s' hr h' hcool hids
    obtain ⟨hnew, hset⟩ := List.nodup_cons.mp hset
    have hid := hids spellInfo List.mem_cons_self
    have hover' := fun x hx => hover x (List.mem_cons_of_mem _ hx)
    obtain ⟨locked, hlocked⟩ := h'.exists_locks now schoolMask lockoutTime spellInfo
    rw [List.foldlM_cons]
    cases locked with
    | false =>
      have hround : lockSpell now schoolMask lockoutTime s' spellInfo = .ok s' := by
        unfold lockSpell
        rw [hlocked]
        rfl
      rw [hround]
      exact ih hset hover' ids hr h' hcool fun x hx => hids x (List.mem_cons_of_mem _ hx)
    | true =>
      have hfree : ¬ s.WritesOver spellInfo.Id 0 := by
        refine hover spellInfo List.mem_cons_self ?_
        rw [← hr.locks_eq h h' hid, hlocked]
      have hfree' : ¬ s'.WritesOver spellInfo.Id 0 := by
        rintro ⟨node, c, hnode, hptr, hc⟩
        rw [hr.others _ hid] at hnode
        rw [hr.categories] at hptr
        exact hfree ⟨node, c, hnode, hptr, hc⟩
      let entry : CooldownEntry :=
        ⟨spellInfo.Id, now + milliseconds lockoutTime, 0, 0, now, false⟩
      have hround : lockSpell now schoolMask lockoutTime s' spellInfo = .ok (s'.store entry) := by
        unfold lockSpell
        rw [hlocked]
        rfl
      have hstore : s'.store entry = (s'.assign spellInfo.Id entry).1 := store_of_zero rfl
      have hcool' : Cooling now (s'.store entry) started := by
        have hstart : started.start entry = started := if_neg (not_not.mpr rfl)
        rw [← hstart]
        exact hcool.store hfree'
      have hr' : Relocked s (s'.store entry) (spellInfo.Id :: ids) := by
        rw [hstore]
        refine ⟨assign_categoryCooldowns.trans hr.categories, fun id hmem => ?_, ?_⟩
        · rw [List.mem_cons, not_or] at hmem
          rw [assign_lookup_of_ne hmem.1, hr.others id hmem.2]
        · intro id node c hnode hptr
          have hne : id ≠ spellInfo.Id := by
            rintro rfl
            refine hfree ⟨node, c, hnode, hptr, ?_⟩
            rintro rfl
            exact absurd (h.zero.symm.trans hptr) nofun
          rw [assign_lookup_of_ne hne]
          exact hr.pointed hnode hptr
      rw [hround]
      refine ih hset hover' _ hr' (h'.store hfree') hcool' fun x hx hmem => ?_
      rcases List.mem_cons.mp hmem with heq | hmem
      · exact hnew (heq ▸ List.mem_map_of_mem hx)
      · exact hids x (List.mem_cons_of_mem _ hx) hmem

theorem Coherent.lockSpellSchool (h : s.Coherent) (hcool : Cooling now s started)
    {schoolMask lockoutTime : ℕ} {knownSpells : List SpellInfo}
    (hset : (knownSpells.map SpellInfo.Id).Nodup)
    (hover : ∀ spellInfo ∈ knownSpells, s.locks now schoolMask lockoutTime spellInfo = .ok true →
      ¬ s.WritesOver spellInfo.Id 0) :
    ∃ s', s.lockSpellSchool now schoolMask lockoutTime knownSpells = .ok s' ∧ s'.Coherent ∧
      Cooling now s' started := by
  unfold SpellHistory.lockSpellSchool
  exact h.foldlM_lockSpell hset hover [] ⟨rfl, fun _ _ => rfl, fun hnode _ => hnode⟩
    ⟨h.addr_inj, h.fresh, h.pointers, h.zero⟩ ⟨hcool.zero, hcool.runs⟩
    fun _ _ => List.not_mem_nil

/-! ## 8. `LoadFromDB` -/

structure Loaded (s s' : SpellHistory) (ids : List SpellId) : Prop where
  others : ∀ id ∉ ids, s'.spellCooldowns.lookup id = s.spellCooldowns.lookup id
  categories : ∀ {c ptr}, s'.categoryCooldowns.lookup c = some ptr →
    s.categoryCooldowns.lookup c = some ptr ∨
      ∃ id ∈ ids, ∃ node, s'.spellCooldowns.lookup id = some node ∧ node.addr = ptr

theorem Loaded.writesOver {ids : List SpellId} (hl : Loaded s s' ids) (h' : s'.Coherent)
    (hid : id ∉ ids) (hover : s'.WritesOver id c) : s.WritesOver id c := by
  obtain ⟨node, c', hnode, hptr, hne⟩ := hover
  rcases hl.categories hptr with hptr | ⟨id', hid', node', hnode', haddr⟩
  · exact ⟨node, c', (hl.others id hid).symm.trans hnode, hptr, hne⟩
  · exact absurd (h'.addr_inj hnode' hnode haddr ▸ hid') hid

theorem Loaded.store {ids : List SpellId} (hl : Loaded s s' ids)
    (hid : entry.SpellId ∉ ids) : Loaded s (s'.store entry) (entry.SpellId :: ids) where
  others := by
    intro id hmem
    rw [List.mem_cons, not_or] at hmem
    rw [store_spellCooldowns, assign_lookup_of_ne hmem.1, hl.others id hmem.2]
  categories := by
    intro c ptr hptr
    rw [store_spellCooldowns]
    by_cases hc : c = entry.CategoryId ∧ c ≠ 0
    · obtain ⟨rfl, hzero⟩ := hc
      rw [store_lookup_self hzero] at hptr
      exact Or.inr ⟨entry.SpellId, List.mem_cons_self, _, assign_lookup_self s' _ entry,
        Option.some.inj hptr⟩
    · have hold : s'.categoryCooldowns.lookup c = some ptr := by
        by_cases hne : c = entry.CategoryId
        · have hzero : entry.CategoryId = 0 := by
            by_contra hzero
            exact hc ⟨hne, hne ▸ hzero⟩
          rwa [store_of_zero hzero, assign_categoryCooldowns] at hptr
        · rwa [store_lookup_of_ne hne] at hptr
      rcases hl.categories hold with hold | ⟨id, hmem, node, hnode, haddr⟩
      · exact Or.inl hold
      · have hne : id ≠ entry.SpellId := by
          rintro rfl
          exact hid hmem
        exact Or.inr ⟨id, List.mem_cons_of_mem _ hmem, node,
          (assign_lookup_of_ne hne).trans hnode, haddr⟩

theorem foldl_store {entries : List CooldownEntry}
    (hkey : (entries.map CooldownEntry.SpellId).Nodup)
    (hover : ∀ entry ∈ entries, ¬ s.WritesOver entry.SpellId entry.CategoryId) :
    ∀ (ids : List SpellId) {s' : SpellHistory} {started : Started}, Loaded s s' ids →
      s'.Coherent → Cooling now s' started → (∀ entry ∈ entries, entry.SpellId ∉ ids) →
      (entries.foldl store s').Coherent ∧
        Cooling now (entries.foldl store s') (entries.foldl Started.start started) := by
  induction entries with
  | nil => exact fun _ _ _ _ h' hcool _ => ⟨h', hcool⟩
  | cons entry entries ih =>
    intro ids s' started hl h' hcool hids
    obtain ⟨hnew, hkey⟩ := List.nodup_cons.mp hkey
    have hid := hids entry List.mem_cons_self
    have hfree : ¬ s'.WritesOver entry.SpellId entry.CategoryId := fun hw =>
      hover entry List.mem_cons_self (hl.writesOver h' hid hw)
    refine ih hkey (fun x hx => hover x (List.mem_cons_of_mem _ hx)) _ (hl.store hid)
      (h'.store hfree) (hcool.store hfree) fun x hx hmem => ?_
    rcases List.mem_cons.mp hmem with heq | hmem
    · exact hnew (heq ▸ List.mem_map_of_mem hx)
    · exact hids x (List.mem_cons_of_mem _ hx) hmem

theorem nodup_readCooldown (env : SpellEnv) (owner : OwnerType) {rows : List CooldownRow}
    (hkey : (rows.map CooldownRow.spell).Nodup) :
    ((rows.filterMap (readCooldown env owner)).map CooldownEntry.SpellId).Nodup := by
  refine hkey.sublist ?_
  induction rows with
  | nil => exact List.Sublist.refl _
  | cons row rows ih =>
    have ih := ih (List.nodup_cons.mp hkey).2
    rw [List.map_cons]
    cases hread : readCooldown env owner row with
    | none =>
      rw [List.filterMap_cons_none hread]
      exact ih.cons _
    | some entry =>
      have hspell : entry.SpellId = row.spell := by
        unfold readCooldown at hread
        split at hread
        · rw [← Option.some.inj hread]
        · exact absurd hread nofun
      rw [List.filterMap_cons_some hread, List.map_cons, hspell]
      exact ih.cons_cons _

/-- **`LoadFromDB`** starts the cooldowns of its rows, if none of them writes over another
category. -/
theorem Coherent.loadFromDB (h : s.Coherent) (hcool : Cooling now s started) {env : SpellEnv}
    {owner : OwnerType} {rows : List CooldownRow} (hkey : (rows.map CooldownRow.spell).Nodup)
    (hover : ∀ entry ∈ rows.filterMap (readCooldown env owner),
      ¬ s.WritesOver entry.SpellId entry.CategoryId) :
    (s.loadFromDB env owner rows).Coherent ∧
      Cooling now (s.loadFromDB env owner rows)
        ((rows.filterMap (readCooldown env owner)).foldl Started.start started) :=
  foldl_store (nodup_readCooldown env owner hkey) hover [] ⟨fun _ _ => rfl, Or.inl⟩ h hcool
    fun _ _ => List.not_mem_nil

/-! ## 9. The duel -/

/-- Restoring the entry neither changes the category of an entry that is pointed to, nor ends it
earlier. -/
def RestoresWell (s : SpellHistory) (id : SpellId) (before : CooldownEntry) : Prop :=
  ∀ node c, s.spellCooldowns.lookup id = some node → before.OnHold = false →
    node.entry.OnHold = false → s.categoryCooldowns.lookup c = some node.addr →
    c = before.CategoryId ∧ node.entry.CategoryEnd ≤ before.CategoryEnd

structure ProfessionsKept (env : SpellEnv) (s : SpellHistory) (done : List SpellId)
    (s' : SpellHistory) : Prop where
  spells : s'.spellCooldowns = s.spellCooldowns
  categories : s'.categoryCooldowns = s.categoryCooldowns
  next : s'.next = s.next
  before : ∀ {id before}, s'.spellCooldownsBeforeDuel.lookup id = some before →
    (∃ node, s.spellCooldowns.lookup id = some node ∧ before = node.entry) ∨
      (s.spellCooldownsBeforeDuel.lookup id = some before ∧
        ∀ spellInfo, id ∈ done → env.getSpellInfo id = some spellInfo →
          isProfession spellInfo = false)

theorem ProfessionsKept.keepProfession {env : SpellEnv} {done : List SpellId}
    (hk : ProfessionsKept env s done s') (hmem : (s.spellCooldowns.lookup id).isSome) :
    Outcome (ProfessionsKept env s (done ++ [id])) (· = .assertSpellInfo)
      (keepProfession env s' id) := by
  obtain ⟨node, hnode⟩ := Option.isSome_iff_exists.mp hmem
  unfold SpellHistory.keepProfession
  rw [hk.spells, hnode]
  cases hinfo : env.getSpellInfo id with
  | none => rfl
  | some spellInfo =>
    dsimp only
    split
    · next hprof =>
      refine ⟨rfl, hk.categories, hk.next, fun {id' before} hbefore => ?_⟩
      by_cases hid : id' = id
      · subst hid
        rw [AList.lookup_insert, Option.some.injEq] at hbefore
        exact Or.inl ⟨node, hnode, hbefore.symm⟩
      · rw [AList.lookup_insert_ne hid] at hbefore
        refine (hk.before hbefore).imp_right fun ⟨hb, hdone⟩ => ⟨hb, fun info hin => ?_⟩
        rcases List.mem_append.mp hin with hin | hin
        · exact hdone info hin
        · exact absurd (List.mem_singleton.mp hin) hid
    · next hprof =>
      refine ⟨hk.spells, hk.categories, hk.next, fun {id' before} hbefore => ?_⟩
      refine (hk.before hbefore).imp_right fun ⟨hb, hdone⟩ => ⟨hb, fun info hin heq => ?_⟩
      rcases List.mem_append.mp hin with hin | hin
      · exact hdone info hin heq
      · obtain rfl := List.mem_singleton.mp hin
        obtain rfl := Option.some.inj (hinfo.symm.trans heq)
        exact Bool.eq_false_iff.mpr hprof

theorem Coherent.foldl_restoreSpell {ids : List SpellId} (hids : ids.Nodup) :
    ∀ {s' : SpellHistory}, s'.Coherent → Cooling now s' started →
      (∀ id ∈ ids, ∀ before, s'.spellCooldownsBeforeDuel.lookup id = some before →
        s'.RestoresWell id before) →
      (ids.foldl restoreSpell s').Coherent ∧ Cooling now (ids.foldl restoreSpell s') started := by
  induction ids with
  | nil => exact fun h hcool _ => ⟨h, hcool⟩
  | cons id ids ih =>
    intro s' h hcool hwell
    obtain ⟨hnew, hids⟩ := List.nodup_cons.mp hids
    have hrest := fun x hx => hwell x (List.mem_cons_of_mem _ hx)
    rw [List.foldl_cons]
    unfold restoreSpell
    split
    · exact ih hids h hcool hrest
    · next before hbefore =>
      dsimp only
      split
      · next hhold =>
        rw [Bool.and_eq_true_iff, Bool.not_eq_true', Bool.not_eq_true'] at hhold
        obtain ⟨hhold, hhold'⟩ := hhold
        have hpointed : ∀ node c, s'.spellCooldowns.lookup id = some node →
            s'.categoryCooldowns.lookup c = some node.addr →
            c = before.CategoryId ∧ node.entry.CategoryEnd ≤ before.CategoryEnd := by
          intro node c hnode hptr
          rw [hnode] at hhold'
          exact hwell id List.mem_cons_self before hbefore node c hnode hhold hhold' hptr
        refine ih hids (h.assign ?_) (hcool.assign fun node c hnode hptr =>
          (hpointed node c hnode hptr).2) fun x hx b hb => ?_
        · rintro ⟨node, c, hnode, hptr, hne⟩
          exact hne (hpointed node c hnode hptr).1
        · have hne : x ≠ id := by
            rintro rfl
            exact hnew hx
          rw [assign_spellCooldownsBeforeDuel] at hb
          intro node c hnode
          rw [assign_lookup_of_ne hne] at hnode
          rw [assign_categoryCooldowns]
          exact hrest x hx b hb node c hnode
      · exact ih hids h hcool hrest

/-- **`RestoreCooldownStateAfterDuel`** keeps the cooldowns if the entries it restores, those of
professions apart, leave the categories as they are. -/
theorem Coherent.restoreCooldownStateAfterDuel (h : s.Coherent) (hcool : Cooling now s started)
    (env : SpellEnv)
    (hwell : ∀ id before, s.spellCooldownsBeforeDuel.lookup id = some before →
      (∀ spellInfo, env.getSpellInfo id = some spellInfo → isProfession spellInfo = false) →
      s.RestoresWell id before) :
    Outcome (fun s' => s'.Coherent ∧ Cooling now s' started) (· = .assertSpellInfo)
      (s.restoreCooldownStateAfterDuel env) := by
  unfold SpellHistory.restoreCooldownStateAfterDuel
  refine Outcome.bind (Q := ProfessionsKept env s s.spellCooldowns.keys) ?_ fun s₁ h₁ => ?_
  · refine Outcome.foldlM (I := ProfessionsKept env s) ⟨rfl, rfl, rfl, fun hb => Or.inr ⟨hb,
      fun _ hin => absurd hin List.not_mem_nil⟩⟩ fun done id rest s' hkeys hk => ?_
    refine hk.keepProfession (AList.lookup_isSome.mpr ?_)
    rw [AList.mem_keys, hkeys]
    exact List.mem_append_right _ List.mem_cons_self
  · have hco : s₁.Coherent := by
      refine ⟨?_, ?_, ?_, ?_⟩
      · rw [h₁.spells]
        exact h.addr_inj
      · rw [h₁.spells, h₁.next]
        exact h.fresh
      · rw [h₁.spells, h₁.categories]
        exact h.pointers
      · rw [h₁.categories]
        exact h.zero
    have hcool₁ : Cooling now s₁ started := by
      refine ⟨hcool.zero, ?_⟩
      rw [h₁.spells, h₁.categories]
      exact hcool.runs
    refine hco.foldl_restoreSpell s₁.spellCooldownsBeforeDuel.keys_nodup hcool₁
      fun id _ before hbefore node c hnode hhold hhold' hptr => ?_
    rw [h₁.spells] at hnode
    rw [h₁.categories] at hptr
    rcases h₁.before hbefore with ⟨old, hold, rfl⟩ | ⟨hb, hprof⟩
    · obtain rfl := Option.some.inj (hold.symm.trans hnode)
      exact ⟨(h.category_eq hnode hptr).symm, le_rfl⟩
    · have hkey : id ∈ s.spellCooldowns.keys :=
        AList.mem_keys.mp (AList.lookup_isSome.mp (by rw [hnode]; rfl))
      exact hwell id before hb (fun info hinfo => hprof info hkey hinfo) node c hnode hhold hhold'
        hptr

end SpellHistory

open SpellHistory

/-! ## 10. Runs -/

/-- The operations. The known spells are those of a set, and the table of cooldowns has one row
for each spell. -/
inductive Operation
  | addCooldown (spellId : SpellId) (itemId : ℕ) (cooldownEnd : TimePoint)
      (categoryId : CategoryId) (categoryEnd : TimePoint) (onHold : Bool)
  | lockSpellSchool (schoolMask lockoutTime : ℕ) (knownSpells : List SpellInfo)
      (hset : (knownSpells.map SpellInfo.Id).Nodup)
  | modifyCooldown (spellId : SpellId) (cooldownModMs : ℤ)
  | resetCooldown (spellId : SpellId)
  | resetCooldowns (predicate : SpellId → CooldownEntry → Bool)
  | resetAllCooldowns
  | update
  | loadFromDB (owner : OwnerType) (rows : List CooldownRow)
      (hkey : (rows.map CooldownRow.spell).Nodup)
  | saveCooldownStateBeforeDuel
  | restoreCooldownStateAfterDuel

def Operation.run (env : SpellEnv) (now : TimePoint) (s : SpellHistory) :
    Operation → Except Fault SpellHistory
  | addCooldown spellId itemId cooldownEnd categoryId categoryEnd onHold =>
    .ok (s.addCooldown spellId itemId cooldownEnd categoryId categoryEnd onHold)
  | lockSpellSchool schoolMask lockoutTime knownSpells _ =>
    s.lockSpellSchool now schoolMask lockoutTime knownSpells
  | modifyCooldown spellId cooldownModMs => .ok (s.modifyCooldown now spellId cooldownModMs)
  | resetCooldown spellId => .ok (s.resetCooldown spellId)
  | resetCooldowns predicate => .ok (s.resetCooldowns predicate)
  | resetAllCooldowns => .ok s.resetAllCooldowns
  | update => s.update now
  | loadFromDB owner rows _ => .ok (s.loadFromDB env owner rows)
  | saveCooldownStateBeforeDuel => .ok s.saveCooldownStateBeforeDuel
  | restoreCooldownStateAfterDuel => s.restoreCooldownStateAfterDuel env

/-- The spells whose cooldowns `ResetCooldowns` resets. -/
def SpellHistory.matching (s : SpellHistory) (predicate : SpellId → CooldownEntry → Bool)
    (id : SpellId) : Bool :=
  match s.spellCooldowns.lookup id with
  | none => false
  | some node => predicate id node.entry

def Operation.record (env : SpellEnv) (s : SpellHistory) (started : Started) : Operation → Started
  | addCooldown spellId itemId cooldownEnd categoryId categoryEnd onHold =>
    started.start ⟨spellId, cooldownEnd, itemId, categoryId, categoryEnd, onHold⟩
  | loadFromDB owner rows _ => (rows.filterMap (readCooldown env owner)).foldl Started.start started
  | resetCooldown spellId => started.reset fun id => decide (id = spellId)
  | resetCooldowns predicate => started.reset (s.matching predicate)
  | resetAllCooldowns => fun _ => none
  | _ => started

/-- The store with its clock, and with a record of the cooldowns started. -/
structure Tracking where
  now : TimePoint
  history : SpellHistory
  started : Started

/-- An operation, some nanoseconds after the last one. -/
structure Event where
  elapsed : ℕ
  operation : Operation

def step (env : SpellEnv) (r : Except Fault Tracking) (e : Event) : Except Fault Tracking := do
  let t ← r
  let now := t.now + e.elapsed
  let history ← e.operation.run env now t.history
  .ok ⟨now, history, e.operation.record env t.history t.started⟩

def Tracking.new (now : TimePoint) : Tracking := ⟨now, SpellHistory.new, fun _ => none⟩

/-- **What should hold of the category cooldowns.** -/
structure CategoriesRight (env : SpellEnv) (t : Tracking) : Prop where
  /-- Each pointer is one to a live entry of its category. -/
  pointers : ∀ c ptr, t.history.categoryCooldowns.lookup c = some ptr →
    ∃ id node, t.history.spellCooldowns.lookup id = some node ∧ node.addr = ptr ∧
      node.entry.CategoryId = c
  /-- While the last cooldown that was started in a category runs, and is not reset, every spell of
  the category has a cooldown. -/
  cooling : ∀ c id till, t.started c = some (id, till) → t.now < till → ∀ spellInfo itemId,
    (getCooldownDurations env spellInfo itemId).2.1 = c →
    t.history.hasCooldown env spellInfo itemId false = true

/-- **What keeps it so**: no entry is written over with another category while its category points
to it, and no entry is erased with the cooldown of its category, unless that is over or reset. -/
def Operation.Harmless (env : SpellEnv) (now : TimePoint) (s : SpellHistory) : Operation → Prop
  | addCooldown spellId _ _ categoryId _ _ => ¬ s.WritesOver spellId categoryId
  | lockSpellSchool schoolMask lockoutTime knownSpells _ => ∀ spellInfo ∈ knownSpells,
    s.locks now schoolMask lockoutTime spellInfo = .ok true → ¬ s.WritesOver spellInfo.Id 0
  | modifyCooldown spellId cooldownModMs => ∀ node, s.spellCooldowns.lookup spellId = some node →
    cooldownModMs ≠ 0 → ¬ node.entry.CooldownEnd + milliseconds cooldownModMs > now →
    ¬ CutsShort now (fun _ => false) s spellId
  | resetCooldown spellId => ¬ CutsShort now (fun id => decide (id = spellId)) s spellId
  | resetCooldowns predicate => ∀ id node, s.spellCooldowns.lookup id = some node →
    predicate id node.entry = true → ¬ CutsShort now (s.matching predicate) s id
  | resetAllCooldowns => True
  | update => ∀ id node, s.spellCooldowns.lookup id = some node → node.entry.CooldownEnd < now →
    ¬ CutsShort now (fun _ => false) s id
  | loadFromDB owner rows _ => ∀ entry ∈ rows.filterMap (readCooldown env owner),
    ¬ s.WritesOver entry.SpellId entry.CategoryId
  | saveCooldownStateBeforeDuel => True
  | restoreCooldownStateAfterDuel => ∀ id before,
    s.spellCooldownsBeforeDuel.lookup id = some before →
    (∀ spellInfo, env.getSpellInfo id = some spellInfo → isProfession spellInfo = false) →
    s.RestoresWell id before

def HarmlessStep (env : SpellEnv) (r : Except Fault Tracking) (e : Event) : Prop :=
  ∀ t, r = .ok t → e.operation.Harmless env (t.now + e.elapsed) t.history

structure Tracking.Inv (t : Tracking) : Prop where
  coherent : t.history.Coherent
  cooling : Cooling t.now t.history t.started

theorem Tracking.Inv.right {t : Tracking} (h : t.Inv) (env : SpellEnv) : CategoriesRight env t where
  pointers := fun _ _ hptr => h.coherent.pointers hptr
  cooling := by
    intro c id till hstart hlt spellInfo itemId hc
    obtain ⟨node, -, hptr, -⟩ := h.cooling.runs hstart hlt
    have hzero : c ≠ 0 := by
      rintro rfl
      exact absurd (h.cooling.zero.symm.trans hstart) nofun
    unfold hasCooldown
    split
    · rfl
    · dsimp only
      rw [hc, if_neg (by decide : ¬ false = true), if_neg hzero, hptr]
      rfl

section Step

variable {env : SpellEnv} {now : TimePoint} {s : SpellHistory} {started : Started}

theorem resetCooldown_inv (h : s.Coherent) (hcool : Cooling now s started) {spellId : SpellId}
    (hcut : ¬ CutsShort now (fun id => decide (id = spellId)) s spellId) :
    (s.resetCooldown spellId).Coherent ∧
      Cooling now (s.resetCooldown spellId) (started.reset fun id => decide (id = spellId)) :=
  ⟨h.eraseCooldown spellId, (hcool.reset _).eraseCooldown h
    (fun hstart => (Started.reset_eq_some hstart).2) hcut⟩

theorem resetCooldowns_inv (h : s.Coherent) (hcool : Cooling now s started)
    {predicate : SpellId → CooldownEntry → Bool}
    (hcut : ∀ id node, s.spellCooldowns.lookup id = some node → predicate id node.entry = true →
      ¬ CutsShort now (s.matching predicate) s id) :
    (s.resetCooldowns predicate).Coherent ∧
      Cooling now (s.resetCooldowns predicate) (started.reset (s.matching predicate)) := by
  have hkept := h.foldl_eraseIf (hcool.reset (s.matching predicate)) (s.matching predicate)
    (fun hstart => (Started.reset_eq_some hstart).2) predicate hcut s.spellCooldowns.keys
  exact ⟨hkept.coherent, hkept.cooling⟩

theorem resetAllCooldowns_inv :
    s.resetAllCooldowns.Coherent ∧ Cooling now s.resetAllCooldowns fun _ => none where
  left := by
    refine ⟨fun hl => ?_, fun hl => ?_, fun hl => ?_, AList.lookup_empty 0⟩
    · exact absurd ((AList.lookup_empty _).symm.trans hl) nofun
    · exact absurd ((AList.lookup_empty _).symm.trans hl) nofun
    · exact absurd ((AList.lookup_empty _).symm.trans hl) nofun
  right := ⟨rfl, fun hstart => absurd hstart nofun⟩

theorem Operation.run_inv (h : s.Coherent) (hcool : Cooling now s started) (op : Operation)
    (hop : op.Harmless env now s) :
    Outcome (fun s' => s'.Coherent ∧ Cooling now s' (op.record env s started))
      (· = .assertSpellInfo) (op.run env now s) := by
  cases op with
  | addCooldown => exact ⟨h.store hop, hcool.store hop⟩
  | lockSpellSchool schoolMask lockoutTime knownSpells hset =>
    obtain ⟨s', hs', hinv⟩ := h.lockSpellSchool hcool hset hop
    rw [Operation.run, hs']
    exact hinv
  | modifyCooldown => exact h.modifyCooldown hcool hop
  | resetCooldown => exact resetCooldown_inv h hcool hop
  | resetCooldowns => exact resetCooldowns_inv h hcool hop
  | resetAllCooldowns => exact resetAllCooldowns_inv
  | update =>
    obtain ⟨s', hs', hinv⟩ := h.update hcool hop
    rw [Operation.run, hs']
    exact hinv
  | loadFromDB owner rows hkey => exact h.loadFromDB hcool hkey hop
  | saveCooldownStateBeforeDuel =>
    exact ⟨⟨h.addr_inj, h.fresh, h.pointers, h.zero⟩, ⟨hcool.zero, hcool.runs⟩⟩
  | restoreCooldownStateAfterDuel => exact h.restoreCooldownStateAfterDuel hcool env hop

theorem step_inv {r : Except Fault Tracking} {e : Event}
    (h : Outcome Tracking.Inv (· = .assertSpellInfo) r) (he : HarmlessStep env r e) :
    Outcome Tracking.Inv (· = .assertSpellInfo) (step env r e) := by
  cases r with
  | error f => exact h
  | ok t =>
    have hcool : Cooling (t.now + e.elapsed) t.history t.started :=
      h.cooling.later (Int.le_add_of_nonneg_right (Int.natCast_nonneg _))
    have hrun := e.operation.run_inv h.coherent hcool (he t rfl)
    exact hrun.bind fun s' hs' => ⟨hs'.1, hs'.2⟩

end Step

/-- **In a run of harmless operations the category cooldowns are right in every state**, and
nothing ends the run but a spell that does not exist. -/
theorem categories_right (env : SpellEnv) (now : TimePoint) (events : List Event)
    (hsteps : Steps (step env) (HarmlessStep env) (.ok (Tracking.new now)) events) :
    States (step env) (Outcome (CategoriesRight env) (· = .assertSpellInfo))
      (.ok (Tracking.new now)) events := by
  have hnew : (Tracking.new now).Inv := ⟨Coherent.new, rfl, fun hstart => absurd hstart nofun⟩
  have hok : Outcome Tracking.Inv (· = Fault.assertSpellInfo) (.ok (Tracking.new now)) := hnew
  have hinv := States.of_steps (fun r e hr he => step_inv hr he) hok hsteps
  exact hinv.imp fun r hr => hr.imp fun t ht => ht.right env

/-! ## 11. Two runs that go wrong -/

def bareEnv : SpellEnv := ⟨fun _ => none, fun _ => none⟩

/-- A spell of category 5 is cast, with a cooldown of so many milliseconds. -/
def castEvent (spellId : SpellId) (cooldown : ℤ) : Event :=
  ⟨0, .addCooldown spellId 0 (milliseconds cooldown) 5 (milliseconds cooldown) false⟩

def categorySpell (id : SpellId) : SpellInfo where
  Id := id
  Category := 5
  SchoolMask := 4

/-- A cooldown of eight seconds, and a lockout of ten. -/
def lockoutRun : List Event :=
  [castEvent 100 8000, ⟨0, .lockSpellSchool 4 10000 [categorySpell 100] (by decide)⟩]

/-- A cooldown of eight seconds, one of a minute in the same category, and an update after ten
seconds. -/
def expiryRun : List Event :=
  [castEvent 100 8000, castEvent 200 60000, ⟨10000000000, .update⟩]

/-- A cooldown of eight seconds that is over is taken out with its category. -/
theorem single_cooldown_right :
    States (step bareEnv) (Outcome (CategoriesRight bareEnv) (· = .assertSpellInfo))
      (.ok (Tracking.new 0)) [castEvent 100 8000, ⟨10000000000, .update⟩] := by
  refine categories_right bareEnv 0 _ ⟨?_, ?_, trivial⟩
  · rintro t ht ⟨node, c, hnode, -, -⟩
    obtain rfl := Except.ok.inj ht
    exact absurd hnode nofun
  · rintro t ht id node hnode - ⟨_, id', node', -, hnode', -, hlt, -⟩
    obtain rfl := Except.ok.inj ht
    have hend : node'.entry.CategoryEnd = milliseconds 8000 :=
      congrArg (fun x : Sigma fun _ : SpellId => CooldownNode => x.2.entry.CategoryEnd)
        (List.mem_singleton.mp (AList.mem_lookup_iff.mp hnode'))
    rw [hend] at hlt
    exact absurd hlt (by decide)

/-- **A lockout leaves the pointer of the category with an entry of no category**, and **an update
ends the category of a cooldown that runs for a minute after ten seconds**. -/
theorem lockout_and_expiry_wrong :
    ¬ States (step bareEnv) (Outcome (CategoriesRight bareEnv) (· = .assertSpellInfo))
        (.ok (Tracking.new 0)) lockoutRun ∧
      ¬ States (step bareEnv) (Outcome (CategoriesRight bareEnv) (· = .assertSpellInfo))
        (.ok (Tracking.new 0)) expiryRun := by
  constructor
  · intro h
    obtain ⟨id, node, hnode, -, hc⟩ := CategoriesRight.pointers h.exec 5 0 rfl
    have hzero : node.entry.CategoryId = 0 :=
      congrArg (fun x : Sigma fun _ : SpellId => CooldownNode => x.2.entry.CategoryId)
        (List.mem_singleton.mp (AList.mem_lookup_iff.mp hnode))
    exact absurd (hzero.symm.trans hc) (by decide)
  · intro h
    have hcooling := CategoriesRight.cooling h.exec 5 200 (milliseconds 60000) rfl (by decide)
      (categorySpell 300) 0 rfl
    exact absurd hcooling (by decide)

end FunPvp.Spells
