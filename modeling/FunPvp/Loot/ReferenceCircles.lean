/-
# References that go in a circle

`Process` calls itself for every template that is referred to, and nothing that loads templates
looks for circles of references. A reference counts if its loot mode matches, its roll can succeed,
it is to be processed at least once, and asks for the whole template (one that asks for a group of
it calls nothing more). `process_ends_iff` says that `Process` comes to an end, whatever is drawn,
if and only if no circle of such references can be reached.

What it adds is right in any case: entries of the templates with a matching loot mode, and for
every processing of a group at most one of its entries, one the selector allows.
-/
import FunPvp.Lib.Descent
import FunPvp.Loot.LootTemplate

namespace FunPvp.Looting

open FunPvp.Lib Relation

variable {F : Type} [LinearOrder F] [Zero F] [One F] [Sub F] [Mul F] [NatCast F]

/-! ## 1. What is added -/

namespace LootTemplate

/-- The template itself, and those it could refer to. -/
def Involves (p : Processing F) (t t' : LootTemplate F) : Prop :=
  t' = t ∨ ∃ id, p.lootTemplatesReference.getLootFor id = some t'

/-- What may be done to the loot: an entry is added that is not a reference and has a matching loot
mode, or a group is processed, which adds at most one of its entries, one that the selector
allows. -/
inductive Adds (p : Processing F) (d : Dice F) (t : LootTemplate F) : Generated → Generated → Prop
  | draw (s : Generated) : Adds p d t s s.next
  | entry (s : Generated) (t' : LootTemplate F) (item : LootRow F) (ht : Involves p t t')
      (hitem : item ∈ t'.entries) (hplain : item.reference = 0)
      (hmode : item.lootmode &&& p.lootMode ≠ 0) : Adds p d t s (s.addItem p d item)
  | group (s : Generated) (t' : LootTemplate F) (group : LootGroup F)
      (chosen : Option (LootRow F)) (ht : Involves p t t') (hgroup : some group ∈ t'.groups)
      (hchosen : ∀ item ∈ chosen, item ∈ group.explicitlyChanced ++ group.equalChanced ∧
        lootGroupInvalidSelector p s.loot item = false) :
      Adds p d t s (chosen.elim s.next (s.next.addItem p d))

end LootTemplate

section Adds

variable {p : Processing F} {d : Dice F} {t t' : LootTemplate F} {s s' : Generated}

omit [One F] [Mul F] in
theorem LootGroup.pickByChance_mem {roll : F} {items : List (LootRow F)} {item : LootRow F}
    (h : pickByChance roll items = some item) : item ∈ items := by
  induction items generalizing roll with
  | nil => cases h
  | cons first items ih =>
    rw [pickByChance] at h
    split at h
    · exact List.mem_cons.mpr (Or.inl (Option.some.inj h).symm)
    · split at h
      · exact List.mem_cons.mpr (Or.inl (Option.some.inj h).symm)
      · exact List.mem_cons_of_mem first (ih h)

omit [LinearOrder F] [Zero F] [One F] [Sub F] [Mul F] [NatCast F] in
theorem LootGroup.mem_possibleLoot {loot : Loot} {items : List (LootRow F)} {item : LootRow F}
    (h : item ∈ possibleLoot p loot items) :
    item ∈ items ∧ lootGroupInvalidSelector p loot item = false := by
  obtain ⟨hmem, hvalid⟩ := List.mem_filter.mp h
  exact ⟨hmem, Bool.not_eq_true' _ |>.mp hvalid⟩

omit [One F] [Mul F] in
theorem LootGroup.roll_allowed {group : LootGroup F} {loot : Loot} {chance : F} {number : ℕ}
    {item : LootRow F} (h : group.roll p loot chance number = some item) :
    item ∈ group.explicitlyChanced ++ group.equalChanced ∧
      lootGroupInvalidSelector p loot item = false := by
  rw [LootGroup.roll] at h
  split at h
  · next item' hpick =>
    obtain rfl := Option.some.inj h
    obtain ⟨hmem, hvalid⟩ := mem_possibleLoot (pickByChance_mem hpick)
    exact ⟨List.mem_append_left _ hmem, hvalid⟩
  · obtain ⟨hmem, hvalid⟩ := mem_possibleLoot (List.mem_of_getElem? h)
    exact ⟨List.mem_append_right _ hmem, hvalid⟩

namespace LootTemplate

omit [One F] [Mul F] in
theorem adds_group {group : LootGroup F} (ht : Involves p t t') (hgroup : some group ∈ t'.groups) :
    Adds p d t s (group.process p d s) := by
  have hadds := Adds.group (d := d) s t' group
    (group.roll p s.loot (d.chance s.drawn) (d.number s.drawn)) ht hgroup fun item hitem =>
      LootGroup.roll_allowed hitem
  rw [LootGroup.process]
  cases hroll : group.roll p s.loot (d.chance s.drawn) (d.number s.drawn) with
  | none =>
    rw [hroll] at hadds
    exact hadds
  | some item =>
    rw [hroll] at hadds
    exact hadds

omit [One F] [Mul F] in
theorem reach_processGroup (ht : Involves p t t') (groupId : UInt8) :
    ReflTransGen (Adds p d t) s (t'.processGroup p d s groupId) := by
  rw [processGroup]
  split
  · next group hgroup => exact .single (adds_group ht (List.mem_of_getElem? hgroup))
  · exact .refl

omit [One F] [Mul F] in
theorem reach_processGroups (ht : Involves p t t') :
    ReflTransGen (Adds p d t) s (t'.processGroups p d s) := by
  have hall : ∀ (groups : List (Option (LootGroup F))) (s : Generated),
      (∀ group ∈ groups, group ∈ t'.groups) → ReflTransGen (Adds p d t) s
        (groups.foldl (fun s group => group.elim s fun group => group.process p d s) s) := by
    intro groups
    induction groups with
    | nil => exact fun s _ => .refl
    | cons group groups ih =>
      intro s hmem
      obtain ⟨hfirst, hrest⟩ := List.forall_mem_cons.mp hmem
      rw [List.foldl_cons]
      cases group with
      | none => exact ih s hrest
      | some group => exact .head (adds_group ht hfirst) (ih _ hrest)
  exact hall t'.groups s fun group hgroup => hgroup

omit [Sub F] in
theorem reach_processEntry
    {processReferenced : LootTemplate F → Generated → UInt8 → Option Generated}
    (hcalls : ∀ t'' s s' groupId, Involves p t t'' → processReferenced t'' s groupId = some s' →
      ReflTransGen (Adds p d t) s s')
    (ht : Involves p t t') {item : LootRow F} (hitem : item ∈ t'.entries)
    (h : processEntry p d processReferenced s item = some s') :
    ReflTransGen (Adds p d t) s s' := by
  rw [processEntry] at h
  split at h
  · obtain rfl := Option.some.inj h
    exact .refl
  · next hmode =>
    split at h
    · obtain rfl := Option.some.inj h
      exact .single (.draw s)
    · split at h
      · split at h
        · obtain rfl := Option.some.inj h
          exact .single (.draw s)
        · next referenced hfound =>
          refine .head (.draw s) (foldlM_reach (fun _ _ s s' hs => ?_) h)
          exact hcalls referenced s s' item.groupid (Or.inr ⟨_, hfound⟩) hs
      · next href =>
        obtain rfl := Option.some.inj h
        have hplain : item.reference = 0 := by
          have := UInt32.lt_iff_toNat_lt.not.mp href
          exact UInt32.toNat_inj.mp (by simpa using this)
        exact .head (.draw s) (.single (.entry s.next t' item ht hitem hplain hmode))

theorem reach_process {depth : ℕ} (ht : Involves p t t') {groupId : UInt8}
    (h : t'.process p d depth s groupId = some s') : ReflTransGen (Adds p d t) s s' := by
  induction depth generalizing t' s s' groupId with
  | zero => cases h
  | succ depth ih =>
    rw [process] at h
    split at h
    · obtain rfl := Option.some.inj h
      exact reach_processGroup ht groupId
    · obtain ⟨s₁, hs₁, rfl⟩ := Option.map_eq_some_iff.mp h
      refine (foldlM_reach (fun item hitem s s' hs => ?_) hs₁).trans (reach_processGroups ht)
      exact reach_processEntry (fun t'' s s' groupId ht'' hs => ih ht'' hs) ht hitem hs

end LootTemplate

end Adds

/-! ## 2. Which references count -/

/-- The roll of the entry can succeed. -/
def LootRow.CanDrop (item : LootRow F) (p : Processing F) : Prop :=
  ∃ roll, 0 ≤ roll ∧ item.roll p roll = true

/-- The entry is a reference to the whole template with this id, and can be processed. -/
def LootRow.RefersTo (item : LootRow F) (p : Processing F) (id : UInt32) : Prop :=
  item.reference = id ∧ 0 < id ∧ item.lootmode &&& p.lootMode ≠ 0 ∧ item.CanDrop p ∧
    item.groupid = 0 ∧ item.referencedAmount p ≠ 0

namespace LootTemplate

def RefersTo (p : Processing F) (t : LootTemplate F) (id : UInt32) : Prop :=
  ∃ item ∈ t.entries, item.RefersTo p id

/-- The template with the first id refers to the one with the second, and both are there. -/
def Refers (p : Processing F) (id id' : UInt32) : Prop :=
  (∃ t, p.lootTemplatesReference.getLootFor id = some t ∧ t.RefersTo p id') ∧
    ∃ t', p.lootTemplatesReference.getLootFor id' = some t'

/-- A circle of references can be reached from the template. -/
def LeadsIntoCircle (p : Processing F) (t : LootTemplate F) : Prop :=
  ∃ id, t.RefersTo p id ∧ Circles (Refers p) id

omit [Sub F] in
theorem roll_zero {p : Processing F} {item : LootRow F} (h : item.CanDrop p) :
    item.roll p 0 = true := by
  obtain ⟨roll, hroll, hdrop⟩ := h
  rw [LootRow.roll] at hdrop ⊢
  split
  · rfl
  · next hchance =>
    rw [if_neg hchance] at hdrop
    split
    · next href =>
      rw [if_pos href] at hdrop
      exact decide_eq_true (lt_of_le_of_lt hroll (of_decide_eq_true hdrop))
    · next href =>
      rw [if_neg href] at hdrop
      exact decide_eq_true (lt_of_le_of_lt hroll (of_decide_eq_true hdrop))

/-! ## 3. Without circles -/

section Ends

variable {p : Processing F} {t : LootTemplate F} {s s' : Generated}

theorem process_succ {d : Dice F} {depth : ℕ} {groupId : UInt8}
    (h : t.process p d depth s groupId = some s') :
    t.process p d (depth + 1) s groupId = some s' := by
  induction depth generalizing t s s' groupId with
  | zero => cases h
  | succ depth ih =>
    rw [process] at h ⊢
    split at h
    · next hgroup =>
      rw [if_pos hgroup]
      exact h
    · next hgroup =>
      rw [if_neg hgroup]
      obtain ⟨s₁, hs₁, rfl⟩ := Option.map_eq_some_iff.mp h
      refine Option.map_eq_some_iff.mpr ⟨s₁, foldlM_mono (fun item _ s s' hs => ?_) hs₁, rfl⟩
      rw [processEntry] at hs ⊢
      split
      · next hmode => rwa [if_pos hmode] at hs
      · next hmode =>
        rw [if_neg hmode] at hs
        split
        · next hroll => rwa [if_pos hroll] at hs
        · next hroll =>
          rw [if_neg hroll] at hs
          split
          · next href =>
            rw [if_pos href] at hs
            cases hfound : p.lootTemplatesReference.getLootFor item.reference with
            | none =>
              rw [hfound] at hs
              exact hs
            | some referenced =>
              rw [hfound] at hs
              exact foldlM_mono (fun _ _ s s' hs => ih hs) hs
          · next href => rwa [if_neg href] at hs

theorem process_of_le {d : Dice F} {depth depth' : ℕ} {groupId : UInt8} (hle : depth ≤ depth')
    (h : t.process p d depth s groupId = some s') : t.process p d depth' s groupId = some s' := by
  induction hle with
  | refl => exact h
  | step _ ih => exact process_succ ih

def EndsAt (p : Processing F) (t : LootTemplate F) (depth : ℕ) : Prop :=
  ∀ (d : Dice F) (s : Generated) (groupId : UInt8), ∃ s', t.process p d depth s groupId = some s'

theorem EndsAt.mono {depth depth' : ℕ} (h : EndsAt p t depth) (hle : depth ≤ depth') :
    EndsAt p t depth' := by
  intro d s groupId
  obtain ⟨s', hs'⟩ := h d s groupId
  exact ⟨s', process_of_le hle hs'⟩

theorem exists_processEntry {depth : ℕ} (hdepth : 0 < depth) {item : LootRow F}
    (h : ∀ t', p.lootTemplatesReference.getLootFor item.reference = some t' →
      item.RefersTo p item.reference → EndsAt p t' depth) (d : Dice F) (s : Generated) :
    ∃ s', processEntry p d (fun t' => t'.process p d depth) s item = some s' := by
  rw [processEntry]
  split
  · exact ⟨_, rfl⟩
  · next hmode =>
    split
    · exact ⟨_, rfl⟩
    · next hroll =>
      split
      · next href =>
        split
        · exact ⟨_, rfl⟩
        · next referenced hfound =>
          have hdrop : item.CanDrop p :=
            ⟨d.chance s.drawn, d.chance_nonneg s.drawn, by simpa using hroll⟩
          by_cases hgroup : item.groupid = 0
          · by_cases hamount : item.referencedAmount p = 0
            · rw [hamount]
              exact ⟨_, rfl⟩
            · have hends := h referenced hfound ⟨rfl, href, hmode, hdrop, hgroup, hamount⟩
              obtain ⟨s', hs', -⟩ := exists_foldlM_eq_some (I := fun _ => True)
                (l := List.replicate (item.referencedAmount p) ()) (s := s.next) trivial
                fun _ _ s _ => (hends d s item.groupid).imp fun s' hs' => ⟨hs', trivial⟩
              exact ⟨s', hs'⟩
          · -- only a group of it is processed
            obtain ⟨depth, rfl⟩ := Nat.exists_eq_succ_of_ne_zero hdepth.ne'
            have hloop : ∃ s', (List.replicate (item.referencedAmount p) ()).foldlM
                (fun s _ => referenced.process p d (depth + 1) s item.groupid) s.next = some s' ∧
                True :=
              exists_foldlM_eq_some (I := fun _ => True) trivial fun _ _ s _ =>
                ⟨_, if_pos hgroup, trivial⟩
            obtain ⟨s', hs', -⟩ := hloop
            exact ⟨s', hs'⟩
      · exact ⟨_, rfl⟩

theorem exists_endsAt
    (h : ∀ id t', t.RefersTo p id → p.lootTemplatesReference.getLootFor id = some t' →
      ∃ depth, EndsAt p t' depth) : ∃ depth, EndsAt p t depth := by
  have hentries : ∀ entries : List (LootRow F), (∀ item ∈ entries, item ∈ t.entries) →
      ∃ depth, 0 < depth ∧ ∀ item ∈ entries, ∀ t',
        p.lootTemplatesReference.getLootFor item.reference = some t' →
          item.RefersTo p item.reference → EndsAt p t' depth := by
    intro entries
    induction entries with
    | nil => exact fun _ => ⟨1, Nat.one_pos, fun item hitem => absurd hitem List.not_mem_nil⟩
    | cons item entries ih =>
      intro hmem
      obtain ⟨hfirst, hrest⟩ := List.forall_mem_cons.mp hmem
      obtain ⟨depth, hpos, hdepth⟩ := ih hrest
      have hitem : ∃ needed, ∀ t', p.lootTemplatesReference.getLootFor item.reference = some t' →
          item.RefersTo p item.reference → EndsAt p t' needed := by
        by_cases hrefers : item.RefersTo p item.reference
        · cases hfound : p.lootTemplatesReference.getLootFor item.reference with
          | none => exact ⟨0, fun t' ht' => by cases ht'⟩
          | some t' =>
            obtain ⟨needed, hneeded⟩ := h item.reference t' ⟨item, hfirst, hrefers⟩ hfound
            refine ⟨needed, fun t'' ht'' _ => ?_⟩
            obtain rfl := Option.some.inj ht''
            exact hneeded
        · exact ⟨0, fun t' _ hrefers' => absurd hrefers' hrefers⟩
      obtain ⟨needed, hneeded⟩ := hitem
      refine ⟨max depth needed, lt_max_of_lt_left hpos, List.forall_mem_cons.mpr ⟨?_, ?_⟩⟩
      · exact fun t' ht' hrefers => (hneeded t' ht' hrefers).mono (le_max_right _ _)
      · intro other hother t' ht' hrefers
        exact (hdepth other hother t' ht' hrefers).mono (le_max_left _ _)
  obtain ⟨depth, hpos, hdepth⟩ := hentries t.entries fun item hitem => hitem
  refine ⟨depth + 1, fun d s groupId => ?_⟩
  rw [process]
  split
  · exact ⟨_, rfl⟩
  · obtain ⟨s', hs', -⟩ := exists_foldlM_eq_some (I := fun _ => True) (l := t.entries) (s := s)
      trivial fun item hitem s _ =>
        (exists_processEntry hpos (hdepth item hitem) d s).imp fun s' hs' => ⟨hs', trivial⟩
    exact ⟨_, Option.map_eq_some_iff.mpr ⟨s', hs', rfl⟩⟩

theorem exists_endsAt_of_not_leadsIntoCircle (h : ¬LeadsIntoCircle p t) :
    ∃ depth, EndsAt p t depth := by
  obtain ⟨rank, hrank⟩ := exists_rank_of_not_circles (Refers p)
  have hreference : ∀ n id t', rank id < n → ¬Circles (Refers p) id →
      p.lootTemplatesReference.getLootFor id = some t' → ∃ depth, EndsAt p t' depth := by
    intro n
    induction n with
    | zero => exact fun id t' hid => absurd hid (Nat.not_lt_zero _)
    | succ n ih =>
      intro id t' hid hnot ht'
      refine exists_endsAt fun id' t'' hrefers ht'' => ?_
      have hstep : Refers p id id' := ⟨⟨t', ht', hrefers⟩, t'', ht''⟩
      have hlt := hrank id id' hnot hstep
      exact ih id' t'' (by omega) (fun hcircle => hnot (hcircle.of_step hstep)) ht''
  refine exists_endsAt fun id t' hrefers ht' => ?_
  exact hreference _ id t' (Nat.lt_succ_self _) (fun hcircle => h ⟨id, hrefers, hcircle⟩) ht'

end Ends

/-! ## 4. With a circle -/

def zeros (F : Type) [LinearOrder F] [Zero F] : Dice F where
  chance _ := 0
  chance_nonneg _ := le_refl 0
  number _ := 0
  suffix _ _ := 0
  property _ _ := 0

theorem process_zeros_eq_none {p : Processing F} {t : LootTemplate F} (h : LeadsIntoCircle p t)
    (depth : ℕ) (s : Generated) : t.process p (zeros F) depth s 0 = none := by
  induction depth generalizing t s with
  | zero => rfl
  | succ depth ih =>
    obtain ⟨id, ⟨item, hitem, rfl, hpos, hmode, hdrop, hgroup, hamount⟩, hcircle⟩ := h
    obtain ⟨id', ⟨⟨t', ht', hrefers⟩, -⟩, hcircle'⟩ := hcircle.step
    have hcall (s : Generated) : t'.process p (zeros F) depth s item.groupid = none := by
      rw [hgroup]
      exact ih ⟨id', hrefers, hcircle'⟩ s
    have hround (s : Generated) :
        processEntry p (zeros F) (fun t => t.process p (zeros F) depth) s item = none := by
      have hroll : item.roll p ((zeros F).chance s.drawn) = true := roll_zero hdrop
      rw [processEntry, if_neg hmode, hroll, if_neg (by simp), if_pos hpos, ht']
      refine foldlM_eq_none (a := ()) ?_ hcall
      exact List.mem_replicate.mpr ⟨hamount, rfl⟩
    rw [process, if_neg (by simp)]
    exact Option.map_eq_none_iff.mpr (foldlM_eq_none hitem hround)

/-- **When loot is made.**  Whatever is drawn, `Process` comes to an end and has added only what it
may add, if and only if no circle of references can be reached. -/
theorem process_ends_iff (p : Processing F) (t : LootTemplate F) :
    (∀ (d : Dice F) (loot : Loot), ∃ s', (∃ needed, ∀ depth, needed ≤ depth →
        t.process p d depth ⟨loot, 0⟩ 0 = some s') ∧
      ReflTransGen (Adds p d t) ⟨loot, 0⟩ s') ↔ ¬LeadsIntoCircle p t := by
  constructor
  · intro h hcircle
    obtain ⟨s', ⟨needed, hneeded⟩, -⟩ := h (zeros F) (Loot.empty 0)
    have hnone := process_zeros_eq_none hcircle needed ⟨Loot.empty 0, 0⟩
    rw [hneeded needed le_rfl] at hnone
    cases hnone
  · intro h d loot
    obtain ⟨depth, hdepth⟩ := exists_endsAt_of_not_leadsIntoCircle h
    obtain ⟨s', hs'⟩ := hdepth d ⟨loot, 0⟩ 0
    exact ⟨s', ⟨depth, fun depth' hle => process_of_le hle hs'⟩, reach_process (Or.inl rfl) hs'⟩

/-- A row of `reference_loot_template`: entry 1 refers to itself. -/
def toItself : LootRow ℚ where
  itemid := 0
  needsQuest := false
  conditions := []
  reference := 1
  chance := 100
  lootmode := 1
  groupid := 0
  mincount := 1
  maxcount := 1

def withToItself : Processing ℚ where
  getItemTemplate _ := none
  qualityRate _ := 1
  rateDropItemReferenced := 1
  rateDropItemReferencedAmount := 1
  toUInt32 x := UInt32.ofNat x.floor.toNat
  lootTemplatesReference := LootStore.loadLootTable (fun _ => none) [] [(1, toItself)]
  rate := true
  lootMode := 1
  maxDuplicates := 1

theorem getLootFor_toItself :
    withToItself.lootTemplatesReference.getLootFor 1 = some ⟨[toItself], []⟩ := rfl

/-- The loader accepts the row, and `Process` of its template does not end at any depth. -/
theorem toItself_endless :
    ∃ t, withToItself.lootTemplatesReference.getLootFor 1 = some t ∧
      ∀ depth, t.process withToItself (zeros ℚ) depth ⟨Loot.empty 0, 0⟩ 0 = none := by
  have hrefers : RefersTo withToItself ⟨[toItself], []⟩ 1 :=
    ⟨toItself, List.mem_singleton_self _, rfl, by decide, by decide,
      ⟨0, le_refl 0, by decide +kernel⟩, rfl, by decide +kernel⟩
  have hitself : Refers withToItself 1 1 :=
    ⟨⟨_, getLootFor_toItself, hrefers⟩, _, getLootFor_toItself⟩
  exact ⟨_, getLootFor_toItself, fun depth =>
    process_zeros_eq_none ⟨1, hrefers, 1, .refl, .single hitself⟩ depth _⟩

end LootTemplate

end FunPvp.Looting
