/-
# A disjunction of conjunctions

A list of conditions accepts an object when it meets every condition of one of the else groups, and
a reference when it is accepted by the list that the reference stands for (`Accepts`). The order in
which the rows of the table come changes nothing of that (`settled_of_noCycle`).

What it does decide is whether the function returns at all. The loader lets two templates refer to
each other, and a list that leads into such a circle is accepted or rejected as long as some other
condition fails first, and takes the server down in another order (`disjunctive_iff_noCycle`).
-/
import FunPvp.Conditions.SearchMask
import FunPvp.Lib.Ancestry

namespace FunPvp.Conditions

open FunPvp.Lib Filter Relation

/-! ## 1. What a list says -/

/-- The object meets every condition of one of the else groups. A reference is met when its
template accepts the object; one that names no template asks for nothing. -/
inductive Accepts (game : Game) (references : ReferenceStore) (s : ConditionSourceInfo) :
    List Condition → Prop
  | intro {conditions : List Condition} (c : Condition) (hc : c ∈ conditions)
      (normal : ∀ d ∈ conditions, d.elseGroup = c.elseGroup → d.referenceId = 0 →
        d.meets game s = some true)
      (reference : ∀ d ∈ conditions, d.elseGroup = c.elseGroup → d.referenceId ≠ 0 →
        ∀ template, references.lookup d.referenceId = some template →
          Accepts game references s template) :
      Accepts game references s conditions

def Condition.Holds (game : Game) (references : ReferenceStore) (s : ConditionSourceInfo)
    (c : Condition) : Prop :=
  if c.referenceId = 0 then c.meets game s = some true
  else ∀ template, references.lookup c.referenceId = some template →
    Accepts game references s template

variable {game : Game} {references : ReferenceStore} {s : ConditionSourceInfo}
  {conditions : List Condition} {stores : Stores} {rows rows' : List ConditionRow}

variable {c : Condition} {id : UInt} {row : ConditionRow}

theorem holds_of_normal (h : c.referenceId = 0) :
    c.Holds game references s ↔ c.meets game s = some true := by
  unfold Condition.Holds
  rw [if_pos h]

theorem holds_of_reference (h : c.referenceId ≠ 0) :
    c.Holds game references s ↔ ∀ template, references.lookup c.referenceId = some template →
      Accepts game references s template := by
  unfold Condition.Holds
  rw [if_neg h]

theorem accepts_iff : Accepts game references s conditions ↔
    ∃ c ∈ conditions, ∀ d ∈ conditions, d.elseGroup = c.elseGroup →
      d.Holds game references s := by
  constructor
  · rintro ⟨c, hc, hnormal, hreference⟩
    refine ⟨c, hc, fun d hd hgroup => ?_⟩
    by_cases href : d.referenceId = 0
    · exact (holds_of_normal href).mpr (hnormal d hd hgroup href)
    · exact (holds_of_reference href).mpr (hreference d hd hgroup href)
  · rintro ⟨c, hc, hholds⟩
    refine ⟨c, hc, fun d hd hgroup href => ?_, fun d hd hgroup href => ?_⟩
    · exact (holds_of_normal href).mp (hholds d hd hgroup)
    · exact (holds_of_reference href).mp (hholds d hd hgroup)

/-- **The claim on a list**: in whatever order the rows of the table and the conditions of the list
come, the function returns, and returns whether the list accepts the object. -/
def Disjunctive (stores : Stores) (rows : List ConditionRow) (conditions : List Condition) : Prop :=
  ∀ rows' conditions', rows'.Perm rows → conditions'.Perm conditions → ∀ game s,
    ∀ᶠ depth in atTop, ∃ passed,
      isObjectMeetToConditionList game (loadReferences stores rows') s depth conditions' =
        some passed ∧
      (passed = true ↔ Accepts game (loadReferences stores rows) s conditions)

/-- A template refers to another one. -/
def Refers (references : ReferenceStore) (id id' : UInt) : Prop :=
  ∃ template, references.lookup id = some template ∧
    ∃ c ∈ template, c.referenceId ≠ 0 ∧ c.referenceId = id'

def LeadsTo (references : ReferenceStore) (conditions : List Condition) (id : UInt) : Prop :=
  ∃ c ∈ conditions, c.referenceId ≠ 0 ∧ ReflTransGen (Refers references) c.referenceId id

/-- No template that the list leads to leads back to itself. -/
def NoCycle (references : ReferenceStore) (conditions : List Condition) : Prop :=
  ∀ id, LeadsTo references conditions id → ¬ TransGen (Refers references) id id

/-! ## 2. What the loader makes of the rows -/

def ConditionRow.inTemplate (stores : Stores) (id : UInt) (row : ConditionRow) :
    Option Condition :=
  if row.sourceTypeOrReferenceId.slt 0 ∧ row.sourceTypeOrReferenceId.abs = id then
    row.condition stores else none

def appendTo (found : Option (List Condition)) (more : List Condition) :
    Option (List Condition) :=
  if more = [] then found else some (found.getD [] ++ more)

theorem appendTo_nil (found : Option (List Condition)) : appendTo found [] = found := if_pos rfl

theorem appendTo_cons (found : Option (List Condition)) (c : Condition) (more : List Condition) :
    appendTo found (c :: more) = appendTo (some (found.getD [] ++ [c])) more := by
  unfold appendTo
  rw [if_neg (List.cons_ne_nil c more)]
  by_cases hmore : more = []
  · rw [if_pos hmore, hmore]
  · rw [if_neg hmore, Option.getD_some, List.append_assoc, List.singleton_append]

theorem lookup_loadReferences (stores : Stores) (rows : List ConditionRow) (id : UInt) :
    (loadReferences stores rows).lookup id =
      appendTo none (rows.filterMap (·.inTemplate stores id)) := by
  unfold loadReferences
  rw [← AList.lookup_empty (β := fun _ : UInt => List Condition) id]
  generalize (∅ : ReferenceStore) = references
  induction rows generalizing references with
  | nil => rw [List.foldl_nil, List.filterMap_nil, appendTo_nil]
  | cons row rows ih =>
    rw [List.foldl_cons, ih, List.filterMap_cons]
    unfold ConditionRow.inTemplate
    by_cases htemplate : row.sourceTypeOrReferenceId.slt 0
    · rw [if_pos htemplate]
      cases hcond : row.condition stores with
      | none => simp
      | some c =>
        by_cases hid : row.sourceTypeOrReferenceId.abs = id
        · subst hid
          rw [if_pos ⟨htemplate, rfl⟩, appendTo_cons, AList.lookup_insert]
        · rw [if_neg fun h => hid h.2, AList.lookup_insert_ne fun h => hid h.symm]
    · rw [if_neg htemplate, if_neg fun h => htemplate h.1]

theorem lookup_loadReferences_eq_some {template : List Condition} :
    (loadReferences stores rows).lookup id = some template ↔
      template ≠ [] ∧ rows.filterMap (·.inTemplate stores id) = template := by
  rw [lookup_loadReferences, appendTo]
  by_cases hnil : rows.filterMap (·.inTemplate stores id) = []
  · rw [if_pos hnil, hnil]
    constructor
    · intro h
      cases h
    · rintro ⟨hne, rfl⟩
      exact absurd rfl hne
  · rw [if_neg hnil, Option.getD_none, List.nil_append, Option.some.injEq]
    constructor
    · rintro rfl
      exact ⟨hnil, rfl⟩
    · exact fun h => h.2

theorem abs_ne_zero_of_slt {x : BitVec 32} (h : x.slt 0) : x.abs ≠ 0 := by
  intro habs
  have hzero : x = 0 := by
    unfold BitVec.abs at habs
    split at habs
    · exact neg_eq_zero.mp habs
    · exact habs
  rw [hzero] at h
  cases h

theorem loaded_of_condition (h : row.condition stores = some c) : c.Loaded stores := by
  unfold ConditionRow.condition at h
  dsimp only at h
  split_ifs at h with href hself
  · obtain rfl := Option.some.inj h
    exact fun hzero => absurd hzero (abs_ne_zero_of_slt href)
  · split at h
    · cases h
    · next conditionType _ =>
      split_ifs at h with hvalid
      obtain rfl := Option.some.inj h
      exact fun _ => hvalid

theorem condition_of_inTemplate
    (h : row.inTemplate stores id = some c) : row.condition stores = some c := by
  unfold ConditionRow.inTemplate at h
  split_ifs at h
  exact h

theorem id_of_inTemplate
    (h : row.inTemplate stores id = some c) : row.sourceTypeOrReferenceId.abs = id := by
  unfold ConditionRow.inTemplate at h
  split_ifs at h with htemplate
  exact htemplate.2

theorem loaded_of_lookup {template : List Condition}
    (h : (loadReferences stores rows).lookup id = some template) :
    ∀ c ∈ template, c.Loaded stores := by
  obtain ⟨-, rfl⟩ := lookup_loadReferences_eq_some.mp h
  intro c hc
  obtain ⟨row, -, hrow⟩ := List.mem_filterMap.mp hc
  exact loaded_of_condition (condition_of_inTemplate hrow)

theorem refers_iff {id id' : UInt} : Refers (loadReferences stores rows) id id' ↔
    ∃ row ∈ rows, ∃ c, row.inTemplate stores id = some c ∧ c.referenceId ≠ 0 ∧
      c.referenceId = id' := by
  constructor
  · rintro ⟨template, hlook, c, hc, href, hid⟩
    obtain ⟨-, rfl⟩ := lookup_loadReferences_eq_some.mp hlook
    obtain ⟨row, hrow, hc⟩ := List.mem_filterMap.mp hc
    exact ⟨row, hrow, c, hc, href, hid⟩
  · rintro ⟨row, hrow, c, hc, href, hid⟩
    have hmem : c ∈ rows.filterMap (·.inTemplate stores id) :=
      List.mem_filterMap.mpr ⟨row, hrow, hc⟩
    exact ⟨_, lookup_loadReferences_eq_some.mpr ⟨List.ne_nil_of_mem hmem, rfl⟩, c, hmem, href, hid⟩

theorem lookup_perm (h : rows'.Perm rows) {id : UInt} {template : List Condition}
    (hlook : (loadReferences stores rows').lookup id = some template) :
    ∃ template', (loadReferences stores rows).lookup id = some template' ∧
      template.Perm template' := by
  obtain ⟨hne, rfl⟩ := lookup_loadReferences_eq_some.mp hlook
  have hperm := h.filterMap (·.inTemplate stores id)
  refine ⟨_, lookup_loadReferences_eq_some.mpr ⟨fun hnil => hne ?_, rfl⟩, hperm⟩
  exact List.perm_nil.mp (hnil ▸ hperm)

theorem refers_perm (h : rows'.Perm rows) (id id' : UInt) :
    Refers (loadReferences stores rows') id id' ↔ Refers (loadReferences stores rows) id id' := by
  rw [refers_iff, refers_iff]
  exact exists_congr fun row => and_congr_left' h.mem_iff

theorem Accepts.perm (h : rows'.Perm rows)
    (haccepts : Accepts game (loadReferences stores rows') s conditions) :
    ∀ conditions', conditions.Perm conditions' →
      Accepts game (loadReferences stores rows) s conditions' := by
  induction haccepts with
  | intro c hc hnormal _ ih =>
    intro conditions' hperm
    refine ⟨c, hperm.mem_iff.mp hc, fun d hd hgroup href => ?_,
      fun d hd hgroup href template hlook => ?_⟩
    · exact hnormal d (hperm.mem_iff.mpr hd) hgroup href
    · obtain ⟨template', hlook', htemplate⟩ := lookup_perm h.symm hlook
      exact ih d (hperm.mem_iff.mpr hd) hgroup href template' hlook' template htemplate.symm

theorem accepts_perm (h : rows'.Perm rows) {conditions' : List Condition}
    (hperm : conditions'.Perm conditions) :
    Accepts game (loadReferences stores rows') s conditions' ↔
      Accepts game (loadReferences stores rows) s conditions :=
  ⟨fun haccepts => haccepts.perm h conditions hperm,
    fun haccepts => haccepts.perm h.symm conditions' hperm.symm⟩

/-! ## 3. One list -/

theorem exists_target {i : ℕ} (h : i < 3) : ∃ target, s.mConditionTargets i = some target := by
  obtain rfl | rfl | rfl : i = 0 ∨ i = 1 ∨ i = 2 := by omega
  · exact ⟨s.target0, rfl⟩
  · exact ⟨s.target1, rfl⟩
  · exact ⟨s.target2, rfl⟩

theorem exists_compareValues {α : Type} [DecidableEq α] [LT α] [DecidableLT α] [LE α]
    [DecidableLE α] {type : UInt} (h : type < COMP_TYPE_MAX) (val1 val2 : α) :
    ∃ b, compareValues type val1 val2 = some b := by
  have hlt : type.toNat < 5 := h
  unfold compareValues
  generalize type.toNat = n at hlt
  interval_cases n <;> exact ⟨_, rfl⟩

theorem exists_ifCast (cast : Option WorldObject) {check : WorldObject → Option Bool}
    (h : ∀ o, ∃ b, check o = some b) : ∃ b, ifCast cast check = some b := by
  cases cast with
  | none => exact ⟨false, rfl⟩
  | some o => exact h o

theorem exists_selected (h : c.targetSelectionValid) :
    ∃ target, s.mConditionTargets c.conditionValue1.toNat = some target := by
  unfold Condition.targetSelectionValid at h
  rw [decide_eq_true_eq] at h
  refine exists_target (lt_of_lt_of_le h.1 ?_)
  unfold Condition.getMaxAvailableConditionTargets
  split <;> omega

theorem exists_condMeets (game : Game) (s : ConditionSourceInfo) {c : Condition}
    (hvalid : c.isConditionTypeValid stores) (object : WorldObject) :
    ∃ b, c.condMeets game s object = some b := by
  unfold Condition.isConditionTypeValid at hvalid
  rw [Bool.and_eq_true] at hvalid
  obtain ⟨-, hvalid⟩ := hvalid
  unfold Condition.condMeets
  cases htype : c.conditionType <;> rw [htype] at hvalid
  case item =>
    simp only [Bool.and_eq_true, decide_eq_true_eq] at hvalid
    exact exists_ifCast _ fun p => ⟨_, if_neg hvalid.2⟩
  case level | hpVal =>
    simp only [decide_eq_true_eq] at hvalid
    exact exists_ifCast _ fun u => exists_compareValues hvalid _ _
  case hpPct =>
    simp only [decide_eq_true_eq] at hvalid
    exact exists_ifCast _ fun u => exists_compareValues hvalid.2 _ _
  case relationTo | reactionTo =>
    simp only [Bool.and_eq_true] at hvalid
    obtain ⟨target, htarget⟩ := exists_selected (s := s) hvalid.1
    dsimp only
    rw [htarget]
    exact exists_ifCast _ fun o => exists_ifCast _ fun _ => exists_ifCast _ fun _ => ⟨_, rfl⟩
  case distanceTo =>
    simp only [Bool.and_eq_true, decide_eq_true_eq] at hvalid
    obtain ⟨target, htarget⟩ := exists_selected (s := s) hvalid.1
    dsimp only
    rw [htarget]
    exact exists_ifCast _ fun o => exists_compareValues hvalid.2 _ _
  case instanceInfo =>
    dsimp only
    cases game.instanceScript object <;> exact ⟨_, rfl⟩
  case standState =>
    refine exists_ifCast _ fun u => ?_
    split_ifs <;> exact ⟨_, rfl⟩
  all_goals first
    | exact ⟨_, rfl⟩
    | exact exists_ifCast _ fun _ => ⟨_, rfl⟩

theorem exists_meets (game : Game) (s : ConditionSourceInfo) {c : Condition}
    (hvalid : c.isConditionTypeValid stores) :
    ∃ b, c.meets game s = some b := by
  obtain ⟨target, htarget⟩ := exists_target (s := s)
    (lt_trans (conditionTarget_lt hvalid) (by decide : 2 < 3))
  unfold Condition.meets
  rw [htarget]
  cases target with
  | none => exact ⟨false, rfl⟩
  | some object =>
    obtain ⟨b, hb⟩ := exists_condMeets game s hvalid object
    exact ⟨_, congrArg (Option.map _) hb⟩

theorem combineAll_groupCheckPassed (passed : Condition → Bool) (group : List Condition)
    (b : Bool) :
    combineAll groupCheckPassed passed group (some b) = some (b && group.all passed) := by
  induction group generalizing b with
  | nil => simp [combineAll]
  | cons c group ih =>
    have hcons : combineAll groupCheckPassed passed (c :: group) (some b) =
      combineAll groupCheckPassed passed group (some (b && passed c)) := rfl
    rw [hcons, ih, List.all_cons, Bool.and_assoc]

theorem combineAll_eq_some_true {passed : Condition → Bool} {group : List Condition} :
    combineAll groupCheckPassed passed group none = some true ↔
      group ≠ [] ∧ ∀ c ∈ group, passed c = true := by
  cases group with
  | nil => simp [combineAll]
  | cons c group =>
    have hcons : combineAll groupCheckPassed passed (c :: group) none =
      combineAll groupCheckPassed passed group (some (true && passed c)) := rfl
    rw [hcons, combineAll_groupCheckPassed, Option.some.injEq, Bool.true_and]
    simp [List.all_eq_true]

/-- **One list.**  Where every condition has a value, the function returns whether all values of one
of the groups are true. -/
theorem isObjectMeetToConditionList_eq {depth : ℕ} (hloaded : ∀ c ∈ conditions, c.isLoaded)
    {passed : Condition → Bool}
    (hvalue : ∀ c ∈ conditions, c.value references
      (isObjectMeetToConditionList game references s depth) (some true) (·.meets game s) =
        some (passed c)) :
    ∃ b, isObjectMeetToConditionList game references s (depth + 1) conditions = some b ∧
      (b = true ↔
        ∃ c ∈ conditions, ∀ d ∈ conditions, d.elseGroup = c.elseGroup → passed d = true) := by
  have hdead : ∀ b c, groupCheckPassed.dead b → groupCheckPassed.combine b c = b := by decide
  obtain ⟨store, hstore, hlookup⟩ := lookup_fillGroups hdead Condition.elseGroup hvalue
  rw [isObjectMeetToConditionList_succ, List.filter_eq_self.mpr hloaded, hstore]
  refine ⟨_, rfl, ?_⟩
  have hgroup : ∀ id, store.lookup id = some true ↔
      (∃ c ∈ conditions, c.elseGroup = id) ∧
        ∀ d ∈ conditions, d.elseGroup = id → passed d = true := by
    intro id
    rw [hlookup, combineAll_eq_some_true, Ne, List.filter_eq_nil_iff]
    simp
  rw [List.any_eq_true]
  constructor
  · rintro ⟨⟨id, b⟩, hmem, hb⟩
    obtain rfl : b = true := hb
    obtain ⟨⟨c, hc, rfl⟩, hall⟩ := (hgroup id).mp (AList.mem_lookup_iff.mpr hmem)
    exact ⟨c, hc, hall⟩
  · rintro ⟨c, hc, hall⟩
    exact ⟨⟨c.elseGroup, true⟩,
      AList.mem_lookup_iff.mp ((hgroup c.elseGroup).mpr ⟨⟨c, hc, rfl⟩, hall⟩), rfl⟩

theorem isObjectMeetToConditionList_eq_none {depth : ℕ} (hloaded : c.isLoaded)
    (hvalue : c.value references
      (isObjectMeetToConditionList game references s depth) (some true) (·.meets game s) = none)
    (conditions : List Condition) :
    isObjectMeetToConditionList game references s (depth + 1) (c :: conditions) = none := by
  rw [isObjectMeetToConditionList_succ, List.filter_cons_of_pos hloaded,
    fillGroups_cons_eq_none hvalue]
  rfl

/-! ## 4. Without cycles -/

/-- With enough depth, the function returns whether the list accepts the object. -/
def Settled (game : Game) (references : ReferenceStore) (s : ConditionSourceInfo)
    (conditions : List Condition) : Prop :=
  ∀ᶠ depth in atTop, ∃ passed,
    isObjectMeetToConditionList game references s depth conditions = some passed ∧
    (passed = true ↔ Accepts game references s conditions)

open Classical in
theorem eventually_value (hload : c.Loaded stores)
    (htemplate : c.referenceId ≠ 0 → ∀ template, references.lookup c.referenceId = some template →
      Settled game references s template) :
    ∀ᶠ depth in atTop, c.value references (isObjectMeetToConditionList game references s depth)
      (some true) (·.meets game s) = some (decide (c.Holds game references s)) := by
  by_cases href : c.referenceId = 0
  · refine Eventually.of_forall fun depth => ?_
    obtain ⟨b, hb⟩ := exists_meets game s (hload href)
    simp only [value_of_normal href, holds_of_normal href, hb, Option.some.injEq,
      Bool.decide_eq_true]
  · simp only [holds_of_reference href]
    cases hlook : references.lookup c.referenceId with
    | none =>
      refine Eventually.of_forall fun depth => ?_
      rw [value_of_missing href hlook]
      simp
    | some template =>
      refine (htemplate href template hlook).mono fun depth h => ?_
      obtain ⟨passed, hpassed, hiff⟩ := h
      rw [value_of_reference href hlook, hpassed]
      simp only [Option.some.injEq, forall_eq', ← hiff, Bool.decide_eq_true]

theorem settled_of_templates (hload : ∀ c ∈ conditions, c.Loaded stores)
    (htemplates : ∀ c ∈ conditions, c.referenceId ≠ 0 →
      ∀ template, references.lookup c.referenceId = some template →
        Settled game references s template) :
    Settled game references s conditions := by
  classical
  have hall : ∀ᶠ depth in atTop, ∀ c ∈ conditions, c.value references
      (isObjectMeetToConditionList game references s depth) (some true) (·.meets game s) =
        some (decide (c.Holds game references s)) :=
    (eventually_all_finite (List.finite_toSet conditions)).mpr fun c hc =>
      eventually_value (hload c hc) (htemplates c hc)
  obtain ⟨needed, hneeded⟩ := eventually_atTop.mp hall
  refine eventually_atTop.mpr ⟨needed + 1, fun depth hdepth => ?_⟩
  obtain ⟨depth, rfl⟩ : ∃ n, depth = n + 1 := ⟨depth - 1, by omega⟩
  obtain ⟨b, hb, hiff⟩ := isObjectMeetToConditionList_eq (fun c hc => (hload c hc).isLoaded)
    (hneeded depth (by omega))
  refine ⟨b, hb, hiff.trans (Iff.trans ?_ accepts_iff.symm)⟩
  simp only [decide_eq_true_eq]

theorem LeadsTo.tail {id id' : UInt} (h : LeadsTo references conditions id)
    (hrefers : Refers references id id') : LeadsTo references conditions id' := by
  obtain ⟨c, hc, href, hpath⟩ := h
  exact ⟨c, hc, href, hpath.tail hrefers⟩

theorem NoCycle.exists_rank (h : NoCycle references conditions) :
    ∃ rank : UInt → ℕ, ∀ id id', LeadsTo references conditions id → Refers references id id' →
      rank id' < rank id := by
  let r : UInt → UInt → Prop := fun id' id =>
    Refers references id id' ∧ LeadsTo references conditions id
  have hr : Acyclic r := by
    intro id hid
    have hlead : LeadsTo references conditions id := by
      obtain ⟨id', -, -, hlead⟩ := TransGen.tail'_iff.mp hid
      exact hlead
    refine h id hlead (transGen_swap.mp (TransGen.mono (fun id' id hstep => ?_) id id hid))
    exact hstep.1
  obtain ⟨rank, -, hrank⟩ := hr.exists_rank (s := Finset.univ) fun a _ _ => Finset.mem_univ a
  exact ⟨rank, fun id id' hlead hrefers => hrank id' id ⟨hrefers, hlead⟩⟩

theorem settled_of_noCycle (hload : ∀ c ∈ conditions, c.Loaded stores)
    (h : NoCycle (loadReferences stores rows) conditions) :
    Settled game (loadReferences stores rows) s conditions := by
  obtain ⟨rank, hrank⟩ := h.exists_rank
  have htemplate : ∀ n id, rank id < n → LeadsTo (loadReferences stores rows) conditions id →
      ∀ template, (loadReferences stores rows).lookup id = some template →
        Settled game (loadReferences stores rows) s template := by
    intro n
    induction n with
    | zero => exact fun id hid => absurd hid (Nat.not_lt_zero _)
    | succ n ih =>
      intro id hid hlead template hlook
      refine settled_of_templates (loaded_of_lookup hlook) fun c hc href template' hlook' => ?_
      have hrefers : Refers (loadReferences stores rows) id c.referenceId :=
        ⟨template, hlook, c, hc, href, rfl⟩
      have hdown := hrank id c.referenceId hlead hrefers
      exact ih c.referenceId (by omega) (hlead.tail hrefers) template' hlook'
  refine settled_of_templates hload fun c hc href template hlook => ?_
  exact htemplate _ c.referenceId (Nat.lt_succ_self _) ⟨c, hc, href, ReflTransGen.refl⟩ template
    hlook

/-! ## 5. With cycles -/

/-- The templates of the set begin with a reference to a template of the set. -/
def BeginsInside (references : ReferenceStore) (inside : UInt → Prop) : Prop :=
  ∀ id, inside id → ∃ c rest, references.lookup id = some (c :: rest) ∧ c.referenceId ≠ 0 ∧
    inside c.referenceId

theorem isObjectMeetToConditionList_of_beginsInside {inside : UInt → Prop}
    (h : BeginsInside references inside) (depth : ℕ) :
    ∀ (c : Condition) (rest : List Condition), c.referenceId ≠ 0 → inside c.referenceId →
      isObjectMeetToConditionList game references s depth (c :: rest) = none := by
  induction depth with
  | zero => exact fun _ _ _ _ => rfl
  | succ depth ih =>
    intro c rest href hin
    obtain ⟨d, rest', hlook, href', hin'⟩ := h _ hin
    refine isObjectMeetToConditionList_eq_none (decide_eq_true (Or.inr href)) ?_ rest
    rw [value_of_reference href hlook]
    exact ih d rest' href' hin'

def Doomed (references : ReferenceStore) (id : UInt) : Prop :=
  ∃ id', ReflTransGen (Refers references) id id' ∧ TransGen (Refers references) id' id'

theorem Doomed.step (h : Doomed references id) :
    ∃ id', Refers references id id' ∧ Doomed references id' := by
  obtain ⟨id', hpath, hcycle⟩ := h
  rcases ReflTransGen.cases_head hpath with rfl | ⟨next, hstep, hrest⟩
  · obtain ⟨next, hstep, hback⟩ := TransGen.head'_iff.mp hcycle
    exact ⟨next, hstep, id, hback, hcycle⟩
  · exact ⟨next, hstep, id', hrest, hcycle⟩

theorem exists_perm_first {α : Type} (p : α → Prop) (l : List α) :
    ∃ front back : List α, (front ++ back).Perm l ∧ ∀ a, a ∈ front ↔ a ∈ l ∧ p a := by
  classical
  refine ⟨l.filter p, l.filter fun a => !p a, ?_, fun a => by simp⟩
  exact List.filter_append_perm (fun a => decide (p a)) l

/-- A row that refers to a template which leads into a cycle. -/
def ConditionRow.RefersToDoomed (stores : Stores) (references : ReferenceStore)
    (row : ConditionRow) : Prop :=
  ∃ c, row.condition stores = some c ∧ c.referenceId ≠ 0 ∧ Doomed references c.referenceId

/-- **In some order of the rows, the templates that lead into a cycle begin with a reference to one
that does.** -/
theorem exists_beginsInside (stores : Stores) (rows : List ConditionRow) :
    ∃ rows', rows'.Perm rows ∧
      BeginsInside (loadReferences stores rows') (Doomed (loadReferences stores rows)) := by
  obtain ⟨front, back, hperm, hfront⟩ :=
    exists_perm_first (ConditionRow.RefersToDoomed stores (loadReferences stores rows)) rows
  refine ⟨front ++ back, hperm, fun id hid => ?_⟩
  obtain ⟨id', hrefers, hdoomed⟩ := hid.step
  obtain ⟨row, hrow, c, hc, href, rfl⟩ := refers_iff.mp hrefers
  have hmem : c ∈ front.filterMap (·.inTemplate stores id) :=
    List.mem_filterMap.mpr
      ⟨row, (hfront row).mpr ⟨hrow, c, condition_of_inTemplate hc, href, hdoomed⟩, hc⟩
  obtain ⟨d, rest, hcons⟩ := List.exists_cons_of_ne_nil (List.ne_nil_of_mem hmem)
  obtain ⟨row', hrow', hd⟩ :=
    List.mem_filterMap.mp (hcons ▸ List.mem_cons_self : d ∈ front.filterMap _)
  obtain ⟨-, d', hd', href', hdoomed'⟩ := (hfront row').mp hrow'
  obtain rfl := Option.some.inj ((condition_of_inTemplate hd).symm.trans hd')
  refine ⟨d, rest ++ back.filterMap (·.inTemplate stores id), ?_, href', hdoomed'⟩
  rw [lookup_loadReferences_eq_some, List.filterMap_append, hcons]
  exact ⟨List.cons_ne_nil _ _, rfl⟩

theorem not_disjunctive_of_doomed (hc : c ∈ conditions) (href : c.referenceId ≠ 0)
    (h : Doomed (loadReferences stores rows) c.referenceId) :
    ¬ Disjunctive stores rows conditions := by
  intro hdisjunctive
  obtain ⟨rows', hperm, hbegins⟩ := exists_beginsInside stores rows
  obtain ⟨depth, passed, hpassed, -⟩ :=
    (hdisjunctive rows' (c :: conditions.erase c) hperm (List.perm_cons_erase hc).symm default
      ⟨none, none, none⟩).exists
  rw [isObjectMeetToConditionList_of_beginsInside hbegins depth c _ href h] at hpassed
  cases hpassed

/-! ## 6. Which lists are decided -/

theorem LeadsTo.perm {conditions' : List Condition} (h : rows'.Perm rows)
    (hperm : conditions'.Perm conditions) {id : UInt}
    (hlead : LeadsTo (loadReferences stores rows') conditions' id) :
    LeadsTo (loadReferences stores rows) conditions id := by
  obtain ⟨c, hc, href, hpath⟩ := hlead
  exact ⟨c, hperm.mem_iff.mp hc, href,
    ReflTransGen.mono (fun id id' => (refers_perm h id id').mp) _ _ hpath⟩

theorem NoCycle.perm {conditions' : List Condition} (h : rows'.Perm rows)
    (hperm : conditions'.Perm conditions)
    (hno : NoCycle (loadReferences stores rows) conditions) :
    NoCycle (loadReferences stores rows') conditions' := by
  intro id hlead hcycle
  exact hno id (hlead.perm h hperm)
    (TransGen.mono (fun id id' => (refers_perm h id id').mp) id id hcycle)

/-- **Which lists are a disjunction of conjunctions.**  A list of loaded conditions is decided as
such in every order of the rows, if and only if none of the templates that it leads to leads back
to itself. -/
theorem disjunctive_iff_noCycle (hload : ∀ c ∈ conditions, c.Loaded stores) :
    Disjunctive stores rows conditions ↔ NoCycle (loadReferences stores rows) conditions := by
  constructor
  · rintro hdisjunctive id ⟨c, hc, href, hpath⟩ hcycle
    exact not_disjunctive_of_doomed hc href ⟨id, hpath, hcycle⟩ hdisjunctive
  · intro hno rows' conditions' hrows hconditions game s
    have hload' : ∀ c ∈ conditions', c.Loaded stores :=
      fun c hc => hload c (hconditions.mem_iff.mp hc)
    have hsettled : Settled game (loadReferences stores rows') s conditions' :=
      settled_of_noCycle hload' (hno.perm hrows hconditions)
    refine hsettled.mono fun depth h => ?_
    obtain ⟨passed, hpassed, hiff⟩ := h
    exact ⟨passed, hpassed, hiff.trans (accepts_perm hrows hconditions)⟩

def referenceRow (id id' : BitVec 32) : ConditionRow where
  sourceTypeOrReferenceId := -id
  elseGroup := 0
  conditionTypeOrReference := -id'
  conditionTarget := 0
  conditionValue1 := 0
  conditionValue2 := 0
  conditionValue3 := 0
  negativeCondition := false

/-- A row of template 2: the target has to wear an aura. -/
def auraRow : ConditionRow :=
  { referenceRow 2 0 with conditionTypeOrReference := 1, conditionValue1 := 774 }

/-- A reference to template 1, which refers to template 2, which has a normal condition. -/
theorem twoTemplates_disjunctive :
    Disjunctive allSpells [referenceRow 1 2, auraRow] [reference] := by
  refine (disjunctive_iff_noCycle fun c hc => ?_).mpr fun id _ hcycle => ?_
  · rw [List.mem_singleton.mp hc]
    exact fun href => absurd href (by decide)
  · have hrefers : ∀ id id',
        Refers (loadReferences allSpells [referenceRow 1 2, auraRow]) id id' →
          id = 1 ∧ id' = 2 := by
      intro id id' h
      obtain ⟨row, hrow, c, hc, href, rfl⟩ := refers_iff.mp h
      have hcond := condition_of_inTemplate hc
      rcases List.mem_pair.mp hrow with rfl | rfl
      · obtain rfl := Option.some.inj hcond
        exact ⟨(id_of_inTemplate hc).symm, rfl⟩
      · obtain rfl := Option.some.inj (hcond.symm.trans
          (show auraRow.condition allSpells = some { wearsAura 0 with sourceType := .none } by
            decide +kernel))
        exact absurd rfl href
    obtain ⟨next, hfirst, -⟩ := TransGen.head'_iff.mp hcycle
    obtain ⟨last, -, hlast⟩ := TransGen.tail'_iff.mp hcycle
    have hone := (hrefers id next hfirst).1
    have htwo := (hrefers last id hlast).2
    rw [hone] at htwo
    cases htwo

/-- Two templates refer to each other: the loader takes both, and a reference to one of them is
never decided. -/
theorem mutualTemplates_not_disjunctive :
    ¬ Disjunctive allSpells [referenceRow 1 2, referenceRow 2 1] [reference] := by
  intro hdisjunctive
  have hbegins : BeginsInside (loadReferences allSpells [referenceRow 1 2, referenceRow 2 1])
      fun id => id = 1 ∨ id = 2 := by
    rintro id (rfl | rfl)
    · exact ⟨{ reference with sourceType := .none, conditionValue1 := 0, referenceId := 2 }, [],
        by decide +kernel, by decide, Or.inr rfl⟩
    · exact ⟨{ reference with sourceType := .none, conditionValue1 := 0 }, [], by decide +kernel,
        by decide, Or.inl rfl⟩
  obtain ⟨depth, passed, hpassed, -⟩ :=
    (hdisjunctive _ _ (List.Perm.refl _) (List.Perm.refl _) default ⟨none, none, none⟩).exists
  rw [isObjectMeetToConditionList_of_beginsInside hbegins depth reference [] (by decide)
    (Or.inl rfl)] at hpassed
  cases hpassed

end FunPvp.Conditions
