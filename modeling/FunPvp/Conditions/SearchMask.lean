/-
# The types of a grid search

A spell that looks for its targets hands the grid the mask of its conditions, so the mask must not
hide an object that the conditions accept. The two functions go through the same list, one with
whether each else group still passes, the other with the types it still has; `fillGroups_rel`
compares them, and what is left is to compare the two `switch`es (`visits_of_condMeets`).

But the mask is about target 0, and `GetSearcherTypeMaskForCondition` does not look at
`ConditionTarget`; and a reference template that the loader never looked for stops the server in one
of the functions and counts as met in the other.
-/
import FunPvp.Conditions.ConditionMgr

namespace FunPvp.Conditions

open FunPvp.Lib

/-! ## 1. Masks -/

/-- A search with this mask goes to the objects of the type. -/
def Visits (mask : UInt) (t : TypeID) : Prop := mask &&& t.gridMapTypeMask ≠ 0

instance (mask : UInt) (t : TypeID) : Decidable (Visits mask t) :=
  inferInstanceAs (Decidable (_ ≠ _))

def TypeID.gridBit : TypeID → ℕ
  | corpse => 0
  | unit => 1
  | dynamicObject => 2
  | gameObject => 3
  | player => 4

theorem TypeID.gridMapTypeMask_eq (t : TypeID) :
    t.gridMapTypeMask = BitVec.twoPow 32 t.gridBit := by
  cases t <;> decide

theorem TypeID.twoPow_gridBit_ne_zero (t : TypeID) : BitVec.twoPow 32 t.gridBit ≠ 0 := by
  cases t <;> decide

variable {mask : UInt} {t : TypeID} {check : WorldObject → Option Bool} {o : WorldObject}
  {s : ConditionSourceInfo} {object : WorldObject} {game : Game} {c : Condition}
  {references : ReferenceStore}

theorem visits_iff : Visits mask t ↔ mask.getLsbD t.gridBit := by
  unfold Visits
  rw [t.gridMapTypeMask_eq, BitVec.and_twoPow]
  by_cases hbit : mask.getLsbD t.gridBit
  · rw [if_pos hbit]
    exact iff_of_true t.twoPow_gridBit_ne_zero hbit
  · simp [hbit]

theorem Visits.and {mask mask' : UInt} (h : Visits mask t) (h' : Visits mask' t) :
    Visits (mask &&& mask') t := by
  rw [visits_iff] at h h' ⊢
  simp [h, h']

def Game.NoScript (game : Game) : Prop := ∀ c s, game.onConditionCheck c s = true

theorem conditionTarget_lt {stores : Stores}
    (hvalid : c.isConditionTypeValid stores) : c.conditionTarget.toNat < 2 := by
  unfold Condition.isConditionTypeValid at hvalid
  rw [Bool.and_eq_true, decide_eq_true_eq] at hvalid
  have hmax : c.getMaxAvailableConditionTargets ≤ 2 := by
    unfold Condition.getMaxAvailableConditionTargets
    split <;> omega
  omega

/-- The search with the mask of the list goes to every object that the list accepts as target 0. -/
def Sound (references : ReferenceStore) (conditions : List Condition) : Prop :=
  ∀ game s o depth, game.NoScript → s.target0 = some o →
    isObjectMeetToConditionList game references s depth conditions = some true →
    ∃ depth' mask, getSearcherTypeMaskForConditionList references depth' conditions = some mask ∧
      Visits mask o.typeId

structure ConditionStore (stores : Stores) where
  references : ReferenceStore
  conditions : Set Condition
  loaded : ∀ c ∈ conditions, c.Loaded stores
  templates : ∀ id template, references.lookup id = some template → ∀ c ∈ template, c ∈ conditions

variable {stores : Stores} {store : ConditionStore stores}

/-- Every list of loaded conditions has a sound mask. -/
def ConditionStore.Sound (store : ConditionStore stores) : Prop :=
  ∀ conditions : List Condition, (∀ c ∈ conditions, c ∈ store.conditions) →
    Conditions.Sound store.references conditions

theorem Condition.Loaded.isLoaded (h : c.Loaded stores) : c.isLoaded := by
  unfold Condition.isLoaded
  rw [decide_eq_true_eq]
  by_cases href : c.referenceId = 0
  · left
    intro htype
    have hvalid := h href
    simp [Condition.isConditionTypeValid, htype] at hvalid
  · exact Or.inr href

section Value

variable {β : Type} {references : ReferenceStore} {template : List Condition → Option β}
  {missing : Option β} {own : Condition → Option β} {c : Condition}

theorem value_of_reference {conditions : List Condition} (h : c.referenceId ≠ 0)
    (hlook : references.lookup c.referenceId = some conditions) :
    c.value references template missing own = template conditions := by
  unfold Condition.value
  rw [if_pos h, hlook]

theorem value_of_missing (h : c.referenceId ≠ 0)
    (hlook : references.lookup c.referenceId = none) :
    c.value references template missing own = missing := by
  unfold Condition.value
  rw [if_pos h, hlook]

theorem value_of_normal (h : c.referenceId = 0) :
    c.value references template missing own = own c := by
  unfold Condition.value
  rw [if_neg (fun hne => hne h)]

end Value

theorem isObjectMeetToConditionList_succ (game : Game) (references : ReferenceStore)
    (s : ConditionSourceInfo) (depth : ℕ) (conditions : List Condition) :
    isObjectMeetToConditionList game references s (depth + 1) conditions =
      (fillGroups groupCheckPassed Condition.elseGroup
        (Condition.value references (isObjectMeetToConditionList game references s depth)
          (some true) (·.meets game s))
        (conditions.filter (·.isLoaded))).map fun elseGroupStore =>
          elseGroupStore.entries.any (·.2) := rfl

/-- Whoever passes the value of the condition has a type of the mask. -/
def Covers (mask : UInt) (check : Game → ConditionSourceInfo → ℕ → Option Bool) : Prop :=
  ∀ game s o depth, game.NoScript → s.target0 = some o → check game s depth = some true →
    Visits mask o.typeId

def wearsAura (target : BitVec 8) : Condition where
  sourceType := .spellImplicitTarget
  elseGroup := 0
  conditionType := .aura
  conditionValue1 := 774
  conditionValue2 := 0
  conditionValue3 := 0
  referenceId := 0
  conditionTarget := target
  negativeCondition := false

def reference : Condition :=
  { wearsAura 0 with conditionType := .none, conditionValue1 := 0, referenceId := 1 }

def allSpells : Stores := { (default : Stores) with hasSpellInfo := fun _ => true }

def caster : WorldObject := ⟨3, .player, 0, 0⟩

end FunPvp.Conditions
