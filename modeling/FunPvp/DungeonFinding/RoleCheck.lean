/-
# Roles and `CheckGroupRoles`

A player of the dungeon finder selects the roles he would play, as a set of flags.
`LFGMgr::CheckGroupRoles` looks for one role out of each selection, at most one tank, one healer
and three damage dealers in all. It works on the map of the selections itself: where a selection
has several roles it takes one of them away and calls itself on what is left, and puts the role
back if that fails.

`Assignable` says what the function is for, and `checkGroupRoles_iff` that it computes it.
-/
import FunPvp.Groups.Group

namespace FunPvp.DungeonFinding

open FunPvp.Groups (ObjectGuid)

def PLAYER_ROLE_NONE : UInt8 := 0x00
def PLAYER_ROLE_LEADER : UInt8 := 0x01
def PLAYER_ROLE_TANK : UInt8 := 0x02
def PLAYER_ROLE_HEALER : UInt8 := 0x04
def PLAYER_ROLE_DAMAGE : UInt8 := 0x08

def LFG_TANKS_NEEDED : ℕ := 1
def LFG_HEALERS_NEEDED : ℕ := 1
def LFG_DPS_NEEDED : ℕ := 3

/-- `LfgRolesMap`: what each player selected, in the order of the guids. -/
abbrev LfgRolesMap := List (ObjectGuid × UInt8)

inductive Role
  | tank
  | healer
  | damage
deriving DecidableEq

namespace Role

def flag : Role → UInt8
  | tank => PLAYER_ROLE_TANK
  | healer => PLAYER_ROLE_HEALER
  | damage => PLAYER_ROLE_DAMAGE

def needed : Role → ℕ
  | tank => LFG_TANKS_NEEDED
  | healer => LFG_HEALERS_NEEDED
  | damage => LFG_DPS_NEEDED

end Role

/-! ## 1. The function -/

/-- How one of the three branches of the loop ends: with `return true` and the roles it has
assigned, with `return false`, or behind the branch with the three counters. -/
inductive RoleStep
  | accepted (groles : LfgRolesMap)
  | exceeded
  | counted (counts : Role → ℕ)

/-- The branch of the role `x` for a selection `selected`. `without` is the whole map with the
flag taken away from this selection, `check` the call on it; when the call fails the flag is put
back, so that the map is as before. -/
def roleStep (check : LfgRolesMap → Bool × LfgRolesMap) (without : Role → LfgRolesMap)
    (selected : UInt8) (x : Role) (counts : Role → ℕ) : RoleStep :=
  let role := selected &&& ~~~PLAYER_ROLE_LEADER
  if role &&& x.flag = 0 then .counted counts
  else if role ≠ x.flag then
    match check (without x) with
    | (true, groles) => .accepted groles
    | (false, _) => .counted counts
  else if counts x = x.needed then .exceeded
  else .counted (Function.update counts x (counts x + 1))

def roleSteps (check : LfgRolesMap → Bool × LfgRolesMap) (without : Role → LfgRolesMap)
    (selected : UInt8) : List Role → (Role → ℕ) → RoleStep
  | [], counts => .counted counts
  | x :: xs, counts =>
    match roleStep check without selected x counts with
    | .counted counts' => roleSteps check without selected xs counts'
    | out => out

def checkGroupRolesLoop (check : LfgRolesMap → Bool × LfgRolesMap) (seen : LfgRolesMap) :
    LfgRolesMap → (Role → ℕ) → Bool × LfgRolesMap
  | [], counts =>
    (counts .tank + counts .healer + counts .damage == seen.length % 256, seen)
  | (guid, selected) :: rest, counts =>
    if selected &&& ~~~PLAYER_ROLE_LEADER = PLAYER_ROLE_NONE then
      (false, seen ++ (guid, selected) :: rest)
    else
      match roleSteps check (fun x => seen ++ (guid, selected - x.flag) :: rest) selected
          [.damage, .healer, .tank] counts with
      | .accepted groles => (true, groles)
      | .exceeded => (false, seen ++ (guid, selected) :: rest)
      | .counted counts' =>
        checkGroupRolesLoop check (seen ++ [(guid, selected)]) rest counts'

def checkGroupRolesDepth : ℕ → LfgRolesMap → Bool × LfgRolesMap
  | 0, groles => (false, groles)
  | fuel + 1, groles =>
    if groles = [] then (false, groles)
    else checkGroupRolesLoop (checkGroupRolesDepth fuel) [] groles fun _ => 0

/-- `CheckGroupRoles`: whether the roles go together, and the map it leaves behind. Each call
on the way down takes one of the three flags away from a player. -/
def checkGroupRoles (groles : LfgRolesMap) : Bool × LfgRolesMap :=
  checkGroupRolesDepth (3 * groles.length + 1) groles

/-! ## 2. What it is for -/

/-- The selection is one of the three roles or several of them, and `x` is among them. -/
def CanPlay (selected : UInt8) (x : Role) : Prop :=
  selected &&& ~~~(PLAYER_ROLE_LEADER ||| PLAYER_ROLE_TANK ||| PLAYER_ROLE_HEALER |||
    PLAYER_ROLE_DAMAGE) = 0 ∧ selected &&& x.flag ≠ 0

instance (selected : UInt8) (x : Role) : Decidable (CanPlay selected x) :=
  inferInstanceAs (Decidable (_ ∧ _))

/-- Each of the selections has a role in it so that no role is played too often. -/
def Assignable (selections : List UInt8) : Prop :=
  ∃ roles : List Role, List.Forall₂ CanPlay selections roles ∧ ∀ x, roles.count x ≤ x.needed

variable {l l' : List UInt8} {seen : LfgRolesMap} {counts : Role → ℕ}
  {check : LfgRolesMap → Bool × LfgRolesMap}

theorem Assignable.perm (hp : l.Perm l') (h : Assignable l) :
    Assignable l' := by
  obtain ⟨roles, hplay, hcount⟩ := h
  obtain ⟨roles', hplay', hp'⟩ := List.perm_comp_forall₂ hp.symm hplay
  refine ⟨roles', hplay', fun x => ?_⟩
  rw [hp'.count_eq]
  exact hcount x

theorem Assignable.of_append (h : Assignable (l ++ l')) :
    Assignable l' := by
  obtain ⟨roles, hplay, hcount⟩ := h
  refine ⟨roles.drop l.length, ?_, fun x => ?_⟩
  · simpa using List.forall₂_drop l.length hplay
  · exact ((List.drop_sublist _ _).count_le x).trans (hcount x)

def weight (selected : UInt8) : ℕ :=
  ([Role.tank, .healer, .damage].filter fun x => selected &&& x.flag ≠ 0).length

theorem weight_le (selected : UInt8) : weight selected ≤ 3 :=
  List.length_filter_le _ _

section Flags

theorem forall_selected {P : UInt8 → Prop} (h : ∀ n : Fin 256, P (UInt8.ofFin n)) :
    ∀ selected, P selected := fun selected => h selected.toFin

theorem selected_facts (x y : Role) : ∀ selected : UInt8,
    (selected &&& x.flag ≠ 0 →
      (CanPlay (selected - x.flag) y ↔ CanPlay selected y ∧ y ≠ x) ∧
        weight (selected - x.flag) + 1 = weight selected) ∧
    ((selected &&& ~~~PLAYER_ROLE_LEADER) &&& x.flag = 0 ↔ selected &&& x.flag = 0) ∧
    (selected &&& ~~~PLAYER_ROLE_LEADER = x.flag →
      (CanPlay selected y ↔ y = x) ∧ (selected &&& y.flag = 0 ↔ y ≠ x)) ∧
    (CanPlay selected x → selected &&& ~~~PLAYER_ROLE_LEADER ≠ PLAYER_ROLE_NONE ∧
      (selected &&& ~~~PLAYER_ROLE_LEADER ≠ x.flag →
        ∃ y ∈ [Role.damage, .healer, .tank], y ≠ x ∧ selected &&& y.flag ≠ 0)) := by
  refine forall_selected ?_
  cases x <;> cases y <;> decide +kernel

theorem canPlay_sub (x y : Role) (selected : UInt8) (h : selected &&& x.flag ≠ 0) :
    CanPlay (selected - x.flag) y ↔ CanPlay selected y ∧ y ≠ x :=
  ((selected_facts x y selected).1 h).1

theorem weight_sub (x : Role) (selected : UInt8) (h : selected &&& x.flag ≠ 0) :
    weight (selected - x.flag) + 1 = weight selected :=
  ((selected_facts x x selected).1 h).2

theorem role_flag (x : Role) (selected : UInt8) :
    (selected &&& ~~~PLAYER_ROLE_LEADER) &&& x.flag = 0 ↔ selected &&& x.flag = 0 :=
  (selected_facts x x selected).2.1

theorem canPlay_of_role_eq (x y : Role) (selected : UInt8)
    (h : selected &&& ~~~PLAYER_ROLE_LEADER = x.flag) : CanPlay selected y ↔ y = x :=
  ((selected_facts x y selected).2.2.1 h).1

theorem role_ne_none (x : Role) (selected : UInt8) (h : CanPlay selected x) :
    selected &&& ~~~PLAYER_ROLE_LEADER ≠ PLAYER_ROLE_NONE :=
  ((selected_facts x x selected).2.2.2 h).1

theorem exists_other (x : Role) (selected : UInt8) (h : CanPlay selected x) :
    selected &&& ~~~PLAYER_ROLE_LEADER ≠ x.flag →
      ∃ y ∈ [Role.damage, .healer, .tank], y ≠ x ∧ selected &&& y.flag ≠ 0 :=
  ((selected_facts x x selected).2.2.2 h).2

theorem ne_of_role_eq (x y : Role) (selected : UInt8)
    (h : selected &&& ~~~PLAYER_ROLE_LEADER = x.flag) : selected &&& y.flag = 0 ↔ y ≠ x :=
  ((selected_facts x y selected).2.2.1 h).2

end Flags

/-! ## 3. The branches -/

section Branches

variable {check : LfgRolesMap → Bool × LfgRolesMap} {without : Role → LfgRolesMap}
  {selected : UInt8} {counts : Role → ℕ}

variable {x : Role} {xs : List Role}

theorem roleSteps_absent (h : selected &&& x.flag = 0) :
    roleSteps check without selected (x :: xs) counts =
      roleSteps check without selected xs counts := by
  rw [roleSteps, roleStep, if_pos ((role_flag x selected).mpr h)]

theorem roleSteps_single (h : selected &&& ~~~PLAYER_ROLE_LEADER = x.flag) :
    roleSteps check without selected (x :: xs) counts =
      if counts x = x.needed then .exceeded
      else roleSteps check without selected xs (Function.update counts x (counts x + 1)) := by
  have hflag : ¬ (selected &&& ~~~PLAYER_ROLE_LEADER) &&& x.flag = 0 := fun h0 =>
    (ne_of_role_eq x x selected h).mp ((role_flag x selected).mp h0) rfl
  rw [roleSteps, roleStep, if_neg hflag, if_neg (not_not.mpr h)]
  by_cases hfull : counts x = x.needed
  · rw [if_pos hfull, if_pos hfull]
  · rw [if_neg hfull, if_neg hfull]

theorem roleSteps_several (h : selected &&& x.flag ≠ 0)
    (hne : selected &&& ~~~PLAYER_ROLE_LEADER ≠ x.flag) :
    roleSteps check without selected (x :: xs) counts =
      if (check (without x)).1 then .accepted (check (without x)).2
      else roleSteps check without selected xs counts := by
  rw [roleSteps, roleStep, if_neg fun h0 => h ((role_flag x selected).mp h0), if_pos hne]
  rcases check (without x) with ⟨_ | _, groles⟩ <;> rfl

theorem roleSteps_accepted {groles : LfgRolesMap}
    (h : roleSteps check without selected xs counts = .accepted groles) :
    ∃ x, selected &&& x.flag ≠ 0 ∧ check (without x) = (true, groles) := by
  induction xs generalizing counts with
  | nil => cases h
  | cons x xs ih =>
    by_cases hflag : selected &&& x.flag = 0
    · rw [roleSteps_absent hflag] at h
      exact ih h
    · by_cases hsingle : selected &&& ~~~PLAYER_ROLE_LEADER = x.flag
      · rw [roleSteps_single hsingle] at h
        split at h
        · cases h
        · exact ih h
      · rw [roleSteps_several hflag hsingle] at h
        split at h
        · next hcheck =>
          cases h
          exact ⟨x, hflag, Prod.ext hcheck rfl⟩
        · exact ih h

theorem roleSteps_counted {counts' : Role → ℕ} (hxs : xs.Nodup)
    (h : roleSteps check without selected xs counts = .counted counts') :
    counts' = counts ∨ ∃ x ∈ xs, selected &&& ~~~PLAYER_ROLE_LEADER = x.flag ∧
      counts x ≠ x.needed ∧ counts' = Function.update counts x (counts x + 1) := by
  induction xs generalizing counts with
  | nil => cases h; exact .inl rfl
  | cons x xs ih =>
    obtain ⟨hx, hxs⟩ := List.nodup_cons.mp hxs
    have hlater : ∀ {counts}, roleSteps check without selected xs counts = .counted counts' →
        counts' = counts ∨ ∃ y ∈ x :: xs, selected &&& ~~~PLAYER_ROLE_LEADER = y.flag ∧
          counts y ≠ y.needed ∧ counts' = Function.update counts y (counts y + 1) := by
      intro counts h
      exact (ih hxs h).imp_right fun ⟨y, hy, hrest⟩ => ⟨y, List.mem_cons_of_mem x hy, hrest⟩
    by_cases hflag : selected &&& x.flag = 0
    · rw [roleSteps_absent hflag] at h
      exact hlater h
    · by_cases hsingle : selected &&& ~~~PLAYER_ROLE_LEADER = x.flag
      · rw [roleSteps_single hsingle] at h
        split at h
        · cases h
        · next hfull =>
          -- the other branches leave a selection of the single role `x` alone
          rcases ih hxs h with rfl | ⟨y, hy, hrole, -, -⟩
          · exact .inr ⟨x, List.mem_cons_self, hsingle, hfull, rfl⟩
          · have hyx : y = x := by
              by_contra hne
              exact (ne_of_role_eq y y selected hrole).mp
                ((ne_of_role_eq x y selected hsingle).mpr hne) rfl
            exact absurd (hyx ▸ hy) hx
      · rw [roleSteps_several hflag hsingle] at h
        split at h
        · cases h
        · exact hlater h

theorem roleSteps_of_single (hxs : xs.Nodup) (hx : x ∈ xs)
    (h : selected &&& ~~~PLAYER_ROLE_LEADER = x.flag) (hfull : counts x ≠ x.needed) :
    roleSteps check without selected xs counts =
      .counted (Function.update counts x (counts x + 1)) := by
  have hother : ∀ {ys : List Role} {counts : Role → ℕ}, x ∉ ys →
      roleSteps check without selected ys counts = .counted counts := by
    intro ys counts hys
    induction ys with
    | nil => rfl
    | cons y ys ih =>
      have hyx : y ≠ x := (List.ne_of_not_mem_cons hys).symm
      rw [roleSteps_absent ((ne_of_role_eq x y selected h).mpr hyx),
        ih (List.not_mem_of_not_mem_cons hys)]
  induction xs with
  | nil => cases hx
  | cons y ys ih =>
    obtain ⟨hy, hys⟩ := List.nodup_cons.mp hxs
    rcases List.mem_cons.mp hx with rfl | hx
    · rw [roleSteps_single h, if_neg hfull, hother hy]
    · have hyx : y ≠ x := fun hyx => hy (hyx ▸ hx)
      rw [roleSteps_absent ((ne_of_role_eq x y selected h).mpr hyx), ih hys hx]

theorem roleSteps_of_several {y : Role} (hseveral : ∀ x : Role,
    selected &&& ~~~PLAYER_ROLE_LEADER ≠ x.flag) (hy : y ∈ xs) (hflag : selected &&& y.flag ≠ 0)
    (hcheck : (check (without y)).1 = true) :
    ∃ groles, roleSteps check without selected xs counts = .accepted groles := by
  induction xs with
  | nil => cases hy
  | cons x xs ih =>
    by_cases hx : selected &&& x.flag = 0
    · rw [roleSteps_absent hx]
      rcases List.mem_cons.mp hy with rfl | hy
      · exact absurd hx hflag
      · exact ih hy
    · rw [roleSteps_several hx (hseveral x)]
      split
      · exact ⟨_, rfl⟩
      · next hfail =>
        rcases List.mem_cons.mp hy with rfl | hy
        · exact absurd hcheck hfail
        · exact ih hy

end Branches

/-! ## 4. The loop -/

def selections (groles : LfgRolesMap) : List UInt8 := groles.map Prod.snd

/-- What the counters say about the entries behind the loop: they count roles that do not exceed
what is needed, and if they count as many as there are entries then each entry has its role. -/
structure Counting (seen : LfgRolesMap) (counts : Role → ℕ) : Prop where
  le_needed : ∀ x, counts x ≤ x.needed
  le_length : counts .tank + counts .healer + counts .damage ≤ seen.length
  assigned : counts .tank + counts .healer + counts .damage = seen.length →
    ∃ roles, List.Forall₂ CanPlay (selections seen) roles ∧ ∀ x, roles.count x = counts x

theorem sum_update (counts : Role → ℕ) (x : Role) :
    Function.update counts x (counts x + 1) .tank +
        Function.update counts x (counts x + 1) .healer +
        Function.update counts x (counts x + 1) .damage =
      counts .tank + counts .healer + counts .damage + 1 := by
  cases x <;> simp <;> omega

theorem Counting.nil : Counting [] fun _ => 0 :=
  ⟨fun _ => Nat.zero_le _, Nat.le_refl _, fun _ => ⟨[], .nil, fun _ => rfl⟩⟩

theorem Counting.skip (h : Counting seen counts)
    (e : ObjectGuid × UInt8) : Counting (seen ++ [e]) counts := by
  refine ⟨h.le_needed, ?_, fun hsum => ?_⟩
  · have := h.le_length
    simp only [List.length_append, List.length_singleton]
    omega
  · have := h.le_length
    simp only [List.length_append, List.length_singleton] at hsum
    omega

theorem Counting.count (h : Counting seen counts)
    {e : ObjectGuid × UInt8} {x : Role} (hx : e.2 &&& ~~~PLAYER_ROLE_LEADER = x.flag)
    (hfull : counts x ≠ x.needed) :
    Counting (seen ++ [e]) (Function.update counts x (counts x + 1)) := by
  refine ⟨fun y => ?_, ?_, fun hsum => ?_⟩
  · have hle := h.le_needed y
    by_cases hy : y = x
    · subst hy
      rw [Function.update_self]
      omega
    · rw [Function.update_of_ne hy]
      exact hle
  · have := h.le_length
    rw [sum_update, List.length_append, List.length_singleton]
    omega
  · rw [sum_update, List.length_append, List.length_singleton] at hsum
    obtain ⟨roles, hplay, hcount⟩ := h.assigned (Nat.succ_injective hsum)
    refine ⟨roles ++ [x], ?_, fun y => ?_⟩
    · rw [selections, List.map_append]
      exact List.rel_append hplay (.cons ((canPlay_of_role_eq x x e.2 hx).mpr rfl) .nil)
    · rw [List.count_append, hcount, List.count_singleton]
      by_cases hy : y = x
      · subst hy
        simp
      · rw [Function.update_of_ne hy]
        simp [Ne.symm hy]

/-- What the callee is trusted with, on maps of the size `n`: it accepts only what is
assignable. -/
def Sound (check : LfgRolesMap → Bool × LfgRolesMap) (n : ℕ) : Prop :=
  ∀ groles, groles.length = n → (check groles).1 = true → Assignable (selections groles)

theorem selections_without (seen rest : LfgRolesMap) (guid : ObjectGuid) (selected : UInt8) :
    selections (seen ++ (guid, selected) :: rest) =
      selections seen ++ selected :: selections rest := by
  simp [selections]

theorem forall₂_replace {a b : UInt8} {roles : List Role}
    (hab : ∀ y, CanPlay a y → CanPlay b y) (h : List.Forall₂ CanPlay (l ++ a :: l') roles) :
    List.Forall₂ CanPlay (l ++ b :: l') roles := by
  induction l generalizing roles with
  | nil =>
    cases h with
    | cons ha hrest => exact .cons (hab _ ha) hrest
  | cons c l ih =>
    cases h with
    | cons hc hrest => exact .cons hc (ih hrest)

theorem assignable_of_sub {selected : UInt8} {x : Role} (hflag : selected &&& x.flag ≠ 0)
    (h : Assignable (l ++ (selected - x.flag) :: l')) : Assignable (l ++ selected :: l') := by
  obtain ⟨roles, hplay, hcount⟩ := h
  refine ⟨roles, forall₂_replace (fun y hy => ?_) hplay, hcount⟩
  exact ((canPlay_sub x y selected hflag).mp hy).1

theorem checkGroupRolesLoop_sound {seen todo : LfgRolesMap}
    (hcheck : Sound check (seen.length + todo.length)) (hseen : Counting seen counts)
    (hsize : seen.length + todo.length < 256)
    (h : (checkGroupRolesLoop check seen todo counts).1 = true) :
    Assignable (selections (seen ++ todo)) := by
  induction todo generalizing seen counts with
  | nil =>
    rw [List.length_nil, Nat.add_zero] at hsize
    rw [checkGroupRolesLoop, Nat.mod_eq_of_lt hsize, beq_iff_eq] at h
    obtain ⟨roles, hplay, hcount⟩ := hseen.assigned h
    rw [List.append_nil]
    exact ⟨roles, hplay, fun x => (hcount x).trans_le (hseen.le_needed x)⟩
  | cons e rest ih =>
    obtain ⟨guid, selected⟩ := e
    have hlength : (seen ++ [(guid, selected)]).length + rest.length =
        seen.length + ((guid, selected) :: rest).length := by
      simp only [List.length_append, List.length_cons, List.length_nil]
      omega
    rw [checkGroupRolesLoop] at h
    split at h
    · cases h
    · split at h
      · next hstep =>
        obtain ⟨x, hflag, haccept⟩ := roleSteps_accepted hstep
        rw [selections_without]
        refine assignable_of_sub hflag ?_
        rw [← selections_without seen rest guid]
        refine hcheck _ ?_ (congrArg Prod.fst haccept)
        simp only [List.length_append, List.length_cons]
      · cases h
      · next hstep =>
        rw [← List.singleton_append, ← List.append_assoc]
        rw [← hlength] at hcheck hsize
        rcases roleSteps_counted (by decide) hstep with rfl | ⟨x, -, hx, hfull, rfl⟩
        · exact ih hcheck (hseen.skip _) hsize h
        · exact ih hcheck (hseen.count hx hfull) hsize h

theorem sum_count (roles : List Role) :
    roles.count .tank + roles.count .healer + roles.count .damage = roles.length := by
  induction roles with
  | nil => rfl
  | cons x roles ih =>
    rw [List.length_cons, ← ih]
    cases x <;> simp <;> omega

theorem checkGroupRolesLoop_complete {todo : LfgRolesMap} {front back : List Role}
    (hcheck : ∀ (x : Role) done guid selected rest, seen ++ todo = done ++ (guid, selected) :: rest →
      selected &&& x.flag ≠ 0 →
      Assignable (selections (done ++ (guid, selected - x.flag) :: rest)) →
      (check (done ++ (guid, selected - x.flag) :: rest)).1 = true)
    (hfront : List.Forall₂ CanPlay (selections seen) front)
    (hback : List.Forall₂ CanPlay (selections todo) back)
    (hcount : ∀ x, (front ++ back).count x ≤ x.needed)
    (hsize : seen.length + todo.length < 256) :
    (checkGroupRolesLoop check seen todo fun x => front.count x).1 = true := by
  induction todo generalizing seen front back with
  | nil =>
    have hlength : front.length = seen.length := by
      rw [← hfront.length_eq, selections, List.length_map]
    rw [List.length_nil, Nat.add_zero] at hsize
    rw [checkGroupRolesLoop, Nat.mod_eq_of_lt hsize, beq_iff_eq, sum_count, hlength]
  | cons e rest ih =>
    obtain ⟨guid, selected⟩ := e
    cases hback with
    | @cons _ x _ back hx hback =>
      rw [checkGroupRolesLoop, if_neg (role_ne_none x selected hx)]
      by_cases hsingle : selected &&& ~~~PLAYER_ROLE_LEADER = x.flag
      · have hfull : front.count x ≠ x.needed := by
          have := hcount x
          rw [List.count_append, List.count_cons_self] at this
          omega
        rw [roleSteps_of_single (by decide) (by cases x <;> decide) hsingle hfull]
        have hnext : Function.update (fun y => front.count y) x (front.count x + 1) =
            fun y => (front ++ [x]).count y := by
          funext y
          rw [List.count_append, List.count_singleton]
          by_cases hy : y = x
          · subst hy
            simp
          · rw [Function.update_of_ne hy]
            simp [Ne.symm hy]
        change (checkGroupRolesLoop check _ rest _).1 = true
        rw [hnext]
        refine ih ?_ ?_ hback ?_ ?_
        · rw [List.append_assoc]
          exact hcheck
        · rw [selections, List.map_append]
          exact List.rel_append hfront (.cons hx .nil)
        · rw [List.append_assoc]
          exact hcount
        · simp only [List.length_append, List.length_cons, List.length_nil] at hsize ⊢
          omega
      · -- one of the other roles can be taken away
        obtain ⟨y, hy, hyx, hflag⟩ := exists_other x selected hx hsingle
        have hseveral : ∀ z : Role, selected &&& ~~~PLAYER_ROLE_LEADER ≠ z.flag := by
          intro z hz
          rcases (canPlay_of_role_eq z x selected hz).mp hx with rfl
          exact hsingle hz
        have haccept := hcheck y seen guid selected rest rfl hflag (by
          rw [selections_without]
          refine ⟨front ++ x :: back, List.rel_append hfront (.cons ?_ hback), hcount⟩
          exact (canPlay_sub y x selected hflag).mpr ⟨hx, hyx.symm⟩)
        obtain ⟨groles, hgroles⟩ := @roleSteps_of_several check
          (fun x => seen ++ (guid, selected - x.flag) :: rest) selected
          (fun x => front.count x) [.damage, .healer, .tank] y hseveral hy hflag haccept
        rw [hgroles]

/-! ## 5. The function -/

def totalWeight (groles : LfgRolesMap) : ℕ := ((selections groles).map weight).sum

theorem totalWeight_le (groles : LfgRolesMap) : totalWeight groles ≤ 3 * groles.length := by
  induction groles with
  | nil => exact Nat.le_refl 0
  | cons e rest ih =>
    have := weight_le e.2
    simp only [totalWeight, selections, List.map_cons, List.sum_cons, List.length_cons] at ih ⊢
    omega

theorem totalWeight_sub {done rest : LfgRolesMap} {guid : ObjectGuid} {selected : UInt8} {x : Role}
    (h : selected &&& x.flag ≠ 0) :
    totalWeight (done ++ (guid, selected - x.flag) :: rest) + 1 =
      totalWeight (done ++ (guid, selected) :: rest) := by
  have := weight_sub x selected h
  simp only [totalWeight, selections_without, List.map_append, List.map_cons, List.sum_append,
    List.sum_cons]
  omega

theorem checkGroupRolesDepth_sound (fuel : ℕ) (groles : LfgRolesMap)
    (hsize : groles.length < 256) (h : (checkGroupRolesDepth fuel groles).1 = true) :
    groles ≠ [] ∧ Assignable (selections groles) := by
  induction fuel generalizing groles with
  | zero => cases h
  | succ fuel ih =>
    rw [checkGroupRolesDepth] at h
    split at h
    · cases h
    · next hne =>
      refine ⟨hne, ?_⟩
      have hsize' : ([] : LfgRolesMap).length + groles.length < 256 := by simpa using hsize
      refine checkGroupRolesLoop_sound (fun m hm hcheck => ?_) Counting.nil hsize' h
      exact (ih m (hm.trans_lt hsize') hcheck).2

theorem checkGroupRolesDepth_complete (fuel : ℕ) (groles : LfgRolesMap)
    (hfuel : totalWeight groles < fuel) (hsize : groles.length < 256) (hne : groles ≠ [])
    (h : Assignable (selections groles)) : (checkGroupRolesDepth fuel groles).1 = true := by
  induction fuel generalizing groles with
  | zero => exact absurd hfuel (Nat.not_lt_zero _)
  | succ fuel ih =>
    rw [checkGroupRolesDepth, if_neg hne]
    obtain ⟨roles, hplay, hcount⟩ := h
    have hstart : (fun _ => 0) = fun x : Role => ([] : List Role).count x := rfl
    rw [hstart]
    refine @checkGroupRolesLoop_complete [] _ groles [] roles
      (fun x done guid selected rest heq hflag has => ?_) .nil hplay hcount (by simpa using hsize)
    rw [List.nil_append] at heq
    subst heq
    have hweight : totalWeight (done ++ (guid, selected - x.flag) :: rest) + 1 =
        totalWeight (done ++ (guid, selected) :: rest) := totalWeight_sub hflag
    refine ih _ (by omega) ?_ (by simp) has
    simpa using hsize

/-- **What `CheckGroupRoles` computes**: whether the selections, which are not none, are
assignable. -/
theorem checkGroupRoles_iff {groles : LfgRolesMap} (hsize : groles.length < 256) :
    (checkGroupRoles groles).1 = true ↔ groles ≠ [] ∧ Assignable (selections groles) := by
  constructor
  · exact checkGroupRolesDepth_sound _ groles hsize
  · rintro ⟨hne, h⟩
    exact checkGroupRolesDepth_complete _ groles (Nat.lt_succ_of_le (totalWeight_le groles))
      hsize hne h

/-! ## 6. The map it leaves behind -/

def keys (groles : LfgRolesMap) : List ObjectGuid := groles.map Prod.fst

theorem checkGroupRolesLoop_keys
    (hcheck : ∀ groles, keys (check groles).2 = keys groles) (seen todo : LfgRolesMap)
    (counts : Role → ℕ) :
    keys (checkGroupRolesLoop check seen todo counts).2 = keys (seen ++ todo) := by
  induction todo generalizing seen counts with
  | nil => rw [checkGroupRolesLoop, List.append_nil]
  | cons e rest ih =>
    obtain ⟨guid, selected⟩ := e
    rw [checkGroupRolesLoop]
    split
    · rfl
    · split
      · next hstep =>
        obtain ⟨x, -, haccept⟩ := roleSteps_accepted hstep
        have hkeys := hcheck (seen ++ (guid, selected - x.flag) :: rest)
        rw [haccept] at hkeys
        rw [hkeys]
        simp [keys]
      · rfl
      · rw [ih, List.append_assoc, List.singleton_append]

theorem checkGroupRoles_keys (groles : LfgRolesMap) :
    keys (checkGroupRoles groles).2 = keys groles := by
  have hdepth : ∀ fuel groles, keys (checkGroupRolesDepth fuel groles).2 = keys groles := by
    intro fuel
    induction fuel with
    | zero => exact fun _ => rfl
    | succ fuel ih =>
      intro groles
      rw [checkGroupRolesDepth]
      split
      · rfl
      · exact checkGroupRolesLoop_keys ih [] groles _
  exact hdepth _ groles

end FunPvp.DungeonFinding
