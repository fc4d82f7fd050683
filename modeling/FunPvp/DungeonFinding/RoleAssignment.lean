/-
# The assignment `CheckGroupRoles` leaves behind

`checkGroupRoles_iff` says what the function answers. The map is its other result: where the
answer is `true` every selection has been narrowed down to one role, and the roles that are left
are an assignment; where it is `false` the roles have been put back.

The depth of the calls is bounded by the flags of the map. `checkGroupRolesAbove` leaves open
what a call below the bound would do, so that the bound can be seen to be none: nothing depends
on it.
-/
import FunPvp.DungeonFinding.RoleCheck

namespace FunPvp.DungeonFinding

open FunPvp.Groups (ObjectGuid)

/-! ## 1. The depth of the calls -/

/-- `CheckGroupRoles` with the answer of `bottom` for the calls at the depth `fuel`. A call of
`bottom` that is made and answers `true` is the answer of all calls above it. -/
def checkGroupRolesAbove (bottom : LfgRolesMap → Bool × LfgRolesMap) :
    ℕ → LfgRolesMap → Bool × LfgRolesMap
  | 0, groles => bottom groles
  | fuel + 1, groles =>
    if groles = [] then (false, groles)
    else checkGroupRolesLoop (checkGroupRolesAbove bottom fuel) [] groles fun _ => 0

theorem checkGroupRolesDepth_eq_above (fuel : ℕ) :
    checkGroupRolesDepth fuel = checkGroupRolesAbove (fun groles => (false, groles)) fuel := by
  induction fuel with
  | zero => rfl
  | succ fuel ih =>
    funext groles
    rw [checkGroupRolesDepth, checkGroupRolesAbove, ih]

section Congruence

variable {check check' : LfgRolesMap → Bool × LfgRolesMap}

theorem roleSteps_congr {without : Role → LfgRolesMap} {selected : UInt8}
    (h : ∀ x : Role, selected &&& x.flag ≠ 0 → check (without x) = check' (without x))
    (xs : List Role) (counts : Role → ℕ) :
    roleSteps check without selected xs counts = roleSteps check' without selected xs counts := by
  induction xs generalizing counts with
  | nil => rfl
  | cons x xs ih =>
    by_cases hflag : selected &&& x.flag = 0
    · rw [roleSteps_absent hflag, roleSteps_absent hflag, ih]
    · by_cases hsingle : selected &&& ~~~PLAYER_ROLE_LEADER = x.flag
      · rw [roleSteps_single hsingle, roleSteps_single hsingle, ih]
      · rw [roleSteps_several hflag hsingle, roleSteps_several hflag hsingle, h x hflag, ih]

theorem checkGroupRolesLoop_congr {todo seen : LfgRolesMap}
    (h : ∀ (x : Role) done guid selected rest, seen ++ todo = done ++ (guid, selected) :: rest →
      selected &&& x.flag ≠ 0 →
      check (done ++ (guid, selected - x.flag) :: rest) =
        check' (done ++ (guid, selected - x.flag) :: rest)) (counts : Role → ℕ) :
    checkGroupRolesLoop check seen todo counts = checkGroupRolesLoop check' seen todo counts := by
  induction todo generalizing seen counts with
  | nil => rfl
  | cons e rest ih =>
    obtain ⟨guid, selected⟩ := e
    have hsteps := roleSteps_congr
      (fun x hflag => h x seen guid selected rest rfl hflag) [.damage, .healer, .tank] counts
    have hrest : ∀ counts, checkGroupRolesLoop check (seen ++ [(guid, selected)]) rest counts =
        checkGroupRolesLoop check' (seen ++ [(guid, selected)]) rest counts := by
      refine ih fun x done guid' selected' rest' heq => ?_
      rw [List.append_assoc, List.singleton_append] at heq
      exact h x done guid' selected' rest' heq
    rw [checkGroupRolesLoop, checkGroupRolesLoop, hsteps]
    simp only [hrest]

end Congruence

theorem checkGroupRolesAbove_eq {bottom bottom' : LfgRolesMap → Bool × LfgRolesMap}
    {fuel fuel' : ℕ} {groles : LfgRolesMap} (hfuel : totalWeight groles < fuel)
    (hfuel' : totalWeight groles < fuel') :
    checkGroupRolesAbove bottom fuel groles = checkGroupRolesAbove bottom' fuel' groles := by
  induction fuel generalizing fuel' groles with
  | zero => exact absurd hfuel (Nat.not_lt_zero _)
  | succ fuel ih =>
    cases fuel' with
    | zero => exact absurd hfuel' (Nat.not_lt_zero _)
    | succ fuel' =>
      rw [checkGroupRolesAbove, checkGroupRolesAbove]
      refine if_congr Iff.rfl rfl (checkGroupRolesLoop_congr ?_ _)
      intro x done guid selected rest heq hflag
      rw [List.nil_append] at heq
      have hweight : totalWeight (done ++ (guid, selected - x.flag) :: rest) + 1 =
          totalWeight (done ++ (guid, selected) :: rest) := totalWeight_sub hflag
      rw [heq] at hfuel hfuel'
      exact ih (by omega) (by omega)

theorem checkGroupRoles_eq_above (bottom : LfgRolesMap → Bool × LfgRolesMap)
    {fuel : ℕ} {groles : LfgRolesMap} (hfuel : 3 * groles.length < fuel) :
    checkGroupRoles groles = checkGroupRolesAbove bottom fuel groles := by
  have hweight := totalWeight_le groles
  rw [checkGroupRoles, checkGroupRolesDepth_eq_above]
  exact checkGroupRolesAbove_eq (by omega) (by omega)

/-- **The equation of the source**: the function is its body with itself for the calls. -/
theorem checkGroupRoles_eq (groles : LfgRolesMap) :
    checkGroupRoles groles =
      if groles = [] then (false, groles)
      else checkGroupRolesLoop checkGroupRoles [] groles fun _ => 0 := by
  rw [checkGroupRoles_eq_above (fun groles => (false, groles))
    (Nat.lt_succ_self (3 * groles.length)), checkGroupRolesAbove]
  refine if_congr Iff.rfl rfl (checkGroupRolesLoop_congr ?_ _)
  intro x done guid selected rest heq hflag
  rw [List.nil_append] at heq
  have hweight : totalWeight (done ++ (guid, selected - x.flag) :: rest) + 1 =
      totalWeight (done ++ (guid, selected) :: rest) := totalWeight_sub hflag
  have hlength := totalWeight_le (done ++ (guid, selected) :: rest)
  have hlength' := totalWeight_le (done ++ (guid, selected - x.flag) :: rest)
  rw [heq, checkGroupRoles, checkGroupRolesDepth_eq_above]
  exact checkGroupRolesAbove_eq (by omega) (by omega)

/-! ## 2. The map of an accepted call -/

/-- The map with one role for each player, and the flag of the leader as it was. -/
def assigned (groles : LfgRolesMap) (roles : List Role) : LfgRolesMap :=
  List.zipWith (fun e x => (e.1, e.2 &&& PLAYER_ROLE_LEADER ||| x.flag)) groles roles

/-- `left` is `groles` with an assignment in the place of the selections. -/
def Settled (groles left : LfgRolesMap) : Prop :=
  ∃ roles : List Role, List.Forall₂ CanPlay (selections groles) roles ∧
    (∀ x, roles.count x ≤ x.needed) ∧ left = assigned groles roles

section Flags

theorem leader_sub (x : Role) : ∀ selected : UInt8, selected &&& x.flag ≠ 0 →
    (selected - x.flag) &&& PLAYER_ROLE_LEADER = selected &&& PLAYER_ROLE_LEADER := by
  refine forall_selected ?_
  cases x <;> decide +kernel

theorem leader_or_flag (x : Role) : ∀ selected : UInt8,
    selected &&& ~~~PLAYER_ROLE_LEADER = x.flag →
      selected &&& PLAYER_ROLE_LEADER ||| x.flag = selected := by
  refine forall_selected ?_
  cases x <;> decide +kernel

end Flags

theorem assigned_eq_map (groles : LfgRolesMap) (roles : List Role) :
    assigned groles roles =
      List.zipWith (fun e x => (e.1, e.2 ||| x.flag))
        (groles.map fun e => (e.1, e.2 &&& PLAYER_ROLE_LEADER)) roles := by
  rw [assigned, List.zipWith_map_left]

theorem Settled.of_sub {seen rest left : LfgRolesMap} {guid : ObjectGuid} {selected : UInt8}
    {x : Role} (hflag : selected &&& x.flag ≠ 0)
    (h : Settled (seen ++ (guid, selected - x.flag) :: rest) left) :
    Settled (seen ++ (guid, selected) :: rest) left := by
  obtain ⟨roles, hplay, hcount, rfl⟩ := h
  refine ⟨roles, ?_, hcount, ?_⟩
  · rw [selections_without] at hplay ⊢
    exact forall₂_replace (fun y hy => ((canPlay_sub x y selected hflag).mp hy).1) hplay
  · rw [assigned_eq_map, assigned_eq_map]
    simp only [List.map_append, List.map_cons, leader_sub x selected hflag]

def Singles (seen : LfgRolesMap) (counts : Role → ℕ) : Prop :=
  counts .tank + counts .healer + counts .damage = seen.length →
    ∀ e ∈ seen, ∃ x : Role, e.2 &&& ~~~PLAYER_ROLE_LEADER = x.flag

variable {seen : LfgRolesMap} {counts : Role → ℕ} {check : LfgRolesMap → Bool × LfgRolesMap}

theorem Singles.skip (hseen : Counting seen counts)
    (e : ObjectGuid × UInt8) : Singles (seen ++ [e]) counts := by
  intro hsum
  have hle := hseen.le_length
  rw [List.length_append, List.length_singleton] at hsum
  omega

theorem Singles.count (h : Singles seen counts)
    {e : ObjectGuid × UInt8} {x : Role} (hx : e.2 &&& ~~~PLAYER_ROLE_LEADER = x.flag) :
    Singles (seen ++ [e]) (Function.update counts x (counts x + 1)) := by
  intro hsum e' he'
  rw [sum_update, List.length_append, List.length_singleton] at hsum
  rcases List.mem_append.mp he' with he' | he'
  · exact h (Nat.succ_injective hsum) e' he'
  · rw [List.mem_singleton.mp he']
    exact ⟨x, hx⟩

theorem assigned_of_singles {groles : LfgRolesMap} {roles : List Role}
    (hsingle : ∀ e ∈ groles, ∃ x : Role, e.2 &&& ~~~PLAYER_ROLE_LEADER = x.flag)
    (hplay : List.Forall₂ CanPlay (selections groles) roles) : groles = assigned groles roles := by
  induction groles generalizing roles with
  | nil => rfl
  | cons e rest ih =>
    cases hplay with
    | @cons _ x _ roles hx hplay =>
      obtain ⟨y, hy⟩ := hsingle e List.mem_cons_self
      have hxy : x = y := (canPlay_of_role_eq y x e.2 hy).mp hx
      have hrest := ih (fun e' he' => hsingle e' (List.mem_cons_of_mem e he')) hplay
      rw [assigned, List.zipWith_cons_cons, hxy, leader_or_flag y e.2 hy]
      exact congrArg (e :: ·) hrest

/-- What the callee is trusted with, on maps of the size `n`. -/
def Settles (check : LfgRolesMap → Bool × LfgRolesMap) (n : ℕ) : Prop :=
  ∀ groles, groles.length = n → (check groles).1 = true → Settled groles (check groles).2

theorem checkGroupRolesLoop_settled {seen todo : LfgRolesMap}
    (hcheck : Settles check (seen.length + todo.length)) (hseen : Counting seen counts)
    (hsingles : Singles seen counts) (hsize : seen.length + todo.length < 256)
    (h : (checkGroupRolesLoop check seen todo counts).1 = true) :
    Settled (seen ++ todo) (checkGroupRolesLoop check seen todo counts).2 := by
  induction todo generalizing seen counts with
  | nil =>
    rw [List.length_nil, Nat.add_zero] at hsize
    rw [checkGroupRolesLoop, Nat.mod_eq_of_lt hsize, beq_iff_eq] at h
    obtain ⟨roles, hplay, hcount⟩ := hseen.assigned h
    rw [checkGroupRolesLoop, List.append_nil]
    exact ⟨roles, hplay, fun x => (hcount x).trans_le (hseen.le_needed x),
      assigned_of_singles (hsingles h) hplay⟩
  | cons e rest ih =>
    obtain ⟨guid, selected⟩ := e
    have hlength : (seen ++ [(guid, selected)]).length + rest.length =
        seen.length + ((guid, selected) :: rest).length := by
      simp only [List.length_append, List.length_cons, List.length_nil]
      omega
    rw [checkGroupRolesLoop] at h ⊢
    split at h
    · cases h
    · next hnone =>
      rw [if_neg hnone]
      split at h
      · next groles hstep =>
        obtain ⟨x, hflag, haccept⟩ := roleSteps_accepted hstep
        have hsettled := hcheck (seen ++ (guid, selected - x.flag) :: rest)
          (by simp only [List.length_append, List.length_cons]) (congrArg Prod.fst haccept)
        rw [haccept] at hsettled
        exact hsettled.of_sub hflag
      · cases h
      · next counts' hstep =>
        rw [← hlength] at hcheck hsize
        rw [← List.singleton_append, ← List.append_assoc]
        rcases roleSteps_counted (by decide) hstep with rfl | ⟨x, -, hx, hfull, rfl⟩
        · exact ih hcheck (hseen.skip _) (Singles.skip hseen _) hsize h
        · exact ih hcheck (hseen.count hx hfull) (hsingles.count hx) hsize h

theorem checkGroupRolesDepth_settled (fuel : ℕ) (groles : LfgRolesMap)
    (hsize : groles.length < 256) (h : (checkGroupRolesDepth fuel groles).1 = true) :
    Settled groles (checkGroupRolesDepth fuel groles).2 := by
  induction fuel generalizing groles with
  | zero => cases h
  | succ fuel ih =>
    rw [checkGroupRolesDepth] at h ⊢
    split at h
    · cases h
    · next hne =>
      rw [if_neg hne]
      have hsize' : ([] : LfgRolesMap).length + groles.length < 256 := by simpa using hsize
      refine checkGroupRolesLoop_settled (fun m hm hcheck => ?_) Counting.nil
        (fun _ e he => absurd he List.not_mem_nil) hsize' h
      exact ih m (hm.trans_lt hsize') hcheck

/-- **The roles of a group**: for a map of at least one and of fewer than 256 players the calls
end, the answer is whether the selections are assignable, and after the answer `true` the map
holds an assignment. -/
theorem checkGroupRoles_assigns {groles : LfgRolesMap} (hne : groles ≠ [])
    (hsize : groles.length < 256) :
    (∀ bottom fuel, 3 * groles.length < fuel →
      checkGroupRolesAbove bottom fuel groles = checkGroupRoles groles) ∧
    ((checkGroupRoles groles).1 = true ↔ Assignable (selections groles)) ∧
    ((checkGroupRoles groles).1 = true → Settled groles (checkGroupRoles groles).2) := by
  refine ⟨fun bottom fuel hfuel => (checkGroupRoles_eq_above bottom hfuel).symm, ?_,
    checkGroupRolesDepth_settled _ groles hsize⟩
  rw [checkGroupRoles_iff hsize]
  exact and_iff_right hne

/-- A leader who can tank or deal damage and a tank. -/
theorem checkGroupRoles_assigns_pair :
    Settled [(1, 0x0B), (2, 0x02)] (checkGroupRoles [(1, 0x0B), (2, 0x02)]).2 ∧
      (checkGroupRoles [(1, 0x0B), (2, 0x02)]).2 = [(1, 0x09), (2, 0x02)] :=
  ⟨(@checkGroupRoles_assigns [(1, 0x0B), (2, 0x02)] (by decide) (by decide)).2.2
    (by decide +kernel), by decide +kernel⟩

/-! ## 3. No players and very many -/

theorem Assignable.length_le {l : List UInt8} (h : Assignable l) : l.length ≤ 5 := by
  obtain ⟨roles, hplay, hcount⟩ := h
  have htank : roles.count .tank ≤ 1 := hcount .tank
  have hhealer : roles.count .healer ≤ 1 := hcount .healer
  have hdamage : roles.count .damage ≤ 3 := hcount .damage
  rw [hplay.length_eq, ← sum_count]
  omega

theorem roleSteps_uncounted {without : Role → LfgRolesMap} {selected : UInt8}
    (hseveral : ∀ x : Role, selected &&& ~~~PLAYER_ROLE_LEADER ≠ x.flag) (xs : List Role) :
    (∃ groles, roleSteps check without selected xs counts = .accepted groles) ∨
      roleSteps check without selected xs counts = .counted counts := by
  induction xs with
  | nil => exact .inr rfl
  | cons x xs ih =>
    by_cases hflag : selected &&& x.flag = 0
    · rw [roleSteps_absent hflag]
      exact ih
    · rw [roleSteps_several hflag (hseveral x)]
      split
      · exact .inl ⟨_, rfl⟩
      · exact ih

theorem checkGroupRolesLoop_uncounted {todo : LfgRolesMap}
    (hseveral : ∀ e ∈ todo, e.2 &&& ~~~PLAYER_ROLE_LEADER ≠ PLAYER_ROLE_NONE ∧
      ∀ x : Role, e.2 &&& ~~~PLAYER_ROLE_LEADER ≠ x.flag)
    (hsize : (seen.length + todo.length) % 256 = 0) :
    (checkGroupRolesLoop check seen todo fun _ => 0).1 = true := by
  induction todo generalizing seen with
  | nil =>
    rw [checkGroupRolesLoop, beq_iff_eq]
    exact hsize.symm
  | cons e rest ih =>
    obtain ⟨guid, selected⟩ := e
    obtain ⟨⟨hnone, hseveral'⟩, hrest⟩ := List.forall_mem_cons.mp hseveral
    rw [checkGroupRolesLoop, if_neg hnone]
    rcases roleSteps_uncounted hseveral' [.damage, .healer, .tank] with ⟨groles, hstep⟩ | hstep
    · rw [hstep]
    · rw [hstep]
      refine ih hrest ?_
      rw [List.length_append, List.length_singleton, Nat.add_assoc, Nat.add_comm 1]
      exact hsize

/-- 256 players, and each of them is a tank or a healer. -/
def crowd : LfgRolesMap :=
  (List.range 256).map fun n => (UInt64.ofNat n, PLAYER_ROLE_TANK ||| PLAYER_ROLE_HEALER)

/-- Nobody is refused although nothing is left to assign; and the crowd is accepted, for its
size is cut to a `uint8`. -/
theorem checkGroupRoles_exceptions :
    ((checkGroupRoles []).1 = false ∧ Assignable (selections [])) ∧
    (∀ e ∈ crowd, ∃ x, CanPlay e.2 x) ∧ (checkGroupRoles crowd).1 = true ∧
      ¬ Assignable (selections crowd) := by
  have hsize : crowd.length = 256 := by rw [crowd, List.length_map, List.length_range]
  have hall : ∀ e ∈ crowd, e.2 = PLAYER_ROLE_TANK ||| PLAYER_ROLE_HEALER := by
    intro e he
    obtain ⟨guid, -, rfl⟩ := List.mem_map.mp he
    rfl
  refine ⟨⟨rfl, [], .nil, fun x => Nat.zero_le _⟩, fun e he => ?_, ?_, fun h => ?_⟩
  · rw [hall e he]
    exact ⟨.tank, by decide +kernel⟩
  · have hne : crowd ≠ [] := List.ne_nil_of_length_pos (hsize.symm ▸ Nat.zero_lt_succ 255)
    rw [checkGroupRoles_eq, if_neg hne]
    refine checkGroupRolesLoop_uncounted (fun e he => ?_) (by rw [hsize]; rfl)
    rw [hall e he]
    refine ⟨by decide +kernel, fun x => ?_⟩
    cases x <;> decide +kernel
  · have hle := h.length_le
    rw [selections, List.length_map, hsize] at hle
    omega

end FunPvp.DungeonFinding
