/-
# The open rolls of a group somebody leaves

`RemoveMember` goes through the open rolls: it takes the player's vote out of the numbers, erases
it from the map, and then has `CountRollVote` look at the roll, with a choice that is none. But
`CountRollVote` looks for the player's vote first, and that has just been erased. So no roll is
decided because of a member who leaves, also where his was the only vote outstanding; such a roll
is open until its timer ends it.
-/
import FunPvp.Groups.Group
import FunPvp.Groups.RollCounters

namespace FunPvp.Groups

open FunPvp.Lib RollVote RemoveMethod

/-! ## 1. A vote that is erased -/

namespace PlayerVote

variable {votes : PlayerVote} {guid : PlayerGuid}

theorem get_eq_none_iff : votes.get guid = none ↔ ∀ e ∈ votes, e.1 ≠ guid := by
  simp [get]

theorem Sorted.mem_erase (h : Sorted votes) {e : PlayerGuid × RollVote} :
    e ∈ votes.erase guid ↔ e ∈ votes ∧ e.1 ≠ guid := by
  induction votes with
  | nil => simp [erase]
  | cons first votes ih =>
    obtain ⟨hfirst, hrest⟩ := List.pairwise_cons.mp h
    by_cases hkey : first.1 = guid
    · have hne : ∀ e' ∈ votes, e'.1 ≠ guid := by
        intro e' he' heq
        have hlt := hfirst e' he'
        rw [hkey, heq] at hlt
        exact UInt64.lt_irrefl guid hlt
      rw [erase, List.eraseP_cons_of_pos (by simpa using hkey), List.mem_cons]
      constructor
      · intro he
        exact ⟨Or.inr he, hne e he⟩
      · rintro ⟨rfl | he, hother⟩
        · exact absurd hkey hother
        · exact he
    · rw [erase, List.eraseP_cons_of_neg (by simpa using hkey), List.mem_cons, List.mem_cons]
      have hrec : e ∈ votes.eraseP (fun entry => entry.1 == guid) ↔ e ∈ votes ∧ e.1 ≠ guid :=
        ih hrest
      rw [hrec]
      constructor
      · rintro (rfl | ⟨he, hother⟩)
        · exact ⟨Or.inl rfl, hkey⟩
        · exact ⟨Or.inr he, hother⟩
      · rintro ⟨rfl | he, hother⟩
        · exact Or.inl rfl
        · exact Or.inr ⟨he, hother⟩

theorem Sorted.get_erase (h : Sorted votes) : (votes.erase guid).get guid = none :=
  get_eq_none_iff.mpr fun _ he => (h.mem_erase.mp he).2

theorem erase_of_get (h : votes.get guid = none) : votes.erase guid = votes :=
  List.eraseP_of_forall_not fun e he => by simpa using get_eq_none_iff.mp h e he

end PlayerVote

namespace Roll

variable {r : Roll} {guid : PlayerGuid}

theorem removePlayer_of_get (h : r.playerVote.get guid = none) : r.removePlayer guid = r := by
  rw [removePlayer, h]

theorem playerVote_removePlayer (r : Roll) (guid : PlayerGuid) :
    (r.removePlayer guid).playerVote = r.playerVote.erase guid := by
  rw [removePlayer]
  cases hget : r.playerVote.get guid with
  | none => exact (PlayerVote.erase_of_get hget).symm
  | some vote => cases vote <;> rfl

theorem itemGUID_removePlayer (r : Roll) (guid : PlayerGuid) :
    (r.removePlayer guid).itemGUID = r.itemGUID := by
  rw [removePlayer]
  cases r.playerVote.get guid with
  | none => rfl
  | some vote => cases vote <;> rfl

theorem loot_removePlayer (r : Roll) (guid : PlayerGuid) :
    (r.removePlayer guid).loot = r.loot := by
  rw [removePlayer]
  cases r.playerVote.get guid with
  | none => rfl
  | some vote => cases vote <;> rfl

theorem complete_removePlayer (h : PlayerVote.Sorted r.playerVote) :
    (r.removePlayer guid).Complete ↔
      ∀ e ∈ r.playerVote, e.1 ≠ guid → e.2 ≠ NOT_EMITED_YET := by
  rw [Complete, playerVote_removePlayer]
  constructor
  · intro hall e he hother
    exact hall e (h.mem_erase.mpr ⟨he, hother⟩)
  · intro hall e he
    obtain ⟨hmem, hother⟩ := h.mem_erase.mp he
    exact hall e hmem hother

theorem itemGUID_vote (r : Roll) (guid : PlayerGuid) (choice : UInt8) :
    (r.vote guid choice).itemGUID = r.itemGUID := by
  unfold vote
  split_ifs <;> rfl

theorem sorted_vote (h : PlayerVote.Sorted r.playerVote) (guid : PlayerGuid) (choice : UInt8) :
    PlayerVote.Sorted (r.vote guid choice).playerVote := by
  unfold vote
  split_ifs
  · exact (h.set guid PASS).1
  · exact (h.set guid NEED).1
  · exact (h.set guid GREED).1
  · exact (h.set guid DISENCHANT).1
  · exact h

theorem foldl_addPlayer (members : List (PlayerGuid × Bool)) (r : Roll)
    (h : PlayerVote.Sorted r.playerVote) :
    (members.foldl addPlayer r).itemGUID = r.itemGUID ∧
      PlayerVote.Sorted (members.foldl addPlayer r).playerVote := by
  induction members generalizing r with
  | nil => exact ⟨rfl, h⟩
  | cons member members ih =>
    obtain ⟨guid, passes⟩ := member
    cases passes with
    | true => exact ih (r.addPlayer (guid, true)) (h.set guid PASS).1
    | false => exact ih (r.addPlayer (guid, false)) (h.set guid NOT_EMITED_YET).1

/-- The roll could be decided, for everybody who is in it has voted, and is not. -/
def Hanging (r : Roll) : Prop := r.isValid = true ∧ r.Complete

end Roll

/-! ## 2. The loop of `RemoveMember` -/

namespace RollState

variable {s : RollState} {guid : PlayerGuid} {env : RollEnv}

/-- The votes of a roll are a map, and no two rolls are for the same item. -/
structure Tables (s : RollState) : Prop where
  sorted : ∀ r ∈ s.rollId, PlayerVote.Sorted r.playerVote
  distinct : (s.rollId.map Roll.itemGUID).Nodup

theorem countRollVote_of_absent {itemGUID : ℕ} {choice : UInt8}
    (h : ∀ r ∈ s.rollId, r.itemGUID = itemGUID → r.playerVote.get guid = none) :
    s.countRollVote env guid itemGUID choice = s := by
  have hnone : s.votesIn guid itemGUID = none := by
    rw [votesIn]
    cases hroll : s.getRoll itemGUID with
    | none => rfl
    | some i =>
      obtain ⟨hi, hfound, -⟩ := List.findIdx?_eq_some_iff_getElem.mp hroll
      rw [Bool.and_eq_true, beq_iff_eq] at hfound
      dsimp only
      rw [List.getElem?_eq_getElem hi]
      dsimp only
      rw [h _ (List.getElem_mem hi) hfound.1]
      rfl
  rw [countRollVote, hnone]

theorem Tables.replace {xs ys : List Roll} {r : Roll}
    (h : Tables { s with rollId := xs ++ r :: ys }) (guid : PlayerGuid) :
    Tables { s with rollId := xs ++ r.removePlayer guid :: ys } := by
  constructor
  · intro r' hr'
    rcases List.mem_append.mp hr' with hx | hr'
    · exact h.sorted r' (List.mem_append_left _ hx)
    rcases List.mem_cons.mp hr' with rfl | hy
    · rw [Roll.playerVote_removePlayer]
      exact (h.sorted r (by simp)).sublist List.eraseP_sublist
    · exact h.sorted r' (by simp [hy])
  · have hkeys : (xs ++ r.removePlayer guid :: ys).map Roll.itemGUID =
        (xs ++ r :: ys).map Roll.itemGUID := by
      simp [Roll.itemGUID_removePlayer]
    exact hkeys ▸ h.distinct

/-- **One round.**  The player is taken out of the roll, and the count that follows finds him no
more. -/
theorem Tables.removeVoteAt {xs ys : List Roll} {r : Roll}
    (h : Tables { s with rollId := xs ++ r :: ys }) :
    RollState.removeVoteAt env guid { s with rollId := xs ++ r :: ys } xs.length =
      { s with rollId := xs ++ r.removePlayer guid :: ys } := by
  have hsorted := h.sorted r (by simp)
  have hdistinct := h.distinct
  rw [List.map_append, List.map_cons, List.nodup_middle, List.nodup_cons] at hdistinct
  rw [RollState.removeVoteAt]
  dsimp only
  rw [List.getElem?_append_right le_rfl, Nat.sub_self, List.getElem?_cons_zero]
  dsimp only
  split
  · rename_i hnone
    rw [Roll.removePlayer_of_get (Option.isNone_iff_eq_none.mp hnone)]
  · rw [List.set_append_right _ _ le_rfl, Nat.sub_self, List.set_cons_zero]
    refine countRollVote_of_absent fun r' hr' hguid => ?_
    -- the only roll for the item is this one
    have hthis : r' = r.removePlayer guid := by
      by_contra hne
      refine hdistinct.1 (hguid ▸ ?_)
      rw [← List.map_append]
      refine List.mem_map_of_mem ?_
      rcases List.mem_append.mp hr' with hx | hr'
      · exact List.mem_append_left _ hx
      · exact List.mem_append_right _ ((List.mem_cons.mp hr').resolve_left hne)
    rw [hthis, Roll.playerVote_removePlayer]
    exact hsorted.get_erase

theorem Tables.removeVotes (h : s.Tables) :
    s.removeVotes env guid = { s with rollId := s.rollId.map (Roll.removePlayer · guid) } := by
  have hloop : ∀ ys xs : List Roll, Tables { s with rollId := xs ++ ys } →
      (List.range' xs.length ys.length).foldl (RollState.removeVoteAt env guid)
          { s with rollId := xs ++ ys } =
        { s with rollId := xs ++ ys.map (Roll.removePlayer · guid) } := by
    intro ys
    induction ys with
    | nil => exact fun xs _ => rfl
    | cons r ys ih =>
      intro xs hxs
      have hrest := hxs.replace guid
      rw [List.append_cons] at hrest
      rw [List.length_cons, List.range'_succ, List.foldl_cons, hxs.removeVoteAt]
      have hih := ih (xs ++ [r.removePlayer guid]) hrest
      rw [List.length_append, List.length_singleton, ← List.append_cons] at hih
      rw [hih, List.map_cons, ← List.append_cons]
  have hall := hloop s.rollId [] h
  rw [RollState.removeVotes, List.range_eq_range']
  exact hall

/-! ## 3. Rolls that are left hanging -/

/-- In no open roll everybody has voted. -/
def NoneHanging (s : RollState) : Prop := ∀ r ∈ s.rollId, ¬ r.Hanging

/-- In every open roll somebody other than the player has still to vote. -/
def OthersToVote (s : RollState) (guid : PlayerGuid) : Prop :=
  ∀ r ∈ s.rollId, r.isValid = true → ∃ e ∈ r.playerVote, e.1 ≠ guid ∧ e.2 = NOT_EMITED_YET

instance (s : RollState) (guid : PlayerGuid) : Decidable (s.OthersToVote guid) := by
  unfold OthersToVote
  infer_instance

theorem Tables.noneHanging_removeVotes (h : s.Tables) :
    (s.removeVotes env guid).NoneHanging ↔ s.OthersToVote guid := by
  rw [h.removeVotes, NoneHanging, OthersToVote]
  dsimp only
  rw [List.forall_mem_map]
  refine forall₂_congr fun r hr => ?_
  rw [Roll.Hanging, Roll.isValid, Roll.loot_removePlayer, ← Roll.isValid,
    Roll.complete_removePlayer (h.sorted r hr), not_and]
  refine imp_congr_right fun _ => ?_
  push Not
  rfl

/-! ## 4. The tables in a run -/

/-- The tables are as they should be, and the guid of the next item is that of no open roll. -/
structure Numbered (s : RollState) : Prop where
  tables : s.Tables
  below : ∀ r ∈ s.rollId, r.itemGUID < s.nextItemGuid

theorem Numbered.of_sublist {s' : RollState} (h : s.Numbered)
    (hrolls : s'.rollId.Sublist s.rollId) (hnext : s'.nextItemGuid = s.nextItemGuid) :
    s'.Numbered where
  tables :=
    ⟨fun r hr => h.tables.sorted r (hrolls.subset hr),
      h.tables.distinct.sublist (hrolls.map Roll.itemGUID)⟩
  below r hr := hnext ▸ h.below r (hrolls.subset hr)

theorem Numbered.of_keys {s' : RollState} (h : s.Numbered)
    (hkeys : s'.rollId.map Roll.itemGUID = s.rollId.map Roll.itemGUID)
    (hsorted : ∀ r ∈ s'.rollId, PlayerVote.Sorted r.playerVote)
    (hnext : s'.nextItemGuid = s.nextItemGuid) : s'.Numbered := by
  refine ⟨⟨hsorted, hkeys ▸ h.tables.distinct⟩, fun r hr => ?_⟩
  have hmem := List.mem_map_of_mem (f := Roll.itemGUID) hr
  rw [hkeys] at hmem
  obtain ⟨r', hr', heq⟩ := List.mem_map.mp hmem
  rw [hnext, ← heq]
  exact h.below r' hr'

theorem nextItemGuid_storeWon (s : RollState) (env : RollEnv) (loot : ℕ) (itemSlot : UInt8)
    (guid : PlayerGuid) : (s.storeWon env loot itemSlot guid).nextItemGuid = s.nextItemGuid := by
  rw [storeWon]
  split <;> rfl

theorem nextItemGuid_settle (s : RollState) (env : RollEnv) (roll : Roll) (loot : ℕ) :
    (s.settle env roll loot).nextItemGuid = s.nextItemGuid := by
  rw [settle]
  split
  · split
    · rfl
    · dsimp only
      split
      · exact nextItemGuid_storeWon s env loot _ _
      · rfl
  split
  · split
    · rfl
    · dsimp only
      split
      · split
        · exact nextItemGuid_storeWon s env loot _ _
        · split <;> rfl
      · rfl
  · rfl

theorem Numbered.countTheRoll (h : s.Numbered) (env : RollEnv) (i : ℕ) :
    (s.countTheRoll env i).Numbered := by
  rw [RollState.countTheRoll]
  cases s.rollId[i]? with
  | none => exact h
  | some roll =>
    dsimp only
    cases roll.loot with
    | none => exact h.of_sublist (List.eraseIdx_sublist ..) rfl
    | some loot =>
      exact h.of_sublist (List.eraseIdx_sublist ..) (nextItemGuid_settle s env roll loot)

theorem getElem?_of_votesIn {itemGUID i : ℕ} {roll : Roll}
    (h : s.votesIn guid itemGUID = some (i, roll)) : s.rollId[i]? = some roll := by
  rw [votesIn] at h
  split at h
  · cases h
  split at h
  · cases h
  rename_i hroll
  split_ifs at h
  cases h
  exact hroll

theorem Numbered.countRollVote (h : s.Numbered) (env : RollEnv) (itemGUID : ℕ) (choice : UInt8) :
    (s.countRollVote env guid itemGUID choice).Numbered := by
  rw [RollState.countRollVote]
  cases hvotes : s.votesIn guid itemGUID with
  | none => exact h
  | some found =>
    obtain ⟨i, roll⟩ := found
    have hroll := getElem?_of_votesIn hvotes
    have hset : Numbered { s with rollId := s.rollId.set i (roll.vote guid choice) } := by
      refine h.of_keys ?_ (fun r hr => ?_) rfl
      · rw [List.map_set, Roll.itemGUID_vote]
        refine List.ext_getElem? fun j => ?_
        rw [List.getElem?_set, List.getElem?_map, List.length_map]
        split
        · rename_i hij
          obtain ⟨hi, -⟩ := List.getElem?_eq_some_iff.mp hroll
          rw [if_pos hi, ← hij, hroll]
          rfl
        · rfl
      · rcases List.mem_or_eq_of_mem_set hr with hr | rfl
        · exact h.tables.sorted r hr
        · exact Roll.sorted_vote (h.tables.sorted roll (List.mem_of_getElem? hroll)) guid choice
    dsimp only
    split
    · exact (hset.countTheRoll env i).of_sublist (List.Sublist.refl _) rfl
    · exact hset

theorem Numbered.endRoll (h : s.Numbered) (env : RollEnv) (loot fuel : ℕ) :
    (s.endRoll env loot fuel).Numbered := by
  induction fuel generalizing s with
  | zero => exact h
  | succ fuel ih =>
    rw [RollState.endRoll]
    split
    · exact h
    · exact ih (h.countTheRoll env _)

theorem Numbered.startRoll (h : s.Numbered) (loot : ℕ) (itemSlot : UInt8)
    (members : List (PlayerGuid × Bool)) : (s.startRoll loot itemSlot members).Numbered := by
  have hnext : Numbered { s with nextItemGuid := s.nextItemGuid + 1 } :=
    ⟨⟨h.tables.sorted, h.tables.distinct⟩, fun r hr => Nat.lt_succ_of_lt (h.below r hr)⟩
  obtain ⟨hguid, hsorted⟩ := Roll.foldl_addPlayer members
    (Roll.new s.nextItemGuid loot itemSlot) List.Pairwise.nil
  rw [RollState.startRoll]
  dsimp only
  split
  · refine ⟨⟨fun r hr => ?_, ?_⟩, fun r hr => ?_⟩
    · rcases List.mem_append.mp hr with hr | hr
      · exact h.tables.sorted r hr
      · rw [List.mem_singleton.mp hr]
        exact hsorted
    · change ((s.rollId ++ [_]).map Roll.itemGUID).Nodup
      rw [List.map_append, List.map_singleton, hguid]
      refine List.Nodup.append h.tables.distinct (List.nodup_singleton _) ?_
      rw [List.disjoint_singleton]
      intro hmem
      obtain ⟨r, hr, heq⟩ := List.mem_map.mp hmem
      exact absurd heq (Nat.ne_of_lt (h.below r hr))
    · rcases List.mem_append.mp hr with hr | hr
      · exact hnext.below r hr
      · rw [List.mem_singleton.mp hr, hguid]
        exact Nat.lt_succ_self _
  · exact hnext

theorem Numbered.step (h : s.Numbered) (e : RollEvent) : (s.step e).Numbered := by
  cases e with
  | start loot itemSlot members => exact h.startRoll loot itemSlot members
  | vote env guid itemGUID choice => exact h.countRollVote env itemGUID choice
  | removeMember env guid =>
    change (s.removeVotes env guid).Numbered
    rw [h.tables.removeVotes]
    refine h.of_keys ?_ (fun r hr => ?_) rfl
    · simp [Roll.itemGUID_removePlayer]
    · obtain ⟨roll, hroll, rfl⟩ := List.mem_map.mp hr
      rw [Roll.playerVote_removePlayer]
      exact (h.tables.sorted roll hroll).sublist List.eraseP_sublist
  | endRoll env loot => exact h.endRoll env loot _
  | deleteLoot loot =>
    refine h.of_keys ?_ (fun r hr => ?_) rfl
    · change (s.rollId.map _).map _ = _
      rw [List.map_map]
      refine List.map_congr_left fun r _ => ?_
      rw [Function.comp_apply]
      split <;> rfl
    · obtain ⟨roll, hroll, rfl⟩ := List.mem_map.mp hr
      split
      · exact h.tables.sorted roll hroll
      · exact h.tables.sorted roll hroll
  | loot loot change => exact h.of_sublist (List.Sublist.refl _) rfl
  | disband => exact h.of_sublist (List.nil_sublist _) rfl

/-- **The tables of a run.**  Whatever happens to the rolls, in every state the votes of each are a
map, and no two are for the same item. -/
theorem run_tables (loots : ℕ → Looting.Loot) (evs : List RollEvent) :
    States step Tables (idle loots) evs := by
  have hidle : (idle loots).Numbered :=
    ⟨⟨fun _ hr => (nomatch hr), List.nodup_nil⟩, fun _ hr => (nomatch hr)⟩
  exact (States.of_steps (I := Numbered) (fun _ e hs _ => hs.step e) hidle
    (Steps.of_forall (C := fun _ _ => True) (fun _ _ => trivial) evs)).imp fun _ hs => hs.tables

end RollState

/-! ## 5. The group and its rolls -/

structure RollingGroup where
  members : GroupState
  rolls : RollState

namespace RollingGroup

variable {s : RollingGroup} {g : Group}

/-- `RemoveMember`: with members enough the rolls are gone through, and `Disband`, at once or in the
end, drops them. -/
def removeMember (s : RollingGroup) (env : RollEnv) (guid : ObjectGuid) (method : RemoveMethod)
    (sight : LfgSight) : RollingGroup :=
  match s.members.group with
  | none => s
  | some g =>
    if g.isLFGGroup && method = GROUP_REMOVEMETHOD_KICK then s
    else
      let members := s.members.removeMember guid method sight
      if g.getMembersCount >
          (if g.isBGGroup || g.isLFGGroup || g.isBFGroup then 1 else 2) then
        let rolls := s.rolls.removeVotes env guid
        { members, rolls := if members.group.isNone then rolls.disband else rolls }
      else { members, rolls := s.rolls.disband }

def Ends (s : RollingGroup) (guid : ObjectGuid) (method : RemoveMethod) (sight : LfgSight) : Prop :=
  (s.members.removeMember guid method sight).group = none

/-- A kick out of a group of the dungeon finder is voted on, by a script; every other call removes
the member. -/
def Removes (g : Group) (method : RemoveMethod) : Prop :=
  ¬ (g.isLFGGroup = true ∧ method = GROUP_REMOVEMETHOD_KICK)

instance (g : Group) (method : RemoveMethod) : Decidable (Removes g method) :=
  inferInstanceAs (Decidable (¬ _))

theorem rolls_removeMember (hg : s.members.group = some g) {method : RemoveMethod}
    (hremoves : Removes g method) (env : RollEnv) (guid : ObjectGuid) (sight : LfgSight) :
    (s.Ends guid method sight ∧ (s.removeMember env guid method sight).rolls.rollId = []) ∨
      ¬ s.Ends guid method sight ∧
        (s.removeMember env guid method sight).rolls = s.rolls.removeVotes env guid := by
  have hmethod : ¬ (g.isLFGGroup && decide (method = GROUP_REMOVEMETHOD_KICK)) = true := by
    simpa [Removes] using hremoves
  rw [removeMember, hg]
  dsimp only
  rw [if_neg hmethod]
  by_cases hmany : g.getMembersCount >
      (if g.isBGGroup || g.isLFGGroup || g.isBFGroup then 1 else 2)
  · rw [if_pos hmany]
    by_cases hends : s.Ends guid method sight
    · refine Or.inl ⟨hends, ?_⟩
      rw [if_pos (Option.isNone_iff_eq_none.mpr hends)]
      rfl
    · refine Or.inr ⟨hends, ?_⟩
      rw [if_neg (mt Option.isNone_iff_eq_none.mp hends)]
  · rw [if_neg hmany]
    refine Or.inl ⟨?_, rfl⟩
    rw [Ends, GroupState.removeMember, hg]
    dsimp only
    rw [if_neg hmethod, if_neg hmany, GroupState.disband, hg]

/-- **The rolls a leaver leaves.**  After a member has been removed there is no open roll in which
everybody has voted exactly if that was the end of the group, or in every open roll somebody else
has still to vote. -/
theorem noneHanging_removeMember_iff (hg : s.members.group = some g) (htables : s.rolls.Tables)
    {method : RemoveMethod} (hremoves : Removes g method) (env : RollEnv) (guid : ObjectGuid)
    (sight : LfgSight) :
    (s.removeMember env guid method sight).rolls.NoneHanging ↔
      s.Ends guid method sight ∨ s.rolls.OthersToVote guid := by
  rcases rolls_removeMember hg hremoves env guid sight with ⟨hends, hrolls⟩ | ⟨hgoes, hrolls⟩
  · refine iff_of_true (fun r hr => ?_) (Or.inl hends)
    rw [hrolls] at hr
    cases hr
  · rw [hrolls, htables.noneHanging_removeVotes, or_iff_right hgoes]

def twoVoted : RollingGroup where
  members :=
    { group := some
        { leaderGuid := 1
          groupType := GROUPTYPE_NORMAL
          memberSlots := [⟨1, 0, 0⟩, ⟨2, 0, 0⟩, ⟨3, 0, 0⟩]
          subGroupsCounts := none
          bgGroup := false
          bfGroup := false }
      players := [⟨1, .this, .null⟩, ⟨2, .this, .null⟩, ⟨3, .this, .null⟩] }
  rolls := exec RollState.step (RollState.idle fun _ => RollState.oneItem)
    [.start 0 0 [(1, false), (2, false), (3, false)], .vote RollState.plainEnv 1 1 ROLL_NEED,
      .vote RollState.plainEnv 2 1 ROLL_GREED]

def outside : LfgSight := ⟨0, true, 0⟩

theorem tables_twoVoted : twoVoted.rolls.Tables :=
  (RollState.run_tables (fun _ => RollState.oneItem)
    [.start 0 0 [(1, false), (2, false), (3, false)], .vote RollState.plainEnv 1 1 ROLL_NEED,
      .vote RollState.plainEnv 2 1 ROLL_GREED]).exec

/-- If one of the two leaves, the third has still to vote. -/
theorem noneHanging_removeMember_twoVoted :
    (twoVoted.removeMember RollState.plainEnv 2 GROUP_REMOVEMETHOD_LEAVE
      outside).rolls.NoneHanging :=
  (noneHanging_removeMember_iff (g := _) rfl tables_twoVoted (by decide) RollState.plainEnv 2
    outside).mpr (Or.inr (by decide +kernel))

/-- The third leaves, and the roll of the two who have voted is not decided. -/
theorem removeMember_leaves_hanging :
    ¬ ∀ (s : RollingGroup) (g : Group), s.members.group = some g → s.rolls.Tables →
      ∀ method, Removes g method → ∀ env guid sight,
        (s.removeMember env guid method sight).rolls.NoneHanging := by
  intro hall
  have hnone := hall twoVoted _ rfl tables_twoVoted GROUP_REMOVEMETHOD_LEAVE (by decide)
    RollState.plainEnv 3 outside
  have hrolls : (twoVoted.removeMember RollState.plainEnv 3 GROUP_REMOVEMETHOD_LEAVE
      outside).rolls.rollId.map (fun r => (r.loot, r.playerVote)) =
        [(some 0, [(1, NEED), (2, GREED)])] := by
    decide +kernel
  obtain ⟨r, hr, heq⟩ := List.mem_map.mp (hrolls ▸ List.mem_singleton_self _)
  obtain ⟨hloot, hvotes⟩ := Prod.mk.inj heq
  refine hnone r hr ⟨by rw [Roll.isValid, hloot]; rfl, fun e he => ?_⟩
  rw [hvotes] at he
  revert e
  decide

end RollingGroup

end FunPvp.Groups
