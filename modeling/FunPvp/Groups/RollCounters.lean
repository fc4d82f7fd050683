/-
# The numbers of a roll and its votes

`totalNeed`, `totalGreed`, `totalPass` and `totalPlayersRolling` are kept beside the map of votes.
`CountRollVote` adds one for every vote it is sent and `RemoveMember` takes one off for the vote it
finds in the map, so they agree as long as nobody votes who has voted already. Then a roll is
decided by a vote only when there is nobody left to vote.
-/
import FunPvp.Lib.Counters
import FunPvp.Groups.Roll

namespace FunPvp.Groups

open FunPvp.Lib RollVote

/-! ## 1. The map of votes -/

namespace PlayerVote

variable {votes : PlayerVote} {guid : PlayerGuid} {v v' : RollVote}

/-- The guids come in order, each once. -/
def Sorted (votes : PlayerVote) : Prop := votes.Pairwise fun e e' => e.1 < e'.1

theorem get_cons_of_ne {e : PlayerGuid × RollVote} (h : e.1 ≠ guid) :
    get (e :: votes) guid = get votes guid := by
  rw [get, get, List.find?_cons_of_neg (by simpa using h)]

theorem get_spec (h : votes.get guid = some v) :
    ∃ l₁ l₂, votes = l₁ ++ (guid, v) :: l₂ ∧ votes.erase guid = l₁ ++ l₂ := by
  induction votes with
  | nil => cases h
  | cons e votes ih =>
    by_cases he : e.1 = guid
    · obtain ⟨guid', w⟩ := e
      obtain rfl : guid' = guid := he
      have hw : w = v := by simpa [get] using h
      exact ⟨[], votes, by rw [hw]; rfl, by simp [erase]⟩
    · rw [get_cons_of_ne he] at h
      obtain ⟨l₁, l₂, hvotes, herase⟩ := ih h
      refine ⟨e :: l₁, l₂, by rw [hvotes]; rfl, ?_⟩
      rw [erase, List.eraseP_cons_of_neg (by simpa using he)]
      exact congrArg (e :: ·) herase

theorem Sorted.set (h : Sorted votes) (guid : PlayerGuid) (v : RollVote) :
    Sorted (PlayerVote.set guid v votes) ∧
      ∀ e ∈ PlayerVote.set guid v votes, e.1 = guid ∨ ∃ e' ∈ votes, e'.1 = e.1 := by
  induction votes with
  | nil => exact ⟨List.pairwise_singleton _ _, by simp [PlayerVote.set]⟩
  | cons first votes ih =>
    obtain ⟨hfirst, hrest⟩ := List.pairwise_cons.mp h
    rw [PlayerVote.set]
    split
    · rename_i heq
      refine ⟨List.pairwise_cons.mpr ⟨fun e he => heq ▸ hfirst e he, hrest⟩, fun e he => ?_⟩
      rcases List.mem_cons.mp he with rfl | he
      · exact Or.inl rfl
      · exact Or.inr ⟨e, List.mem_cons_of_mem _ he, rfl⟩
    split
    · rename_i hlt
      refine ⟨List.pairwise_cons.mpr ⟨fun e he => ?_, h⟩, fun e he => ?_⟩
      · rcases List.mem_cons.mp he with rfl | he
        · exact hlt
        · exact UInt64.lt_trans hlt (hfirst e he)
      · rcases List.mem_cons.mp he with rfl | he
        · exact Or.inl rfl
        · exact Or.inr ⟨e, he, rfl⟩
    · rename_i hne hnlt
      obtain ⟨hsorted, hkeys⟩ := ih hrest
      refine ⟨List.pairwise_cons.mpr ⟨fun e he => ?_, hsorted⟩, fun e he => ?_⟩
      · rcases hkeys e he with hkey | ⟨e', he', hkey⟩
        · rw [hkey]
          exact UInt64.lt_of_le_of_ne (UInt64.not_lt.mp hnlt) hne
        · rw [← hkey]
          exact hfirst e' he'
      · rcases List.mem_cons.mp he with rfl | he
        · exact Or.inr ⟨e, List.mem_cons_self, rfl⟩
        · rcases hkeys e he with hkey | ⟨e', he', hkey⟩
          · exact Or.inl hkey
          · exact Or.inr ⟨e', List.mem_cons_of_mem _ he', hkey⟩

theorem Sorted.set_of_get (h : Sorted votes) (hget : votes.get guid = some v) (v' : RollVote) :
    ∃ l₁ l₂, votes = l₁ ++ (guid, v) :: l₂ ∧
      PlayerVote.set guid v' votes = l₁ ++ (guid, v') :: l₂ := by
  induction votes with
  | nil => cases hget
  | cons e votes ih =>
    obtain ⟨hfirst, hrest⟩ := List.pairwise_cons.mp h
    by_cases he : e.1 = guid
    · obtain ⟨guid', w⟩ := e
      obtain rfl : guid' = guid := he
      have hw : w = v := by simpa [get] using hget
      exact ⟨[], votes, by rw [hw]; rfl, by simp [PlayerVote.set]⟩
    · rw [get_cons_of_ne he] at hget
      obtain ⟨l₁, l₂, hvotes, hset⟩ := ih hrest hget
      have hlt : e.1 < guid := hfirst (guid, v) (by rw [hvotes]; simp)
      refine ⟨e :: l₁, l₂, by rw [hvotes]; rfl, ?_⟩
      rw [PlayerVote.set, if_neg he, if_neg (UInt64.lt_asymm hlt), hset]
      rfl

theorem set_perm_cons (hget : votes.get guid = none) (v : RollVote) :
    (PlayerVote.set guid v votes).Perm ((guid, v) :: votes) := by
  induction votes with
  | nil => exact List.Perm.refl _
  | cons e votes ih =>
    have he : e.1 ≠ guid := by
      rw [get, Option.map_eq_none_iff, List.find?_eq_none] at hget
      simpa using hget e List.mem_cons_self
    rw [get_cons_of_ne he] at hget
    rw [PlayerVote.set, if_neg he]
    split
    · exact List.Perm.refl _
    · exact ((ih hget).cons e).trans (List.Perm.swap _ _ _)

end PlayerVote

/-! ## 2. The numbers -/

namespace Roll

variable {r : Roll} {guid : PlayerGuid} {v : RollVote}

def votes (r : Roll) (kind : RollVote → Bool) : ℕ := r.playerVote.countP fun e => kind e.2

/-- The four numbers are those of the map. -/
structure Agrees (r : Roll) : Prop where
  need : r.totalNeed.toNat = r.votes fun v => v = NEED
  greed : r.totalGreed.toNat = r.votes fun v => v = GREED || v = DISENCHANT
  pass : r.totalPass.toNat = r.votes fun v => v = PASS
  rolling : r.totalPlayersRolling.toNat = r.votes fun v => v ≠ NOT_VALID

def Complete (r : Roll) : Prop := ∀ e ∈ r.playerVote, e.2 ≠ NOT_EMITED_YET

/-- Agreement as the steps keep it: modulo 256, over a map of fewer players than that. -/
structure Kept (r : Roll) : Prop where
  sorted : PlayerVote.Sorted r.playerVote
  small : r.playerVote.length < 256
  need : Counts (fun e => e.2 = NEED) r.playerVote r.totalNeed
  greed : Counts (fun e => e.2.isGreedy) r.playerVote r.totalGreed
  pass : Counts (fun e => e.2 = PASS) r.playerVote r.totalPass
  rolling : Counts (fun e => e.2 ≠ NOT_VALID) r.playerVote r.totalPlayersRolling

theorem Kept.agrees (h : r.Kept) : r.Agrees := by
  have hlt : ∀ p : PlayerGuid × RollVote → Bool, r.playerVote.countP p < 256 :=
    fun p => lt_of_le_of_lt List.countP_le_length h.small
  exact
    { need := h.need.toNat_eq (hlt _)
      greed := h.greed.toNat_eq (hlt _)
      pass := h.pass.toNat_eq (hlt _)
      rolling := h.rolling.toNat_eq (hlt _) }

/-- **When everybody has voted.**  The votes of each kind together are those of the players
rolling only if no vote is outstanding. -/
theorem Agrees.complete (h : r.Agrees) (hall : r.allIn = true) : r.Complete := by
  intro e he hout
  have hsum : (r.votes fun v => v = PASS) + (r.votes fun v => v = NEED) +
      (r.votes fun v => v = GREED || v = DISENCHANT) + (r.votes fun v => v = NOT_EMITED_YET) =
      r.votes fun v => v ≠ NOT_VALID := by
    rw [votes, votes, votes, votes, votes]
    generalize r.playerVote = l
    induction l with
    | nil => rfl
    | cons e l ih =>
      simp only [List.countP_cons]
      rcases e with ⟨guid, v⟩
      cases v <;> simp at ih ⊢ <;> omega
  have hpos : 0 < r.votes fun v => v = NOT_EMITED_YET :=
    List.countP_pos_iff.mpr ⟨e, he, by simpa using hout⟩
  rw [allIn, decide_eq_true_eq, h.pass, h.need, h.greed, h.rolling] at hall
  omega

/-! ## 3. What each function keeps -/

theorem Kept.vote (h : r.Kept) {choice : UInt8} (hget : r.playerVote.get guid = some v)
    (hfirst : choice < MAX_ROLL_TYPE → v = NOT_EMITED_YET) : (r.vote guid choice).Kept := by
  have hset : ∀ v', ∃ l₁ l₂, r.playerVote = l₁ ++ (guid, v) :: l₂ ∧
      PlayerVote.set guid v' r.playerVote = l₁ ++ (guid, v') :: l₂ ∧
      (l₁ ++ (guid, v') :: l₂).length < 256 ∧ PlayerVote.Sorted (l₁ ++ (guid, v') :: l₂) := by
    intro v'
    obtain ⟨l₁, l₂, hvotes, hset⟩ := h.sorted.set_of_get hget v'
    have hsmall := h.small
    have hsorted := (h.sorted.set guid v').1
    rw [hvotes] at hsmall
    rw [hset] at hsorted
    exact ⟨l₁, l₂, hvotes, hset, by simpa using hsmall, hsorted⟩
  rw [Roll.vote]
  split
  · rename_i hchoice
    obtain rfl := hfirst (by rw [hchoice]; decide)
    obtain ⟨l₁, l₂, hvotes, heq, hsmall, hsorted⟩ := hset PASS
    obtain ⟨-, -, hneed, hgreed, hpass, hrolling⟩ := h
    rw [hvotes] at hneed hgreed hpass hrolling
    rw [heq]
    exact ⟨hsorted, hsmall, hneed.replace_of_eq rfl, hgreed.replace_of_eq rfl,
      hpass.replace rfl rfl, hrolling.replace_of_eq rfl⟩
  split
  · rename_i hchoice
    obtain rfl := hfirst (by rw [hchoice]; decide)
    obtain ⟨l₁, l₂, hvotes, heq, hsmall, hsorted⟩ := hset NEED
    obtain ⟨-, -, hneed, hgreed, hpass, hrolling⟩ := h
    rw [hvotes] at hneed hgreed hpass hrolling
    rw [heq]
    exact ⟨hsorted, hsmall, hneed.replace rfl rfl, hgreed.replace_of_eq rfl,
      hpass.replace_of_eq rfl, hrolling.replace_of_eq rfl⟩
  split
  · rename_i hchoice
    obtain rfl := hfirst (by rw [hchoice]; decide)
    obtain ⟨l₁, l₂, hvotes, heq, hsmall, hsorted⟩ := hset GREED
    obtain ⟨-, -, hneed, hgreed, hpass, hrolling⟩ := h
    rw [hvotes] at hneed hgreed hpass hrolling
    rw [heq]
    exact ⟨hsorted, hsmall, hneed.replace_of_eq rfl, hgreed.replace rfl rfl,
      hpass.replace_of_eq rfl, hrolling.replace_of_eq rfl⟩
  split
  · rename_i hchoice
    obtain rfl := hfirst (by rw [hchoice]; decide)
    obtain ⟨l₁, l₂, hvotes, heq, hsmall, hsorted⟩ := hset DISENCHANT
    obtain ⟨-, -, hneed, hgreed, hpass, hrolling⟩ := h
    rw [hvotes] at hneed hgreed hpass hrolling
    rw [heq]
    exact ⟨hsorted, hsmall, hneed.replace_of_eq rfl, hgreed.replace rfl rfl,
      hpass.replace_of_eq rfl, hrolling.replace_of_eq rfl⟩
  · exact h

theorem Kept.removePlayer (h : r.Kept) (guid : PlayerGuid) : (r.removePlayer guid).Kept := by
  rw [Roll.removePlayer]
  cases hget : r.playerVote.get guid with
  | none => exact h
  | some v =>
    obtain ⟨l₁, l₂, hvotes, herase⟩ := PlayerVote.get_spec hget
    obtain ⟨hsorted, hsmall, hneed, hgreed, hpass, hrolling⟩ := h
    have hsub : (l₁ ++ l₂).Sublist r.playerVote := by
      rw [hvotes]
      exact (List.Sublist.refl l₁).append (List.sublist_cons_self _ l₂)
    have hsorted' : PlayerVote.Sorted (l₁ ++ l₂) := hsorted.sublist hsub
    have hsmall' : (l₁ ++ l₂).length < 256 := lt_of_le_of_lt hsub.length_le hsmall
    rw [hvotes] at hneed hgreed hpass hrolling
    dsimp only
    cases v with
    | PASS =>
      simp only [reduceCtorEq, decide_false, Bool.or_self, Bool.false_eq_true, if_false, ne_eq,
        not_false_eq_true, if_true]
      rw [herase]
      exact ⟨hsorted', hsmall', hneed.remove_of_neg rfl, hgreed.remove_of_neg rfl,
        hpass.remove rfl, hrolling.remove rfl⟩
    | NEED =>
      simp only [reduceCtorEq, decide_false, Bool.or_self, Bool.false_eq_true, if_false, ne_eq,
        not_false_eq_true, if_true]
      rw [herase]
      exact ⟨hsorted', hsmall', hneed.remove rfl, hgreed.remove_of_neg rfl,
        hpass.remove_of_neg rfl, hrolling.remove rfl⟩
    | GREED =>
      simp only [reduceCtorEq, decide_true, decide_false, Bool.or_false, ne_eq,
        not_false_eq_true, if_true]
      rw [herase]
      exact ⟨hsorted', hsmall', hneed.remove_of_neg rfl, hgreed.remove rfl,
        hpass.remove_of_neg rfl, hrolling.remove rfl⟩
    | DISENCHANT =>
      simp only [reduceCtorEq, decide_true, decide_false, Bool.or_true, ne_eq,
        not_false_eq_true, if_true]
      rw [herase]
      exact ⟨hsorted', hsmall', hneed.remove_of_neg rfl, hgreed.remove rfl,
        hpass.remove_of_neg rfl, hrolling.remove rfl⟩
    | NOT_EMITED_YET =>
      simp only [reduceCtorEq, decide_false, Bool.or_self, Bool.false_eq_true, if_false, ne_eq,
        not_false_eq_true, if_true]
      rw [herase]
      exact ⟨hsorted', hsmall', hneed.remove_of_neg rfl, hgreed.remove_of_neg rfl,
        hpass.remove_of_neg rfl, hrolling.remove rfl⟩
    | NOT_VALID =>
      simp only [reduceCtorEq, decide_false, Bool.or_self, Bool.false_eq_true, if_false, ne_eq,
        not_true_eq_false]
      rw [herase]
      exact ⟨hsorted', hsmall', hneed.remove_of_neg rfl, hgreed.remove_of_neg rfl,
        hpass.remove_of_neg rfl, hrolling.remove_of_neg rfl⟩

theorem Kept.addPlayer (h : r.Kept) (passes : Bool) (hnew : r.playerVote.get guid = none)
    (hsmall : r.playerVote.length + 1 < 256) :
    (r.addPlayer (guid, passes)).Kept ∧
      (r.addPlayer (guid, passes)).playerVote.length = r.playerVote.length + 1 ∧
      ∀ e ∈ (r.addPlayer (guid, passes)).playerVote,
        e.1 = guid ∨ ∃ e' ∈ r.playerVote, e'.1 = e.1 := by
  have hvote : ∀ v, (PlayerVote.set guid v r.playerVote).Perm ((guid, v) :: r.playerVote) :=
    PlayerVote.set_perm_cons hnew
  obtain ⟨hsorted, -, hneed, hgreed, hpass, hrolling⟩ := h
  cases passes with
  | true =>
    have hperm := (hvote PASS).symm
    refine ⟨⟨(hsorted.set guid PASS).1, ?_, ?_, ?_, ?_, ?_⟩, ?_, (hsorted.set guid PASS).2⟩
    · exact lt_of_eq_of_lt hperm.length_eq.symm hsmall
    · exact (hneed.cons_of_neg rfl).perm hperm
    · exact (hgreed.cons_of_neg rfl).perm hperm
    · exact (hpass.cons rfl).perm hperm
    · exact (hrolling.cons rfl).perm hperm
    · exact hperm.length_eq.symm
  | false =>
    have hperm := (hvote NOT_EMITED_YET).symm
    refine ⟨⟨(hsorted.set guid NOT_EMITED_YET).1, ?_, ?_, ?_, ?_, ?_⟩, ?_,
      (hsorted.set guid NOT_EMITED_YET).2⟩
    · exact lt_of_eq_of_lt hperm.length_eq.symm hsmall
    · exact (hneed.cons_of_neg rfl).perm hperm
    · exact (hgreed.cons_of_neg rfl).perm hperm
    · exact (hpass.cons_of_neg rfl).perm hperm
    · exact (hrolling.cons rfl).perm hperm
    · exact hperm.length_eq.symm

theorem Kept.start (itemGUID loot : ℕ) (itemSlot : UInt8) {members : List (PlayerGuid × Bool)}
    (hnodup : (members.map Prod.fst).Nodup) (hsmall : members.length < 256) :
    (members.foldl Roll.addPlayer (Roll.new itemGUID loot itemSlot)).Kept := by
  have hall : ∀ (members : List (PlayerGuid × Bool)) (r : Roll), r.Kept →
      (members.map Prod.fst).Nodup → (∀ e ∈ r.playerVote, e.1 ∉ members.map Prod.fst) →
      r.playerVote.length + members.length < 256 →
      (members.foldl Roll.addPlayer r).Kept := by
    intro members
    induction members with
    | nil => exact fun r h _ _ _ => h
    | cons member members ih =>
      intro r h hnodup hnew hsmall
      obtain ⟨guid, passes⟩ := member
      rw [List.map_cons, List.nodup_cons] at hnodup
      rw [List.length_cons] at hsmall
      have hget : r.playerVote.get guid = none := by
        rw [PlayerVote.get, Option.map_eq_none_iff, List.find?_eq_none]
        intro e he heq
        exact hnew e he (by rw [List.map_cons, beq_iff_eq.mp heq]; exact List.mem_cons_self)
      obtain ⟨hkept, hlength, hkeys⟩ := h.addPlayer passes hget (by omega)
      refine ih _ hkept hnodup.2 (fun e he hmem => ?_) (by rw [hlength]; omega)
      rcases hkeys e he with heq | ⟨e', he', heq⟩
      · exact hnodup.1 (heq ▸ hmem)
      · exact hnew e' he' (by rw [heq]; exact List.mem_cons_of_mem _ hmem)
  refine hall members _ ⟨List.Pairwise.nil, by simp [Roll.new], Counts.nil, Counts.nil, Counts.nil,
    Counts.nil⟩ hnodup (fun e he => by cases he) (by simpa [Roll.new] using hsmall)

end Roll

/-! ## 4. Runs -/

namespace RollState

variable {s : RollState} {guid : PlayerGuid}

/-- Every open roll keeps its numbers, and no roll has been decided by a vote too early. -/
structure Inv (s : RollState) : Prop where
  kept : ∀ r ∈ s.rollId, r.Kept
  complete : ∀ r ∈ s.decidedByVote, r.Complete

theorem Inv.of_subset (h : s.Inv) {s' : RollState} (hrolls : ∀ r ∈ s'.rollId, r ∈ s.rollId)
    (hdecided : s'.decidedByVote = s.decidedByVote) : s'.Inv :=
  ⟨fun r hr => h.kept r (hrolls r hr), hdecided ▸ h.complete⟩

theorem decidedByVote_storeWon (s : RollState) (env : RollEnv) (loot : ℕ) (itemSlot : UInt8)
    (guid : PlayerGuid) : (s.storeWon env loot itemSlot guid).decidedByVote = s.decidedByVote := by
  rw [storeWon]
  split <;> rfl

theorem decidedByVote_settle (s : RollState) (env : RollEnv) (roll : Roll) (loot : ℕ) :
    (s.settle env roll loot).decidedByVote = s.decidedByVote := by
  rw [settle]
  split
  · split
    · rfl
    · dsimp only
      split
      · exact decidedByVote_storeWon s env loot _ _
      · rfl
  split
  · split
    · rfl
    · dsimp only
      split
      · split
        · exact decidedByVote_storeWon s env loot _ _
        · split <;> rfl
      · rfl
  · rfl

theorem decidedByVote_countTheRoll (s : RollState) (env : RollEnv) (i : ℕ) :
    (s.countTheRoll env i).decidedByVote = s.decidedByVote := by
  rw [countTheRoll]
  cases s.rollId[i]? with
  | none => rfl
  | some roll =>
    dsimp only
    cases roll.loot with
    | none => rfl
    | some loot => exact decidedByVote_settle s env roll loot

theorem mem_rollId_countTheRoll {env : RollEnv} {i : ℕ} {r : Roll}
    (h : r ∈ (s.countTheRoll env i).rollId) : r ∈ s.rollId := by
  rw [countTheRoll] at h
  cases hroll : s.rollId[i]? with
  | none => rw [hroll] at h; exact h
  | some roll =>
    rw [hroll] at h
    dsimp only at h
    cases hloot : roll.loot with
    | none => rw [hloot] at h; exact List.mem_of_mem_eraseIdx h
    | some loot => rw [hloot] at h; exact List.mem_of_mem_eraseIdx h

theorem Inv.countTheRoll (h : s.Inv) (env : RollEnv) (i : ℕ) : (s.countTheRoll env i).Inv :=
  h.of_subset (fun _ hr => mem_rollId_countTheRoll hr) (decidedByVote_countTheRoll s env i)

theorem votesIn_spec {itemGUID i : ℕ} {roll : Roll} (h : s.votesIn guid itemGUID = some (i, roll)) :
    roll ∈ s.rollId ∧ ∃ v, roll.playerVote.get guid = some v := by
  rw [votesIn] at h
  cases hget : s.getRoll itemGUID with
  | none => rw [hget] at h; cases h
  | some j =>
    rw [hget] at h
    dsimp only at h
    cases hroll : s.rollId[j]? with
    | none => rw [hroll] at h; cases h
    | some roll' =>
      rw [hroll] at h
      dsimp only at h
      split at h
      · cases h
      split at h
      · cases h
      rename_i hvote _
      obtain ⟨rfl, rfl⟩ := Prod.mk.inj (Option.some.inj h)
      exact ⟨List.mem_of_getElem? hroll, Option.ne_none_iff_exists'.mp (by simpa using hvote)⟩

theorem Inv.countRollVote (h : s.Inv) (env : RollEnv) {itemGUID : ℕ} {choice : UInt8}
    (hfirst : ∀ i roll, s.votesIn guid itemGUID = some (i, roll) → choice < MAX_ROLL_TYPE →
      roll.playerVote.get guid = some NOT_EMITED_YET) :
    (s.countRollVote env guid itemGUID choice).Inv := by
  rw [RollState.countRollVote]
  cases hvotes : s.votesIn guid itemGUID with
  | none => exact h
  | some found =>
    obtain ⟨i, roll⟩ := found
    obtain ⟨hroll, v, hget⟩ := votesIn_spec hvotes
    have hkept : (roll.vote guid choice).Kept := by
      refine (h.kept roll hroll).vote hget fun hchoice => ?_
      exact Option.some.inj (hget.symm.trans (hfirst i roll hvotes hchoice))
    have hset : Inv { s with rollId := s.rollId.set i (roll.vote guid choice) } := by
      refine ⟨fun r hr => ?_, h.complete⟩
      rcases List.mem_or_eq_of_mem_set hr with hr | rfl
      · exact h.kept r hr
      · exact hkept
    dsimp only
    split
    · rename_i hall
      refine ⟨(hset.countTheRoll env i).kept, fun r hr => ?_⟩
      rcases List.mem_cons.mp hr with rfl | hr
      · exact hkept.agrees.complete hall
      · exact h.complete r hr
    · exact hset

theorem Inv.removeVotes (h : s.Inv) (env : RollEnv) (guid : PlayerGuid) :
    (s.removeVotes env guid).Inv := by
  rw [RollState.removeVotes]
  generalize List.range s.rollId.length = slots
  induction slots generalizing s with
  | nil => exact h
  | cons i slots ih =>
    refine ih ?_
    rw [removeVoteAt]
    cases hroll : s.rollId[i]? with
    | none => exact h
    | some roll =>
      dsimp only
      split
      · exact h
      have hset : Inv { s with rollId := s.rollId.set i (roll.removePlayer guid) } := by
        refine ⟨fun r hr => ?_, h.complete⟩
        rcases List.mem_or_eq_of_mem_set hr with hr | rfl
        · exact h.kept r hr
        · exact (h.kept roll (List.mem_of_getElem? hroll)).removePlayer guid
      exact hset.countRollVote env fun i roll _ hchoice => absurd hchoice (by decide)

theorem Inv.endRoll (h : s.Inv) (env : RollEnv) (loot fuel : ℕ) :
    (s.endRoll env loot fuel).Inv := by
  induction fuel generalizing s with
  | zero => exact h
  | succ fuel ih =>
    rw [RollState.endRoll]
    split
    · exact h
    · exact ih (h.countTheRoll env _)

/-- When a step is a roll of different players, or a first vote: who has a vote counted in a roll
has not voted in it, and the players found for a roll are fewer than 256 and each found once. -/
def Fresh (s : RollState) : RollEvent → Prop
  | .start _ _ members => (members.map Prod.fst).Nodup ∧ members.length < 256
  | .vote _ guid itemGUID choice =>
    ∀ found ∈ s.votesIn guid itemGUID, choice < MAX_ROLL_TYPE →
      found.2.playerVote.get guid = some NOT_EMITED_YET
  | _ => True

instance (s : RollState) (e : RollEvent) : Decidable (s.Fresh e) := by
  cases e <;> dsimp only [Fresh] <;> infer_instance

theorem Inv.step (h : s.Inv) (e : RollEvent) (hfresh : s.Fresh e) : (s.step e).Inv := by
  cases e with
  | start loot itemSlot members =>
    obtain ⟨hnodup, hsmall⟩ := hfresh
    change (s.startRoll loot itemSlot members).Inv
    rw [startRoll]
    dsimp only
    split
    · refine ⟨fun r hr => ?_, h.complete⟩
      rcases List.mem_append.mp hr with hr | hr
      · exact h.kept r hr
      · obtain rfl := List.mem_singleton.mp hr
        exact Roll.Kept.start s.nextItemGuid loot itemSlot hnodup hsmall
    · exact h.of_subset (fun r hr => hr) rfl
  | vote env guid itemGUID choice =>
    exact h.countRollVote env fun i roll hvotes hchoice => hfresh (i, roll) hvotes hchoice
  | removeMember env guid => exact h.removeVotes env guid
  | endRoll env loot => exact h.endRoll env loot _
  | deleteLoot loot =>
    refine ⟨fun r hr => ?_, h.complete⟩
    obtain ⟨roll, hroll, rfl⟩ := List.mem_map.mp hr
    have hkept := h.kept roll hroll
    split
    · exact ⟨hkept.sorted, hkept.small, hkept.need, hkept.greed, hkept.pass, hkept.rolling⟩
    · exact hkept
  | loot loot change => exact h.of_subset (fun r hr => hr) rfl
  | disband => exact h.of_subset (fun r hr => nomatch hr) rfl

def idle (loots : ℕ → Looting.Loot) : RollState where
  loots := loots
  rollId := []
  nextItemGuid := 1
  awards := []
  decidedByVote := []

/-- **The numbers of the rolls.**  In a run in which nobody votes twice in a roll, in every state
the numbers of every open roll are those of its votes, and whatever roll `CountRollVote` has
decided had no vote outstanding. -/
theorem run_agrees (loots : ℕ → Looting.Loot) {evs : List RollEvent}
    (h : Steps step Fresh (idle loots) evs) :
    States step (fun s => (∀ r ∈ s.rollId, r.Agrees) ∧ ∀ r ∈ s.decidedByVote, r.Complete)
      (idle loots) evs := by
  have hidle : (idle loots).Inv := ⟨fun _ hr => (nomatch hr), fun _ hr => (nomatch hr)⟩
  exact (States.of_steps (I := Inv) (fun _ e hs hfresh => hs.step e hfresh) hidle h).imp
    fun _ hs => ⟨fun r hr => (hs.kept r hr).agrees, hs.complete⟩

def oneItem : Looting.Loot :=
  { Looting.Loot.empty 0 with
    items := [Looting.LootItem.ofStoreItem ⟨1, false, []⟩ none 0 0]
    unlootedCount := 1 }

theorem fifty_drawn : 1 ≤ (50 : UInt8) ∧ (50 : UInt8) ≤ 100 := by decide

/-- Everybody draws the same number, is there and has room. -/
def plainEnv : RollEnv where
  number := fun _ => ⟨50, fifty_drawn⟩
  connected := fun _ => true
  canStore := fun _ => true

/-- Three roll for an item: one needs it, one is greedy, the third leaves. -/
theorem firstVotes_agree :
    let evs : List RollEvent :=
      [.start 0 0 [(1, false), (2, false), (3, false)], .vote plainEnv 1 1 ROLL_NEED,
        .removeMember plainEnv 3, .vote plainEnv 2 1 ROLL_GREED]
    Steps step Fresh (idle fun _ => oneItem) evs ∧
      States step (fun s => (∀ r ∈ s.rollId, r.Agrees) ∧ ∀ r ∈ s.decidedByVote, r.Complete)
        (idle fun _ => oneItem) evs := by
  have hfresh : Steps step Fresh (idle fun _ => oneItem)
      [.start 0 0 [(1, false), (2, false), (3, false)], .vote plainEnv 1 1 ROLL_NEED,
        .removeMember plainEnv 3, .vote plainEnv 2 1 ROLL_GREED] := by
    refine ⟨?_, ?_, ?_, ?_, trivial⟩ <;> decide +kernel
  exact ⟨hfresh, run_agrees _ hfresh⟩

/-- Two roll for an item, and the first sends his vote twice: the roll is decided while the other
has not voted. -/
theorem agrees_fails :
    ¬ ∀ evs, States step
      (fun s => (∀ r ∈ s.rollId, r.Agrees) ∧ ∀ r ∈ s.decidedByVote, r.Complete)
      (idle fun _ => oneItem) evs := by
  intro hall
  have hlast := (hall [.start 0 0 [(1, false), (2, false)], .vote plainEnv 1 1 ROLL_NEED,
    .vote plainEnv 1 1 ROLL_NEED]).exec.2
  have hdecided : (exec step (idle fun _ => oneItem) [.start 0 0 [(1, false), (2, false)],
      .vote plainEnv 1 1 ROLL_NEED, .vote plainEnv 1 1 ROLL_NEED]).decidedByVote.map
        Roll.playerVote = [[(1, NEED), (2, NOT_EMITED_YET)]] := by
    decide +kernel
  obtain ⟨r, hr, hvotes⟩ := List.mem_map.mp (hdecided ▸ List.mem_singleton_self _)
  have hcomplete := hlast r hr (2, NOT_EMITED_YET)
  rw [hvotes] at hcomplete
  exact hcomplete (by simp) rfl

end RollState

end FunPvp.Groups
