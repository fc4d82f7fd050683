/-
# The search for a full group

`FindNewGroups` looks for guids of the queue that make a full group with a new one. The loop and
the calls inside it take their candidates off one and the same list: when a call comes back
without a match, the candidates it has tried are gone. So the search keeps a guid as soon as it
goes together with those it has kept, and never takes that back: it finds what `firstFit` finds,
and no other group.

The cache changes nothing about that as long as it says what the check would say (`Consistent`).
-/
import FunPvp.DungeonFinding.Compatibility
import FunPvp.Lib.FirstFit

namespace FunPvp.DungeonFinding.LFGMgr

open FunPvp.Groups (ObjectGuid MAXGROUPSIZE)
open FunPvp.Lib
open LfgCompatibility LfgState

variable {s s' s'' : LFGMgr} {check : GuidList}

/-! ## 1. What a search leaves alone -/

/-- The two states agree about everything a check looks at. -/
structure Frame (s s' : LFGMgr) : Prop where
  data : s'.queueDataStore = s.queueDataStore
  state : s'.state = s.state
  oldState : s'.oldState = s.oldState
  connected : s'.connected = s.connected
  ignoring : s'.ignoring = s.ignoring

theorem Frame.refl (s : LFGMgr) : Frame s s := ⟨rfl, rfl, rfl, rfl, rfl⟩

theorem Frame.trans (h : Frame s s') (h' : Frame s' s'') : Frame s s'' :=
  ⟨h'.data.trans h.data, h'.state.trans h.state, h'.oldState.trans h.oldState,
    h'.connected.trans h.connected, h'.ignoring.trans h.ignoring⟩

theorem Frame.queueData (h : Frame s s') : s'.queueData = s.queueData := by
  funext guid
  rw [LFGMgr.queueData, LFGMgr.queueData, h.data]

theorem Frame.roles (h : Frame s s') : s'.roles = s.roles := by
  funext check
  rw [LFGMgr.roles, LFGMgr.roles, h.queueData]

theorem Frame.numPlayers (h : Frame s s') : s'.numPlayers = s.numPlayers := by
  funext check
  rw [LFGMgr.numPlayers, LFGMgr.numPlayers, h.roles]

theorem Frame.isLfgGroup (h : Frame s s') : s'.isLfgGroup = s.isLfgGroup := by
  funext guid
  rw [LFGMgr.isLfgGroup, LFGMgr.isLfgGroup, h.oldState]

theorem Frame.allQueued (h : Frame s s') : s'.allQueued = s.allQueued := by
  funext check
  rw [LFGMgr.allQueued, LFGMgr.allQueued, h.state]

theorem Frame.apart (h : Frame s s') : s'.Apart = s.Apart := by
  funext e e'
  rw [Apart, Apart, hasIgnore, hasIgnore, h.connected, h.ignoring]

theorem Frame.party (h : Frame s s') (hp : s.Party check) : s'.Party check where
  size := by rw [h.numPlayers]; exact hp.size
  somebody := by rw [h.roles]; exact hp.somebody
  apart := by rw [h.roles, h.apart]; exact hp.apart
  assignable := by rw [h.roles]; exact hp.assignable
  dungeon := by rw [h.queueData]; exact hp.dungeon

theorem Frame.compatible (h : Frame s s') (hc : s.Compatible check) : s'.Compatible check where
  queued := by rw [h.data]; exact hc.queued
  oneGroup := by rw [numLfgGroups, h.isLfgGroup]; exact hc.oneGroup
  party := fun hlength => h.party (hc.party hlength)

theorem Frame.symm (h : Frame s s') : Frame s' s :=
  ⟨h.data.symm, h.state.symm, h.oldState.symm, h.connected.symm, h.ignoring.symm⟩

theorem Frame.compatible_iff (h : Frame s s') : s'.Compatible check ↔ s.Compatible check :=
  ⟨h.symm.compatible, h.compatible⟩

theorem frame_setCompatibles (key : Finset ObjectGuid) (compatibles : LfgCompatibility) :
    Frame s (s.setCompatibles key compatibles) := ⟨rfl, rfl, rfl, rfl, rfl⟩

theorem frame_addProposal (proposal : LfgProposal) : Frame s (s.addProposal proposal) :=
  ⟨rfl, rfl, rfl, rfl, rfl⟩

theorem frame_markNotQueued (queues : GuidList) : Frame s (s.markNotQueued queues) := by
  induction queues generalizing s with
  | nil => exact Frame.refl s
  | cons guid queues ih =>
    have hone : Frame s ((s.removeFromNewQueue guid).removeFromCurrentQueue guid) :=
      ⟨rfl, rfl, rfl, rfl, rfl⟩
    exact hone.trans ih

theorem compatibleMapStore_markNotQueued (queues : GuidList) :
    (s.markNotQueued queues).compatibleMapStore = s.compatibleMapStore := by
  induction queues generalizing s with
  | nil => rfl
  | cons guid queues ih => exact ih

theorem frame_removeFromQueue {guid : ObjectGuid} (h : s.queueDataStore guid = none) :
    Frame s (s.removeFromQueue guid) := by
  refine ⟨?_, rfl, rfl, rfl, rfl⟩
  change Function.update s.queueDataStore guid none = s.queueDataStore
  rw [← h, Function.update_eq_self]

/-! ## 2. The cache -/

/-- What the compatibility of a list says about it. -/
inductive Agrees (s : LFGMgr) (check : GuidList) (compatibles : LfgCompatibility) : Prop
  | incompatible : compatibles < LFG_COMPATIBLES_WITH_LESS_PLAYERS → ¬ s.Compatible check →
      Agrees s check compatibles
  | lessPlayers : compatibles = LFG_COMPATIBLES_WITH_LESS_PLAYERS → s.Compatible check →
      s.numPlayers check ≠ MAXGROUPSIZE → Agrees s check compatibles
  | full : LFG_COMPATIBLES_WITH_LESS_PLAYERS < compatibles → s.Compatible check →
      s.numPlayers check = MAXGROUPSIZE → Agrees s check compatibles

variable {compatibles : LfgCompatibility}

theorem Agrees.perm {check' : GuidList}
    (hp : check.Perm check') (h : s.Agrees check compatibles) : s.Agrees check' compatibles := by
  have hplayers : s.numPlayers check' = s.numPlayers check := (roles_perm hp).length_eq.symm
  cases h with
  | incompatible hlt hnot => exact .incompatible hlt fun h => hnot (h.perm hp.symm)
  | lessPlayers heq hc hless => exact .lessPlayers heq (hc.perm hp) (hplayers ▸ hless)
  | full hlt hc hfull => exact .full hlt (hc.perm hp) (hplayers ▸ hfull)

theorem Agrees.frame (hf : Frame s s')
    (h : s.Agrees check compatibles) : s'.Agrees check compatibles := by
  cases h with
  | incompatible hlt hnot => exact .incompatible hlt fun h => hnot (hf.compatible_iff.mp h)
  | lessPlayers heq hc hless =>
    exact .lessPlayers heq (hf.compatible hc) (hf.numPlayers ▸ hless)
  | full hlt hc hfull => exact .full hlt (hf.compatible hc) (hf.numPlayers ▸ hfull)

/-- Every entry of the cache says what the check of the list would say. -/
def Consistent (s : LFGMgr) : Prop :=
  ∀ check : GuidList, check.Nodup → check ≠ [] →
    s.getCompatibles (concatenateGuids check) ≠ LFG_COMPATIBILITY_PENDING →
      s.Agrees check (s.getCompatibles (concatenateGuids check))

theorem Consistent.of_entries (h : s.Consistent)
    (hf : Frame s s') (hnodup : check.Nodup) (hagrees : s.Agrees check compatibles)
    (hentries : ∀ key, s'.getCompatibles key = s.getCompatibles key ∨
      s'.getCompatibles key = LFG_COMPATIBILITY_PENDING ∨
      key = concatenateGuids check ∧ s'.getCompatibles key = compatibles) : s'.Consistent := by
  intro list hlist hne hentry
  rcases hentries (concatenateGuids list) with heq | hnone | ⟨hkey, heq⟩
  · rw [heq] at hentry ⊢
    exact (h list hlist hne hentry).frame hf
  · exact absurd hnone hentry
  · rw [heq]
    exact (hagrees.perm (List.perm_of_nodup_nodup_toFinset_eq hnodup hlist hkey.symm)).frame hf

theorem getCompatibles_setCompatibles (key key' : Finset ObjectGuid)
    (compatibles : LfgCompatibility) :
    (s.setCompatibles key compatibles).getCompatibles key' =
      if key' = key then compatibles else s.getCompatibles key' := rfl

theorem Consistent.setCompatibles (h : s.Consistent)
    (hnodup : check.Nodup) (hagrees : s.Agrees check compatibles) :
    (s.setCompatibles (concatenateGuids check) compatibles).Consistent := by
  refine h.of_entries (frame_setCompatibles _ _) hnodup hagrees fun key => ?_
  rw [getCompatibles_setCompatibles]
  split
  · next hkey => exact .inr (.inr ⟨hkey, rfl⟩)
  · exact .inl rfl

/-! ## 3. The check of a list -/

/-- What a check is trusted with: it answers right, changes nothing a check looks at, and leaves
the cache consistent. -/
structure Trusted (s : LFGMgr) (check : GuidList) (compatibles : LfgCompatibility) (s' : LFGMgr) :
    Prop where
  agrees : s.Agrees check compatibles
  frame : Frame s s'
  consistent : s'.Consistent
  matched : s.allQueued check → LFG_COMPATIBLES_WITH_LESS_PLAYERS < compatibles →
    compatibles = LFG_COMPATIBLES_MATCH

theorem Checked.trusted {r : LfgCompatibility × LFGMgr} (h : Checked s check r)
    (hs : s.Consistent) (hnodup : check.Nodup) : Trusted s check r.1 r.2 := by
  cases h with
  | @missing guid hmem hnone =>
    dsimp only
    have hnot : ¬ s.Compatible check := by
      intro hc
      have := hc.queued guid hmem
      rw [hnone] at this
      cases this
    have hagrees : s.Agrees check LFG_COMPATIBILITY_PENDING := .incompatible (by decide) hnot
    have hframe := frame_removeFromQueue hnone
    refine ⟨hagrees, hframe, ?_, fun _ hlt => absurd hlt (by decide)⟩
    refine hs.of_entries hframe hnodup hagrees fun key => ?_
    by_cases hkey : ∃ other ∈ key, writtenIn guid other
    · exact .inr (.inl (if_pos hkey))
    · exact .inl (if_neg hkey)
  | @refused compatibles hlt hnot =>
    dsimp only
    have hagrees : s.Agrees check compatibles := .incompatible hlt hnot
    refine ⟨hagrees, frame_setCompatibles _ _, hs.setCompatibles hnodup hagrees, ?_⟩
    exact fun _ hgt => absurd (Nat.lt_trans hlt hgt) (lt_irrefl _)
  | lessPlayers hc hless =>
    dsimp only
    have hagrees : s.Agrees check LFG_COMPATIBLES_WITH_LESS_PLAYERS := .lessPlayers rfl hc hless
    refine ⟨hagrees, frame_setCompatibles _ _, hs.setCompatibles hnodup hagrees, ?_⟩
    exact fun _ hgt => absurd hgt (by decide)
  | badStates hc hfull hstates =>
    dsimp only
    have hagrees : s.Agrees check LFG_COMPATIBLES_BAD_STATES := .full (by decide) hc hfull
    refine ⟨hagrees, frame_setCompatibles _ _, hs.setCompatibles hnodup hagrees, ?_⟩
    intro hqueued
    rw [hqueued] at hstates
    cases hstates
  | @matched proposal hc hfull _ _ _ =>
    dsimp only
    have hagrees : s.Agrees check LFG_COMPATIBLES_MATCH := .full (by decide) hc hfull
    have hframe : Frame s ((s.markNotQueued check).addProposal proposal) :=
      (frame_markNotQueued check).trans (frame_addProposal proposal)
    refine ⟨hagrees, hframe.trans (frame_setCompatibles _ _), ?_, fun _ _ => rfl⟩
    have hcache : ((s.markNotQueued check).addProposal proposal).Consistent := by
      refine hs.of_entries hframe hnodup hagrees fun key => .inl ?_
      exact congrFun (compatibleMapStore_markNotQueued check) key
    exact hcache.setCompatibles hnodup (hagrees.frame hframe)

def Peopled (s : LFGMgr) (check : GuidList) : Prop :=
  ∀ guid ∈ check, ∀ data, s.queueDataStore guid = some data → data.roles ≠ []

theorem Peopled.length_le (h : s.Peopled check)
    (hdata : ∀ guid ∈ check, (s.queueDataStore guid).isSome) :
    check.length ≤ s.numPlayers check := by
  induction check with
  | nil => exact Nat.zero_le _
  | cons guid check ih =>
    have hrest := ih (fun g hg => h g (List.mem_cons_of_mem guid hg))
      fun g hg => hdata g (List.mem_cons_of_mem guid hg)
    obtain ⟨data, hguid⟩ := Option.isSome_iff_exists.mp (hdata guid List.mem_cons_self)
    have hroles := List.length_pos_iff.mpr (h guid List.mem_cons_self data hguid)
    rw [numPlayers_cons, queueData_eq hguid, List.length_cons]
    omega

theorem Peopled.frame (hf : Frame s s') (h : s.Peopled check) : s'.Peopled check := by
  rw [Peopled, hf.data]
  exact h

theorem Peopled.mono {check' : GuidList} (hsub : check' ⊆ check) (h : s.Peopled check) :
    s.Peopled check' := fun guid hguid => h guid (hsub hguid)

theorem checkCompatibility_trusted (hne : check ≠ []) (hnodup : check.Nodup)
    (hpeopled : s.Peopled check) (hs : s.Consistent) :
    Trusted s check (s.checkCompatibility check).1 (s.checkCompatibility check).2 := by
  induction check generalizing s with
  | nil => exact absurd rfl hne
  | cons front check ih =>
    rw [checkCompatibility]
    split
    · next hmany =>
      dsimp only
      refine ⟨.incompatible (by decide) fun hc => ?_, Frame.refl s, hs,
        fun _ hgt => absurd hgt (by decide)⟩
      have hlength := hpeopled.length_le hc.queued
      have : MAXGROUPSIZE = 5 := rfl
      have hsize := (hc.party (by rw [List.length_cons]; omega)).size
      rw [List.length_cons] at hlength
      omega
    · next hmany =>
      split
      · next hseveral =>
        have hchild := ih (List.ne_nil_of_length_pos (by omega)) hnodup.of_cons
          (hpeopled.mono (List.subset_cons_self front check)) hs
        generalize s.checkCompatibility check = r at hchild
        obtain ⟨child, s₁⟩ := r
        dsimp only at hchild ⊢
        split
        · next hlt =>
          -- what is not compatible stays so with one more
          have hnot : ¬ s.Compatible (front :: check) := by
            intro hc
            have htail : s.Compatible check := by
              refine hc.tail fun hnil => ?_
              have := (hpeopled.mono (List.subset_cons_self front check)).length_le
                fun g hg => hc.queued g (List.mem_cons_of_mem front hg)
              rw [numPlayers, hnil, List.length_nil] at this
              omega
            cases hchild.agrees with
            | incompatible _ hnot => exact hnot htail
            | lessPlayers heq _ _ =>
              rw [heq] at hlt
              exact absurd hlt (by decide)
            | full hgt _ _ => exact absurd (Nat.lt_trans hlt hgt) (lt_irrefl _)
          have hagrees : s.Agrees (front :: check) child := .incompatible hlt hnot
          refine ⟨hagrees, hchild.frame.trans (frame_setCompatibles _ _),
            hchild.consistent.setCompatibles hnodup (hagrees.frame hchild.frame), ?_⟩
          exact fun _ hgt => absurd (Nat.lt_trans hlt hgt) (lt_irrefl _)
        · have hown := (checkPlayers_checked (s := s₁) hne).trusted hchild.consistent hnodup
          refine ⟨hown.agrees.frame hchild.frame.symm, hchild.frame.trans hown.frame,
            hown.consistent, ?_⟩
          rw [← hchild.frame.allQueued]
          exact hown.matched
      · exact (checkPlayers_checked hne).trusted hs hnodup

theorem less_ne_match : LFG_COMPATIBLES_WITH_LESS_PLAYERS ≠ LFG_COMPATIBLES_MATCH := by decide

theorem eq_match_of_lt (h : LFG_COMPATIBLES_WITH_LESS_PLAYERS < compatibles)
    (hne : compatibles ≠ LFG_COMPATIBLES_BAD_STATES) : compatibles = LFG_COMPATIBLES_MATCH := by
  revert h hne
  cases compatibles <;> decide

theorem lookUp_trusted (hne : check ≠ []) (hnodup : check.Nodup) (hpeopled : s.Peopled check)
    (hs : s.Consistent) (hqueued : s.allQueued check) :
    Trusted s check (s.lookUp check).1 (s.lookUp check).2 := by
  rw [lookUp]
  dsimp only
  by_cases hcached : s.getCompatibles (concatenateGuids check) = LFG_COMPATIBILITY_PENDING
  · rw [if_pos hcached]
    have hcheck := checkCompatibility_trusted hne hnodup hpeopled hs
    rw [if_neg]
    · exact hcheck
    · rintro ⟨hbad, -⟩
      have := hcheck.matched hqueued (by rw [hbad]; decide)
      rw [hbad] at this
      cases this
  · rw [if_neg hcached]
    have hagrees := hs check hnodup hne hcached
    dsimp only
    split
    · next hbad =>
      have hfull : s.Agrees check LFG_COMPATIBLES_MATCH := by
        rw [hbad.1] at hagrees
        cases hagrees with
        | incompatible hlt _ => exact absurd hlt (by decide)
        | lessPlayers heq _ _ => cases heq
        | full _ hc hfull => exact .full (by decide) hc hfull
      exact ⟨hfull, frame_setCompatibles _ _, hs.setCompatibles hnodup hfull, fun _ _ => rfl⟩
    · next hbad =>
      refine ⟨hagrees, Frame.refl s, hs, fun _ hlt => eq_match_of_lt hlt fun heq => ?_⟩
      exact hbad ⟨heq, hqueued⟩

/-! ## 4. The search -/

theorem allQueued_iff : s.allQueued check ↔
    check ≠ [] ∧ ∀ guid ∈ check, s.state guid = LFG_STATE_QUEUED := by
  simp [allQueued]

/-- The guids that walk along with a new one: of the queue, in its order, each is kept that goes
together with those kept before. -/
noncomputable def firstFit (s : LFGMgr) (check all : GuidList) : GuidList :=
  keepFitting s.Compatible check all

theorem Frame.firstFit (h : Frame s s') : s'.firstFit = s.firstFit := by
  have hc : s'.Compatible = s.Compatible := funext fun _ => propext h.compatible_iff
  funext check all
  rw [LFGMgr.firstFit, LFGMgr.firstFit, hc]

theorem firstFit_full {all : GuidList} (hpeopled : s.Peopled all) (hne : check ≠ [])
    (hfull : s.numPlayers check = MAXGROUPSIZE) : s.firstFit check all = check := by
  refine keepFitting_eq_self fun guid hguid hc => ?_
  have hlength : 1 < (check ++ [guid]).length := by
    have := List.length_pos_of_ne_nil hne
    simp only [List.length_append, List.length_cons, List.length_nil]
    omega
  obtain ⟨data, hdata⟩ := Option.isSome_iff_exists.mp (hc.queued guid (by simp))
  have hroles := List.length_pos_iff.mpr (hpeopled guid hguid data hdata)
  have hsize := (hc.party hlength).size
  rw [numPlayers, roles_append, List.length_append, ← numPlayers, hfull, roles_cons, roles_nil,
    List.append_nil, queueData_eq hdata] at hsize
  omega

@[simp] theorem matchQueued_nil (fuel : ℕ) (s : LFGMgr) (check : GuidList) :
    matchQueued fuel s check [] = (LFG_COMPATIBLES_WITH_LESS_PLAYERS, s, []) := by
  cases fuel <;> rfl

/-- **The loop finds exactly what first fit finds**, and comes back without a match only when it
has used up all candidates. -/
theorem matchQueued_iff (fuel : ℕ) {all : GuidList} (hfuel : all.length ≤ fuel)
    (hnodup : (check ++ all).Nodup) (hpeopled : s.Peopled (check ++ all)) (hs : s.Consistent)
    (hqueued : ∀ guid ∈ check ++ all, s.state guid = LFG_STATE_QUEUED) (hne : check ≠ [])
    (hless : s.numPlayers check ≠ MAXGROUPSIZE) :
    ((matchQueued fuel s check all).1 = LFG_COMPATIBLES_MATCH ↔
      s.numPlayers (s.firstFit check all) = MAXGROUPSIZE) ∧
    ((matchQueued fuel s check all).1 ≠ LFG_COMPATIBLES_MATCH →
      (matchQueued fuel s check all).2.2 = []) := by
  have hend : LFG_COMPATIBLES_WITH_LESS_PLAYERS = LFG_COMPATIBLES_MATCH ↔
      s.numPlayers (s.firstFit check []) = MAXGROUPSIZE := iff_of_false less_ne_match hless
  induction fuel generalizing s check all with
  | zero =>
    obtain rfl := List.length_eq_zero_iff.mp (Nat.le_zero.mp hfuel)
    rw [matchQueued_nil]
    exact ⟨hend, fun _ => rfl⟩
  | succ fuel ih =>
    cases all with
    | nil =>
      rw [matchQueued_nil]
      exact ⟨hend, fun _ => rfl⟩
    | cons guid all =>
      have hfuel' : all.length ≤ fuel := Nat.le_of_succ_le_succ hfuel
      -- the list without `guid`, and with it
      have hsub : (check ++ all).Sublist (check ++ guid :: all) :=
        (List.sublist_cons_self guid all).append_left check
      have hassoc : check ++ guid :: all = check ++ [guid] ++ all := List.append_cons check guid all
      have hne' : check ++ [guid] ≠ [] := List.append_ne_nil_of_left_ne_nil hne _
      have hsub' : (check ++ [guid]).Sublist (check ++ guid :: all) := by
        rw [hassoc]
        exact List.sublist_append_left _ _
      have hcall : Trusted s (check ++ [guid]) (s.lookUp (check ++ [guid])).1
          (s.lookUp (check ++ [guid])).2 :=
        lookUp_trusted hne' (hnodup.sublist hsub') (hpeopled.mono hsub'.subset) hs
          (allQueued_iff.mpr ⟨hne', fun g hg => hqueued g (hsub'.subset hg)⟩)
      rw [matchQueued]
      dsimp only
      generalize s.lookUp (check ++ [guid]) = called at hcall
      obtain ⟨compatibles, s₁⟩ := called
      dsimp only at hcall ⊢
      have hframe := hcall.frame
      cases hcall.agrees with
      | incompatible hlt hnot =>
        have hne₁ : compatibles ≠ LFG_COMPATIBLES_WITH_LESS_PLAYERS := by
          rintro rfl
          exact absurd hlt (by decide)
        have hne₂ : compatibles ≠ LFG_COMPATIBLES_MATCH := by
          rintro rfl
          exact absurd hlt (by decide)
        rw [if_neg hne₁]
        dsimp only
        rw [if_neg hne₂, firstFit, keepFitting_of_neg hnot]
        have hrest := ih hfuel' (hnodup.sublist hsub)
          ((hpeopled.mono hsub.subset).frame hframe) hcall.consistent
          (fun g hg => by rw [hframe.state]; exact hqueued g (hsub.subset hg)) hne
          (by rw [hframe.numPlayers]; exact hless)
          (by rw [hframe.numPlayers, hframe.firstFit]; exact hend)
        rwa [hframe.numPlayers, hframe.firstFit] at hrest
      | lessPlayers heq hc hless' =>
        rw [if_pos heq, firstFit, keepFitting_of_pos hc]
        rw [hassoc] at hnodup hpeopled hqueued
        have hinner := ih hfuel' hnodup (hpeopled.frame hframe) hcall.consistent
          (fun g hg => by rw [hframe.state]; exact hqueued g hg) hne'
          (by rw [hframe.numPlayers]; exact hless')
          (iff_of_false less_ne_match (by rw [hframe.numPlayers]; exact hless'))
        rw [hframe.numPlayers, hframe.firstFit] at hinner
        generalize matchQueued fuel s₁ (check ++ [guid]) all = inner at hinner
        obtain ⟨subcompatibility, s₂, rest⟩ := inner
        dsimp only at hinner ⊢
        by_cases hmatch : subcompatibility = LFG_COMPATIBLES_MATCH
        · rw [if_pos hmatch]
          exact ⟨iff_of_true rfl (hinner.1.mp hmatch), fun h => absurd rfl h⟩
        · -- the call has used up the candidates
          rw [if_neg hmatch, hinner.2 hmatch, matchQueued_nil]
          exact ⟨iff_of_false less_ne_match fun h => hmatch (hinner.1.mpr h), fun _ => rfl⟩
      | full hgt hc hfull =>
        have hmatch : compatibles = LFG_COMPATIBLES_MATCH :=
          hcall.matched (allQueued_iff.mpr ⟨hne', fun g hg => hqueued g (hsub'.subset hg)⟩) hgt
        have hall : s.Peopled all := hpeopled.mono (by rw [hassoc]; exact List.subset_append_right _ _)
        rw [hmatch, if_neg less_ne_match.symm, if_pos rfl, firstFit, keepFitting_of_pos hc]
        have hstay := firstFit_full hall hne' hfull
        rw [firstFit] at hstay
        rw [hstay]
        exact ⟨iff_of_true rfl hfull, fun h => absurd rfl h⟩

/-! ## 5. Complete groups -/

/-- A list that could go into a dungeon at once: it has queue data, five players, at most one LFG
group, nobody ignores another, the roles can be assigned and there is a common dungeon. -/
structure ValidGroup (s : LFGMgr) (check : GuidList) : Prop where
  queued : ∀ guid ∈ check, (s.queueDataStore guid).isSome
  full : s.numPlayers check = MAXGROUPSIZE
  oneGroup : s.numLfgGroups check ≤ 1
  apart : (s.roles check).Pairwise s.Apart
  assignable : Assignable (selections (s.roles check))
  dungeon : ∃ dungeon, ∀ guid ∈ check, dungeon ∈ (s.queueData guid).dungeons

/-- The queue and the new guid make a group somehow. -/
def HasGroup (s : LFGMgr) (frontguid : ObjectGuid) : Prop :=
  ∃ queues : GuidList, queues.Sublist s.currentQueueStore ∧ s.ValidGroup (frontguid :: queues)

theorem findNewGroups_iff {frontguid : ObjectGuid} {all : GuidList}
    (hnodup : (frontguid :: all).Nodup) (hpeopled : s.Peopled (frontguid :: all))
    (hs : s.Consistent)
    (hqueued : ∀ guid ∈ frontguid :: all, s.state guid = LFG_STATE_QUEUED)
    (hdata : (s.queueDataStore frontguid).isSome) :
    (s.findNewGroups [frontguid] all).1 = LFG_COMPATIBLES_MATCH ↔
      s.numPlayers (s.firstFit [frontguid] all) = MAXGROUPSIZE := by
  have hcall := lookUp_trusted (List.cons_ne_nil frontguid []) (List.nodup_singleton frontguid)
    (hpeopled.mono (by simp)) hs (allQueued_iff.mpr ⟨by simp, fun g hg =>
      hqueued g (List.mem_singleton.mp hg ▸ List.mem_cons_self)⟩)
  rw [findNewGroups]
  generalize s.lookUp [frontguid] = called at hcall
  obtain ⟨compatibles, s₁⟩ := called
  dsimp only at hcall ⊢
  have hframe := hcall.frame
  cases hcall.agrees with
  | incompatible _ hnot => exact absurd (compatible_single hdata) hnot
  | lessPlayers heq _ hless =>
    rw [if_pos heq, ← hframe.numPlayers, ← hframe.firstFit]
    exact (matchQueued_iff all.length (Nat.le_refl _) hnodup (hpeopled.frame hframe)
      hcall.consistent (fun g hg => by rw [hframe.state]; exact hqueued g hg)
      (List.cons_ne_nil _ _) (by rw [hframe.numPlayers]; exact hless)).1
  | full hgt _ hfull =>
    have hmatch : compatibles = LFG_COMPATIBLES_MATCH :=
      hcall.matched (allQueued_iff.mpr ⟨by simp, fun g hg =>
        hqueued g (List.mem_singleton.mp hg ▸ List.mem_cons_self)⟩) hgt
    rw [hmatch, if_neg less_ne_match.symm,
      firstFit_full (hpeopled.mono (List.subset_cons_self _ _)) (List.cons_ne_nil _ _) hfull]
    exact iff_of_true rfl hfull

/-- **When the search is complete.**  With all guids in the queued state and a cache that says
what the checks would say, the search finds a group whenever there is one exactly if first fit
does: if the guids that are kept one after the other, each because it goes together with those
before, fill a group whenever some guids of the queue do. -/
theorem findNewGroups_complete_iff {frontguid : ObjectGuid}
    (hnodup : (frontguid :: s.currentQueueStore).Nodup)
    (hpeopled : s.Peopled (frontguid :: s.currentQueueStore)) (hs : s.Consistent)
    (hqueued : ∀ guid ∈ frontguid :: s.currentQueueStore, s.state guid = LFG_STATE_QUEUED) :
    (s.HasGroup frontguid →
      (s.findNewGroups [frontguid] s.currentQueueStore).1 = LFG_COMPATIBLES_MATCH) ↔
    (s.HasGroup frontguid →
      s.numPlayers (s.firstFit [frontguid] s.currentQueueStore) = MAXGROUPSIZE) := by
  refine forall_congr' fun ⟨queues, _, hvalid⟩ => ?_
  exact findNewGroups_iff hnodup hpeopled hs hqueued (hvalid.queued frontguid List.mem_cons_self)


/-- A tank looks for partners; a group of three and a group of four wait, both of which would take
him. -/
def twoGroups : LFGMgr :=
  { LFGMgr.start with
    currentQueueStore := [0x1F5000000000000A, 0x1F5000000000000B]
    queueDataStore := fun guid =>
      if guid = 1 then some ⟨[1], [(1, PLAYER_ROLE_TANK)]⟩
      else if guid = 0x1F5000000000000A then
        some ⟨[1], [(11, PLAYER_ROLE_HEALER), (12, PLAYER_ROLE_DAMAGE), (13, PLAYER_ROLE_DAMAGE)]⟩
      else if guid = 0x1F5000000000000B then
        some ⟨[1], [(21, PLAYER_ROLE_HEALER), (22, PLAYER_ROLE_DAMAGE), (23, PLAYER_ROLE_DAMAGE),
          (24, PLAYER_ROLE_DAMAGE)]⟩
      else none
    state := fun _ => LFG_STATE_QUEUED }

theorem twoGroups_peopled : twoGroups.Peopled (1 :: twoGroups.currentQueueStore) := by
  intro guid hguid data hdata
  simp only [twoGroups, List.mem_cons, List.not_mem_nil, or_false] at hguid
  rcases hguid with rfl | rfl | rfl <;> cases hdata <;> decide

theorem twoGroups_consistent : twoGroups.Consistent := fun _ _ _ h => absurd rfl h

theorem findNewGroups_complete_twoGroups :
    (twoGroups.HasGroup 1 →
      (twoGroups.findNewGroups [1] twoGroups.currentQueueStore).1 = LFG_COMPATIBLES_MATCH) ↔
    (twoGroups.HasGroup 1 →
      twoGroups.numPlayers (twoGroups.firstFit [1] twoGroups.currentQueueStore) = MAXGROUPSIZE) :=
  findNewGroups_complete_iff (by decide) twoGroups_peopled twoGroups_consistent fun _ _ => rfl

theorem twoGroups_roles : twoGroups.roles [1, 0x1F5000000000000B] =
    [(1, PLAYER_ROLE_TANK), (21, PLAYER_ROLE_HEALER), (22, PLAYER_ROLE_DAMAGE),
      (23, PLAYER_ROLE_DAMAGE), (24, PLAYER_ROLE_DAMAGE)] := by
  decide +kernel

theorem twoGroups_hasGroup : twoGroups.HasGroup 1 := by
  have hlist : ∀ {P : ObjectGuid → Prop}, P 1 → P 0x1F5000000000000B →
      ∀ guid ∈ [1, 0x1F5000000000000B], P guid := fun h h' =>
    List.forall_mem_cons.mpr ⟨h, List.forall_mem_singleton.mpr h'⟩
  refine ⟨[0x1F5000000000000B], .cons _ (.refl _),
    { queued := hlist (by decide +kernel) (by decide +kernel)
      full := by rw [numPlayers, twoGroups_roles]; rfl
      oneGroup := by decide +kernel
      apart := ?_
      assignable := ?_
      dungeon := ⟨1, hlist (by decide +kernel) (by decide +kernel)⟩ }⟩
  · rw [twoGroups_roles]
    simp [Apart, hasIgnore, twoGroups, LFGMgr.start]
  · rw [twoGroups_roles]
    refine ⟨[.tank, .healer, .damage, .damage, .damage], ?_, fun x => by cases x <;> decide⟩
    repeat first | exact .nil | refine .cons (by decide) ?_

/-- The tank goes along with the group of three, and the group of four does not come up again. -/
theorem findNewGroups_incomplete :
    ¬ ∀ (s : LFGMgr) (frontguid : ObjectGuid), (frontguid :: s.currentQueueStore).Nodup →
      s.Peopled (frontguid :: s.currentQueueStore) → s.Consistent →
      (∀ guid ∈ frontguid :: s.currentQueueStore, s.state guid = LFG_STATE_QUEUED) →
      s.HasGroup frontguid →
        (s.findNewGroups [frontguid] s.currentQueueStore).1 = LFG_COMPATIBLES_MATCH := by
  intro h
  have hmatch := h twoGroups 1 (by decide) twoGroups_peopled twoGroups_consistent
    (fun _ _ => rfl) twoGroups_hasGroup
  have hless : (twoGroups.findNewGroups [1] twoGroups.currentQueueStore).1 =
      LFG_COMPATIBLES_WITH_LESS_PLAYERS := by decide +kernel
  rw [hless] at hmatch
  cases hmatch

end FunPvp.DungeonFinding.LFGMgr
