/-
# What a search does to the queue

`FindGroups` hands every new guid to the search and puts it into the queue if no group was found
for it. It goes by the answer of the search alone, and the answer can be a match in three ways: the
check of a list makes a proposal, the cache says that a list is one (or was one, but for the
states), and, inside a check, the list without its first guid can turn out to be one. Only the
first of them is a new proposal for the guids of the answer.

`Searches` names the calls of a search, so that a condition can say which way they do not take.
-/
import FunPvp.DungeonFinding.LFGMgr
import FunPvp.Lib.Run

namespace FunPvp.DungeonFinding.LFGMgr

open FunPvp.Groups (ObjectGuid MAXGROUPSIZE)
open FunPvp.Lib
open LfgCompatibility LfgState LfgAnswer

variable {s s' s'' : LFGMgr} {check all : GuidList}

/-! ## 1. Guids of the queue have queue data -/

/-- The proposals have ids of their own, given out before. -/
structure Numbered (s : LFGMgr) : Prop where
  nodup : (s.proposalsStore.map Prod.fst).Nodup
  le : ∀ id ∈ s.proposalsStore.map Prod.fst, id ≤ s.lfgProposalId

/-- Every guid of the queue has queue data. -/
def Recorded (s : LFGMgr) : Prop :=
  ∀ guid ∈ s.newToQueueStore ++ s.currentQueueStore, (s.queueDataStore guid).isSome

/-- What a search does in any case: it takes guids off the queue, and numbers its proposals. -/
structure Settles (s s' : LFGMgr) : Prop where
  frame : Frame s s'
  newQueue : s'.newToQueueStore.Sublist s.newToQueueStore
  currentQueue : s'.currentQueueStore.Sublist s.currentQueueStore
  numbered : s.Numbered → s'.Numbered

theorem Settles.refl (s : LFGMgr) : Settles s s :=
  ⟨Frame.refl s, List.Sublist.refl _, List.Sublist.refl _, id⟩

theorem Settles.trans (h : Settles s s') (h' : Settles s' s'') : Settles s s'' :=
  ⟨h.frame.trans h'.frame, h'.newQueue.trans h.newQueue, h'.currentQueue.trans h.currentQueue,
    fun hs => h'.numbered (h.numbered hs)⟩

theorem Settles.recorded (h : Settles s s') (hs : s.Recorded) : s'.Recorded := by
  intro guid hguid
  rw [h.frame.data]
  exact hs guid ((h.newQueue.append h.currentQueue).subset hguid)

theorem Numbered.congr (h : s.Numbered) (hstore : s'.proposalsStore = s.proposalsStore)
    (hid : s'.lfgProposalId = s.lfgProposalId) : s'.Numbered :=
  ⟨hstore ▸ h.nodup, by rw [hstore, hid]; exact h.le⟩

theorem settles_setCompatibles (key : Finset ObjectGuid) (compatibles : LfgCompatibility) :
    Settles s (s.setCompatibles key compatibles) :=
  ⟨frame_setCompatibles _ _, List.Sublist.refl _, List.Sublist.refl _, fun h => h.congr rfl rfl⟩

theorem numbered_addProposal (h : s.Numbered) (proposal : LfgProposal) :
    (s.addProposal proposal).Numbered := by
  refine ⟨?_, fun id hid => ?_⟩
  · rw [addProposal, List.map_append]
    refine List.nodup_append'.mpr ⟨h.nodup, List.nodup_singleton _, ?_⟩
    intro id hid hnew
    have := h.le id hid
    have : id = s.lfgProposalId + 1 := List.mem_singleton.mp hnew
    omega
  · rw [addProposal, List.map_append] at hid
    rcases List.mem_append.mp hid with hid | hid
    · exact (h.le id hid).trans (Nat.le_succ _)
    · exact (List.mem_singleton.mp hid).le

theorem markNotQueued_eq (queues : GuidList) : s.markNotQueued queues =
    { s with
      newToQueueStore := s.newToQueueStore.filter (· ∉ queues)
      currentQueueStore := s.currentQueueStore.filter (· ∉ queues) } := by
  induction queues generalizing s with
  | nil => simp [markNotQueued]
  | cons guid queues ih =>
    rw [markNotQueued, List.foldl_cons, ← markNotQueued, ih]
    simp only [removeFromNewQueue, removeFromCurrentQueue, List.filter_filter]
    congr 2 <;> (funext g; simp [Bool.and_comm])

variable {r : LfgCompatibility × LFGMgr} {frontguid : ObjectGuid} {rest : GuidList}

theorem Checked.settles (h : Checked s check r) :
    Settles s r.2 := by
  cases h with
  | missing _ hnone =>
    exact ⟨frame_removeFromQueue hnone, List.filter_sublist, List.filter_sublist,
      fun h => h.congr rfl rfl⟩
  | refused => exact settles_setCompatibles _ _
  | lessPlayers => exact settles_setCompatibles _ _
  | badStates => exact settles_setCompatibles _ _
  | @matched proposal =>
    have hmark : Settles s (s.markNotQueued check) := by
      refine ⟨frame_markNotQueued check, ?_, ?_, fun h => ?_⟩
      · rw [markNotQueued_eq]
        exact List.filter_sublist
      · rw [markNotQueued_eq]
        exact List.filter_sublist
      · rw [markNotQueued_eq]
        exact h.congr rfl rfl
    have hadd : Settles (s.markNotQueued check) ((s.markNotQueued check).addProposal proposal) :=
      ⟨frame_addProposal proposal, List.Sublist.refl _, List.Sublist.refl _,
        fun h => numbered_addProposal h proposal⟩
    exact (hmark.trans hadd).trans (settles_setCompatibles _ _)

theorem checkCompatibility_settles : Settles s (s.checkCompatibility check).2 := by
  induction check generalizing s with
  | nil => exact Settles.refl s
  | cons front check ih =>
    rw [checkCompatibility]
    split
    · exact Settles.refl s
    · split
      · dsimp only
        split
        · exact ih.trans (settles_setCompatibles _ _)
        · exact ih.trans (checkPlayers_checked (List.cons_ne_nil _ _)).settles
      · exact (checkPlayers_checked (List.cons_ne_nil _ _)).settles

theorem lookUp_settles : Settles s (s.lookUp check).2 := by
  rw [lookUp]
  dsimp only
  split
  · split
    · exact checkCompatibility_settles.trans (settles_setCompatibles _ _)
    · exact checkCompatibility_settles
  · split
    · exact settles_setCompatibles _ _
    · exact Settles.refl s

theorem matchQueued_settles (fuel : ℕ) (s : LFGMgr) (check all : GuidList) :
    Settles s (matchQueued fuel s check all).2.1 := by
  induction fuel generalizing s check all with
  | zero => exact Settles.refl s
  | succ fuel ih =>
    cases all with
    | nil => exact Settles.refl s
    | cons guid all =>
      have hrest : ∀ called : LfgCompatibility × LFGMgr × GuidList, Settles s called.2.1 →
          Settles s (if called.1 = LFG_COMPATIBLES_MATCH then
            (LFG_COMPATIBLES_MATCH, called.2.1, called.2.2)
            else matchQueued fuel called.2.1 check called.2.2).2.1 := by
        intro called hcalled
        split
        · exact hcalled
        · exact hcalled.trans (ih _ _ _)
      rw [matchQueued]
      dsimp only
      split
      · exact hrest _ (lookUp_settles.trans (ih _ _ _))
      · exact hrest (_, _, all) lookUp_settles

theorem findNewGroups_settles (s : LFGMgr) (check all : GuidList) :
    Settles s (s.findNewGroups check all).2.1 := by
  rw [findNewGroups]
  split
  · exact lookUp_settles.trans (matchQueued_settles _ _ _ _)
  · exact lookUp_settles

/-- What holds of the whole queue at any time. -/
structure Kept (s : LFGMgr) : Prop where
  recorded : s.Recorded
  numbered : s.Numbered

/-- The search for the guid a round of `FindGroups` takes off `newToQueueStore`. -/
def roundSearch (s : LFGMgr) (frontguid : ObjectGuid) : LfgCompatibility × LFGMgr × GuidList :=
  (s.removeFromNewQueue frontguid).findNewGroups [frontguid] s.currentQueueStore

def afterRound (s : LFGMgr) (frontguid : ObjectGuid) : LFGMgr :=
  if (s.roundSearch frontguid).1 = LFG_COMPATIBLES_MATCH then (s.roundSearch frontguid).2.1
  else (s.roundSearch frontguid).2.1.addToCurrentQueue frontguid

theorem findGroupsLoop_succ {fuel : ℕ} {proposals : UInt8} (hnew : s.newToQueueStore = frontguid :: rest) :
    findGroupsLoop (fuel + 1) s proposals = findGroupsLoop fuel (s.afterRound frontguid)
      (if (s.roundSearch frontguid).1 = LFG_COMPATIBLES_MATCH then proposals + 1
        else proposals) := by
  rw [findGroupsLoop, hnew, afterRound]
  change (if (s.roundSearch frontguid).1 = LFG_COMPATIBLES_MATCH then _ else _) = _
  by_cases hmatch : (s.roundSearch frontguid).1 = LFG_COMPATIBLES_MATCH
  · rw [if_pos hmatch, if_pos hmatch, if_pos hmatch]
    rfl
  · rw [if_neg hmatch, if_neg hmatch, if_neg hmatch]
    rfl

theorem afterRound_kept (hnew : s.newToQueueStore = frontguid :: rest) (hs : s.Kept) :
    (s.afterRound frontguid).Kept := by
  have hfront : (s.queueDataStore frontguid).isSome :=
    hs.recorded frontguid (by rw [hnew]; exact List.mem_cons_self)
  have hremove : Settles s (s.removeFromNewQueue frontguid) :=
    ⟨⟨rfl, rfl, rfl, rfl, rfl⟩, List.filter_sublist, List.Sublist.refl _, fun h => h.congr rfl rfl⟩
  have hround : Settles s (s.roundSearch frontguid).2.1 :=
    hremove.trans (findNewGroups_settles _ [frontguid] s.currentQueueStore)
  rw [afterRound]
  split
  · exact ⟨hround.recorded hs.recorded, hround.numbered hs.numbered⟩
  · refine ⟨fun guid hguid => ?_, (hround.numbered hs.numbered).congr rfl rfl⟩
    change guid ∈ _ ++ (_ ++ [frontguid]) at hguid
    rw [← List.append_assoc] at hguid
    rcases List.mem_append.mp hguid with hguid | hguid
    · exact hround.recorded hs.recorded guid hguid
    · rw [List.mem_singleton.mp hguid, addToCurrentQueue, hround.frame.data]
      exact hfront

theorem findGroupsLoop_kept (fuel : ℕ) (proposals : UInt8) (hs : s.Kept) :
    (findGroupsLoop fuel s proposals).2.Kept := by
  induction fuel generalizing s proposals with
  | zero => exact hs
  | succ fuel ih =>
    cases hnew : s.newToQueueStore with
    | nil =>
      rw [findGroupsLoop, hnew]
      exact hs
    | cons frontguid rest =>
      rw [findGroupsLoop_succ hnew]
      exact ih _ (afterRound_kept hnew hs)

theorem Untouched.recorded (h : Untouched s s') (hs : s.Recorded) : s'.Recorded := by
  rw [Recorded, h.newQueue, h.currentQueue, h.data]
  exact hs

theorem recorded_removeFromQueue (hs : s.Recorded) (guid : ObjectGuid) :
    (s.removeFromQueue guid).Recorded := by
  intro g hg
  change g ∈ s.newToQueueStore.filter (· ≠ guid) ++ s.currentQueueStore.filter (· ≠ guid) at hg
  rw [← List.filter_append, List.mem_filter] at hg
  change (Function.update s.queueDataStore guid none g).isSome
  rw [Function.update_of_ne (by simpa using hg.2)]
  exact hs g hg.1

theorem recorded_addToQueue (hs : s.Recorded) (guid : ObjectGuid) (reAdd : Bool) :
    (s.addToQueue guid reAdd).Recorded := by
  rw [addToQueue]
  split
  · exact hs
  · next data hdata =>
    have hguid : (s.queueDataStore guid).isSome := by rw [hdata]; rfl
    split
    · intro g hg
      rcases List.mem_append.mp hg with hg | hg
      · exact hs g (List.mem_append_left _ hg)
      · rcases List.mem_cons.mp hg with rfl | hg
        · exact hguid
        · exact hs g (List.mem_append_right _ hg)
    · intro g hg
      rcases List.mem_append.mp hg with hg | hg
      · rcases List.mem_append.mp hg with hg | hg
        · exact hs g (List.mem_append_left _ hg)
        · rw [List.mem_singleton.mp hg]
          exact hguid
      · exact hs g (List.mem_append_right _ hg)

theorem recorded_readdGuids (hs : s.Recorded) (guids : GuidList) :
    (s.readdGuids guids).Recorded := by
  induction guids generalizing s with
  | nil => exact hs
  | cons guid guids ih => exact ih (recorded_addToQueue hs guid true)

theorem recorded_update (hs : s.Recorded) (guid : ObjectGuid) (data : LfgQueueData) :
    Recorded { s with queueDataStore := Function.update s.queueDataStore guid (some data) } := by
  intro g hg
  change (Function.update s.queueDataStore guid (some data) g).isSome
  by_cases hguid : g = guid
  · rw [hguid, Function.update_self]
    rfl
  · rw [Function.update_of_ne hguid]
    exact hs g hg

theorem recorded_addQueueData (hs : s.Recorded) (guid : ObjectGuid) (data : LfgQueueData) :
    (s.addQueueData guid data).Recorded :=
  recorded_addToQueue (recorded_update hs guid data) guid false

theorem Change.recorded (h : Change s s') (hs : s.Recorded) : s'.Recorded := by
  cases h with
  | keep h => exact h.recorded hs
  | remove => exact recorded_removeFromQueue hs _
  | joinTime => exact recorded_update hs _ _
  | answer => exact hs
  | dissolve => exact recorded_readdGuids hs _

theorem proposalsStore_addToQueue (s : LFGMgr) (guid : ObjectGuid) (reAdd : Bool) :
    (s.addToQueue guid reAdd).proposalsStore = s.proposalsStore ∧
      (s.addToQueue guid reAdd).lfgProposalId = s.lfgProposalId := by
  rw [addToQueue]
  split
  · exact ⟨rfl, rfl⟩
  · split <;> exact ⟨rfl, rfl⟩

theorem proposalsStore_readdGuids (s : LFGMgr) (guids : GuidList) :
    (s.readdGuids guids).proposalsStore = s.proposalsStore ∧
      (s.readdGuids guids).lfgProposalId = s.lfgProposalId := by
  induction guids generalizing s with
  | nil => exact ⟨rfl, rfl⟩
  | cons guid guids ih =>
    obtain ⟨hstore, hid⟩ := proposalsStore_addToQueue s guid true
    obtain ⟨hstore', hid'⟩ := ih (s.addToQueue guid true)
    exact ⟨hstore'.trans hstore, hid'.trans hid⟩

theorem ids_storeProposal (s : LFGMgr) (id : ℕ) (proposal : LfgProposal) :
    (s.storeProposal id proposal).proposalsStore.map Prod.fst =
      s.proposalsStore.map Prod.fst := by
  rw [storeProposal, List.map_map]
  refine List.map_congr_left fun entry _ => ?_
  rw [Function.comp_apply]
  split
  · next heq => exact heq.symm
  · rfl

theorem Change.numbered (h : Change s s') (hs : s.Numbered) : s'.Numbered := by
  cases h with
  | keep h => exact hs.congr h.proposals h.proposalId
  | remove => exact hs.congr rfl rfl
  | joinTime => exact hs.congr rfl rfl
  | @answer id stored proposal =>
    have hids := ids_storeProposal s id proposal
    exact ⟨hids ▸ hs.nodup, by rw [hids]; exact hs.le⟩
  | @dissolve id _ back =>
    obtain ⟨hstore, hid⟩ := proposalsStore_readdGuids s back
    have hback : (s.readdGuids back).Numbered := hs.congr hstore hid
    have hsub : (((s.readdGuids back).eraseProposal id).proposalsStore.map Prod.fst).Sublist
        ((s.readdGuids back).proposalsStore.map Prod.fst) := List.filter_sublist.map _
    exact ⟨hback.nodup.sublist hsub, fun i hi => hback.le i (hsub.subset hi)⟩

theorem Changes.kept (h : Changes s s') (hs : s.Kept) : s'.Kept := by
  induction h with
  | refl => exact hs
  | tail _ hchange ih => exact ⟨hchange.recorded ih.recorded, hchange.numbered ih.numbered⟩

theorem AfterAdding.kept {entry : Option (ObjectGuid × LfgQueueData)} (h : s.AfterAdding entry s')
    (hs : s.Kept) : s'.Kept := by
  cases entry with
  | none => exact (Untouched.changes h).kept hs
  | some entry =>
    obtain ⟨s₁, h₁, h₂⟩ := h
    have hs₁ := h₁.changes.kept hs
    refine h₂.changes.kept ⟨recorded_addQueueData hs₁.recorded _ _, ?_⟩
    obtain ⟨hstore, hid⟩ := proposalsStore_addToQueue
      { s₁ with queueDataStore := Function.update s₁.queueDataStore entry.1 (some entry.2) }
      entry.1 false
    exact hs₁.numbered.congr hstore hid

theorem step_kept (hs : s.Kept) (e : Event) : (s.step e).Kept := by
  rcases step_cases hs.numbered.nodup e with ⟨hbefore, hadd⟩ | ⟨-, hchanges⟩ | ⟨-, hfind⟩
  · exact hadd.kept (hbefore.kept hs)
  · exact hchanges.kept hs
  · exact hfind.changes.kept (findGroupsLoop_kept _ _ hs)

theorem start_kept : LFGMgr.start.Kept :=
  ⟨fun _ h => absurd h List.not_mem_nil, List.nodup_nil, fun _ h => absurd h List.not_mem_nil⟩

theorem exec_kept (evs : List Event) : (exec step LFGMgr.start evs).Kept :=
  States.exec (States.of_steps (fun _ e hs _ => step_kept hs e) start_kept
    (Steps.of_forall (fun _ _ => trivial) evs))

/-! ## 2. What a search can come to -/

/-- A complete group all of whose guids are queued. -/
def ReadyGroup (s : LFGMgr) (check : GuidList) : Prop :=
  s.Compatible check ∧ s.numPlayers check = MAXGROUPSIZE ∧ s.allQueued check

/-- A call finds its list in the cache as a match, or as one but for the states. -/
def CachedMatch (s : LFGMgr) (check : GuidList) : Prop :=
  s.getCompatibles (concatenateGuids check) = LFG_COMPATIBLES_MATCH ∨
    s.getCompatibles (concatenateGuids check) = LFG_COMPATIBLES_BAD_STATES ∧ s.allQueued check

/-- One of the lists without their first guids that a check looks at is a complete group. -/
def ReadyInside (s : LFGMgr) (check : GuidList) : Prop :=
  check.length ≤ MAXGROUPSIZE ∧
    ∃ inner, inner <:+ check.tail ∧ 2 ≤ inner.length ∧ s.ReadyGroup inner

/-- A call checks its list, and finds a complete group inside. -/
def InnerMatch (s : LFGMgr) (check : GuidList) : Prop :=
  s.getCompatibles (concatenateGuids check) = LFG_COMPATIBILITY_PENDING ∧ s.ReadyInside check

/-- Nothing but the cache has changed. -/
def OnlyCache (s s' : LFGMgr) : Prop := ∃ cache, s' = { s with compatibleMapStore := cache }

/-- The guids of the list have left the queue for a new proposal; its players are theirs. -/
def Proposed (s : LFGMgr) (check : GuidList) (s' : LFGMgr) : Prop :=
  ∃ (cache : Finset ObjectGuid → LfgCompatibility) (proposal : LfgProposal),
    proposal.queues = check ∧
    (proposal.players.map Prod.fst).Perm (keys (s.roles check)) ∧
    s' = { s with
      newToQueueStore := s.newToQueueStore.filter (· ∉ check)
      currentQueueStore := s.currentQueueStore.filter (· ∉ check)
      lfgProposalId := s.lfgProposalId + 1
      proposalsStore := s.proposalsStore ++ [(s.lfgProposalId + 1, proposal)]
      compatibleMapStore := cache }

theorem OnlyCache.refl (s : LFGMgr) : OnlyCache s s := ⟨s.compatibleMapStore, rfl⟩

theorem OnlyCache.trans (h : OnlyCache s s') (h' : OnlyCache s' s'') : OnlyCache s s'' := by
  obtain ⟨_, rfl⟩ := h
  obtain ⟨cache, rfl⟩ := h'
  exact ⟨cache, rfl⟩

theorem onlyCache_setCompatibles (key : Finset ObjectGuid) (compatibles : LfgCompatibility) :
    OnlyCache s (s.setCompatibles key compatibles) := ⟨_, rfl⟩

theorem OnlyCache.frame (h : OnlyCache s s') : Frame s s' := by
  obtain ⟨_, rfl⟩ := h
  exact ⟨rfl, rfl, rfl, rfl, rfl⟩

theorem OnlyCache.proposed (h : OnlyCache s s') (h' : Proposed s' check s'') :
    Proposed s check s'' := by
  obtain ⟨_, rfl⟩ := h
  obtain ⟨cache, proposal, hqueues, hplayers, rfl⟩ := h'
  exact ⟨cache, proposal, hqueues, hplayers, rfl⟩

/-- What a check can come to when all guids of its list have queue data. -/
inductive CheckOutcome (s : LFGMgr) (check : GuidList) (r : LfgCompatibility × LFGMgr) : Prop
  | unmatched : OnlyCache s r.2 → r.1 ≠ LFG_COMPATIBLES_MATCH →
      (r.1 = LFG_COMPATIBLES_BAD_STATES → s.allQueued check = false) → CheckOutcome s check r
  | matched : r.1 = LFG_COMPATIBLES_MATCH → s.ReadyGroup check → Proposed s check r.2 →
      CheckOutcome s check r

theorem Checked.outcome (h : Checked s check r)
    (hdata : ∀ guid ∈ check, (s.queueDataStore guid).isSome) : CheckOutcome s check r := by
  cases h with
  | missing hmem hnone =>
    have := hdata _ hmem
    rw [hnone] at this
    cases this
  | @refused compatibles hlt _ =>
    refine .unmatched (onlyCache_setCompatibles _ _) ?_ ?_
    · rintro rfl
      exact absurd hlt (by decide)
    · rintro rfl
      exact absurd hlt (by decide)
  | lessPlayers =>
    exact .unmatched (onlyCache_setCompatibles _ _) less_ne_match fun h => by cases h
  | badStates _ _ hstates =>
    exact .unmatched (onlyCache_setCompatibles _ _) (fun h => by cases h) fun _ => hstates
  | @matched proposal hc hfull hqueued hqueues hplayers =>
    refine .matched rfl ⟨hc, hfull, hqueued⟩ ?_
    rw [markNotQueued_eq]
    exact ⟨_, proposal, hqueues, hplayers, rfl⟩

theorem CheckOutcome.of_onlyCache (h : OnlyCache s s')
    (h' : CheckOutcome s' check r) : CheckOutcome s check r := by
  have hframe := h.frame
  cases h' with
  | unmatched honly hne hbad =>
    exact .unmatched (h.trans honly) hne fun hr => by rw [← hframe.allQueued]; exact hbad hr
  | matched heq hready hproposed =>
    refine .matched heq ⟨hframe.symm.compatible hready.1, ?_, ?_⟩ (h.proposed hproposed)
    · rw [← hframe.numPlayers]
      exact hready.2.1
    · rw [← hframe.allQueued]
      exact hready.2.2

theorem checkCompatibility_outcome (hdata : ∀ guid ∈ check, (s.queueDataStore guid).isSome)
    (hinner : ¬ s.ReadyInside check) : CheckOutcome s check (s.checkCompatibility check) := by
  induction check generalizing s with
  | nil => exact .unmatched (OnlyCache.refl s) (fun h => by cases h) fun h => by cases h
  | cons front check ih =>
    rw [checkCompatibility]
    split
    · exact .unmatched (OnlyCache.refl s) (fun h => by cases h) fun h => by cases h
    · next hsize =>
      have hsize' : (front :: check).length ≤ MAXGROUPSIZE := not_lt.mp hsize
      split
      · next hseveral =>
        have hchild := ih (fun guid hguid => hdata guid (List.mem_cons_of_mem front hguid)) (by
          rintro ⟨-, inner, hsuffix, hlength, hready⟩
          exact hinner ⟨hsize', inner, hsuffix.trans (List.tail_suffix check), hlength, hready⟩)
        generalize s.checkCompatibility check = child at hchild
        obtain ⟨compatibles, s₁⟩ := child
        cases hchild with
        | matched _ hready _ =>
          exact absurd ⟨hsize', check, List.suffix_refl check, by omega, hready⟩ hinner
        | unmatched honly hne hbad =>
          dsimp only at honly hne hbad ⊢
          split
          · next hlt =>
            refine .unmatched (honly.trans (onlyCache_setCompatibles _ _)) hne ?_
            rintro rfl
            exact absurd hlt (by decide)
          · refine .of_onlyCache honly ((checkPlayers_checked (List.cons_ne_nil _ _)).outcome ?_)
            rw [honly.frame.data]
            exact hdata
      · exact (checkPlayers_checked (List.cons_ne_nil _ _)).outcome hdata

/-- What a call can come to before its loop. -/
inductive LookUpOutcome (s : LFGMgr) (check : GuidList) (r : LfgCompatibility × LFGMgr) : Prop
  | kept : OnlyCache s r.2 → (r.1 = LFG_COMPATIBLES_MATCH → s.CachedMatch check) →
      LookUpOutcome s check r
  | proposed : r.1 = LFG_COMPATIBLES_MATCH → Proposed s check r.2 → LookUpOutcome s check r

theorem lookUp_outcome (hdata : ∀ guid ∈ check, (s.queueDataStore guid).isSome)
    (hinner : ¬ s.InnerMatch check) : LookUpOutcome s check (s.lookUp check) := by
  rw [lookUp]
  dsimp only
  by_cases hcached : s.getCompatibles (concatenateGuids check) = LFG_COMPATIBILITY_PENDING
  · rw [if_pos hcached]
    have hcheck := checkCompatibility_outcome hdata fun h => hinner ⟨hcached, h⟩
    generalize s.checkCompatibility check = r at hcheck
    obtain ⟨compatibles, s₁⟩ := r
    cases hcheck with
    | unmatched honly hne hbad =>
      dsimp only at honly hne hbad ⊢
      rw [if_neg]
      · exact .kept honly fun h => absurd h hne
      · rintro ⟨hstates, hqueued⟩
        rw [honly.frame.allQueued, hbad hstates] at hqueued
        cases hqueued
    | matched heq _ hproposed =>
      dsimp only at heq hproposed ⊢
      rw [if_neg]
      · exact .proposed heq hproposed
      · rintro ⟨hstates, -⟩
        rw [heq] at hstates
        cases hstates
  · rw [if_neg hcached]
    dsimp only
    split
    · next hbad => exact .kept (onlyCache_setCompatibles _ _) fun _ => .inr hbad
    · exact .kept (OnlyCache.refl s) fun h => .inl h

/-! ## 3. The calls of a search -/

/-- The calls of `FindNewGroups` the loop makes, each with the state it starts in. -/
def matchQueuedCalls : ℕ → LFGMgr → GuidList → GuidList → List (LFGMgr × GuidList)
  | 0, _, _, _ => []
  | _ + 1, _, _, [] => []
  | fuel + 1, s, check, guid :: all =>
    let called := s.lookUp (check ++ [guid])
    (s, check ++ [guid]) ::
      if called.1 = LFG_COMPATIBLES_WITH_LESS_PLAYERS then
        let (subcompatibility, s', all') := matchQueued fuel called.2 (check ++ [guid]) all
        matchQueuedCalls fuel called.2 (check ++ [guid]) all ++
          if subcompatibility = LFG_COMPATIBLES_MATCH then []
          else matchQueuedCalls fuel s' check all'
      else if called.1 = LFG_COMPATIBLES_MATCH then []
      else matchQueuedCalls fuel called.2 check all

def findNewGroupsCalls (s : LFGMgr) (check all : GuidList) : List (LFGMgr × GuidList) :=
  let called := s.lookUp check
  (s, check) ::
    if called.1 = LFG_COMPATIBLES_WITH_LESS_PLAYERS then
      matchQueuedCalls all.length called.2 check all
    else []

def roundCalls (s : LFGMgr) (frontguid : ObjectGuid) : List (LFGMgr × GuidList) :=
  (s.removeFromNewQueue frontguid).findNewGroupsCalls [frontguid] s.currentQueueStore

def findGroupsLoopCalls : ℕ → LFGMgr → List (LFGMgr × GuidList)
  | 0, _ => []
  | fuel + 1, s =>
    match s.newToQueueStore with
    | [] => []
    | frontguid :: _ =>
      s.roundCalls frontguid ++ findGroupsLoopCalls fuel (s.afterRound frontguid)

def findGroupsCalls (s : LFGMgr) : List (LFGMgr × GuidList) :=
  findGroupsLoopCalls s.newToQueueStore.length s

/-- What a search can come to if no check finds a complete group inside its list. -/
inductive SearchOutcome (s : LFGMgr) (check all : GuidList) (calls : List (LFGMgr × GuidList))
    (r : LfgCompatibility × LFGMgr × GuidList) : Prop
  | kept : OnlyCache s r.2.1 → r.2.2.Sublist all →
      (r.1 = LFG_COMPATIBLES_MATCH → ∃ call ∈ calls, CachedMatch call.1 call.2) →
      SearchOutcome s check all calls r
  | proposed {queues : GuidList} : r.1 = LFG_COMPATIBLES_MATCH → check.Sublist queues →
      queues.Sublist (check ++ all) → Proposed s queues r.2.1 → SearchOutcome s check all calls r

theorem SearchOutcome.lift {check' all' : GuidList} {calls calls' : List (LFGMgr × GuidList)}
    {r : LfgCompatibility × LFGMgr × GuidList} (h : SearchOutcome s' check' all' calls' r)
    (honly : OnlyCache s s') (hcheck : check.Sublist check') (hall : all'.Sublist all)
    (hsub : (check' ++ all').Sublist (check ++ all)) (hcalls : calls' ⊆ calls) :
    SearchOutcome s check all calls r := by
  cases h with
  | kept honly' hrest hmatch =>
    refine .kept (honly.trans honly') (hrest.trans hall) fun h => ?_
    obtain ⟨call, hcall, hcached⟩ := hmatch h
    exact ⟨call, hcalls hcall, hcached⟩
  | proposed hmatch hfront hqueues hproposed =>
    exact .proposed hmatch (hcheck.trans hfront) (hqueues.trans hsub) (honly.proposed hproposed)

theorem matchQueued_outcome (fuel : ℕ)
    (hdata : ∀ guid ∈ check ++ all, (s.queueDataStore guid).isSome)
    (hinner : ∀ call ∈ matchQueuedCalls fuel s check all, ¬ InnerMatch call.1 call.2) :
    SearchOutcome s check all (matchQueuedCalls fuel s check all)
      (matchQueued fuel s check all) := by
  induction fuel generalizing s check all with
  | zero => exact .kept (OnlyCache.refl s) (List.Sublist.refl _) fun h => by cases h
  | succ fuel ih =>
    cases all with
    | nil => exact .kept (OnlyCache.refl s) (List.Sublist.refl _) fun h => by cases h
    | cons guid all =>
      have hassoc : check ++ guid :: all = check ++ [guid] ++ all := List.append_cons check guid all
      have hdata₁ : ∀ g ∈ check ++ [guid], (s.queueDataStore g).isSome := fun g hg =>
        hdata g (by rw [hassoc]; exact List.mem_append_left all hg)
      have hsub : (check ++ all).Sublist (check ++ guid :: all) :=
        (List.sublist_cons_self guid all).append_left check
      rw [matchQueuedCalls] at hinner ⊢
      rw [matchQueued]
      dsimp only at hinner ⊢
      obtain ⟨hfirst, hlater⟩ := List.forall_mem_cons.mp hinner
      have hcall := lookUp_outcome hdata₁ hfirst
      clear hinner hfirst
      generalize s.lookUp (check ++ [guid]) = called at hcall hlater
      obtain ⟨compatibles, s₁⟩ := called
      cases hcall with
      | proposed hmatch hproposed =>
        dsimp only at hmatch hproposed hlater ⊢
        have hless : compatibles ≠ LFG_COMPATIBLES_WITH_LESS_PLAYERS := by
          rw [hmatch]
          exact less_ne_match.symm
        simp only [if_neg hless, if_pos hmatch]
        refine .proposed rfl (List.sublist_append_left check [guid]) ?_ hproposed
        rw [hassoc]
        exact List.sublist_append_left _ _
      | kept honly hcached =>
        dsimp only at honly hcached hlater ⊢
        have hdata₂ : ∀ {s' : LFGMgr}, OnlyCache s s' → ∀ {all' : GuidList}, all'.Sublist all →
            ∀ g ∈ check ++ all', (s'.queueDataStore g).isSome := by
          intro s' h all' hall' g hg
          rw [h.frame.data]
          exact hdata g (((hall'.append_left check).trans hsub).subset hg)
        by_cases hless : compatibles = LFG_COMPATIBLES_WITH_LESS_PLAYERS
        · simp only [if_pos hless] at hlater ⊢
          have hinside := @ih s₁ (check ++ [guid]) all
            (by rw [honly.frame.data, ← hassoc]; exact hdata)
            (fun call h => hlater call (List.mem_append_left _ h))
          generalize matchQueued fuel s₁ (check ++ [guid]) all = inside at hinside hlater
          obtain ⟨subcompatibility, s₂, all₂⟩ := inside
          dsimp only at hlater ⊢
          by_cases hmatch : subcompatibility = LFG_COMPATIBLES_MATCH
          · simp only [if_pos hmatch]
            subst hmatch
            refine hinside.lift honly (List.sublist_append_left _ _) (List.sublist_cons_self _ _)
              (by rw [hassoc]) ?_
            rw [List.append_nil]
            exact List.subset_cons_self _ _
          · simp only [if_neg hmatch] at hlater ⊢
            cases hinside with
            | proposed heq _ _ _ => exact absurd heq hmatch
            | kept honly₂ hrest _ =>
              dsimp only at honly₂ hrest
              refine (@ih s₂ check all₂ (hdata₂ (honly.trans honly₂) hrest)
                fun call h => hlater call (List.mem_append_right _ h)).lift (honly.trans honly₂)
                (List.Sublist.refl _) (hrest.trans (List.sublist_cons_self _ _))
                ((hrest.append_left check).trans hsub) ?_
              exact fun call h => List.mem_cons_of_mem _ (List.mem_append_right _ h)
        · simp only [if_neg hless] at hlater ⊢
          by_cases hmatch : compatibles = LFG_COMPATIBLES_MATCH
          · simp only [if_pos hmatch]
            exact .kept honly (List.sublist_cons_self _ _) fun _ =>
              ⟨_, List.mem_cons_self, hcached hmatch⟩
          · simp only [if_neg hmatch] at hlater ⊢
            exact (ih (hdata₂ honly (List.Sublist.refl all)) hlater).lift honly
              (List.Sublist.refl _) (List.sublist_cons_self _ _) hsub (List.subset_cons_self _ _)

theorem findNewGroups_outcome (hdata : ∀ guid ∈ check ++ all, (s.queueDataStore guid).isSome)
    (hinner : ∀ call ∈ s.findNewGroupsCalls check all, ¬ InnerMatch call.1 call.2) :
    SearchOutcome s check all (s.findNewGroupsCalls check all) (s.findNewGroups check all) := by
  rw [findNewGroupsCalls] at hinner ⊢
  rw [findNewGroups]
  obtain ⟨hfirst, hlater⟩ := List.forall_mem_cons.mp hinner
  have hcall := lookUp_outcome (fun g hg => hdata g (List.mem_append_left all hg)) hfirst
  clear hinner hfirst
  generalize s.lookUp check = called at hcall hlater
  obtain ⟨compatibles, s₁⟩ := called
  dsimp only at hlater
  cases hcall with
  | proposed hmatch hproposed =>
    dsimp only at hmatch hproposed ⊢
    have hless : compatibles ≠ LFG_COMPATIBLES_WITH_LESS_PLAYERS := by
      rw [hmatch]
      exact less_ne_match.symm
    simp only [if_neg hless]
    exact .proposed hmatch (List.Sublist.refl check) (List.sublist_append_left check all) hproposed
  | kept honly hcached =>
    dsimp only at honly hcached ⊢
    by_cases hless : compatibles = LFG_COMPATIBLES_WITH_LESS_PLAYERS
    · simp only [if_pos hless] at hlater ⊢
      refine (matchQueued_outcome all.length ?_ hlater).lift honly (List.Sublist.refl _)
        (List.Sublist.refl _) (List.Sublist.refl _) (List.subset_cons_self _ _)
      rw [honly.frame.data]
      exact hdata
    · simp only [if_neg hless]
      exact .kept honly (List.Sublist.refl _) fun h => ⟨_, List.mem_cons_self, hcached h⟩

/-! ## 4. Nobody is lost -/

/-- What one round of `FindGroups` does with the guid it takes off `newToQueueStore`, and whether
it counts a proposal. -/
inductive Round (s : LFGMgr) (frontguid : ObjectGuid) : Bool → LFGMgr → Prop
  /-- It goes to the end of the queue. -/
  | queued {s' : LFGMgr} : OnlyCache (s.removeFromNewQueue frontguid) s' →
      Round s frontguid false (s'.addToCurrentQueue frontguid)
  /-- It has found partners. -/
  | proposed {s' : LFGMgr} {queues : GuidList} : frontguid ∈ queues →
      queues.Sublist (frontguid :: s.currentQueueStore) →
      Proposed (s.removeFromNewQueue frontguid) queues s' → Round s frontguid true s'
  /-- It counts as having found partners, because the cache says so. -/
  | lost {s' : LFGMgr} : OnlyCache (s.removeFromNewQueue frontguid) s' →
      (∃ call ∈ s.roundCalls frontguid, CachedMatch call.1 call.2) → Round s frontguid true s'

theorem round_cases (hnew : s.newToQueueStore = frontguid :: rest) (hs : s.Recorded)
    (hinner : ∀ call ∈ s.roundCalls frontguid, ¬ InnerMatch call.1 call.2) :
    Round s frontguid ((s.roundSearch frontguid).1 = LFG_COMPATIBLES_MATCH)
      (s.afterRound frontguid) := by
  have hdata : ∀ guid ∈ [frontguid] ++ s.currentQueueStore,
      ((s.removeFromNewQueue frontguid).queueDataStore guid).isSome := by
    intro guid hguid
    refine hs guid ?_
    rcases List.mem_append.mp hguid with hguid | hguid
    · rw [List.mem_singleton.mp hguid, hnew]
      exact List.mem_cons_self
    · exact List.mem_append_right _ hguid
  have hsearch : SearchOutcome _ _ _ _ (s.roundSearch frontguid) :=
    findNewGroups_outcome hdata hinner
  rw [afterRound]
  generalize s.roundSearch frontguid = r at hsearch
  cases hsearch with
  | proposed hmatch hfront hqueues hproposed =>
    rw [if_pos hmatch, decide_eq_true hmatch]
    exact .proposed (List.singleton_sublist.mp hfront) hqueues hproposed
  | kept honly _ hcached =>
    by_cases hmatch : r.1 = LFG_COMPATIBLES_MATCH
    · rw [if_pos hmatch, decide_eq_true hmatch]
      exact .lost honly (hcached hmatch)
    · rw [if_neg hmatch, decide_eq_false hmatch]
      exact .queued honly

/-- **The rule of the loop**: what every round keeps under a condition on its calls, `FindGroups`
keeps if all its calls meet the condition. -/
theorem findGroupsLoop_rule {I : LFGMgr → UInt8 → Prop} {C : LFGMgr → GuidList → Prop}
    (hC : ∀ s check, C s check → ¬ InnerMatch s check)
    (hround : ∀ s frontguid rest proposals matched s', s.newToQueueStore = frontguid :: rest →
      s.Kept → (∀ call ∈ s.roundCalls frontguid, C call.1 call.2) →
      Round s frontguid matched s' → I s proposals →
      I s' (if matched then proposals + 1 else proposals))
    (fuel : ℕ) {proposals : UInt8} (hs : s.Kept)
    (hcalls : ∀ call ∈ findGroupsLoopCalls fuel s, C call.1 call.2) (hI : I s proposals) :
    I (findGroupsLoop fuel s proposals).2 (findGroupsLoop fuel s proposals).1 := by
  induction fuel generalizing s proposals with
  | zero => exact hI
  | succ fuel ih =>
    cases hnew : s.newToQueueStore with
    | nil =>
      rw [findGroupsLoop, hnew]
      exact hI
    | cons frontguid rest =>
      rw [findGroupsLoopCalls, hnew] at hcalls
      have hfirst : ∀ call ∈ s.roundCalls frontguid, C call.1 call.2 := fun call h =>
        hcalls call (List.mem_append_left _ h)
      rw [findGroupsLoop_succ hnew]
      refine ih (afterRound_kept hnew hs) (fun call h => hcalls call (List.mem_append_right _ h)) ?_
      have hstep := hround s frontguid rest proposals _ _ hnew hs hfirst
        (round_cases hnew hs.recorded fun call h => hC _ _ (hfirst call h)) hI
      simpa using hstep

/-- A search that neither takes a match from the cache nor finds one inside a check. -/
def CleanCall (s : LFGMgr) (check : GuidList) : Prop :=
  ¬ s.CachedMatch check ∧ ¬ s.InnerMatch check

/-- What `FindGroups` owes to the queue it started with: every guid of it is in the queue or in a
proposal that was added, and the proposals that were added are counted. -/
structure Accounted (s : LFGMgr) (proposals : ℕ) (s' : LFGMgr) : Prop where
  accounted : ∃ added : List (ℕ × LfgProposal),
    s'.proposalsStore = s.proposalsStore ++ added ∧ added.length = proposals ∧
    (∀ guid ∈ s.newToQueueStore ++ s.currentQueueStore,
      guid ∈ s'.newToQueueStore ++ s'.currentQueueStore ∨
        ∃ entry ∈ added, guid ∈ entry.2.queues)

theorem Accounted.refl (s : LFGMgr) : Accounted s 0 s :=
  ⟨[], (List.append_nil _).symm, rfl, fun _ h => .inl h⟩

theorem Accounted.trans {n n' : ℕ} (h : Accounted s n s') (h' : Accounted s' n' s'') :
    Accounted s (n + n') s'' := by
  obtain ⟨added, hstore, hlength, hall⟩ := h.accounted
  obtain ⟨added', hstore', hlength', hall'⟩ := h'.accounted
  refine ⟨added ++ added', ?_, ?_, fun guid hguid => ?_⟩
  · rw [hstore', hstore, List.append_assoc]
  · rw [List.length_append, hlength, hlength']
  · rcases hall guid hguid with hguid | ⟨entry, hentry, hin⟩
    · rcases hall' guid hguid with hguid | ⟨entry, hentry, hin⟩
      · exact .inl hguid
      · exact .inr ⟨entry, List.mem_append_right _ hentry, hin⟩
    · exact .inr ⟨entry, List.mem_append_left _ hentry, hin⟩

theorem Round.accounted {matched : Bool} (h : Round s frontguid matched s')
    (hclean : ∀ call ∈ s.roundCalls frontguid, ¬ CachedMatch call.1 call.2) :
    Accounted s (if matched then 1 else 0) s' := by
  have hremoved : ∀ {guid}, guid ∈ s.newToQueueStore → guid ≠ frontguid →
      guid ∈ s.newToQueueStore.filter (· ≠ frontguid) := fun h hne =>
    List.mem_filter.mpr ⟨h, by simpa using hne⟩
  cases h with
  | lost _ hcached =>
    obtain ⟨call, hcall, hc⟩ := hcached
    exact absurd hc (hclean call hcall)
  | queued honly =>
    obtain ⟨cache, rfl⟩ := honly
    refine ⟨[], (List.append_nil _).symm, rfl, fun guid hguid => .inl ?_⟩
    change guid ∈ s.newToQueueStore.filter (· ≠ frontguid) ++ (s.currentQueueStore ++ [frontguid])
    simp only [List.mem_append, List.mem_singleton] at hguid ⊢
    by_cases hfront : guid = frontguid
    · exact .inr (.inr hfront)
    · exact hguid.imp (hremoved · hfront) .inl
  | @proposed _ queues hfront hqueues hproposed =>
    obtain ⟨cache, proposal, hq, -, rfl⟩ := hproposed
    refine ⟨[(s.lfgProposalId + 1, proposal)], rfl, rfl, fun guid hguid => ?_⟩
    by_cases hin : guid ∈ proposal.queues
    · exact .inr ⟨_, List.mem_singleton_self _, hin⟩
    · rw [hq] at hin
      have hne : guid ≠ frontguid := by
        rintro rfl
        exact hin hfront
      left
      change guid ∈ (s.newToQueueStore.filter (· ≠ frontguid)).filter (· ∉ queues) ++
        s.currentQueueStore.filter (· ∉ queues)
      simp only [List.mem_append, List.mem_filter, decide_eq_true hin, and_true] at hguid ⊢
      exact hguid.imp_left fun h => ⟨h, by simpa using hne⟩

theorem newToQueueStore_findGroupsLoop (fuel : ℕ) (proposals : UInt8)
    (hfuel : s.newToQueueStore.length ≤ fuel) :
    (findGroupsLoop fuel s proposals).2.newToQueueStore = [] := by
  induction fuel generalizing s proposals with
  | zero => exact List.length_eq_zero_iff.mp (Nat.le_zero.mp hfuel)
  | succ fuel ih =>
    cases hnew : s.newToQueueStore with
    | nil =>
      rw [findGroupsLoop, hnew]
      exact hnew
    | cons frontguid rest =>
      rw [findGroupsLoop_succ hnew]
      refine ih _ ?_
      have hsearch : ((s.roundSearch frontguid).2.1.newToQueueStore).Sublist
          (s.newToQueueStore.filter (· ≠ frontguid)) :=
        (findNewGroups_settles (s.removeFromNewQueue frontguid) _ _).newQueue
      have hlt : (s.newToQueueStore.filter (· ≠ frontguid)).length ≤ rest.length := by
        rw [hnew, List.filter_cons_of_neg (by simp)]
        exact List.length_filter_le _ _
      have hnext : (s.afterRound frontguid).newToQueueStore =
          (s.roundSearch frontguid).2.1.newToQueueStore := by
        rw [afterRound]
        split <;> rfl
      rw [hnew, List.length_cons] at hfuel
      rw [hnext]
      have := hsearch.length_le
      omega

theorem toNat_count {proposals : UInt8} {n : ℕ} (matched : Bool) (h : proposals.toNat = n % 256) :
    (if matched then proposals + 1 else proposals).toNat =
      (n + if matched then 1 else 0) % 256 := by
  cases matched with
  | false => simpa using h
  | true =>
    rw [if_pos rfl, if_pos rfl, UInt8.toNat_add, h]
    change (n % 256 + 1) % 256 = _
    omega

theorem Round.newToQueueStore_lt {matched : Bool}
    (h : Round s frontguid matched s') (hnew : s.newToQueueStore = frontguid :: rest) :
    s'.newToQueueStore.length + (if matched then 1 else 0) ≤ s.newToQueueStore.length := by
  have hlt : (s.newToQueueStore.filter (· ≠ frontguid)).length ≤ rest.length := by
    rw [hnew, List.filter_cons_of_neg (by simp)]
    exact List.length_filter_le _ _
  have hle : s'.newToQueueStore.length ≤ (s.newToQueueStore.filter (· ≠ frontguid)).length := by
    cases h with
    | queued honly =>
      obtain ⟨_, rfl⟩ := honly
      exact Nat.le_refl _
    | proposed _ _ hproposed =>
      obtain ⟨_, _, _, _, rfl⟩ := hproposed
      exact List.length_filter_le _ _
    | lost honly =>
      obtain ⟨_, rfl⟩ := honly
      exact Nat.le_refl _
  rw [hnew, List.length_cons]
  split <;> omega

/-- **Nobody is lost.**  In every run, a call of `FindGroups` in which no search takes a match
from the cache or finds one inside a check leaves every guid of the queue in the queue, or in a
proposal it has added; and it returns how many it has added, as far as a `uint8` can say. -/
theorem run_findGroups_accounted (evs : List Event)
    (hclean : ∀ call ∈ (exec step LFGMgr.start evs).findGroupsCalls, CleanCall call.1 call.2) :
    ∃ added : List (ℕ × LfgProposal),
      (exec step LFGMgr.start evs).findGroups.2.proposalsStore =
        (exec step LFGMgr.start evs).proposalsStore ++ added ∧
      (∀ guid ∈ (exec step LFGMgr.start evs).newToQueueStore ++
          (exec step LFGMgr.start evs).currentQueueStore,
        guid ∈ (exec step LFGMgr.start evs).findGroups.2.currentQueueStore ∨
          ∃ entry ∈ added, guid ∈ entry.2.queues) ∧
      (exec step LFGMgr.start evs).findGroups.1.toNat = added.length % 256 ∧
      ((exec step LFGMgr.start evs).newToQueueStore.length < 256 →
        (exec step LFGMgr.start evs).findGroups.1.toNat = added.length) := by
  have hkept := exec_kept evs
  generalize exec step LFGMgr.start evs = s at hclean hkept ⊢
  have hrule := findGroupsLoop_rule
    (I := fun s' proposals => ∃ n, Accounted s n s' ∧ proposals.toNat = n % 256 ∧
      s'.newToQueueStore.length + n ≤ s.newToQueueStore.length)
    (C := CleanCall) (fun _ _ h => h.2)
    (fun s₁ frontguid rest proposals matched s₂ hnew _ hcalls hround ⟨n, hn, hcount, hle⟩ =>
      ⟨_, hn.trans (hround.accounted fun call h => (hcalls call h).1), toNat_count matched hcount, by
        have := hround.newToQueueStore_lt hnew
        omega⟩)
    s.newToQueueStore.length hkept hclean
    (⟨0, Accounted.refl s, rfl, Nat.le_refl _⟩ : ∃ n, Accounted s n s ∧ (0 : UInt8).toNat = n % 256 ∧
      s.newToQueueStore.length + n ≤ s.newToQueueStore.length)
  obtain ⟨n, ⟨added, hstore, hlength, hall⟩, hcount, hle⟩ := hrule
  have hempty := newToQueueStore_findGroupsLoop (s := s) s.newToQueueStore.length 0 (Nat.le_refl _)
  refine ⟨added, hstore, fun guid hguid => ?_, by rw [hlength]; exact hcount, fun hfew => ?_⟩
  · have hguid' := hall guid hguid
    rw [hempty, List.nil_append] at hguid'
    exact hguid'
  · rw [hlength]
    refine hcount.trans (Nat.mod_eq_of_lt ?_)
    omega

theorem ReadyInside.length_le (h : s.ReadyInside check) : 3 ≤ check.length := by
  obtain ⟨-, inner, hsuffix, hlength, -⟩ := h
  have := hsuffix.length_le
  rw [List.length_tail] at this
  omega

def twoJoin : List Event :=
  [.join 1 none [] PLAYER_ROLE_TANK (.allowed [1]), .join 2 none [] PLAYER_ROLE_DAMAGE (.allowed [1])]

theorem twoJoin_findGroups_accounted :
    ∃ added : List (ℕ × LfgProposal),
      (exec step LFGMgr.start twoJoin).findGroups.2.proposalsStore =
        (exec step LFGMgr.start twoJoin).proposalsStore ++ added ∧
      (∀ guid ∈ (exec step LFGMgr.start twoJoin).newToQueueStore ++
          (exec step LFGMgr.start twoJoin).currentQueueStore,
        guid ∈ (exec step LFGMgr.start twoJoin).findGroups.2.currentQueueStore ∨
          ∃ entry ∈ added, guid ∈ entry.2.queues) ∧
      (exec step LFGMgr.start twoJoin).findGroups.1.toNat = added.length % 256 ∧
      ((exec step LFGMgr.start twoJoin).newToQueueStore.length < 256 →
        (exec step LFGMgr.start twoJoin).findGroups.1.toNat = added.length) := by
  refine run_findGroups_accounted twoJoin fun call hcall => ?_
  have hall : ((exec step LFGMgr.start twoJoin).findGroupsCalls.all fun call =>
      decide (call.1.getCompatibles (concatenateGuids call.2) = LFG_COMPATIBILITY_PENDING ∨
        call.1.getCompatibles (concatenateGuids call.2) = LFG_COMPATIBLES_WITH_LESS_PLAYERS) &&
      decide (call.2.length < 3)) = true := by decide +kernel
  have hone := List.all_eq_true.mp hall call hcall
  rw [Bool.and_eq_true, decide_eq_true_iff, decide_eq_true_iff] at hone
  refine ⟨?_, fun h => ?_⟩
  · rintro (h | ⟨h, -⟩) <;> rw [h] at hone <;> exact absurd hone.1 (by decide)
  · have := h.2.length_le
    omega

/-- Five players find each other, and before they have answered all of them join again. -/
def fiveRejoin : List Event :=
  let joins : List Event :=
    [.join 1 none [] PLAYER_ROLE_TANK (.allowed [1]),
      .join 2 none [] PLAYER_ROLE_HEALER (.allowed [1]),
      .join 3 none [] PLAYER_ROLE_DAMAGE (.allowed [1]),
      .join 4 none [] PLAYER_ROLE_DAMAGE (.allowed [1]),
      .join 5 none [] PLAYER_ROLE_DAMAGE (.allowed [1])]
  joins ++ .findGroups :: joins

/-- The search for the last of them ends with a match of the cache: he is in no list and in no new
proposal. -/
theorem fiveRejoin_lost :
    ¬ ∀ evs, ∃ added : List (ℕ × LfgProposal),
      (exec step LFGMgr.start evs).findGroups.2.proposalsStore =
        (exec step LFGMgr.start evs).proposalsStore ++ added ∧
      (∀ guid ∈ (exec step LFGMgr.start evs).newToQueueStore ++
          (exec step LFGMgr.start evs).currentQueueStore,
        guid ∈ (exec step LFGMgr.start evs).findGroups.2.currentQueueStore ∨
          ∃ entry ∈ added, guid ∈ entry.2.queues) ∧
      (exec step LFGMgr.start evs).findGroups.1.toNat = added.length := by
  intro h
  obtain ⟨added, hstore, hall, -⟩ := h fiveRejoin
  have hlength := congrArg List.length hstore
  have hnone : (exec step LFGMgr.start fiveRejoin).findGroups.2.proposalsStore.length =
      (exec step LFGMgr.start fiveRejoin).proposalsStore.length := by decide +kernel
  rw [hnone, List.length_append] at hlength
  have hadded : added = [] := List.length_eq_zero_iff.mp (by omega)
  have hnew : (5 : ObjectGuid) ∈ (exec step LFGMgr.start fiveRejoin).newToQueueStore := by
    decide +kernel
  have hgone : (5 : ObjectGuid) ∉
      (exec step LFGMgr.start fiveRejoin).findGroups.2.currentQueueStore := by
    decide +kernel
  rcases hall 5 (List.mem_append_left _ hnew) with hin | ⟨entry, hentry, -⟩
  · exact hgone hin
  · rw [hadded] at hentry
    cases hentry

end FunPvp.DungeonFinding.LFGMgr
