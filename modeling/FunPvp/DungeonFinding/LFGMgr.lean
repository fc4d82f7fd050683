/-
# Joining, leaving, role checks and proposals

The handlers of `LFGMgr` around the queue. Whether a player may join at all (his permissions,
auras and battlegrounds, the dungeons he has access to) is decided by code that looks at none of
the stores of the dungeon finder; its answer comes with the call. What others do in between, to
states, groups and social lists, is a step of its own.

The queue is that of one faction, and the ids of the proposals are not reused.
-/
import FunPvp.DungeonFinding.Search

namespace FunPvp.DungeonFinding

open FunPvp.Groups (ObjectGuid MAXGROUPSIZE)
open LfgCompatibility LfgState LfgAnswer LfgRoleCheckState

/-- What the checks of `JoinLfg` come to. -/
inductive JoinOutcome
  | refused
  | raid
  | allowed (dungeons : List ℕ)
deriving DecidableEq

namespace LfgProposal

def answer (proposal : LfgProposal) (guid : ObjectGuid) (accept : LfgAnswer) : LfgProposal :=
  { proposal with
    players := proposal.players.map fun entry =>
      if entry.1 = guid then (entry.1, { entry.2 with accept }) else entry }

/-- Whoever has not answered in time has not accepted. -/
def denyPending (proposal : LfgProposal) : LfgProposal :=
  { proposal with
    players := proposal.players.map fun entry =>
      if entry.2.accept = LFG_ANSWER_PENDING then
        (entry.1, { entry.2 with accept := LFG_ANSWER_DENY })
      else entry }

def queueGuid (entry : ObjectGuid × LfgProposalPlayer) : ObjectGuid :=
  if entry.2.group ≠ 0 then entry.2.group else entry.1

def toRemove (proposal : LfgProposal) (failed : Bool) : GuidList :=
  (proposal.players.filter fun entry =>
    entry.2.accept ≠ LFG_ANSWER_AGREE ∧ (entry.2.accept = LFG_ANSWER_DENY ∨ failed)).map queueGuid

end LfgProposal

namespace LFGMgr

/-! ## 1. States -/

/-- `SetState`: being nowhere, in a dungeon or done with it is what one comes back to. -/
def setState (s : LFGMgr) (guid : ObjectGuid) (state : LfgState) : LFGMgr :=
  { s with
    state := Function.update s.state guid state
    oldState :=
      if state = LFG_STATE_NONE ∨ state = LFG_STATE_FINISHED_DUNGEON ∨ state = LFG_STATE_DUNGEON then
        Function.update s.oldState guid state
      else s.oldState }

def restoreState (s : LFGMgr) (guid : ObjectGuid) : LFGMgr :=
  { s with state := Function.update s.state guid (s.oldState guid) }

def setStates (s : LFGMgr) (guids : GuidList) (state : LfgState) : LFGMgr :=
  guids.foldl (fun s guid => s.setState guid state) s

def restoreStates (s : LFGMgr) (guids : GuidList) : LFGMgr := guids.foldl restoreState s

/-! ## 2. Role checks -/

/-- The role check once a player has answered; the guid `0` aborts it. -/
def answerRoleCheck (roleCheck : LfgRoleCheck) (guid : ObjectGuid) (roles : UInt8) :
    LfgRoleCheck :=
  if guid = 0 then { roleCheck with state := LFG_ROLECHECK_ABORTED }
  else if roles < PLAYER_ROLE_TANK then { roleCheck with state := LFG_ROLECHECK_NO_ROLE }
  else
    let chosen := setRole guid roles roleCheck.roles
    if chosen.all fun entry => entry.2 ≠ PLAYER_ROLE_NONE then
      { roleCheck with
        roles := chosen
        state := if (checkGroupRoles chosen).1 then LFG_ROLECHECK_FINISHED
          else LFG_ROLECHECK_WRONG_ROLES }
    else { roleCheck with roles := chosen }

def storeRoleCheck (s : LFGMgr) (gguid : ObjectGuid) (roleCheck : Option LfgRoleCheck) : LFGMgr :=
  { s with roleChecksStore := Function.update s.roleChecksStore gguid roleCheck }

def updateRoleCheck (s : LFGMgr) (gguid guid : ObjectGuid) (roles : UInt8) : LFGMgr :=
  if gguid = 0 then s
  else
    match s.roleChecksStore gguid with
    | none => s
    | some stored =>
      let roleCheck := answerRoleCheck stored guid roles
      let members := keys roleCheck.roles
      match roleCheck.state with
      | LFG_ROLECHECK_INITIALITING => s.storeRoleCheck gguid (some roleCheck)
      | LFG_ROLECHECK_FINISHED =>
        let s := (s.setStates members LFG_STATE_QUEUED).setState gguid LFG_STATE_QUEUED
        let s := s.addQueueData gguid { dungeons := roleCheck.dungeons, roles := roleCheck.roles }
        s.storeRoleCheck gguid none
      | _ => ((s.restoreStates members).restoreState gguid).storeRoleCheck gguid none

/-! ## 3. Joining and leaving -/

/-- The beginning of `JoinLfg`: whoever is queued leaves the queue first. -/
def leaveQueued (s : LFGMgr) (gguid : ObjectGuid) : LFGMgr :=
  if s.state gguid = LFG_STATE_QUEUED then s.removeFromQueue gguid else s

/-- The role check of a group that joins; the answers to one that is under way are kept for
whoever is no member any more. -/
def beginRoleCheck (s : LFGMgr) (gguid : ObjectGuid) (members : GuidList) (dungeons : List ℕ) :
    LFGMgr :=
  let before := match s.roleChecksStore gguid with
    | some roleCheck => roleCheck.roles
    | none => []
  let roleCheck : LfgRoleCheck :=
    { roles := members.foldl (fun roles pguid => setRole pguid PLAYER_ROLE_NONE roles) before
      state := LFG_ROLECHECK_INITIALITING
      dungeons }
  ((s.setState gguid LFG_STATE_ROLECHECK).setStates members LFG_STATE_ROLECHECK).storeRoleCheck
    gguid (some roleCheck)

/-- `JoinLfg` of the player `guid`, who is alone or in the group `grp` with the members that are
online. -/
def joinLfg (s : LFGMgr) (guid : ObjectGuid) (grp : Option ObjectGuid) (members : GuidList)
    (roles : UInt8) (outcome : JoinOutcome) : LFGMgr :=
  let s := s.leaveQueued (grp.getD guid)
  match outcome with
  | .refused => s
  | .raid => s
  | .allowed dungeons =>
    match grp with
    | some gguid => (s.beginRoleCheck gguid members dungeons).updateRoleCheck gguid guid roles
    | none =>
      (s.addQueueData guid { dungeons, roles := [(guid, roles)] }).setState guid LFG_STATE_QUEUED

/-! ## 4. Proposals -/

def findProposal (s : LFGMgr) (id : ℕ) : Option LfgProposal :=
  (s.proposalsStore.find? fun entry => entry.1 = id).map Prod.snd

def storeProposal (s : LFGMgr) (id : ℕ) (proposal : LfgProposal) : LFGMgr :=
  { s with
    proposalsStore := s.proposalsStore.map fun entry =>
      if entry.1 = id then (id, proposal) else entry }

def eraseProposal (s : LFGMgr) (id : ℕ) : LFGMgr :=
  { s with proposalsStore := s.proposalsStore.filter fun entry => entry.1 ≠ id }

/-- What a player of a proposal that fails is told: back to where he came from if his guid leaves
the queue, and queued again otherwise. -/
def notifyFailed (s : LFGMgr) (toRemove : GuidList)
    (entry : ObjectGuid × LfgProposalPlayer) : LFGMgr :=
  let gguid := LfgProposal.queueGuid entry
  if gguid ∈ toRemove then
    let s := s.restoreState entry.1
    if gguid ≠ entry.1 then s.restoreState entry.2.group else s
  else
    let s := s.setState entry.1 LFG_STATE_QUEUED
    if gguid ≠ entry.1 then s.setState gguid LFG_STATE_QUEUED else s

def removeGuids (s : LFGMgr) (guids : GuidList) : LFGMgr := guids.foldl removeFromQueue s

/-- The guids go to the front of the queue, one after the other. -/
def readdGuids (s : LFGMgr) (guids : GuidList) : LFGMgr :=
  guids.foldl (fun s guid => s.addToQueue guid true) s

/-- `RemoveProposal`, of a proposal that was declined or, with `failed`, has run out of time. -/
def removeProposal (s : LFGMgr) (id : ℕ) (failed : Bool) : LFGMgr :=
  match s.findProposal id with
  | none => s
  | some stored =>
    let proposal := if failed then stored.denyPending else stored
    let toRemove := proposal.toRemove failed
    let s := proposal.players.foldl (fun s entry => s.notifyFailed toRemove entry) s
    let s := s.removeGuids toRemove
    let s := s.readdGuids (proposal.queues.filter (· ∉ toRemove))
    s.eraseProposal id

/-- `GetJoinTime` of the guid the player queued with: `QueueDataStore[guid]` makes an entry where
there is none. -/
def getJoinTime (s : LFGMgr) (guid : ObjectGuid) : LFGMgr :=
  { s with queueDataStore := Function.update s.queueDataStore guid (some (s.queueData guid)) }

/-- `UpdateProposal`. The group that is made of the players, and what becomes of the groups they
were in, is a matter of the steps that follow. -/
def updateProposal (s : LFGMgr) (id : ℕ) (guid : ObjectGuid) (accept : Bool) : LFGMgr :=
  match s.findProposal id with
  | none => s
  | some stored =>
    if guid ∉ stored.players.map Prod.fst then s
    else
      let proposal := stored.answer guid (if accept then LFG_ANSWER_AGREE else LFG_ANSWER_DENY)
      let s := s.storeProposal id proposal
      if !accept then s.removeProposal id false
      else if ∃ entry ∈ proposal.players, entry.2.accept ≠ LFG_ANSWER_AGREE then s
      else
        let s := proposal.players.foldl (fun s entry =>
          (s.getJoinTime (LfgProposal.queueGuid entry)).setState entry.1 LFG_STATE_DUNGEON) s
        let s := s.removeGuids proposal.queues
        s.eraseProposal id

def leaveLfg (s : LFGMgr) (guid : ObjectGuid) (disconnected : Bool) : LFGMgr :=
  let gguid := if isGroup guid then guid else s.group guid
  match s.state guid with
  | LFG_STATE_QUEUED =>
    if gguid ≠ 0 then
      ((s.removeFromQueue gguid).setState gguid LFG_STATE_NONE).setStates (s.players gguid)
        LFG_STATE_NONE
    else (s.removeFromQueue guid).setState guid LFG_STATE_NONE
  | LFG_STATE_ROLECHECK => if gguid ≠ 0 then s.updateRoleCheck gguid 0 PLAYER_ROLE_NONE else s
  | LFG_STATE_PROPOSAL =>
    let pguid := if gguid = guid then s.leader gguid else guid
    match s.proposalsStore.find? fun entry => pguid ∈ entry.2.players.map Prod.fst with
    | none => s
    | some (id, proposal) =>
      (s.storeProposal id (proposal.answer pguid LFG_ANSWER_DENY)).removeProposal id false
  | LFG_STATE_NONE => s
  | LFG_STATE_RAIDBROWSER => s
  | LFG_STATE_DUNGEON =>
    if guid ≠ gguid ∧ !disconnected then s.setState guid LFG_STATE_NONE else s
  | LFG_STATE_FINISHED_DUNGEON =>
    if guid ≠ gguid ∧ !disconnected then s.setState guid LFG_STATE_NONE else s

/-! ## 5. Steps -/

/-- The end of `Update` once it has looked for groups: the players of the last proposal, and only
of that one, get the state of a proposal. -/
def announceProposal (s : LFGMgr) : LFGMgr :=
  match s.findProposal s.lfgProposalId with
  | none => s
  | some proposal =>
    proposal.players.foldl (fun s entry =>
      let s := s.setState entry.1 LFG_STATE_PROPOSAL
      if s.group entry.1 ≠ 0 then s.setState (s.group entry.1) LFG_STATE_PROPOSAL else s) s

/-- The part of `Update` that looks for groups. -/
def updateQueue (s : LFGMgr) : LFGMgr :=
  let found := s.findGroups.2
  if s.lfgProposalId ≠ found.lfgProposalId then found.announceProposal else found

def expireRoleCheck (s : LFGMgr) (gguid : ObjectGuid) : LFGMgr :=
  match s.roleChecksStore gguid with
  | none => s
  | some roleCheck =>
    ((s.restoreStates (keys roleCheck.roles)).restoreState gguid).storeRoleCheck gguid none

inductive Event
  | join (guid : ObjectGuid) (grp : Option ObjectGuid) (members : GuidList) (roles : UInt8)
      (outcome : JoinOutcome)
  | leave (guid : ObjectGuid) (disconnected : Bool)
  | roleCheck (gguid guid : ObjectGuid) (roles : UInt8)
  | expireRoleCheck (gguid : ObjectGuid)
  | findGroups
  | updateProposal (id : ℕ) (guid : ObjectGuid) (accept : Bool)
  | expireProposal (id : ℕ)
  /-- What others do: any change of states, groups and social lists. -/
  | elsewhere (state oldState : ObjectGuid → LfgState) (connected : ObjectGuid → Bool)
      (ignoring : ObjectGuid → ObjectGuid → Bool) (group : ObjectGuid → ObjectGuid)
      (players : ObjectGuid → GuidList) (leader : ObjectGuid → ObjectGuid)

def step (s : LFGMgr) : Event → LFGMgr
  | .join guid grp members roles outcome => s.joinLfg guid grp members roles outcome
  | .leave guid disconnected => s.leaveLfg guid disconnected
  | .roleCheck gguid guid roles => s.updateRoleCheck gguid guid roles
  | .expireRoleCheck gguid => s.expireRoleCheck gguid
  | .findGroups => s.updateQueue
  | .updateProposal id guid accept => s.updateProposal id guid accept
  | .expireProposal id => s.removeProposal id true
  | .elsewhere state oldState connected ignoring group players leader =>
    { s with state, oldState, connected, ignoring, group, players, leader }

/-! ## 6. What a step can do -/

variable {s s' s'' : LFGMgr}

/-- The queue and the proposals are the same. -/
structure Untouched (s s' : LFGMgr) : Prop where
  newQueue : s'.newToQueueStore = s.newToQueueStore
  currentQueue : s'.currentQueueStore = s.currentQueueStore
  data : s'.queueDataStore = s.queueDataStore
  proposals : s'.proposalsStore = s.proposalsStore
  proposalId : s'.lfgProposalId = s.lfgProposalId

theorem Untouched.refl (s : LFGMgr) : Untouched s s := ⟨rfl, rfl, rfl, rfl, rfl⟩

theorem Untouched.trans (h : Untouched s s') (h' : Untouched s' s'') : Untouched s s'' :=
  ⟨h'.newQueue.trans h.newQueue, h'.currentQueue.trans h.currentQueue, h'.data.trans h.data,
    h'.proposals.trans h.proposals, h'.proposalId.trans h.proposalId⟩

theorem untouched_foldl {β : Type*} {f : LFGMgr → β → LFGMgr} (hf : ∀ s b, Untouched s (f s b))
    (l : List β) (s : LFGMgr) : Untouched s (l.foldl f s) := by
  induction l generalizing s with
  | nil => exact Untouched.refl s
  | cons b l ih => exact (hf s b).trans (ih (f s b))

theorem untouched_setState (s : LFGMgr) (guid : ObjectGuid) (state : LfgState) :
    Untouched s (s.setState guid state) := ⟨rfl, rfl, rfl, rfl, rfl⟩

theorem untouched_restoreState (s : LFGMgr) (guid : ObjectGuid) :
    Untouched s (s.restoreState guid) := ⟨rfl, rfl, rfl, rfl, rfl⟩

theorem untouched_setStates (s : LFGMgr) (guids : GuidList) (state : LfgState) :
    Untouched s (s.setStates guids state) :=
  untouched_foldl (fun s guid => untouched_setState s guid state) guids s

theorem untouched_restoreStates (s : LFGMgr) (guids : GuidList) :
    Untouched s (s.restoreStates guids) := untouched_foldl untouched_restoreState guids s

theorem untouched_storeRoleCheck (s : LFGMgr) (gguid : ObjectGuid)
    (roleCheck : Option LfgRoleCheck) : Untouched s (s.storeRoleCheck gguid roleCheck) :=
  ⟨rfl, rfl, rfl, rfl, rfl⟩

theorem untouched_beginRoleCheck (s : LFGMgr) (gguid : ObjectGuid) (members : GuidList)
    (dungeons : List ℕ) : Untouched s (s.beginRoleCheck gguid members dungeons) :=
  ((untouched_setState s _ _).trans (untouched_setStates _ _ _)).trans
    (untouched_storeRoleCheck _ _ _)

theorem untouched_notifyFailed (toRemove : GuidList) (s : LFGMgr)
    (entry : ObjectGuid × LfgProposalPlayer) : Untouched s (s.notifyFailed toRemove entry) := by
  rw [notifyFailed]
  dsimp only
  split
  · split
    · exact (untouched_restoreState s _).trans (untouched_restoreState _ _)
    · exact untouched_restoreState s _
  · split
    · exact (untouched_setState s _ _).trans (untouched_setState _ _ _)
    · exact untouched_setState s _ _

theorem untouched_announceProposal (s : LFGMgr) : Untouched s s.announceProposal := by
  rw [announceProposal]
  split
  · exact Untouched.refl s
  · refine untouched_foldl (fun s entry => ?_) _ s
    dsimp only
    split
    · exact (untouched_setState s _ _).trans (untouched_setState _ _ _)
    · exact untouched_setState s _ _

theorem untouched_expireRoleCheck (s : LFGMgr) (gguid : ObjectGuid) :
    Untouched s (s.expireRoleCheck gguid) := by
  rw [expireRoleCheck]
  split
  · exact Untouched.refl s
  · exact ((untouched_restoreStates s _).trans (untouched_restoreState _ _)).trans
      (untouched_storeRoleCheck _ _ _)

/-- What the steps are made of, the entry of a guid into the queue and the search apart. -/
inductive Change : LFGMgr → LFGMgr → Prop
  | keep {s s' : LFGMgr} : Untouched s s' → Change s s'
  | remove (s : LFGMgr) (guid : ObjectGuid) : Change s (removeFromQueue s guid)
  | joinTime (s : LFGMgr) (guid : ObjectGuid) : Change s (getJoinTime s guid)
  | answer {s : LFGMgr} {id : ℕ} {stored : LfgProposal} (proposal : LfgProposal) : findProposal s id = some stored →
      proposal.queues = stored.queues →
      proposal.players.map Prod.fst = stored.players.map Prod.fst →
      Change s (storeProposal s id proposal)
  | dissolve {s : LFGMgr} {id : ℕ} {stored : LfgProposal} {back : GuidList} : findProposal s id = some stored →
      back.Sublist stored.queues → Change s (eraseProposal (readdGuids s back) id)

abbrev Changes : LFGMgr → LFGMgr → Prop := Relation.ReflTransGen Change

theorem Untouched.changes (h : Untouched s s') : Changes s s' := .single (.keep h)

theorem changes_removeGuids (s : LFGMgr) (guids : GuidList) : Changes s (s.removeGuids guids) := by
  induction guids generalizing s with
  | nil => exact .refl
  | cons guid guids ih => exact .head (.remove s guid) (ih _)

theorem proposalsStore_removeGuids (s : LFGMgr) (guids : GuidList) :
    (s.removeGuids guids).proposalsStore = s.proposalsStore := by
  induction guids generalizing s with
  | nil => rfl
  | cons guid guids ih => exact ih (s.removeFromQueue guid)

theorem findProposal_congr (h : s'.proposalsStore = s.proposalsStore) (id : ℕ) :
    s'.findProposal id = s.findProposal id := by
  rw [findProposal, findProposal, h]

theorem changes_removeProposal (s : LFGMgr) (id : ℕ) (failed : Bool) :
    Changes s (s.removeProposal id failed) := by
  rw [removeProposal]
  split
  · exact .refl
  · next stored hstored =>
    dsimp only
    generalize hmarked : (if failed then stored.denyPending else stored) = proposal
    have hqueues : proposal.queues = stored.queues := by
      subst hmarked
      split <;> rfl
    have hnotify := untouched_foldl (untouched_notifyFailed (proposal.toRemove failed))
      proposal.players s
    generalize proposal.players.foldl _ s = s₁ at hnotify
    have hfound : (s₁.removeGuids (proposal.toRemove failed)).findProposal id = some stored := by
      rw [← hstored]
      exact findProposal_congr
        ((proposalsStore_removeGuids _ _).trans hnotify.proposals) id
    refine (hnotify.changes.trans (changes_removeGuids _ _)).tail (.dissolve hfound ?_)
    rw [← hqueues]
    exact List.filter_sublist

theorem LfgProposal.keys_answer (proposal : LfgProposal) (guid : ObjectGuid) (accept : LfgAnswer) :
    (proposal.answer guid accept).players.map Prod.fst = proposal.players.map Prod.fst := by
  rw [LfgProposal.answer, List.map_map]
  refine List.map_congr_left fun entry _ => ?_
  rw [Function.comp_apply]
  split <;> rfl

theorem findProposal_storeProposal {id : ℕ} {stored proposal : LfgProposal}
    (h : s.findProposal id = some stored) :
    (s.storeProposal id proposal).findProposal id = some proposal := by
  obtain ⟨entry, hentry, -⟩ := Option.map_eq_some_iff.mp h
  have hid : entry.1 = id := by simpa using List.find?_some hentry
  have hsame : (fun entry : ℕ × LfgProposal => decide (entry.1 = id)) ∘
      (fun entry => if entry.1 = id then (id, proposal) else entry) =
      fun entry => decide (entry.1 = id) := by
    funext entry
    rw [Function.comp_apply]
    split
    · next heq => simp [heq]
    · rfl
  rw [findProposal, storeProposal, List.find?_map, hsame, hentry, Option.map_some, Option.map_some,
    if_pos hid]

theorem findProposal_of_mem {id : ℕ} {proposal : LfgProposal}
    (hids : (s.proposalsStore.map Prod.fst).Nodup) (hmem : (id, proposal) ∈ s.proposalsStore) :
    s.findProposal id = some proposal := by
  rw [findProposal]
  generalize s.proposalsStore = store at hids hmem
  induction store with
  | nil => cases hmem
  | cons entry store ih =>
    obtain ⟨hnot, hids⟩ := List.nodup_cons.mp hids
    rcases List.mem_cons.mp hmem with rfl | hmem
    · simp
    · have hne : entry.1 ≠ id := fun heq => hnot (List.mem_map.mpr ⟨_, hmem, heq.symm⟩)
      rw [List.find?_cons_of_neg (by simpa using hne)]
      exact ih hids hmem

theorem changes_dungeon (players : List (ObjectGuid × LfgProposalPlayer)) (s : LFGMgr) :
    Changes s (players.foldl (fun s entry =>
      (s.getJoinTime (LfgProposal.queueGuid entry)).setState entry.1 LFG_STATE_DUNGEON) s) := by
  induction players generalizing s with
  | nil => exact .refl
  | cons entry players ih =>
    exact .head (.joinTime s _) (.head (.keep (untouched_setState _ _ _)) (ih _))

theorem proposalsStore_dungeon (players : List (ObjectGuid × LfgProposalPlayer)) (s : LFGMgr) :
    (players.foldl (fun s entry =>
      (s.getJoinTime (LfgProposal.queueGuid entry)).setState entry.1 LFG_STATE_DUNGEON)
      s).proposalsStore = s.proposalsStore := by
  induction players generalizing s with
  | nil => rfl
  | cons entry players ih => exact ih _

theorem changes_updateProposal (s : LFGMgr) (id : ℕ) (guid : ObjectGuid) (accept : Bool) :
    Changes s (s.updateProposal id guid accept) := by
  rw [updateProposal]
  split
  · exact .refl
  · next stored hstored =>
    split
    · exact .refl
    · dsimp only
      generalize hanswer :
        stored.answer guid (if accept then LFG_ANSWER_AGREE else LFG_ANSWER_DENY) = proposal
      have hstore : Changes s (s.storeProposal id proposal) := by
        refine .single (.answer proposal hstored ?_ ?_)
        · rw [← hanswer]
          rfl
        · rw [← hanswer]
          exact LfgProposal.keys_answer _ _ _
      split
      · exact hstore.trans (changes_removeProposal _ id false)
      · split
        · exact hstore
        · refine (hstore.trans (changes_dungeon proposal.players _)).trans ?_
          have hfound : (((proposal.players.foldl (fun s entry =>
              (s.getJoinTime (LfgProposal.queueGuid entry)).setState entry.1 LFG_STATE_DUNGEON)
              (s.storeProposal id proposal))).removeGuids proposal.queues).findProposal id =
                some proposal := by
            rw [← findProposal_storeProposal hstored]
            exact findProposal_congr
              ((proposalsStore_removeGuids _ _).trans (proposalsStore_dungeon _ _)) id
          exact (changes_removeGuids _ proposal.queues).tail
            (@Change.dissolve _ id proposal [] hfound (List.nil_sublist _))

/-- A role check that is answered, or given up, adds its group to the queue or leaves the queue
alone. -/
def roleCheckAdds (s : LFGMgr) (gguid guid : ObjectGuid) (roles : UInt8) :
    Option (ObjectGuid × LfgQueueData) :=
  if gguid = 0 then none
  else
    match s.roleChecksStore gguid with
    | none => none
    | some stored =>
      let roleCheck := answerRoleCheck stored guid roles
      if roleCheck.state = LFG_ROLECHECK_FINISHED then
        some (gguid, { dungeons := roleCheck.dungeons, roles := roleCheck.roles })
      else none

/-- `s'` is `s` with the guid and the data of `entry`, if any, added to the queue. -/
def AfterAdding (s : LFGMgr) (entry : Option (ObjectGuid × LfgQueueData)) (s' : LFGMgr) : Prop :=
  match entry with
  | none => Untouched s s'
  | some (guid, data) => ∃ s₁, Untouched s s₁ ∧ Untouched (s₁.addQueueData guid data) s'

theorem updateRoleCheck_afterAdding (s : LFGMgr) (gguid guid : ObjectGuid) (roles : UInt8) :
    s.AfterAdding (s.roleCheckAdds gguid guid roles) (s.updateRoleCheck gguid guid roles) := by
  rw [roleCheckAdds, updateRoleCheck]
  split
  · exact Untouched.refl s
  · cases s.roleChecksStore gguid with
    | none => exact Untouched.refl s
    | some stored =>
      dsimp only
      cases hstate : (answerRoleCheck stored guid roles).state
      case LFG_ROLECHECK_FINISHED =>
        exact ⟨_, (untouched_setStates s _ _).trans (untouched_setState _ _ _),
          untouched_storeRoleCheck _ _ _⟩
      case LFG_ROLECHECK_INITIALITING => exact untouched_storeRoleCheck s _ _
      all_goals
        exact ((untouched_restoreStates s _).trans (untouched_restoreState _ _)).trans
          (untouched_storeRoleCheck _ _ _)

theorem roleCheckAdds_abort (s : LFGMgr) (gguid : ObjectGuid) (roles : UInt8) :
    s.roleCheckAdds gguid 0 roles = none := by
  rw [roleCheckAdds]
  split
  · rfl
  · split
    · rfl
    · rfl

theorem changes_leaveLfg (hids : (s.proposalsStore.map Prod.fst).Nodup) (guid : ObjectGuid)
    (disconnected : Bool) : Changes s (s.leaveLfg guid disconnected) := by
  have haway : ∀ gguid, Changes s (if guid ≠ gguid ∧ !disconnected then
      s.setState guid LFG_STATE_NONE else s) := by
    intro gguid
    split
    · exact (untouched_setState s _ _).changes
    · exact .refl
  rw [leaveLfg]
  generalize (if isGroup guid then guid else s.group guid) = gguid
  cases s.state guid with
  | LFG_STATE_QUEUED =>
    dsimp only
    split
    · exact .head (.remove s gguid)
        ((untouched_setState _ _ _).trans (untouched_setStates _ _ _)).changes
    · exact .head (.remove s guid) (untouched_setState _ _ _).changes
  | LFG_STATE_ROLECHECK =>
    dsimp only
    split
    · have habort := s.updateRoleCheck_afterAdding gguid 0 PLAYER_ROLE_NONE
      rw [roleCheckAdds_abort] at habort
      exact Untouched.changes habort
    · exact .refl
  | LFG_STATE_PROPOSAL =>
    dsimp only
    split
    · exact .refl
    · next id proposal hfound =>
      have hstored := findProposal_of_mem hids (List.mem_of_find?_eq_some hfound)
      generalize (if gguid = guid then s.leader gguid else guid) = pguid
      exact .head (.answer (proposal.answer pguid LFG_ANSWER_DENY) hstored rfl
        (LfgProposal.keys_answer _ _ _)) (changes_removeProposal _ id false)
  | LFG_STATE_NONE => exact .refl
  | LFG_STATE_RAIDBROWSER => exact .refl
  | LFG_STATE_DUNGEON => exact haway gguid
  | LFG_STATE_FINISHED_DUNGEON => exact haway gguid

/-- The state in which a step adds its guid: a group or player that was queued has left before. -/
def beforeAdding (s : LFGMgr) : Event → LFGMgr
  | .join guid grp _ _ _ => s.leaveQueued (grp.getD guid)
  | _ => s

def adds (s : LFGMgr) : Event → Option (ObjectGuid × LfgQueueData)
  | .join guid none _ roles (.allowed dungeons) =>
    some (guid, { dungeons, roles := [(guid, roles)] })
  | .join guid (some gguid) members roles (.allowed dungeons) =>
    ((s.leaveQueued gguid).beginRoleCheck gguid members dungeons).roleCheckAdds gguid guid roles
  | .roleCheck gguid guid roles => s.roleCheckAdds gguid guid roles
  | _ => none

theorem changes_leaveQueued (s : LFGMgr) (gguid : ObjectGuid) : Changes s (s.leaveQueued gguid) := by
  rw [leaveQueued]
  split
  · exact .single (.remove s gguid)
  · exact .refl

theorem AfterAdding.of_untouched {entry : Option (ObjectGuid × LfgQueueData)}
    (h : Untouched s s') (h' : s'.AfterAdding entry s'') : s.AfterAdding entry s'' := by
  cases entry with
  | none => exact h.trans h'
  | some entry =>
    obtain ⟨s₁, h₁, h₂⟩ := h'
    exact ⟨s₁, h.trans h₁, h₂⟩

theorem step_cases (hids : (s.proposalsStore.map Prod.fst).Nodup) (e : Event) :
    (Changes s (s.beforeAdding e) ∧ (s.beforeAdding e).AfterAdding (s.adds e) (s.step e)) ∨
      (s.adds e = none ∧ Changes s (s.step e)) ∨
      (e = .findGroups ∧ Untouched s.findGroups.2 (s.step e)) := by
  cases e with
  | join guid grp members roles outcome =>
    refine .inl ⟨changes_leaveQueued s _, ?_⟩
    cases outcome with
    | refused => cases grp <;> exact Untouched.refl _
    | raid => cases grp <;> exact Untouched.refl _
    | allowed dungeons =>
      cases grp with
      | none => exact ⟨_, Untouched.refl _, untouched_setState _ _ _⟩
      | some gguid =>
        exact AfterAdding.of_untouched (untouched_beginRoleCheck _ gguid members dungeons)
          (updateRoleCheck_afterAdding _ gguid guid roles)
  | leave guid disconnected => exact .inr (.inl ⟨rfl, changes_leaveLfg hids guid disconnected⟩)
  | roleCheck gguid guid roles =>
    exact .inl ⟨.refl, updateRoleCheck_afterAdding s gguid guid roles⟩
  | expireRoleCheck gguid =>
    exact .inr (.inl ⟨rfl, (untouched_expireRoleCheck s gguid).changes⟩)
  | findGroups =>
    refine .inr (.inr ⟨rfl, ?_⟩)
    rw [step, updateQueue]
    split
    · exact untouched_announceProposal _
    · exact Untouched.refl _
  | updateProposal id guid accept =>
    exact .inr (.inl ⟨rfl, changes_updateProposal s id guid accept⟩)
  | expireProposal id => exact .inr (.inl ⟨rfl, changes_removeProposal s id true⟩)
  | elsewhere => exact .inr (.inl ⟨rfl, Untouched.changes ⟨rfl, rfl, rfl, rfl, rfl⟩⟩)

end LFGMgr

end FunPvp.DungeonFinding
