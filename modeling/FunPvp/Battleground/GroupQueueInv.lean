/-
# What every operation of the queue keeps

The lists of `m_QueuedGroups` and the map `m_QueuedPlayers` describe the same thing from two
sides. `BattlegroundQueue.Inv` ties them together: every group between `new` and `delete` has one
place in the lists and at least one player, and the map sends a player to a group exactly when
the group is queued and has the player.

One more field is needed for the moves between the two premade lists. The code finds out from
`Team` which list a group has to leave, so the groups of a premade list have the `Team` of the
list. Nothing of the kind holds of the normal lists, and nothing there depends on it.

`reachable_wellFormed` is the result, for every state that any order of operations leads to.
-/
import FunPvp.Battleground.GroupQueue

namespace FunPvp.Battleground

open FunPvp.Lib

namespace BattlegroundQueue

variable {q q' : BattlegroundQueue} {g ginfo group : GroupPtr} {guid : ObjectGuid}
  {b : BattlegroundBracketId} {t side : Team}

/-! ## 1. The invariant -/

/-- The two-way link between the map and the lists. -/
structure Linked (q : BattlegroundQueue) : Prop where
  placed : Placed q.m_QueuedGroups
  live_iff : ∀ g, g ∈ q.live ↔ Listed q.m_QueuedGroups g
  linked : ∀ guid g, q.m_QueuedPlayers guid = some g ↔
    Listed q.m_QueuedGroups g ∧ guid ∈ (q.heap g).Players
  team_eq : ∀ {b t g}, g ∈ q.m_QueuedGroups (b, premade t) → (q.heap g).Team = t

/-- **The invariant of the queue.** -/
structure Inv (q : BattlegroundQueue) : Prop extends Linked q where
  players : ∀ g, Listed q.m_QueuedGroups g → (q.heap g).Players.elems ≠ []

theorem Inv.new (heap : GroupHeap) : (new heap).Inv where
  placed := ⟨fun _ => List.nodup_nil, fun h => absurd h List.not_mem_nil⟩
  live_iff := fun _ => by simp [BattlegroundQueue.new, Listed]
  linked := fun _ _ => by simp [BattlegroundQueue.new, Listed]
  team_eq := fun h => absurd h List.not_mem_nil
  players := fun _ ⟨_, h⟩ => absurd h List.not_mem_nil

theorem Linked.of_queued (h : q.Linked) (hg : q.m_QueuedPlayers guid = some g) :
    Listed q.m_QueuedGroups g ∧ guid ∈ (q.heap g).Players :=
  (h.linked guid g).mp hg

structure Rearranged (q q' : BattlegroundQueue) : Prop where
  placed : Placed q'.m_QueuedGroups
  listed : ∀ g, Listed q'.m_QueuedGroups g ↔ Listed q.m_QueuedGroups g
  live : q'.live = q.live
  queuedPlayers : q'.m_QueuedPlayers = q.m_QueuedPlayers
  players : ∀ g, (q'.heap g).Players = (q.heap g).Players
  team_eq : ∀ {b t g}, g ∈ q'.m_QueuedGroups (b, premade t) → (q'.heap g).Team = t

theorem Inv.rearrange (h : q.Inv) (hr : Rearranged q q') : q'.Inv where
  placed := hr.placed
  live_iff := fun g => by rw [hr.live, hr.listed, h.live_iff]
  linked := fun guid g => by rw [hr.queuedPlayers, hr.listed, hr.players, h.linked]
  team_eq := hr.team_eq
  players := fun g hg => by rw [hr.players]; exact h.players g ((hr.listed g).mp hg)

theorem Inv.setPools (h : q.Inv) (pools : Pools) : { q with m_SelectionPools := pools }.Inv :=
  ⟨⟨h.placed, h.live_iff, h.linked, h.team_eq⟩, h.players⟩

theorem Inv.setHeap (h : q.Inv) {heap : GroupHeap}
    (hplayers : ∀ g, (heap g).Players = (q.heap g).Players)
    (hteam : ∀ g, (heap g).Team = (q.heap g).Team) : { q with heap := heap }.Inv :=
  h.rearrange
    { placed := h.placed
      listed := fun _ => Iff.rfl
      live := rfl
      queuedPlayers := rfl
      players := hplayers
      team_eq := fun hg => (hteam _).trans (h.team_eq hg) }

/-! ## 2. `AddGroup` -/

theorem addPlayer_heap_of_ne (hne : g ≠ ginfo) : (addPlayer ginfo q guid).heap g = q.heap g :=
  Function.update_of_ne hne _ _

theorem addPlayer_heap_self : (addPlayer ginfo q guid).heap ginfo =
    { q.heap ginfo with Players := (q.heap ginfo).Players.insert guid } :=
  Function.update_self ginfo _ _

variable {getMSTime : UInt32} {join : Join} {s s' : SoloState}

theorem newGroup_heap_of_ne (hne : g ≠ ginfo) :
    (q.newGroup getMSTime ginfo join).heap g = q.heap g :=
  Function.update_of_ne hne _ _

theorem newGroup_Players :
    ((q.newGroup getMSTime ginfo join).heap ginfo).Players = OrderedSet.empty := by
  simp [newGroup]

theorem newGroup_Team :
    ((q.newGroup getMSTime ginfo join).heap ginfo).Team = join.leaderTeam := by
  simp [newGroup]

/-- What the loop over the members leaves behind. -/
structure Added (ginfo : GroupPtr) (members : List ObjectGuid) (q q' : BattlegroundQueue) :
    Prop where
  live : q'.live = q.live
  queuedGroups : q'.m_QueuedGroups = q.m_QueuedGroups
  heap_of_ne : ∀ {g}, g ≠ ginfo → q'.heap g = q.heap g
  team : (q'.heap ginfo).Team = (q.heap ginfo).Team
  players : ∀ guid, guid ∈ (q'.heap ginfo).Players ↔
    guid ∈ members ∨ guid ∈ (q.heap ginfo).Players
  queuedPlayers : ∀ guid, q'.m_QueuedPlayers guid =
    if guid ∈ members then some ginfo else q.m_QueuedPlayers guid

theorem foldl_addPlayer (ginfo : GroupPtr) (members : List ObjectGuid) (q : BattlegroundQueue) :
    Added ginfo members q (members.foldl (addPlayer ginfo) q) := by
  induction members generalizing q with
  | nil => exact ⟨rfl, rfl, fun _ => rfl, rfl, fun _ => by simp, fun _ => by simp⟩
  | cons m members ih =>
    have h := ih (addPlayer ginfo q m)
    refine ⟨h.live, h.queuedGroups, fun hne => ?_, ?_, fun guid => ?_, fun guid => ?_⟩
    · rw [List.foldl_cons, h.heap_of_ne hne, addPlayer_heap_of_ne hne]
    · rw [List.foldl_cons, h.team, addPlayer_heap_self]
    · rw [List.foldl_cons, h.players guid, addPlayer_heap_self, OrderedSet.mem_insert,
        List.mem_cons]
      tauto
    · rw [List.foldl_cons, h.queuedPlayers guid]
      by_cases hm : guid = m
      · subst hm
        simp [addPlayer]
      · simp [addPlayer, hm]

theorem Join.index_premade {crossFactionEnabled : Bool}
    (h : join.index crossFactionEnabled = premade t) : join.leaderTeam = t := by
  unfold Join.index at h
  split at h
  · exact absurd h (by cases t <;> decide)
  · split at h
    · exact absurd h.symm premade_ne_normal
    · exact premade_inj.mp h

theorem Join.members_ne_nil (hleader : ∀ refs, join.grp = some refs → some join.leader ∈ refs) :
    join.leader ∈ join.members := by
  unfold Join.members
  split
  · next refs hrefs => exact List.mem_filterMap.mpr ⟨_, hleader refs hrefs, rfl⟩
  · exact List.mem_singleton_self _

theorem Inv.addGroup (h : q.Inv) (crossFactionEnabled : Bool) (getMSTime : UInt32) {join : Join}
    (hnew : ginfo ∉ q.live)
    (hleader : ∀ refs, join.grp = some refs → some join.leader ∈ refs)
    (hqueued : ∀ guid ∈ join.members, q.m_QueuedPlayers guid = none) :
    (addGroup crossFactionEnabled getMSTime q ginfo join).Inv := by
  have hadd := foldl_addPlayer ginfo join.members (q.newGroup getMSTime ginfo join)
  have hunlisted : ¬ Listed q.m_QueuedGroups ginfo := fun hl => hnew ((h.live_iff ginfo).mpr hl)
  unfold BattlegroundQueue.addGroup
  generalize hq₁ : join.members.foldl (addPlayer ginfo) (q.newGroup getMSTime ginfo join) = q₁
    at hadd ⊢
  have hlists : q₁.m_QueuedGroups = q.m_QueuedGroups := hadd.queuedGroups
  have hheap : ∀ {g}, g ≠ ginfo → q₁.heap g = q.heap g := fun hne => by
    rw [hadd.heap_of_ne hne, newGroup_heap_of_ne hne]
  have hplayers : ∀ guid, guid ∈ (q₁.heap ginfo).Players ↔ guid ∈ join.members := fun guid => by
    rw [hadd.players, newGroup_Players]
    simp
  have hteam : (q₁.heap ginfo).Team = join.leaderTeam := by
    rw [hadd.team, newGroup_Team]
  refine ⟨⟨?_, fun g => ?_, fun guid g => ?_, fun {b t g} hg => ?_⟩, fun g hg => ?_⟩
  · simp only [hlists]
    exact h.placed.putIn hunlisted
  · simp only [hadd.live, newGroup, Finset.mem_insert, listed_putIn, hlists, h.live_iff]
  · simp only [hadd.queuedPlayers, newGroup, listed_putIn, hlists]
    by_cases hg : g = ginfo
    · subst hg
      by_cases hm : guid ∈ join.members
      · simp [hm, hplayers]
      · simp only [hm, if_false, hplayers, and_false, iff_false, h.linked]
        exact fun hl => hunlisted hl.1
    · rw [hheap hg]
      by_cases hm : guid ∈ join.members
      · have hfree : ¬ (Listed q.m_QueuedGroups g ∧ guid ∈ (q.heap g).Players) := by
          rw [← h.linked, hqueued guid hm]
          simp
        simp only [hm, if_true, hg, false_or, hfree, iff_false, Option.some.injEq]
        exact fun he => hg he.symm
      · simp only [hm, if_false, hg, false_or, h.linked]
  · simp only [hlists, mem_putIn] at hg
    rcases hg with ⟨rfl, hplace⟩ | hg
    · exact hteam.trans (Join.index_premade (Prod.mk.inj hplace).2.symm)
    · have hne : g ≠ ginfo := fun he => hunlisted (he ▸ ⟨_, hg⟩)
      rw [hheap hne]
      exact h.team_eq hg
  · simp only [hlists, listed_putIn] at hg
    rcases hg with rfl | hg
    · intro hnil
      have hl := (hplayers join.leader).mpr (Join.members_ne_nil hleader)
      rw [OrderedSet.mem_def, hnil] at hl
      exact absurd hl List.not_mem_nil
    · have hne : g ≠ ginfo := fun he => hunlisted (he ▸ hg)
      rw [hheap hne]
      exact h.players g hg

/-! ## 3. `RemovePlayer` -/

theorem mem_of_findGroup {lists : QueuedGroups}
    {place : BattlegroundBracketId × BattlegroundQueueGroupTypes}
    (h : findGroup lists group = some place) : group ∈ lists place := by
  obtain ⟨bracket, -, hb⟩ := List.exists_of_findSome?_eq_some h
  rcases (foldl_lastMatch (fun j => group ∈ lists (bracket, j)) (fun j => (bracket, j))
    groupTypes none).1 place hb with hnone | ⟨j, -, hj, rfl⟩
  · exact absurd hnone (by simp)
  · exact hj

theorem dropPlayer_Players : ((q.dropPlayer group guid).heap group).Players =
    (q.heap group).Players.erase guid := by
  simp [dropPlayer]

theorem dropPlayer_heap_of_ne (hne : g ≠ group) : (q.dropPlayer group guid).heap g = q.heap g :=
  Function.update_of_ne hne _ _

theorem dropPlayer_Team : ((q.dropPlayer group guid).heap g).Team = (q.heap g).Team := by
  by_cases hg : g = group
  · subst hg
    simp [dropPlayer]
  · rw [dropPlayer_heap_of_ne hg]

/-- Dropping a player from his group and from the map keeps the link; only the group itself may
be left without players. -/
theorem Linked.dropPlayer (h : q.Linked) (hguid : q.m_QueuedPlayers guid = some group) :
    (q.dropPlayer group guid).Linked where
  placed := h.placed
  live_iff := h.live_iff
  linked := by
    intro guid' g
    by_cases hd : guid' = guid
    · subst hd
      have hnone : (q.dropPlayer group guid').m_QueuedPlayers guid' = none :=
        Function.update_self guid' _ _
      rw [hnone]
      refine ⟨fun hs => absurd hs (by simp), fun ⟨hl, hm⟩ => ?_⟩
      by_cases hg : g = group
      · subst hg
        rw [dropPlayer_Players, OrderedSet.mem_erase] at hm
        exact absurd rfl hm.1
      · rw [dropPlayer_heap_of_ne hg] at hm
        have hs := (h.linked guid' g).mpr ⟨hl, hm⟩
        exact absurd (Option.some.inj (hs.symm.trans hguid)) hg
    · have hsame : (q.dropPlayer group guid).m_QueuedPlayers guid' = q.m_QueuedPlayers guid' :=
        Function.update_of_ne hd _ _
      rw [hsame, h.linked]
      refine and_congr Iff.rfl ?_
      by_cases hg : g = group
      · subst hg
        rw [dropPlayer_Players, OrderedSet.mem_erase]
        exact ⟨fun hm => ⟨hd, hm⟩, fun hm => hm.2⟩
      · rw [dropPlayer_heap_of_ne hg]
  team_eq := fun hg => dropPlayer_Team.trans (h.team_eq hg)

theorem Inv.dropPlayer (h : q.Inv) (hguid : q.m_QueuedPlayers guid = some group)
    (hne : ((q.dropPlayer group guid).heap group).Players.elems ≠ []) :
    (q.dropPlayer group guid).Inv := by
  refine ⟨h.toLinked.dropPlayer hguid, fun g hg => ?_⟩
  by_cases hgg : g = group
  · rw [hgg]
    exact hne
  · rw [dropPlayer_heap_of_ne hgg]
    exact h.players g hg

theorem Linked.deleteGroup (h : q.Linked)
    {place : BattlegroundBracketId × BattlegroundQueueGroupTypes}
    (hplace : group ∈ q.m_QueuedGroups place) (hempty : (q.heap group).Players.elems = [])
    (hplayers : ∀ g, g ≠ group → Listed q.m_QueuedGroups g → (q.heap g).Players.elems ≠ []) :
    (q.deleteGroup place group).Inv where
  placed := h.placed.takeOut
  live_iff := by
    intro g
    simp only [BattlegroundQueue.deleteGroup, Finset.mem_erase, listed_takeOut h.placed hplace,
      h.live_iff]
  linked := by
    intro guid g
    simp only [BattlegroundQueue.deleteGroup, listed_takeOut h.placed hplace, h.linked]
    constructor
    · rintro ⟨hl, hm⟩
      refine ⟨⟨?_, hl⟩, hm⟩
      rintro rfl
      rw [OrderedSet.mem_def, hempty] at hm
      exact absurd hm List.not_mem_nil
    · rintro ⟨⟨-, hl⟩, hm⟩
      exact ⟨hl, hm⟩
  team_eq := fun hg => h.team_eq (takeOut_subset hg)
  players := by
    intro g hg
    obtain ⟨hne, hl⟩ := (listed_takeOut h.placed hplace).mp hg
    exact hplayers g hne hl

theorem Inv.deleteGroup (h : q.Inv)
    {place : BattlegroundBracketId × BattlegroundQueueGroupTypes}
    (hguid : q.m_QueuedPlayers guid = some group) (hplace : group ∈ q.m_QueuedGroups place)
    (hempty : ((q.dropPlayer group guid).heap group).Players.elems = []) :
    ((q.dropPlayer group guid).deleteGroup place group).Inv := by
  refine (h.toLinked.dropPlayer hguid).deleteGroup hplace hempty fun g hne hl => ?_
  rw [dropPlayer_heap_of_ne hne]
  exact h.players g hl

theorem Inv.removePlayer (h : q.Inv) {fuel : ℕ} (hq : removePlayer fuel q guid = some q') :
    q'.Inv := by
  induction fuel generalizing q guid with
  | zero => exact absurd hq (by simp [BattlegroundQueue.removePlayer])
  | succ fuel ih =>
    unfold BattlegroundQueue.removePlayer at hq
    split at hq
    · exact Option.some.inj hq ▸ h
    · next group hguid =>
      split at hq
      · exact Option.some.inj hq ▸ h
      · next place hplace =>
        dsimp only at hq
        split at hq
        · next hempty =>
          exact Option.some.inj hq ▸ h.deleteGroup hguid (mem_of_findGroup hplace) hempty
        · next next _ hcons =>
          have hdrop := h.dropPlayer hguid (by rw [hcons]; simp)
          split at hq
          · exact ih hdrop hq
          · exact Option.some.inj hq ▸ hdrop

/-! ## 4. Moves -/

theorem Inv.moveSide (h : q.Inv) (e : ListEnd) (hg : g ∈ q.m_QueuedGroups (b, premade side.other)) :
    { q with
      heap := q.heap.setTeam g side
      m_QueuedGroups :=
        moveTo e q.m_QueuedGroups (b, premade side.other) (b, premade side) g }.Inv := by
  have hne : (b, premade side.other) ≠ (b, premade side) := by simp
  refine h.rearrange ⟨h.placed.moveTo hne hg, fun _ => listed_moveTo h.placed hne hg, rfl, rfl,
    fun _ => GroupHeap.setTeam_Players, fun {b' t' g'} hg' => ?_⟩
  rcases (mem_moveTo h.placed hne hg).mp hg' with ⟨rfl, hplace⟩ | ⟨hg'', hg'⟩
  · rw [premade_inj.mp (Prod.mk.inj hplace).2]
    exact GroupHeap.setTeam_Team_self
  · exact (GroupHeap.setTeam_Team_of_ne hg'').trans (h.team_eq hg')

theorem Inv.moveNormal (h : q.Inv) {src : BattlegroundBracketId × BattlegroundQueueGroupTypes}
    (hne : src ≠ (b, normal t)) (hg : g ∈ q.m_QueuedGroups src) (heap : GroupHeap)
    (hplayers : ∀ g', (heap g').Players = (q.heap g').Players)
    (hteam : ∀ g', g' ≠ g → (heap g').Team = (q.heap g').Team) :
    { q with
      heap := heap
      m_QueuedGroups := moveTo .front q.m_QueuedGroups src (b, normal t) g }.Inv := by
  refine h.rearrange ⟨h.placed.moveTo hne hg, fun _ => listed_moveTo h.placed hne hg, rfl, rfl,
    hplayers, fun {b' t' g'} hg' => ?_⟩
  rcases (mem_moveTo h.placed hne hg).mp hg' with ⟨-, hplace⟩ | ⟨hg'', hg'⟩
  · exact absurd (Prod.mk.inj hplace).2 premade_ne_normal
  · exact (hteam g' hg'').trans (h.team_eq hg')

/-! ## 5. `CheckPremadeMatch` -/

theorem Inv.moveExpired (h : q.Inv) (time_before : UInt32) (MinPlayersPerTeam : ℕ) :
    (moveExpired b time_before MinPlayersPerTeam q t).Inv := by
  unfold BattlegroundQueue.moveExpired
  split
  · exact h
  · next ginfo rest hlist =>
    split
    · refine h.moveNormal ?_ ?_ q.heap (fun _ => rfl) fun _ _ => rfl
      · exact fun he => premade_ne_normal (Prod.mk.inj he).2
      · rw [hlist]
        exact List.mem_cons_self
    · exact h

theorem Inv.checkPremadeMatch (h : q.Inv) (getMSTime waitForMatch : UInt32)
    (MinPlayersPerTeam MaxPlayersPerTeam : ℕ) :
    (q.checkPremadeMatch getMSTime waitForMatch b MinPlayersPerTeam MaxPlayersPerTeam).2.Inv := by
  unfold BattlegroundQueue.checkPremadeMatch
  dsimp only
  split
  · exact h.setPools _
  · exact (h.moveExpired _ _).moveExpired _ _

/-! ## 6. `CheckSkirmishForSameFaction` -/

theorem eraseAfter_eq_erase {itr_team : GroupPtr} {seen rest : List GroupPtr}
    (hnd : (seen ++ itr_team :: rest).Nodup) (hg : g ∈ rest) :
    eraseAfter itr_team g (seen ++ itr_team :: rest) = (seen ++ itr_team :: rest).erase g ∧
      (seen ++ itr_team :: rest).erase g = seen ++ itr_team :: rest.erase g := by
  induction seen with
  | nil =>
    have hne : itr_team ≠ g := fun he => (List.nodup_cons.mp hnd).1 (he ▸ hg)
    simp [eraseAfter, List.erase_cons_tail, hne]
  | cons x seen ih =>
    obtain ⟨hx, hnd⟩ := List.nodup_cons.mp hnd
    obtain ⟨ih₁, ih₂⟩ := ih hnd
    have hitr : x ≠ itr_team := fun he => hx (by simp [he])
    have hxg : x ≠ g := fun he => hx (by simp [he, hg])
    rw [List.cons_append, List.erase_cons_tail (by simpa using hxg), eraseAfter, if_neg hitr, ih₁,
      ih₂]
    exact ⟨rfl, rfl⟩

theorem normal_ne_other (b : BattlegroundBracketId) (t : Team) :
    (b, normal t) ≠ (b, normal t.other) := fun he =>
  Team.other_ne t (normal_inj.mp (Prod.mk.inj he).2).symm

theorem switchTeam_lists (hnodup : (q.m_QueuedGroups (b, normal t)).Nodup) {itr_team : GroupPtr}
    {seen rest : List GroupPtr}
    (hlist : q.m_QueuedGroups (b, normal t) = seen ++ itr_team :: rest) (hg : g ∈ rest) :
    (switchTeam b t itr_team q g).m_QueuedGroups =
        moveTo .front q.m_QueuedGroups (b, normal t) (b, normal t.other) g ∧
      (switchTeam b t itr_team q g).m_QueuedGroups (b, normal t)
        = seen ++ itr_team :: rest.erase g := by
  rw [hlist] at hnodup
  obtain ⟨herase, hrest⟩ := eraseAfter_eq_erase hnodup hg
  have hsame : putIn .front q.m_QueuedGroups (b, normal t.other) g (b, normal t)
      = seen ++ itr_team :: rest := by
    rw [putIn, Function.update_of_ne (normal_ne_other b t), hlist]
  have hlists : (switchTeam b t itr_team q g).m_QueuedGroups
      = moveTo .front q.m_QueuedGroups (b, normal t) (b, normal t.other) g := by
    simp only [switchTeam, moveTo, takeOut, hsame, herase]
  refine ⟨hlists, ?_⟩
  rw [hlists, moveTo, takeOut, Function.update_self, hsame, hrest]

theorem Inv.switchTeam (h : q.Inv) {itr_team : GroupPtr} {seen rest : List GroupPtr}
    (hlist : q.m_QueuedGroups (b, normal t) = seen ++ itr_team :: rest) (hg : g ∈ rest) :
    (switchTeam b t itr_team q g).Inv ∧
      (switchTeam b t itr_team q g).m_QueuedGroups (b, normal t)
        = seen ++ itr_team :: rest.erase g := by
  obtain ⟨hlists, hrest⟩ := switchTeam_lists (h.placed.nodup (b, normal t)) hlist hg
  refine ⟨?_, hrest⟩
  have hmove := h.moveNormal (normal_ne_other b t) (by rw [hlist]; simp [hg])
    (q.heap.setTeam g t.other) (fun _ => GroupHeap.setTeam_Players)
    fun _ hg' => GroupHeap.setTeam_Team_of_ne hg'
  rw [← hlists] at hmove
  exact hmove

theorem Inv.foldl_switchTeam (h : q.Inv) {itr_team : GroupPtr} {selected seen rest : List GroupPtr}
    (hlist : q.m_QueuedGroups (b, normal t) = seen ++ itr_team :: rest)
    (hnd : selected.Nodup) (hsub : selected ⊆ rest) :
    (selected.foldl (BattlegroundQueue.switchTeam b t itr_team) q).Inv := by
  induction selected generalizing q rest with
  | nil => exact h
  | cons g selected ih =>
    obtain ⟨hg, hnd⟩ := List.nodup_cons.mp hnd
    obtain ⟨hinv, hlist'⟩ := h.switchTeam hlist (hsub List.mem_cons_self)
    refine ih hinv hlist' hnd fun x hx => ?_
    refine (List.mem_erase_of_ne ?_).mpr (hsub (List.mem_cons_of_mem g hx))
    rintro rfl
    exact hg hx

theorem Inv.checkSkirmishForSameFaction (h : q.Inv) {minPlayersPerTeam : ℕ} {result : Bool}
    (hq : q.checkSkirmishForSameFaction b minPlayersPerTeam = some (result, q')) : q'.Inv := by
  unfold BattlegroundQueue.checkSkirmishForSameFaction at hq
  split at hq
  · exact (Prod.mk.inj (Option.some.inj hq)).2 ▸ h
  · dsimp only at hq
    generalize q.skirmishTeam minPlayersPerTeam = teamIndex at hq
    split at hq
    · exact absurd hq (by simp)
    · next ginfo _ =>
      split at hq
      · exact (Prod.mk.inj (Option.some.inj hq)).2 ▸ h.setPools _
      · next itr_team itr_team2 hdrop =>
        have hitr : itr_team = ginfo := by
          have hhead := List.head?_dropWhile_not (· ≠ ginfo)
            (q.m_QueuedGroups (b, normal teamIndex))
          rw [hdrop] at hhead
          simpa using hhead
        split at hq
        · exact (Prod.mk.inj (Option.some.inj hq)).2 ▸ h.setPools _
        · have hlist := List.takeWhile_append_dropWhile (p := (· ≠ ginfo))
            (l := q.m_QueuedGroups (b, normal teamIndex))
          rw [hdrop, hitr] at hlist
          have hnd : itr_team2.Nodup := by
            have hnd := h.placed.nodup (b, normal teamIndex)
            rw [← hlist] at hnd
            exact (List.nodup_cons.mp (List.nodup_append.mp hnd).2.1).2
          have htaken := (balanceRule q.heap minPlayersPerTeam).taken_sublist 0 itr_team2
          have hselected : (balanceScan q.heap minPlayersPerTeam itr_team2
              SelectionPool.init).SelectedGroups
                = (balanceRule q.heap minPlayersPerTeam).taken 0 itr_team2 := by
            rw [balanceScan_eq]
            simp [SelectionPool.extend, SelectionPool.init]
          rw [hselected] at hq
          rw [← (Prod.mk.inj (Option.some.inj hq)).2]
          exact (h.setPools _).foldl_switchTeam hlist.symm (htaken.nodup hnd) htaken.subset

/-! ## 7. `CheckSolo2v2Arena` -/

/-- Neither the groups nor the lists have changed. -/
def SameQueue (s s' : SoloState) : Prop :=
  s'.heap = s.heap ∧ s'.m_QueuedGroups = s.m_QueuedGroups

/-- A walk that leaves early has changed nothing, or moved one queued group of the other team. -/
def SoloExitMoves (s : SoloState) : SoloExit → Prop
  | .found s' => SameQueue s s'
  | .moved s' => ∃ team ginfo, (s.heap ginfo).Team ≠ team ∧
      (∃ i, ginfo ∈ s.m_QueuedGroups i) ∧ s'.heap = (s.moveTo team ginfo).heap ∧
        s'.m_QueuedGroups = (s.moveTo team ginfo).m_QueuedGroups

theorem tryTeam_moves (hs : SameQueue s s') {ginfo : GroupPtr}
    (hg : ∃ i, ginfo ∈ s.m_QueuedGroups i) (team : Team) (plrCat : Solo2v2TalentCat) :
    Outcome (SameQueue s) (SoloExitMoves s) (s'.tryTeam team ginfo plrCat) := by
  obtain ⟨hheap, hlists⟩ := hs
  unfold SoloState.tryTeam
  dsimp only
  split
  · split
    · next hteam =>
      rw [hheap] at hteam
      refine ⟨team, ginfo, hteam, hg, ?_, ?_⟩
      · simp only [SoloState.moveTo, hheap]
      · simp only [SoloState.moveTo, hlists]
    · exact ⟨hheap, hlists⟩
  · exact ⟨hheap, hlists⟩

theorem soloPlayer_moves (env : SoloEnv) {s s' : SoloState} (hs : SameQueue s s')
    {ginfo : GroupPtr} (hg : ∃ i, ginfo ∈ s.m_QueuedGroups i) (guid : ObjectGuid) :
    Outcome (SameQueue s) (SoloExitMoves s) (soloPlayer env ginfo s' guid) := by
  unfold soloPlayer
  split
  · exact hs
  · dsimp only
    split
    · exact hs
    · split
      · exact tryTeam_moves hs hg _ _
      · split
        · exact tryTeam_moves hs hg _ _
        · exact hs

theorem soloGroup_moves (env : SoloEnv) {s s' : SoloState} (hs : SameQueue s s')
    {ginfo : GroupPtr} (hg : ∃ i, ginfo ∈ s.m_QueuedGroups i) :
    Outcome (SameQueue s) (SoloExitMoves s) (soloGroup env s' ginfo) := by
  unfold soloGroup
  split
  · exact Outcome.foldlM (I := fun _ => SameQueue s) hs
      fun _ guid _ _ _ hs' => soloPlayer_moves env hs' hg guid
  · exact hs

theorem soloWalk_moves (env : SoloEnv) (s : SoloState) :
    Outcome (SameQueue s) (SoloExitMoves s) (soloWalk env s.reset) := by
  unfold soloWalk
  have hlist : ∀ i s', SameQueue s s' → Outcome (SameQueue s) (SoloExitMoves s)
      ((s'.m_QueuedGroups i).foldlM (soloGroup env) s') := by
    intro i s' hs'
    refine Outcome.foldlM (I := fun _ => SameQueue s) hs' fun done ginfo rest s'' hl hs'' => ?_
    refine soloGroup_moves env hs'' ⟨i, ?_⟩
    rw [← hs'.2, hl]
    simp
  exact Outcome.bind (hlist .ALLIANCE s.reset ⟨rfl, rfl⟩) fun s' hs' => hlist .HORDE s' hs'

theorem ofSolo_premade (q : BattlegroundQueue) (b : BattlegroundBracketId) (s : SoloState)
    (t : Team) : (q.ofSolo b s).m_QueuedGroups (b, premade t) = s.m_QueuedGroups t := by
  cases t with
  | ALLIANCE => simp [ofSolo]
  | HORDE => simp [ofSolo]

theorem ofSolo_of_ne (q : BattlegroundQueue) (b : BattlegroundBracketId) (s : SoloState)
    {place : BattlegroundBracketId × BattlegroundQueueGroupTypes}
    (hplace : ∀ t, place ≠ (b, premade t)) :
    (q.ofSolo b s).m_QueuedGroups place = q.m_QueuedGroups place := by
  simp only [ofSolo]
  rw [Function.update_of_ne (hplace .HORDE), Function.update_of_ne (hplace .ALLIANCE)]

theorem moveTo_queuedGroups (s : SoloState) (team : Team) (ginfo : GroupPtr) (t : Team) :
    (s.moveTo team ginfo).m_QueuedGroups t =
      if t = team then s.m_QueuedGroups t ++ [ginfo] else (s.m_QueuedGroups t).erase ginfo :=
  rfl

theorem ofSolo_lists_eq {q : BattlegroundQueue} {s : SoloState} {lists : QueuedGroups}
    (hpremade : ∀ t, lists (b, premade t) = s.m_QueuedGroups t)
    (hother : ∀ place, (∀ t, place ≠ (b, premade t)) → lists place = q.m_QueuedGroups place) :
    (q.ofSolo b s).m_QueuedGroups = lists := by
  funext place
  by_cases h : ∃ t, place = (b, premade t)
  · obtain ⟨t, rfl⟩ := h
    rw [ofSolo_premade, hpremade]
  · push Not at h
    rw [ofSolo_of_ne q b s h, hother place h]

theorem ofSolo_toSolo (q : BattlegroundQueue) (b : BattlegroundBracketId) :
    q.ofSolo b (q.toSolo b) = q := by
  have hlists : (q.ofSolo b (q.toSolo b)).m_QueuedGroups = q.m_QueuedGroups :=
    ofSolo_lists_eq (fun _ => rfl) fun _ _ => rfl
  cases q
  simp only [ofSolo, toSolo, mk.injEq, true_and] at hlists ⊢
  exact ⟨hlists, trivial⟩

theorem Inv.ofSolo_same (h : (q.ofSolo b s).Inv) (hs : SameQueue s s') :
    (q.ofSolo b s').Inv := by
  obtain ⟨hheap, hlists⟩ := hs
  have hpools := h.setPools s'.m_SelectionPools
  simp only [ofSolo, ← hheap, ← hlists] at hpools ⊢
  exact hpools

theorem Inv.ofSolo_moved (h : (q.ofSolo b s).Inv)
    (hs : SoloExitMoves s (.moved s')) : (q.ofSolo b s').Inv := by
  obtain ⟨team, ginfo, hne, ⟨i, hi⟩, hheap, hlists⟩ := hs
  rw [← ofSolo_premade q b s i] at hi
  have hteam := h.team_eq hi
  have hside : i = team.other := Team.eq_other_of_ne fun he => hne (hteam.trans he)
  rw [hside] at hi
  have hplace : (b, premade team.other) ≠ (b, premade team) := by simp
  have hmove := (h.moveSide .back hi).setPools s'.m_SelectionPools
  have hlists' : (q.ofSolo b s').m_QueuedGroups = moveTo .back (q.ofSolo b s).m_QueuedGroups
      (b, premade team.other) (b, premade team) ginfo := by
    refine ofSolo_lists_eq (fun t => ?_) fun place hpl => ?_
    · rw [hlists, moveTo_eq hplace, moveTo_queuedGroups, putIn, takeOut]
      by_cases ht : t = team
      · subst ht
        rw [Function.update_self, Function.update_of_ne hplace.symm, ofSolo_premade, if_pos rfl,
          ListEnd.push]
      · obtain rfl := Team.eq_other_of_ne ht
        rw [Function.update_of_ne hplace, Function.update_self, ofSolo_premade, if_neg ht]
    · rw [moveTo_eq hplace, putIn, takeOut, Function.update_of_ne (hpl team),
        Function.update_of_ne (hpl team.other), ofSolo_of_ne q b s hpl]
  have hheap' : (q.ofSolo b s').heap = (q.ofSolo b s).heap.setTeam ginfo team := hheap
  rw [← hlists', ← hheap'] at hmove
  exact hmove

theorem Inv.ofSolo_check {env : SoloEnv} {fuel : ℕ} {result : Bool}
    (h : (q.ofSolo b s).Inv) (hs : checkSolo2v2Arena env fuel s = some (result, s')) :
    (q.ofSolo b s').Inv := by
  induction fuel generalizing s with
  | zero => exact absurd hs (by simp [checkSolo2v2Arena])
  | succ fuel ih =>
    have hwalk := soloWalk_moves env s
    unfold checkSolo2v2Arena at hs
    split at hs
    · next s'' hr =>
      rw [hr] at hwalk
      rw [← (Prod.mk.inj (Option.some.inj hs)).2]
      exact h.ofSolo_same hwalk
    · next s'' hr =>
      rw [hr] at hwalk
      rw [← (Prod.mk.inj (Option.some.inj hs)).2]
      exact h.ofSolo_same hwalk
    · next s'' hr =>
      rw [hr] at hwalk
      exact ih (h.ofSolo_moved hwalk) hs

theorem Inv.checkSolo (h : q.Inv) {env : SoloEnv} {fuel : ℕ} {result : Bool}
    (hq : q.checkSolo env fuel b = some (result, q')) : q'.Inv := by
  obtain ⟨⟨r, s⟩, hs, he⟩ := Option.map_eq_some_iff.mp hq
  rw [← (Prod.mk.inj he).2]
  refine Inv.ofSolo_check ?_ hs
  rw [ofSolo_toSolo]
  exact h

/-! ## 8. The rated arena -/

theorem inviteGroupToBG_Players (findConnectedPlayer : ObjectGuid → Bool) (instanceId : ℕ)
    (s : InviteState) (ginfo : GroupPtr) (side : Team) (g : GroupPtr) :
    ((inviteGroupToBG findConnectedPlayer instanceId s ginfo side).heap g).Players
      = (s.heap g).Players := by
  unfold inviteGroupToBG
  dsimp only
  split
  · by_cases hg : g = ginfo
    · subst hg
      simp
    · simp [Function.update_of_ne hg]
  · simp

theorem inviteGroupToBG_Team (findConnectedPlayer : ObjectGuid → Bool) (instanceId : ℕ)
    (s : InviteState) (ginfo : GroupPtr) (side : Team) (g : GroupPtr) :
    ((inviteGroupToBG findConnectedPlayer instanceId s ginfo side).heap g).Team
      = if g = ginfo then side else (s.heap g).Team := by
  unfold inviteGroupToBG
  dsimp only
  by_cases hg : g = ginfo
  · subst hg
    split <;> simp
  · rw [if_neg hg]
    split
    · simp [Function.update_of_ne hg, GroupHeap.setTeam_Team_of_ne hg]
    · exact GroupHeap.setTeam_Team_of_ne hg

theorem Inv.invite (h : q.Inv) (findConnectedPlayer : ObjectGuid → Bool) (instanceId : ℕ)
    (invited : Team → ℕ) (ginfo : GroupPtr) :
    { q with heap := (inviteGroupToBG findConnectedPlayer instanceId ⟨q.heap, invited⟩ ginfo
        (q.heap ginfo).Team).heap }.Inv := by
  refine h.setHeap (fun g => inviteGroupToBG_Players _ _ _ _ _ _) fun g => ?_
  rw [inviteGroupToBG_Team]
  split
  · next hg => rw [hg]
  · rfl

theorem Inv.setArenaTeamId (h : q.Inv) (ginfo : GroupPtr) (arenaTeamId : ℕ) :
    { q with heap := q.heap.setArenaTeamId ginfo arenaTeamId }.Inv := by
  refine h.setHeap (fun g => ?_) fun g => ?_
  all_goals
    by_cases hg : g = ginfo
    · subst hg
      simp [GroupHeap.setArenaTeamId]
    · simp [GroupHeap.setArenaTeamId, Function.update_of_ne hg]

/-- **What a side swap does to the lists**: afterwards the group is in the list of its new side,
and all others are where they were. -/
theorem moveToSide_lists (hplaced : Placed q.m_QueuedGroups)
    (hg : ginfo ∈ q.m_QueuedGroups (b, premade (q.heap ginfo).Team)) (side : Team) :
    Placed (q.moveToSide b ginfo side).m_QueuedGroups ∧
      (∀ g, Listed (q.moveToSide b ginfo side).m_QueuedGroups g ↔ Listed q.m_QueuedGroups g) ∧
      ∀ g place, g ∈ (q.moveToSide b ginfo side).m_QueuedGroups place ↔
        (g = ginfo ∧ place = (b, premade side)) ∨ (g ≠ ginfo ∧ g ∈ q.m_QueuedGroups place) := by
  unfold moveToSide
  split
  · next hne =>
    have hplace : (b, premade side.other) ≠ (b, premade side) := by simp
    rw [Team.eq_other_of_ne hne] at hg
    exact ⟨hplaced.moveTo hplace hg, fun _ => listed_moveTo hplaced hplace hg,
      fun _ _ => mem_moveTo hplaced hplace hg⟩
  · next heq =>
    rw [not_not.mp heq] at hg
    refine ⟨hplaced, fun _ => Iff.rfl, fun g place => ?_⟩
    by_cases hgg : g = ginfo
    · subst hgg
      simp only [true_and, ne_eq, not_true_eq_false, false_and, or_false]
      exact ⟨fun hm => hplaced.unique hm hg, fun he => he ▸ hg⟩
    · simp [hgg]

theorem moveToSide_frame (q : BattlegroundQueue) (b : BattlegroundBracketId) (ginfo : GroupPtr)
    (side : Team) : (q.moveToSide b ginfo side).heap = q.heap ∧
      (q.moveToSide b ginfo side).live = q.live ∧
      (q.moveToSide b ginfo side).m_QueuedPlayers = q.m_QueuedPlayers := by
  unfold moveToSide
  split
  · exact ⟨rfl, rfl, rfl⟩
  · exact ⟨rfl, rfl, rfl⟩

theorem Inv.startArena (h : q.Inv) {findConnectedPlayer : ObjectGuid → Bool} {instanceId : ℕ}
    {aTeam hTeam : GroupPtr} (ha : ∃ t, aTeam ∈ q.m_QueuedGroups (b, premade t))
    (hh : ∃ t, hTeam ∈ q.m_QueuedGroups (b, premade t)) (hne : hTeam ≠ aTeam) :
    (q.startArena findConnectedPlayer instanceId b aTeam hTeam).Inv := by
  obtain ⟨tA, ha⟩ := ha
  obtain ⟨tH, hh⟩ := hh
  have haTeam := h.team_eq ha
  have hhTeam := h.team_eq hh
  rw [← haTeam] at ha
  rw [← hhTeam] at hh
  obtain ⟨hplaced₁, hlisted₁, hmem₁⟩ := moveToSide_lists h.placed ha .ALLIANCE
  obtain ⟨hheap₁, hlive₁, hplayers₁⟩ := moveToSide_frame q b aTeam .ALLIANCE
  have hh₁ : hTeam ∈ (q.moveToSide b aTeam .ALLIANCE).m_QueuedGroups
      (b, premade ((q.moveToSide b aTeam .ALLIANCE).heap hTeam).Team) := by
    rw [hheap₁]
    exact (hmem₁ _ _).mpr (Or.inr ⟨hne, hh⟩)
  obtain ⟨hplaced₂, hlisted₂, hmem₂⟩ := moveToSide_lists hplaced₁ hh₁ .HORDE
  obtain ⟨hheap₂, hlive₂, hplayers₂⟩ :=
    moveToSide_frame (q.moveToSide b aTeam .ALLIANCE) b hTeam .HORDE
  refine h.rearrange ⟨hplaced₂, fun g => (hlisted₂ g).trans (hlisted₁ g), hlive₂.trans hlive₁,
    hplayers₂.trans hplayers₁, fun g => ?_, fun {b' t g} hg => ?_⟩
  · simp only [BattlegroundQueue.startArena, inviteGroupToBG_Players, hheap₂, hheap₁]
  · simp only [BattlegroundQueue.startArena, inviteGroupToBG_Team, hheap₂, hheap₁]
    rcases (hmem₂ _ _).mp hg with ⟨rfl, hplace⟩ | ⟨hgh, hg⟩
    · rw [if_pos rfl, premade_inj.mp (Prod.mk.inj hplace).2]
    · rw [if_neg hgh]
      rcases (hmem₁ _ _).mp hg with ⟨rfl, hplace⟩ | ⟨hga, hg⟩
      · rw [if_pos rfl, premade_inj.mp (Prod.mk.inj hplace).2]
      · rw [if_neg hga]
        exact h.team_eq hg

theorem mem_of_firstTeam {env : RatedEnv} {arenaRating : UInt32}
    (h : q.firstTeam env arenaRating b t = some g) : g ∈ q.m_QueuedGroups (b, premade t) :=
  List.mem_of_find?_eq_some h

theorem mem_of_secondTeam {env : RatedEnv} {arenaRating : UInt32}
    (h : q.secondTeam env arenaRating b t ginfo = some g) :
    g ∈ q.m_QueuedGroups (b, premade t) ∧ g ≠ ginfo := by
  refine ⟨(List.dropWhile_sublist _).subset (List.mem_of_find?_eq_some h), ?_⟩
  have haccepts := List.find?_some h
  rintro rfl
  simp at haccepts

theorem Inv.findTeams_spec (h : q.Inv) {env : RatedEnv} {arenaRating : UInt32}
    {aTeam hTeam : GroupPtr} (hf : q.findTeams env arenaRating b = some (aTeam, hTeam)) :
    (∃ t, aTeam ∈ q.m_QueuedGroups (b, premade t)) ∧
      (∃ t, hTeam ∈ q.m_QueuedGroups (b, premade t)) ∧ hTeam ≠ aTeam := by
  unfold findTeams at hf
  split at hf
  · next g g' hA hH =>
    obtain ⟨rfl, rfl⟩ := Prod.mk.inj (Option.some.inj hf)
    have hA' := mem_of_firstTeam hA
    have hH' := mem_of_firstTeam hH
    refine ⟨⟨_, hA'⟩, ⟨_, hH'⟩, ?_⟩
    rintro rfl
    exact absurd (premade_inj.mp (Prod.mk.inj (h.placed.unique hA' hH')).2) (by decide)
  · next g hA _ =>
    obtain ⟨g', hg', he⟩ := Option.map_eq_some_iff.mp hf
    obtain ⟨rfl, rfl⟩ := Prod.mk.inj he
    obtain ⟨hmem, hne⟩ := mem_of_secondTeam hg'
    exact ⟨⟨_, mem_of_firstTeam hA⟩, ⟨_, hmem⟩, hne⟩
  · next g _ hH =>
    obtain ⟨g', hg', he⟩ := Option.map_eq_some_iff.mp hf
    obtain ⟨rfl, rfl⟩ := Prod.mk.inj he
    obtain ⟨hmem, hne⟩ := mem_of_secondTeam hg'
    exact ⟨⟨_, mem_of_firstTeam hH⟩, ⟨_, hmem⟩, hne⟩
  · exact absurd hf (by simp)

theorem Inv.ratedArenaUpdate (h : q.Inv) (env : RatedEnv) (arenaRating : UInt32) :
    (q.ratedArenaUpdate env b arenaRating).Inv := by
  unfold BattlegroundQueue.ratedArenaUpdate
  split
  · exact h
  · split
    · next hf _ =>
      obtain ⟨ha, hh, hne⟩ := h.findTeams_spec hf
      exact h.startArena ha hh hne
    · exact h

/-! ## 9. Runs -/

/-- One operation of the queue, with whatever it reads from outside. A join is of players who
are not queued yet, and of a group that has its leader as a member. -/
inductive Step : BattlegroundQueue → BattlegroundQueue → Prop
  | addGroup {q : BattlegroundQueue} (crossFactionEnabled : Bool) (getMSTime : UInt32)
      (ginfo : GroupPtr) (join : Join) (hnew : ginfo ∉ q.live)
      (hleader : ∀ refs, join.grp = some refs → some join.leader ∈ refs)
      (hqueued : ∀ guid ∈ join.members, q.m_QueuedPlayers guid = none) :
      Step q (q.addGroup crossFactionEnabled getMSTime ginfo join)
  | removePlayer {q q' : BattlegroundQueue} (fuel : ℕ) (guid : ObjectGuid)
      (h : BattlegroundQueue.removePlayer fuel q guid = some q') : Step q q'
  | premadeMatch {q : BattlegroundQueue} (getMSTime waitForMatch : UInt32)
      (bracket_id : BattlegroundBracketId) (MinPlayersPerTeam MaxPlayersPerTeam : ℕ) :
      Step q
        (q.checkPremadeMatch getMSTime waitForMatch bracket_id MinPlayersPerTeam
          MaxPlayersPerTeam).2
  | skirmish {q q' : BattlegroundQueue} (bracket_id : BattlegroundBracketId)
      (minPlayersPerTeam : ℕ) (result : Bool)
      (h : q.checkSkirmishForSameFaction bracket_id minPlayersPerTeam = some (result, q')) :
      Step q q'
  | solo {q q' : BattlegroundQueue} (env : SoloEnv) (fuel : ℕ)
      (bracket_id : BattlegroundBracketId) (result : Bool)
      (h : q.checkSolo env fuel bracket_id = some (result, q')) : Step q q'
  | rated {q : BattlegroundQueue} (env : RatedEnv) (bracket_id : BattlegroundBracketId)
      (arenaRating : UInt32) : Step q (q.ratedArenaUpdate env bracket_id arenaRating)
  /-- The other functions of an update fill the pools. -/
  | select {q : BattlegroundQueue} (pools : Pools) : Step q { q with m_SelectionPools := pools }
  /-- Selected groups are invited with their own side. -/
  | invite {q : BattlegroundQueue} (findConnectedPlayer : ObjectGuid → Bool) (instanceId : ℕ)
      (invited : Team → ℕ) (ginfo : GroupPtr) :
      Step q { q with heap := (inviteGroupToBG findConnectedPlayer instanceId ⟨q.heap, invited⟩
        ginfo (q.heap ginfo).Team).heap }
  /-- A solo match gives its groups their temporary teams. -/
  | setArenaTeamId {q : BattlegroundQueue} (ginfo : GroupPtr) (arenaTeamId : ℕ) :
      Step q { q with heap := q.heap.setArenaTeamId ginfo arenaTeamId }

theorem Step.inv (hs : Step q q') (h : q.Inv) : q'.Inv := by
  cases hs with
  | addGroup crossFactionEnabled getMSTime ginfo join hnew hleader hqueued =>
    exact h.addGroup crossFactionEnabled getMSTime hnew hleader hqueued
  | removePlayer fuel guid hq => exact h.removePlayer hq
  | premadeMatch => exact h.checkPremadeMatch _ _ _ _
  | skirmish _ _ _ hq => exact h.checkSkirmishForSameFaction hq
  | solo _ _ _ _ hq => exact h.checkSolo hq
  | rated env _ arenaRating => exact h.ratedArenaUpdate env arenaRating
  | select pools => exact h.setPools pools
  | invite => exact h.invite _ _ _ _
  | setArenaTeamId ginfo arenaTeamId => exact h.setArenaTeamId ginfo arenaTeamId

/-- The states that any order of operations leads to. -/
inductive Reachable : BattlegroundQueue → Prop
  | new (heap : GroupHeap) : Reachable (new heap)
  | step {q q' : BattlegroundQueue} : Reachable q → Step q q' → Reachable q'

theorem Reachable.inv (hr : Reachable q) : q.Inv := by
  induction hr with
  | new heap => exact Inv.new heap
  | step _ hs ih => exact hs.inv ih

/-- What the lists and the map say of each other. -/
structure WellFormed (q : BattlegroundQueue) : Prop where
  /-- Every group has one place, and the lists hold nothing else. -/
  one_place : ∀ g ∈ q.live, ∃! place, g ∈ q.m_QueuedGroups place
  once : ∀ place g, (q.m_QueuedGroups place).count g ≤ 1
  live_of_mem : ∀ place, ∀ g ∈ q.m_QueuedGroups place, g ∈ q.live
  /-- No queued group is empty. -/
  players : ∀ place, ∀ g ∈ q.m_QueuedGroups place, (q.heap g).Players ≠ OrderedSet.empty
  /-- A queued player is in one queued group. -/
  queued_iff : ∀ guid, (q.m_QueuedPlayers guid).isSome ↔
    ∃! g, (∃ place, g ∈ q.m_QueuedGroups place) ∧ guid ∈ (q.heap g).Players
  /-- It is the one his entry refers to. -/
  groupInfo : ∀ guid g, q.m_QueuedPlayers guid = some g →
    (∃ place, g ∈ q.m_QueuedGroups place) ∧ guid ∈ (q.heap g).Players

/-- **The queue is well formed in every state that is reached.** -/
theorem reachable_wellFormed (hr : Reachable q) : WellFormed q := by
  have h := hr.inv
  refine ⟨fun g hg => ?_, fun place g => ?_, fun place g hg => ?_, fun place g hg hempty => ?_,
    fun guid => ⟨fun hs => ?_, fun ⟨g, hg, _⟩ => ?_⟩, fun guid g hg => h.of_queued hg⟩
  · obtain ⟨place, hplace⟩ := (h.live_iff g).mp hg
    exact ⟨place, hplace, fun place' hplace' => h.placed.unique hplace' hplace⟩
  · exact List.nodup_iff_count_le_one.mp (h.placed.nodup place) g
  · exact (h.live_iff g).mpr ⟨place, hg⟩
  · refine h.players g ⟨place, hg⟩ ?_
    rw [hempty]
    rfl
  · obtain ⟨g, hg⟩ := Option.isSome_iff_exists.mp hs
    refine ⟨g, h.of_queued hg, fun g' hg' => ?_⟩
    have hg'' := (h.linked guid g').mpr hg'
    exact Option.some.inj (hg''.symm.trans hg)
  · rw [(h.linked guid g).mpr hg]
    rfl

/-- Two players of a rated group that joins an empty queue. -/
def pairJoin : Join where
  leader := 1
  leaderTeam := .HORDE
  skirmishJoined := false
  grp := some [some 1, some 2]
  bracketId := 14
  ArenaType := 2
  isRated := true
  isPremade := false
  MatchmakerRating := 1500
  arenateamid := 7

def pairQueue : BattlegroundQueue :=
  (new fun _ => { Players := OrderedSet.empty, Team := .ALLIANCE }).addGroup false 1000 5 pairJoin

theorem pairQueue_wellFormed : WellFormed pairQueue :=
  reachable_wellFormed (.step (.new _) (.addGroup false 1000 5 pairJoin (by simp [new])
    (by simp [pairJoin]) fun _ _ => rfl))

/-- When one of them leaves, the other leaves with him, and the group is deleted. -/
example : (removePlayer 2 pairQueue 1).map
    (fun q => (q.m_QueuedPlayers 2, q.m_QueuedGroups (14, premade .HORDE), decide (5 ∈ q.live)))
      = some (none, [], false) := by
  decide

end BattlegroundQueue

end FunPvp.Battleground
