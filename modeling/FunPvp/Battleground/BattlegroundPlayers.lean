/-
# Who is in a battleground

A battleground keeps three records of its players: the map `m_Players` with each player's team and
the time at which he is removed when he is offline, the deque `m_OfflineQueue` of the players who
logged out, and a counter for each team. Every update removes the player in front of the deque when
his time has come (`_ProcessOfflineQueue`).

The records agree as long as nobody is added twice and nobody leaves who is still in the deque.
`EventPlayerLoggedOut` itself breaks the second rule, and then no one behind him is ever reached.
-/
import FunPvp.Battleground.Queue
import FunPvp.Lib.Run

namespace FunPvp.Battleground

open Lib

/-! ## 1. The records -/

abbrev PlayerGuid := {guid : UInt32 // guid ≠ 0}

def MAX_OFFLINE_TIME : ℕ := 300

structure BattlegroundPlayer where
  OfflineRemoveTime : ℕ
  Team : ℕ

/-- The records of a battleground about its players, and the game time. -/
structure BattlegroundPlayers where
  m_Players : AList fun _ : PlayerGuid => BattlegroundPlayer
  m_OfflineQueue : List PlayerGuid
  m_PlayersCount : Team → UInt32
  gameTime : ℕ

def getTeamIndexByTeamId (team : ℕ) : Team :=
  if team = Team.value .ALLIANCE then .ALLIANCE else .HORDE

@[simp] theorem getTeamIndexByTeamId_value (t : Team) : getTeamIndexByTeamId t.value = t := by
  cases t <;> rfl

theorem Team.value_inj {t t' : Team} : t.value = t'.value ↔ t = t' := by
  cases t <;> cases t' <;> decide

namespace BattlegroundPlayers

def empty (gameTime : ℕ) : BattlegroundPlayers := ⟨∅, [], fun _ => 0, gameTime⟩

def updatePlayersCountByTeam (bg : BattlegroundPlayers) (team : ℕ) (remove : Bool) :
    BattlegroundPlayers :=
  let index := getTeamIndexByTeamId team
  let count := bg.m_PlayersCount index
  { bg with
    m_PlayersCount :=
      Function.update bg.m_PlayersCount index (if remove then count - 1 else count + 1) }

def getPlayerTeam (bg : BattlegroundPlayers) (guid : PlayerGuid) : ℕ :=
  match bg.m_Players.lookup guid with
  | some bp => bp.Team
  | none => 0

def isPlayerInBattleground (bg : BattlegroundPlayers) (guid : PlayerGuid) : Bool :=
  (bg.m_Players.lookup guid).isSome

/-- `m_Players[guid].OfflineRemoveTime = time`: the index operator makes an entry of zeros when
there is none. -/
def setOfflineRemoveTime (bg : BattlegroundPlayers) (guid : PlayerGuid) (time : ℕ) :
    BattlegroundPlayers :=
  let bp := (bg.m_Players.lookup guid).getD ⟨0, 0⟩
  { bg with m_Players := bg.m_Players.insert guid { bp with OfflineRemoveTime := time } }

def removePlayerAtLeave (bg : BattlegroundPlayers) (guid : PlayerGuid) : BattlegroundPlayers :=
  let team := bg.getPlayerTeam guid
  if bg.isPlayerInBattleground guid then
    { bg.updatePlayersCountByTeam team true with m_Players := bg.m_Players.erase guid }
  else bg

def addPlayer (bg : BattlegroundPlayers) (guid : PlayerGuid) (team : Team) :
    BattlegroundPlayers :=
  { bg with m_Players := bg.m_Players.insert guid ⟨0, team.value⟩ }.updatePlayersCountByTeam
    team.value false

def eventPlayerLoggedIn (bg : BattlegroundPlayers) (guid : PlayerGuid) : BattlegroundPlayers :=
  { bg with m_OfflineQueue := bg.m_OfflineQueue.erase guid }.setOfflineRemoveTime guid 0

/-- `EventPlayerLoggedOut`. The one caller calls it on the player's own battleground, so
`LeaveBattleground` comes back to `RemovePlayerAtLeave` of this one. -/
def eventPlayerLoggedOut (bg : BattlegroundPlayers) (guid : PlayerGuid) (isSpectator : Bool) :
    BattlegroundPlayers :=
  if bg.isPlayerInBattleground guid then
    let bg := { bg with m_OfflineQueue := bg.m_OfflineQueue ++ [guid] }
    let bg := bg.setOfflineRemoveTime guid (bg.gameTime + MAX_OFFLINE_TIME)
    if isSpectator then bg else bg.removePlayerAtLeave guid
  else bg

def processOfflineQueue (bg : BattlegroundPlayers) : BattlegroundPlayers :=
  match bg.m_OfflineQueue with
  | [] => bg
  | guid :: rest =>
    match bg.m_Players.lookup guid with
    | some bp =>
      if bp.OfflineRemoveTime ≤ bg.gameTime then
        { bg.removePlayerAtLeave guid with m_OfflineQueue := rest }
      else bg
    | none => bg

end BattlegroundPlayers

inductive PlayersEvent
  | tick (seconds : ℕ)
  | addPlayer (guid : PlayerGuid) (team : Team)
  | eventPlayerLoggedIn (guid : PlayerGuid)
  | eventPlayerLoggedOut (guid : PlayerGuid) (isSpectator : Bool)
  | removePlayerAtLeave (guid : PlayerGuid)
  | processOfflineQueue

namespace BattlegroundPlayers

def step (bg : BattlegroundPlayers) : PlayersEvent → BattlegroundPlayers
  | .tick seconds => { bg with gameTime := bg.gameTime + seconds }
  | .addPlayer guid team => bg.addPlayer guid team
  | .eventPlayerLoggedIn guid => bg.eventPlayerLoggedIn guid
  | .eventPlayerLoggedOut guid isSpectator => bg.eventPlayerLoggedOut guid isSpectator
  | .removePlayerAtLeave guid => bg.removePlayerAtLeave guid
  | .processOfflineQueue => bg.processOfflineQueue

/-! ## 2. The records agree -/

def entriesOf (bg : BattlegroundPlayers) (t : Team) : ℕ :=
  bg.m_Players.entries.countP fun e => e.2.Team = t.value

def removeTime (bg : BattlegroundPlayers) (guid : PlayerGuid) : ℕ :=
  ((bg.m_Players.lookup guid).map BattlegroundPlayer.OfflineRemoveTime).getD 0

/-- **The records agree**: the counters count the entries, the deque has entries of players with a
removal time, each once and in the order of these times; and the `i`-th of them, when his time has
come, is gone after `i + 1` looks at the deque. -/
structure Agree (bg : BattlegroundPlayers) : Prop where
  count : ∀ t, (bg.m_PlayersCount t).toNat = bg.entriesOf t
  once : bg.m_OfflineQueue.Nodup
  keyed : ∀ guid ∈ bg.m_OfflineQueue, guid ∈ bg.m_Players ∧ bg.removeTime guid ≠ 0
  ordered : bg.m_OfflineQueue.Pairwise fun a b => bg.removeTime a ≤ bg.removeTime b
  reached : ∀ i guid, bg.m_OfflineQueue[i]? = some guid → bg.removeTime guid ≤ bg.gameTime →
    guid ∉ (processOfflineQueue^[i + 1] bg).m_Players

/-- What an event must meet for the records to stay in agreement: nobody is added twice, the one who
logs in is in the map (as `LoadFromDB` checks), and nobody leaves, by himself or in the course of
his logout, who is in the deque. -/
def Orderly (bg : BattlegroundPlayers) : PlayersEvent → Prop
  | .addPlayer guid _ => guid ∉ bg.m_Players
  | .eventPlayerLoggedIn guid => guid ∈ bg.m_Players
  | .eventPlayerLoggedOut guid isSpectator =>
    guid ∈ bg.m_Players → isSpectator = true ∧ guid ∉ bg.m_OfflineQueue
  | .removePlayerAtLeave guid => guid ∉ bg.m_OfflineQueue
  | _ => True

/-- The deque has entries of players with a removal time, each once, in the order of these times,
and none is later than a logout now would be. -/
structure QueueOk (bg : BattlegroundPlayers) : Prop where
  once : bg.m_OfflineQueue.Nodup
  keyed : ∀ guid ∈ bg.m_OfflineQueue, guid ∈ bg.m_Players ∧ bg.removeTime guid ≠ 0
  ordered : bg.m_OfflineQueue.Pairwise fun a b => bg.removeTime a ≤ bg.removeTime b
  bounded : ∀ guid ∈ bg.m_OfflineQueue, bg.removeTime guid ≤ bg.gameTime + MAX_OFFLINE_TIME

/-- The counters count the entries, and every entry has one of the two teams. -/
structure CountsOk (bg : BattlegroundPlayers) : Prop where
  count : ∀ t, (bg.m_PlayersCount t).toNat = bg.entriesOf t
  teams : ∀ guid bp, bg.m_Players.lookup guid = some bp → ∃ t : Team, bp.Team = t.value

theorem queueOk_empty (gameTime : ℕ) : QueueOk (empty gameTime) where
  once := List.nodup_nil
  keyed _ h := absurd h List.not_mem_nil
  ordered := List.Pairwise.nil
  bounded _ h := absurd h List.not_mem_nil

theorem countsOk_empty (gameTime : ℕ) : CountsOk (empty gameTime) where
  count _ := rfl
  teams _ _ h := by cases h

end BattlegroundPlayers

/-! ## 3. Entries of a map, counted -/

section

variable {m : AList fun _ : PlayerGuid => BattlegroundPlayer} {guid : PlayerGuid}
  {bp : BattlegroundPlayer} (p : BattlegroundPlayer → Bool)

theorem countP_erase (h : m.lookup guid = some bp) :
    (m.erase guid).entries.countP (fun e => p e.2) + (if p bp then 1 else 0)
      = m.entries.countP fun e => p e.2 := by
  have hmem : guid ∈ m.entries.keys := AList.mem_keys.mp (AList.lookup_isSome.mp (by simp [h]))
  obtain ⟨b, l₁, l₂, -, hl, hkerase⟩ := List.exists_of_kerase hmem
  have hb : b = bp := by
    have hentry : (⟨guid, b⟩ : Sigma fun _ : PlayerGuid => BattlegroundPlayer) ∈ m.entries := by
      rw [hl]
      exact List.mem_append_right _ List.mem_cons_self
    have hlookup := (List.mem_dlookup_iff m.nodupKeys).mpr hentry
    exact Option.some.inj (hlookup.symm.trans h)
  subst hb
  have herase : (m.erase guid).entries = l₁ ++ l₂ := hkerase
  rw [herase, hl]
  simp only [List.countP_append, List.countP_cons]
  omega

theorem countP_insert (h : guid ∉ m) (bp : BattlegroundPlayer) :
    (m.insert guid bp).entries.countP (fun e => p e.2)
      = m.entries.countP (fun e => p e.2) + if p bp then 1 else 0 := by
  rw [AList.entries_insert_of_notMem h, List.countP_cons]

theorem countP_insert_of_lookup (bp' : BattlegroundPlayer) (h : m.lookup guid = some bp)
    (hp : p bp' = p bp) :
    (m.insert guid bp').entries.countP (fun e => p e.2) = m.entries.countP fun e => p e.2 := by
  rw [← countP_erase p h, AList.entries_insert, List.countP_cons, hp]
  rfl

theorem length_entries_lt : m.entries.length < 2 ^ 32 := by
  have hinj : Function.Injective fun guid : PlayerGuid => guid.1.toNat := by
    intro a b hab
    exact Subtype.ext (UInt32.toNat_inj.mp hab)
  have hnodup := m.keys_nodup.map hinj
  have hsub : m.keys.map (fun guid => guid.1.toNat) ⊆ List.range' 1 (2 ^ 32 - 1) := by
    intro x hx
    obtain ⟨guid, -, rfl⟩ := List.mem_map.mp hx
    have hlt := guid.1.toNat_lt
    have hne : guid.1.toNat ≠ 0 := fun h => guid.2 (UInt32.toNat_inj.mp h)
    rw [List.mem_range'_1]
    omega
  have hle := (List.subperm_of_subset hnodup hsub).length_le
  rw [List.length_map, List.length_range'] at hle
  have hkeys : m.keys.length = m.entries.length := List.length_map ..
  omega

end

namespace BattlegroundPlayers

variable {bg bg' : BattlegroundPlayers} {guid : PlayerGuid} {bp : BattlegroundPlayer}

/-! ## 4. The deque -/

theorem removeTime_of_lookup (h : bg'.m_Players.lookup guid = bg.m_Players.lookup guid) :
    bg'.removeTime guid = bg.removeTime guid := by
  rw [removeTime, h, removeTime]

theorem QueueOk.of_lookup (Q : QueueOk bg)
    (hqueue : bg'.m_OfflineQueue.Sublist bg.m_OfflineQueue)
    (hlookup : ∀ guid ∈ bg'.m_OfflineQueue,
      bg'.m_Players.lookup guid = bg.m_Players.lookup guid)
    (htime : bg.gameTime ≤ bg'.gameTime) : QueueOk bg' where
  once := Q.once.sublist hqueue
  keyed guid hmem := by
    have hkey := Q.keyed guid (hqueue.subset hmem)
    rw [removeTime_of_lookup (hlookup guid hmem), ← AList.lookup_isSome, hlookup guid hmem,
      AList.lookup_isSome]
    exact hkey
  ordered := by
    refine (Q.ordered.sublist hqueue).imp_of_mem fun ha hb hab => ?_
    rw [removeTime_of_lookup (hlookup _ ha), removeTime_of_lookup (hlookup _ hb)]
    exact hab
  bounded guid hmem := by
    rw [removeTime_of_lookup (hlookup guid hmem)]
    exact (Q.bounded guid (hqueue.subset hmem)).trans (by omega)

@[simp] theorem m_OfflineQueue_removePlayerAtLeave :
    (bg.removePlayerAtLeave guid).m_OfflineQueue = bg.m_OfflineQueue := by
  unfold removePlayerAtLeave
  split <;> rfl

@[simp] theorem gameTime_removePlayerAtLeave :
    (bg.removePlayerAtLeave guid).gameTime = bg.gameTime := by
  unfold removePlayerAtLeave
  split <;> rfl

theorem m_Players_removePlayerAtLeave :
    (bg.removePlayerAtLeave guid).m_Players = bg.m_Players.erase guid := by
  unfold removePlayerAtLeave
  split
  · rfl
  · rename_i hnone
    have hmem : guid ∉ bg.m_Players.entries.keys := fun h =>
      hnone (AList.lookup_isSome.mpr (AList.mem_keys.mpr h))
    exact (AList.ext (List.kerase_of_notMem_keys hmem)).symm

theorem lookup_removePlayerAtLeave_of_ne {other : PlayerGuid} (h : other ≠ guid) :
    (bg.removePlayerAtLeave guid).m_Players.lookup other = bg.m_Players.lookup other := by
  rw [m_Players_removePlayerAtLeave, AList.lookup_erase_ne h]

theorem lookup_setOfflineRemoveTime_of_ne {other : PlayerGuid} {time : ℕ} (h : other ≠ guid) :
    (bg.setOfflineRemoveTime guid time).m_Players.lookup other = bg.m_Players.lookup other :=
  AList.lookup_insert_ne h

theorem removeTime_setOfflineRemoveTime (bg : BattlegroundPlayers) (guid : PlayerGuid) (time : ℕ) :
    (bg.setOfflineRemoveTime guid time).removeTime guid = time := by
  simp [removeTime, setOfflineRemoveTime, AList.lookup_insert]

theorem ne_of_mem_of_notMem {q : List PlayerGuid} {other : PlayerGuid} (hmem : other ∈ q)
    (hnot : guid ∉ q) : other ≠ guid := fun h => hnot (h ▸ hmem)

theorem QueueOk.removePlayerAtLeave (Q : QueueOk bg) (h : guid ∉ bg.m_OfflineQueue) :
    QueueOk (bg.removePlayerAtLeave guid) := by
  refine Q.of_lookup (by simp) (fun other hmem => ?_) (by simp)
  rw [m_OfflineQueue_removePlayerAtLeave] at hmem
  exact lookup_removePlayerAtLeave_of_ne (ne_of_mem_of_notMem hmem h)

theorem QueueOk.addPlayer (Q : QueueOk bg) {team : Team} (h : guid ∉ bg.m_Players) :
    QueueOk (bg.addPlayer guid team) := by
  refine Q.of_lookup (List.Sublist.refl _) (fun other hmem => ?_) le_rfl
  have hne : other ≠ guid := fun heq => h (heq ▸ (Q.keyed other hmem).1)
  exact AList.lookup_insert_ne hne

theorem QueueOk.eventPlayerLoggedIn (Q : QueueOk bg) :
    QueueOk (bg.eventPlayerLoggedIn guid) := by
  refine Q.of_lookup List.erase_sublist (fun other hmem => ?_) le_rfl
  have hne : other ≠ guid := (Q.once.mem_erase_iff.mp hmem).1
  exact lookup_setOfflineRemoveTime_of_ne hne

theorem QueueOk.eventPlayerLoggedOut (Q : QueueOk bg) (h : guid ∉ bg.m_OfflineQueue) :
    QueueOk (bg.eventPlayerLoggedOut guid true) := by
  unfold BattlegroundPlayers.eventPlayerLoggedOut
  split
  · have htime : ∀ other ∈ bg.m_OfflineQueue,
        ({ bg with m_OfflineQueue := bg.m_OfflineQueue ++ [guid] }.setOfflineRemoveTime guid
          (bg.gameTime + MAX_OFFLINE_TIME)).removeTime other = bg.removeTime other := by
      intro other hmem
      exact removeTime_of_lookup (lookup_setOfflineRemoveTime_of_ne (ne_of_mem_of_notMem hmem h))
    have hself := removeTime_setOfflineRemoveTime
      { bg with m_OfflineQueue := bg.m_OfflineQueue ++ [guid] } guid
      (bg.gameTime + MAX_OFFLINE_TIME)
    refine ⟨?_, ?_, ?_, ?_⟩
    · exact Q.once.append (List.nodup_singleton guid) (by simpa using h)
    · intro other hmem
      rcases List.mem_append.mp hmem with hmem | hmem
      · rw [if_pos rfl, htime other hmem]
        exact ⟨AList.mem_insert _ |>.mpr (.inr (Q.keyed other hmem).1), (Q.keyed other hmem).2⟩
      · rw [List.mem_singleton.mp hmem, if_pos rfl, hself]
        exact ⟨AList.mem_insert _ |>.mpr (.inl rfl), by simp [MAX_OFFLINE_TIME]⟩
    · rw [if_pos rfl]
      refine List.pairwise_append.mpr ⟨?_, List.pairwise_singleton _ _, ?_⟩
      · refine Q.ordered.imp_of_mem fun ha hb hab => ?_
        rw [htime _ ha, htime _ hb]
        exact hab
      · intro a ha b hb
        rw [List.mem_singleton.mp hb, htime a ha, hself]
        exact Q.bounded a ha
    · intro other hmem
      rw [if_pos rfl] at hmem ⊢
      rcases List.mem_append.mp hmem with hmem | hmem
      · rw [htime other hmem]
        exact Q.bounded other hmem
      · rw [List.mem_singleton.mp hmem, hself]
        exact le_rfl
  · exact Q

/-! ## 5. The counters -/

theorem CountsOk.removePlayerAtLeave (C : CountsOk bg) :
    CountsOk (bg.removePlayerAtLeave guid) where
  count t := by
    unfold BattlegroundPlayers.removePlayerAtLeave
    split
    · rename_i hsome
      obtain ⟨bp, hbp⟩ := Option.isSome_iff_exists.mp hsome
      obtain ⟨t', ht'⟩ := C.teams guid bp hbp
      have herase := countP_erase (fun bp => decide (bp.Team = t.value)) hbp
      have hteam : bg.getPlayerTeam guid = t'.value := by
        rw [getPlayerTeam, hbp]
        exact ht'
      simp only [updatePlayersCountByTeam, hteam, getTeamIndexByTeamId_value, if_true, entriesOf]
      simp only [ht', Team.value_inj, decide_eq_true_eq] at herase
      have hcount := C.count t
      rw [entriesOf] at hcount
      by_cases htt' : t = t'
      · subst htt'
        rw [if_pos rfl] at herase
        rw [Function.update_self, UInt32.toNat_sub_of_le]
        · have hone : (1 : UInt32).toNat = 1 := rfl
          omega
        · rw [UInt32.le_iff_toNat_le]
          have hone : (1 : UInt32).toNat = 1 := rfl
          omega
      · rw [if_neg (Ne.symm htt')] at herase
        rw [Function.update_of_ne htt']
        omega
    · exact C.count t
  teams other bp' h := by
    rw [m_Players_removePlayerAtLeave] at h
    by_cases hne : other = guid
    · rw [hne, AList.lookup_erase] at h
      cases h
    · rw [AList.lookup_erase_ne hne] at h
      exact C.teams other bp' h

theorem CountsOk.addPlayer (C : CountsOk bg) {team : Team} (h : guid ∉ bg.m_Players) :
    CountsOk (bg.addPlayer guid team) where
  count t := by
    have hinsert := countP_insert (fun bp => decide (bp.Team = t.value)) h ⟨0, team.value⟩
    have hlt := length_entries_lt (m := bg.m_Players.insert guid ⟨0, team.value⟩)
    have hle := List.countP_le_length (p := fun e => decide (e.2.Team = t.value))
      (l := (bg.m_Players.insert guid ⟨0, team.value⟩).entries)
    have hcount := C.count t
    simp only [BattlegroundPlayers.addPlayer, updatePlayersCountByTeam, entriesOf,
      getTeamIndexByTeamId_value, Bool.false_eq_true, if_false]
    rw [entriesOf] at hcount
    simp only [Team.value_inj, decide_eq_true_eq] at hinsert
    by_cases htt : t = team
    · subst htt
      rw [if_pos rfl] at hinsert
      have hone : (1 : UInt32).toNat = 1 := rfl
      rw [Function.update_self, UInt32.toNat_add, Nat.mod_eq_of_lt (by omega), hinsert, hcount,
        hone]
    · rw [if_neg (Ne.symm htt)] at hinsert
      rw [Function.update_of_ne htt, hinsert, hcount, Nat.add_zero]
  teams other bp' hbp' := by
    by_cases hne : other = guid
    · rw [hne] at hbp'
      simp only [BattlegroundPlayers.addPlayer, updatePlayersCountByTeam, AList.lookup_insert,
        Option.some.injEq] at hbp'
      exact ⟨team, by rw [← hbp']⟩
    · simp only [BattlegroundPlayers.addPlayer, updatePlayersCountByTeam,
        AList.lookup_insert_ne hne] at hbp'
      exact C.teams other bp' hbp'

theorem CountsOk.setOfflineRemoveTime (C : CountsOk bg) (h : guid ∈ bg.m_Players) (time : ℕ) :
    CountsOk (bg.setOfflineRemoveTime guid time) := by
  obtain ⟨bp, hbp⟩ := Option.isSome_iff_exists.mp (AList.lookup_isSome.mpr h)
  refine ⟨fun t => ?_, fun other bp' hbp' => ?_⟩
  · have hinsert := countP_insert_of_lookup (fun bp => decide (bp.Team = t.value))
      { bp with OfflineRemoveTime := time } hbp rfl
    simp only [BattlegroundPlayers.setOfflineRemoveTime, entriesOf, hbp, Option.getD_some]
    rw [hinsert]
    exact C.count t
  · by_cases hne : other = guid
    · rw [hne] at hbp'
      simp only [BattlegroundPlayers.setOfflineRemoveTime, AList.lookup_insert, hbp,
        Option.getD_some, Option.some.injEq] at hbp'
      obtain ⟨t, ht⟩ := C.teams guid bp hbp
      exact ⟨t, by rw [← hbp', ← ht]⟩
    · rw [lookup_setOfflineRemoveTime_of_ne hne] at hbp'
      exact C.teams other bp' hbp'

/-! ## 6. The front of the deque -/

/-- What `_ProcessOfflineQueue` does when the front of the deque has an entry: it removes the player
once his time has come. -/
theorem processOfflineQueue_cons {rest : List PlayerGuid} (hqueue : bg.m_OfflineQueue = guid :: rest)
    (hmem : guid ∈ bg.m_Players) :
    bg.processOfflineQueue =
      if bg.removeTime guid ≤ bg.gameTime then
        { bg.removePlayerAtLeave guid with m_OfflineQueue := rest }
      else bg := by
  obtain ⟨bp, hbp⟩ := Option.isSome_iff_exists.mp (AList.lookup_isSome.mpr hmem)
  simp only [processOfflineQueue, hqueue, hbp, removeTime, Option.map_some, Option.getD_some]

theorem QueueOk.popFront (Q : QueueOk bg) {rest : List PlayerGuid}
    (hqueue : bg.m_OfflineQueue = guid :: rest) :
    QueueOk { bg.removePlayerAtLeave guid with m_OfflineQueue := rest } := by
  have hnodup := Q.once
  rw [hqueue, List.nodup_cons] at hnodup
  refine Q.of_lookup (by rw [hqueue]; exact List.sublist_cons_self _ _) (fun other hmem => ?_)
    (by simp)
  exact lookup_removePlayerAtLeave_of_ne (ne_of_mem_of_notMem hmem hnodup.1)

theorem QueueOk.processOfflineQueue (Q : QueueOk bg) : QueueOk bg.processOfflineQueue := by
  rcases hqueue : bg.m_OfflineQueue with _ | ⟨guid, rest⟩
  · rwa [BattlegroundPlayers.processOfflineQueue, hqueue]
  · rw [processOfflineQueue_cons hqueue (Q.keyed guid (by rw [hqueue]; exact List.mem_cons_self)).1]
    split
    · exact Q.popFront hqueue
    · exact Q

/-- **An expired player is reached**: the one at place `i` is gone after `i + 1` looks, because
those before him have expired as well. -/
theorem QueueOk.reached (Q : QueueOk bg) (i : ℕ) (guid : PlayerGuid)
    (hi : bg.m_OfflineQueue[i]? = some guid) (hexpired : bg.removeTime guid ≤ bg.gameTime) :
    guid ∉ (BattlegroundPlayers.processOfflineQueue^[i + 1] bg).m_Players := by
  induction i generalizing bg with
  | zero =>
    rcases hqueue : bg.m_OfflineQueue with _ | ⟨front, rest⟩
    · rw [hqueue] at hi
      cases hi
    · rw [hqueue] at hi
      obtain rfl : front = guid := Option.some.inj hi
      have hkey := (Q.keyed front (by rw [hqueue]; exact List.mem_cons_self)).1
      rw [Function.iterate_one, processOfflineQueue_cons hqueue hkey, if_pos hexpired]
      intro hmem
      rw [m_Players_removePlayerAtLeave, AList.mem_erase] at hmem
      exact hmem.1 rfl
  | succ i ih =>
    rcases hqueue : bg.m_OfflineQueue with _ | ⟨front, rest⟩
    · rw [hqueue] at hi
      cases hi
    · have hkey := (Q.keyed front (by rw [hqueue]; exact List.mem_cons_self)).1
      have hrest : rest[i]? = some guid := by
        rw [hqueue] at hi
        exact hi
      have hmem : guid ∈ rest := List.mem_of_getElem? hrest
      have hordered := Q.ordered
      have hnodup := Q.once
      rw [hqueue, List.pairwise_cons] at hordered
      rw [hqueue, List.nodup_cons] at hnodup
      have hfront : bg.removeTime front ≤ bg.gameTime := (hordered.1 guid hmem).trans hexpired
      rw [Function.iterate_succ_apply, processOfflineQueue_cons hqueue hkey, if_pos hfront]
      have hsame : (bg.removePlayerAtLeave front).removeTime guid = bg.removeTime guid :=
        removeTime_of_lookup
          (lookup_removePlayerAtLeave_of_ne (ne_of_mem_of_notMem hmem hnodup.1))
      have hnow : bg.gameTime = (bg.removePlayerAtLeave front).gameTime := by simp
      rw [← hsame, hnow] at hexpired
      exact ih (Q.popFront hqueue) hrest hexpired

/-! ## 7. Orderly runs -/

theorem inv_step (bg : BattlegroundPlayers) (e : PlayersEvent) (h : CountsOk bg ∧ QueueOk bg)
    (horderly : bg.Orderly e) : CountsOk (bg.step e) ∧ QueueOk (bg.step e) := by
  obtain ⟨C, Q⟩ := h
  cases e with
  | tick seconds =>
    exact ⟨⟨C.count, C.teams⟩,
      Q.of_lookup (List.Sublist.refl _) (fun _ _ => rfl) (Nat.le_add_right _ _)⟩
  | addPlayer guid team => exact ⟨C.addPlayer horderly, Q.addPlayer horderly⟩
  | eventPlayerLoggedIn guid =>
    have hC : CountsOk { bg with m_OfflineQueue := bg.m_OfflineQueue.erase guid } :=
      ⟨C.count, C.teams⟩
    exact ⟨hC.setOfflineRemoveTime horderly 0, Q.eventPlayerLoggedIn⟩
  | eventPlayerLoggedOut guid isSpectator =>
    by_cases hmem : guid ∈ bg.m_Players
    · obtain ⟨rfl, hnot⟩ := horderly hmem
      refine ⟨?_, Q.eventPlayerLoggedOut hnot⟩
      have hsome : bg.isPlayerInBattleground guid = true := AList.lookup_isSome.mpr hmem
      simp only [step, eventPlayerLoggedOut, hsome, if_true]
      have hC : CountsOk { bg with m_OfflineQueue := bg.m_OfflineQueue ++ [guid] } :=
        ⟨C.count, C.teams⟩
      exact hC.setOfflineRemoveTime hmem _
    · have hnone : bg.isPlayerInBattleground guid = false := by
        rw [isPlayerInBattleground, AList.lookup_eq_none.mpr hmem]
        rfl
      simp only [step, eventPlayerLoggedOut, hnone, Bool.false_eq_true, if_false]
      exact ⟨C, Q⟩
  | removePlayerAtLeave guid => exact ⟨C.removePlayerAtLeave, Q.removePlayerAtLeave horderly⟩
  | processOfflineQueue =>
    refine ⟨?_, Q.processOfflineQueue⟩
    simp only [step]
    rcases hqueue : bg.m_OfflineQueue with _ | ⟨guid, rest⟩
    · rwa [processOfflineQueue, hqueue]
    · rw [processOfflineQueue_cons hqueue
        (Q.keyed guid (by rw [hqueue]; exact List.mem_cons_self)).1]
      split
      · exact ⟨C.removePlayerAtLeave.count, C.removePlayerAtLeave.teams⟩
      · exact C

/-- **The roster of a battleground**: in an orderly run the records agree in every state. -/
theorem run_agree (gameTime : ℕ) (evs : List PlayersEvent)
    (horderly : Steps step Orderly (empty gameTime) evs) :
    States step Agree (empty gameTime) evs := by
  have hinv := States.of_steps inv_step ⟨countsOk_empty gameTime, queueOk_empty gameTime⟩ horderly
  exact hinv.imp fun bg h => ⟨h.1.count, h.2.once, h.2.keyed, h.2.ordered, h.2.reached⟩

/-- A player enters, leaves, enters again; a spectator logs out and comes back. -/
theorem reentry_agree :
    States step Agree (empty 7)
      [.addPlayer ⟨1, by decide⟩ .HORDE, .removePlayerAtLeave ⟨1, by decide⟩,
        .addPlayer ⟨1, by decide⟩ .ALLIANCE, .eventPlayerLoggedOut ⟨1, by decide⟩ true,
        .eventPlayerLoggedIn ⟨1, by decide⟩] :=
  run_agree 7 _ (by
    simp only [Steps, Orderly, and_true]
    decide +kernel)

/-- **A logout breaks the records**: the player who logs out is in the deque and not in the map. -/
theorem logout_not_agree :
    ¬ Agree (exec step (empty 7) [.addPlayer ⟨1, by decide⟩ .ALLIANCE,
      .eventPlayerLoggedOut ⟨1, by decide⟩ false]) := by
  intro h
  have hkeyed := (h.keyed ⟨1, by decide⟩ (by decide +kernel)).1
  revert hkeyed
  decide +kernel

end BattlegroundPlayers

end FunPvp.Battleground
