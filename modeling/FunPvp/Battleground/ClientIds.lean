/-
# Client-visible battleground ids

`BattlegroundMgr::CreateClientVisibleInstanceId` is meant to hand out the lowest id, from 1 on,
that no running battleground of the same type and bracket has. It walks the ordered set of ids
in use with a counter and an iterator, and the iterator is never moved: the loop header has no
`++itr` and neither has the body. So the counter is compared with the FIRST id only, the loop
ends after at most two rounds, and the result is 1, 2 or 3 whatever the set holds
(`createClientVisibleInstanceId_eq`).

`clientIds_iff` says for which runs of creations and deletions the ids are what they should be:
those in which every battleground is created while the id set is empty.
-/
import FunPvp.Lib.OrderedSet
import FunPvp.Lib.Run

namespace FunPvp.Battleground

open FunPvp.Lib

/-! ## 1. The source -/

inductive BattlegroundTypeId
  | BATTLEGROUND_TYPE_NONE | BATTLEGROUND_AV | BATTLEGROUND_WS | BATTLEGROUND_AB
  | BATTLEGROUND_NA | BATTLEGROUND_BE | BATTLEGROUND_AA | BATTLEGROUND_EY | BATTLEGROUND_RL
  | BATTLEGROUND_SA | BATTLEGROUND_DS | BATTLEGROUND_RV | BATTLEGROUND_IC | BATTLEGROUND_RB
deriving DecidableEq

def isArenaType : BattlegroundTypeId → Bool
  | .BATTLEGROUND_AA | .BATTLEGROUND_BE | .BATTLEGROUND_NA | .BATTLEGROUND_DS
  | .BATTLEGROUND_RV | .BATTLEGROUND_RL => true
  | _ => false

/-- The loop of `CreateClientVisibleInstanceId`. `itr` is the rest of the set from the iterator
on; no round moves it. `none` when the rounds run out, which two rounds exclude
(`gapSearch_two`). -/
def gapSearch (itr : List ℕ) : ℕ → ℕ → Option ℕ
  | 0, _ => none
  | rounds + 1, lastId =>
    match itr with
    | [] => some lastId
    | x :: _ => if lastId + 1 ≠ x then some (lastId + 1) else gapSearch itr rounds x

/-- `CreateClientVisibleInstanceId` on the id set of its type and bracket: the id and the set
with it. Arenas do not have client instance ids. -/
def createClientVisibleInstanceId (bgTypeId : BattlegroundTypeId) (clientIds : OrderedSet ℕ) :
    ℕ × OrderedSet ℕ :=
  if isArenaType bgTypeId then (0, clientIds)
  else
    let lastId := (gapSearch clientIds.elems 2 0).getD 0 + 1
    (lastId, clientIds.insert lastId)

/-- One type and bracket: the ids in use, and `GetClientInstanceID()` of every battleground that
has been created and not yet deleted. -/
structure ClientIdState where
  clientIds : OrderedSet ℕ
  live : List ℕ

inductive ClientIdOp
  | create
  /-- `Update` finds that the battleground at this place is to be deleted. -/
  | delete (place : ℕ)
deriving DecidableEq

/-- `CreateNewBattleground` takes an id; `Update` gives the id of a finished battleground
back. -/
def ClientIdState.step (bgTypeId : BattlegroundTypeId) (s : ClientIdState) :
    ClientIdOp → ClientIdState
  | .create =>
    let r := createClientVisibleInstanceId bgTypeId s.clientIds
    ⟨r.2, s.live ++ [r.1]⟩
  | .delete place =>
    match s.live[place]? with
    | none => s
    | some id =>
      ⟨if s.clientIds.elems.isEmpty then s.clientIds else s.clientIds.erase id,
        s.live.eraseIdx place⟩

def ClientIdState.init : ClientIdState := ⟨OrderedSet.empty, []⟩

/-! ## 2. What the search finds -/

variable {bgTypeId : BattlegroundTypeId} {s : ClientIdState}

theorem createClientVisibleInstanceId_eq (hbg : isArenaType bgTypeId = false) (s : OrderedSet ℕ) :
    (createClientVisibleInstanceId bgTypeId s).1 =
      match s.elems with
      | [] => 1
      | x :: _ => if x = 1 then 3 else 2 := by
  rw [createClientVisibleInstanceId, if_neg (by simp [hbg])]
  cases hs : s.elems with
  | nil => simp [gapSearch]
  | cons x l =>
    simp only [gapSearch, zero_add]
    by_cases hx : x = 1
    · subst hx; simp
    · simp [hx, Ne.symm hx]

theorem createClientVisibleInstanceId_snd (hbg : isArenaType bgTypeId = false) (s : OrderedSet ℕ) :
    (createClientVisibleInstanceId bgTypeId s).2 =
      s.insert (createClientVisibleInstanceId bgTypeId s).1 := by
  simp [createClientVisibleInstanceId, hbg]

theorem createClientVisibleInstanceId_arena (hbg : isArenaType bgTypeId = true) (s : OrderedSet ℕ) :
    createClientVisibleInstanceId bgTypeId s = (0, s) := by
  simp [createClientVisibleInstanceId, hbg]

/-! ## 3. Runs -/

/-- The lowest id, from 1 on, that is not in use. -/
def LeastFree (s : OrderedSet ℕ) (id : ℕ) : Prop := IsLeast {n | 0 < n ∧ n ∉ s} id

/-- A creation hands out the lowest free id. -/
def CreatesLeast (bgTypeId : BattlegroundTypeId) (s : ClientIdState) (op : ClientIdOp) : Prop :=
  op = .create → LeastFree s.clientIds (createClientVisibleInstanceId bgTypeId s.clientIds).1

/-- A creation is for a type that has client ids, and finds none of them in use. -/
def FindsNone (bgTypeId : BattlegroundTypeId) (s : ClientIdState) (op : ClientIdOp) : Prop :=
  op = .create → isArenaType bgTypeId = false ∧ s.clientIds.elems = []

/-- What the ids are for: every creation of the run hands out the lowest free id, and at no time
two live battlegrounds share one. -/
def ClientIdsCorrect (bgTypeId : BattlegroundTypeId) (ops : List ClientIdOp) : Prop :=
  Steps (ClientIdState.step bgTypeId) (CreatesLeast bgTypeId) .init ops ∧
    States (ClientIdState.step bgTypeId) (fun s => s.live.Nodup) .init ops

/-- What every reachable id set looks like: the ids are positive, and never 1 and 2 at once. -/
def Reachable (s : ClientIdState) : Prop :=
  (∀ id ∈ s.clientIds, 0 < id) ∧ ¬ (1 ∈ s.clientIds ∧ 2 ∈ s.clientIds)

theorem one_notMem (h : Reachable s) {x : ℕ} {l : List ℕ}
    (hs : s.clientIds.elems = x :: l) (hx : x ≠ 1) : 1 ∉ s.clientIds := by
  intro h1
  have hle := OrderedSet.head_le hs h1
  have hpos := h.1 x (OrderedSet.head_mem hs)
  omega

theorem reachable_create (h : Reachable s) :
    Reachable (s.step bgTypeId .create) := by
  cases hbg : isArenaType bgTypeId with
  | true => simpa [ClientIdState.step, createClientVisibleInstanceId_arena hbg, Reachable] using h
  | false =>
    simp only [Reachable, ClientIdState.step, createClientVisibleInstanceId_snd hbg,
      createClientVisibleInstanceId_eq hbg, OrderedSet.mem_insert]
    cases hs : s.clientIds.elems with
    | nil =>
      have hmem : ∀ id, id ∉ s.clientIds := by simp [OrderedSet.mem_def, hs]
      refine ⟨?_, by simp [hmem]⟩
      rintro id (rfl | hid)
      · exact Nat.one_pos
      · exact absurd hid (hmem id)
    | cons x l =>
      by_cases hx : x = 1
      · -- 1 is in use, so 2 is not, and it stays free: the search skips it
        have h1 : 1 ∈ s.clientIds := hx ▸ OrderedSet.head_mem hs
        have h2 : 2 ∉ s.clientIds := fun h2 => h.2 ⟨h1, h2⟩
        simp only [hx, if_true]
        refine ⟨?_, by simp [h2]⟩
        rintro id (rfl | hid)
        · omega
        · exact h.1 id hid
      · have h1 := one_notMem h hs hx
        simp only [hx, if_false]
        refine ⟨?_, by simp [h1]⟩
        rintro id (rfl | hid)
        · omega
        · exact h.1 id hid

theorem reachable_step (bgTypeId : BattlegroundTypeId) (s : ClientIdState) (op : ClientIdOp)
    (h : Reachable s) : Reachable (s.step bgTypeId op) := by
  cases op with
  | create => exact reachable_create h
  | delete place =>
    simp only [ClientIdState.step]
    split
    · exact h
    · split
      · exact h
      · exact ⟨fun id hid => h.1 id (OrderedSet.mem_of_mem_erase hid),
          fun h12 => h.2 ⟨OrderedSet.mem_of_mem_erase h12.1, OrderedSet.mem_of_mem_erase h12.2⟩⟩

theorem reachable_init : Reachable .init := by
  refine ⟨fun id hid => ?_, fun h => ?_⟩
  · exact absurd hid (List.not_mem_nil)
  · exact absurd h.1 (List.not_mem_nil)

theorem createsLeast_iff_findsNone (bgTypeId : BattlegroundTypeId) (s : ClientIdState)
    (op : ClientIdOp) (h : Reachable s) :
    CreatesLeast bgTypeId s op ↔ FindsNone bgTypeId s op := by
  refine forall_congr' fun _ => ?_
  constructor
  · intro hleast
    cases hbg : isArenaType bgTypeId with
    | true =>
      rw [createClientVisibleInstanceId_arena hbg] at hleast
      exact absurd hleast.1.1 (Nat.lt_irrefl 0)
    | false =>
      refine ⟨rfl, ?_⟩
      rw [createClientVisibleInstanceId_eq hbg] at hleast
      cases hs : s.clientIds.elems with
      | nil => rfl
      | cons x l =>
        rw [hs] at hleast
        simp only at hleast
        by_cases hx : x = 1
        · rw [if_pos hx] at hleast
          have h1 : 1 ∈ s.clientIds := hx ▸ OrderedSet.head_mem hs
          have hle : 3 ≤ 2 := hleast.2 ⟨Nat.two_pos, fun h2 => h.2 ⟨h1, h2⟩⟩
          omega
        · rw [if_neg hx] at hleast
          have hle : 2 ≤ 1 := hleast.2 ⟨Nat.one_pos, one_notMem h hs hx⟩
          omega
  · rintro ⟨hbg, hnil⟩
    rw [createClientVisibleInstanceId_eq hbg, hnil]
    exact ⟨⟨Nat.one_pos, by simp [OrderedSet.mem_def, hnil]⟩, fun n hn => hn.1⟩

/-- At most one battleground, and if there is one it has id 1. -/
def AtMostOne (s : ClientIdState) : Prop :=
  (s.clientIds.elems = [] ∧ s.live = []) ∨ (s.clientIds.elems = [1] ∧ s.live = [1])

theorem atMostOne_step (s : ClientIdState) (op : ClientIdOp)
    (h : AtMostOne s) (hC : FindsNone bgTypeId s op) : AtMostOne (s.step bgTypeId op) := by
  cases op with
  | create =>
    obtain ⟨hbg, hnil⟩ := hC rfl
    rcases h with ⟨-, hlive⟩ | ⟨h1, -⟩
    · refine Or.inr ⟨?_, ?_⟩
      · simp [ClientIdState.step, createClientVisibleInstanceId_snd hbg,
          createClientVisibleInstanceId_eq hbg, OrderedSet.insert, hnil, OrderedSet.insertElems]
      · simp [ClientIdState.step, createClientVisibleInstanceId_eq hbg, hnil, hlive]
    · rw [hnil] at h1
      exact absurd h1 (by simp)
  | delete place =>
    rcases h with ⟨hids, hlive⟩ | ⟨hids, hlive⟩
    · exact Or.inl (by simp [ClientIdState.step, hids, hlive])
    · cases place with
      | zero => exact Or.inl (by simp [ClientIdState.step, hids, hlive, OrderedSet.erase])
      | succ place => exact Or.inr (by simp [ClientIdState.step, hids, hlive])

theorem AtMostOne.nodup (h : AtMostOne s) : s.live.Nodup := by
  rcases h with ⟨-, hlive⟩ | ⟨-, hlive⟩
  · rw [hlive]; exact List.nodup_nil
  · rw [hlive]; exact List.nodup_singleton 1

/-- **The ids of a run are the lowest free ones, and unique, exactly when every battleground is
created while no other of its type and bracket has one.** -/
theorem clientIds_iff (bgTypeId : BattlegroundTypeId) (ops : List ClientIdOp) :
    ClientIdsCorrect bgTypeId ops ↔
      Steps (ClientIdState.step bgTypeId) (FindsNone bgTypeId) .init ops := by
  have hcongr := Steps.congr (reachable_step bgTypeId) (createsLeast_iff_findsNone bgTypeId)
    reachable_init ops
  constructor
  · rintro ⟨hleast, -⟩
    exact hcongr.mp hleast
  · intro hC
    have hinv := States.of_steps atMostOne_step (Or.inl ⟨rfl, rfl⟩) hC
    exact ⟨hcongr.mpr hC, hinv.imp fun _ => AtMostOne.nodup⟩

/-- Three Warsong Gulch battlegrounds in a row get the ids 1, 3 and 3: the second does not get
the lowest free id, and the last two share one. -/
theorem clientIds_collide :
    ¬ ClientIdsCorrect .BATTLEGROUND_WS [.create, .create, .create] := by
  rintro ⟨-, hstates⟩
  exact absurd hstates.exec (by decide)

end FunPvp.Battleground
