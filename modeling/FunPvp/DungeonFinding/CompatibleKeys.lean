/-
# The keys of the compatibility cache

`LFGQueue.lean` has the cache under sets of guids. The source keeps it in a
`std::map<std::string, LfgCompatibilityData>`: a key is the numbers of its guids in ascending order
with `|` between them, and whether a guid is in a key is looked up by searching its number in that
string. Every guid of `QueueDataStore` keeps the best key it has been in.

Here a key stays a set of guids, and everything the source does with the string it does with
`keyText`; two sets never have the same text (`keyText_inj`). The matching is that of
`LFGQueue.lean` (`findGroups_mgr`): nothing of what is added here is asked for by it.
-/
import FunPvp.DungeonFinding.FindGroups
import FunPvp.Lib.Joined

namespace FunPvp.DungeonFinding

open FunPvp.Groups (ObjectGuid MAXGROUPSIZE)
open FunPvp.Lib
open LfgCompatibility
open LFGMgr (concatenateGuids writtenIn)

/-! ## 1. The strings -/

/-- In ascending order, as a `std::set` keeps them. -/
def ascending (numbers : Multiset ℕ) : List ℕ :=
  Quot.liftOn numbers (List.insertionSort (· ≤ ·)) fun l l' h =>
    List.Perm.eq_of_pairwise' (List.pairwise_insertionSort _ l) (List.pairwise_insertionSort _ l')
      ((List.perm_insertionSort _ l).trans (h.trans (List.perm_insertionSort _ l').symm))

theorem coe_ascending (numbers : Multiset ℕ) : (ascending numbers : Multiset ℕ) = numbers :=
  Quot.inductionOn numbers fun l => Quot.sound (List.perm_insertionSort _ l)

def keyNumbers (key : Finset ObjectGuid) : List ℕ := ascending (key.val.map UInt64.toNat)

/-- The string `ConcatenateGuids` makes. -/
def keyText (key : Finset ObjectGuid) : List Char :=
  ['|'].intercalate ((keyNumbers key).map (Nat.toDigits 10))

/-- `find(sguid)` on the string of the key. -/
def written (guid : ObjectGuid) (key : Finset ObjectGuid) : Bool :=
  Nat.toDigits 10 guid.toNat <:+: keyText key

/-- The number of the `|` of the string, and one. -/
def keySize (key : Finset ObjectGuid) : UInt8 := UInt8.ofNat ((keyText key).count '|' + 1)

theorem bar_not_mem_toDigits (n : ℕ) : '|' ∉ Nat.toDigits 10 n := by
  intro h
  have := Nat.isDigit_of_mem_toDigits (by decide) (by decide) h
  revert this
  decide

theorem toDigits_injective : Function.Injective (Nat.toDigits 10) := by
  intro n m h
  rw [← @Nat.ofDigitChars_ten_toDigits n, h, Nat.ofDigitChars_ten_toDigits]

theorem bar_not_mem_parts (numbers : List ℕ) : ∀ w ∈ numbers.map (Nat.toDigits 10), '|' ∉ w := by
  intro w hw
  obtain ⟨n, -, rfl⟩ := List.mem_map.mp hw
  exact bar_not_mem_toDigits n

variable {key : Finset ObjectGuid}

@[simp] theorem mem_keyNumbers {n : ℕ} :
    n ∈ keyNumbers key ↔ ∃ guid ∈ key, guid.toNat = n := by
  rw [← Multiset.mem_coe, keyNumbers, coe_ascending, Multiset.mem_map]
  rfl

@[simp] theorem length_keyNumbers (key : Finset ObjectGuid) :
    (keyNumbers key).length = key.card := by
  rw [← Multiset.coe_card, keyNumbers, coe_ascending, Multiset.card_map]
  rfl

theorem keyNumbers_injective : Function.Injective keyNumbers := by
  intro key key' h
  have hmap := congrArg (fun l : List ℕ => (l : Multiset ℕ)) h
  simp only [keyNumbers, coe_ascending] at hmap
  exact Finset.val_injective (Multiset.map_injective (fun _ _ => UInt64.toNat_inj.mp) hmap)

theorem keyNumbers_ne_nil (h : key.Nonempty) : keyNumbers key ≠ [] := by
  rw [Ne, ← List.length_eq_zero_iff, length_keyNumbers]
  exact h.card_ne_zero

theorem written_iff {guid : ObjectGuid} :
    written guid key = true ↔ ∃ other ∈ key, writtenIn guid other := by
  have hne : Nat.toDigits 10 guid.toNat ≠ [] := Nat.toDigits_ne_nil
  rw [written, decide_eq_true_iff, keyText,
    infix_intercalate hne (bar_not_mem_toDigits guid.toNat)]
  simp [writtenIn]

theorem written_of_mem {guid : ObjectGuid} (h : guid ∈ key) :
    written guid key = true :=
  written_iff.mpr ⟨guid, h, by simp [writtenIn]⟩

theorem keySize_eq (h : key.Nonempty) :
    keySize key = UInt8.ofNat key.card := by
  have hne : (keyNumbers key).map (Nat.toDigits 10) ≠ [] :=
    fun hnil => keyNumbers_ne_nil h (List.map_eq_nil_iff.mp hnil)
  rw [keySize, keyText, count_intercalate hne (bar_not_mem_parts _), List.length_map,
    length_keyNumbers]

/-- **Different sets have different strings.** -/
theorem keyText_inj {key key' : Finset ObjectGuid} (h : key.Nonempty) (h' : key'.Nonempty)
    (heq : keyText key = keyText key') : key = key' := by
  have hne : (keyNumbers key).map (Nat.toDigits 10) ≠ [] :=
    fun hnil => keyNumbers_ne_nil h (List.map_eq_nil_iff.mp hnil)
  have hne' : (keyNumbers key').map (Nat.toDigits 10) ≠ [] :=
    fun hnil => keyNumbers_ne_nil h' (List.map_eq_nil_iff.mp hnil)
  have hparts := intercalate_inj hne hne' (bar_not_mem_parts _) (bar_not_mem_parts _) heq
  exact keyNumbers_injective (List.map_injective_iff.mpr toDigits_injective hparts)

theorem keyText_inj_pair : ({3, 11} : Finset ObjectGuid) = {11, 3} :=
  keyText_inj (by decide) (by decide) (by decide)

/-- In these strings `1` is found twice. -/
example : keyText {3, 11} = "3|11".toList ∧ written 1 {3, 11} ∧ written 11 {3, 11} := by
  decide

/-! ## 2. What the queue keeps besides -/

/-- What the queue data of a guid say about the best combination found for it; `∅` stands for the
empty string. -/
structure LfgBest where
  bestCompatible : Finset ObjectGuid
  tanks : UInt8
  healers : UInt8
  dps : UInt8
deriving DecidableEq

namespace LfgBest

/-- What the constructors of `LfgQueueData` put there. -/
def start : LfgBest where
  bestCompatible := ∅
  tanks := UInt8.ofNat LFG_TANKS_NEEDED
  healers := UInt8.ofNat LFG_HEALERS_NEEDED
  dps := UInt8.ofNat LFG_DPS_NEEDED

def storedSize (b : LfgBest) : UInt8 :=
  if b.bestCompatible = ∅ then 0 else keySize b.bestCompatible

/-- One round of the loop of `UpdateBestCompatibleInQueue`. -/
def take (b : LfgBest) (role : UInt8) : LfgBest :=
  if role &&& PLAYER_ROLE_TANK ≠ 0 then { b with tanks := b.tanks - 1 }
  else if role &&& PLAYER_ROLE_HEALER ≠ 0 then { b with healers := b.healers - 1 }
  else { b with dps := b.dps - 1 }

def updateBestCompatible (b : LfgBest) (key : Finset ObjectGuid) (roles : LfgRolesMap) : LfgBest :=
  if keySize key ≤ b.storedSize then b
  else roles.foldl (fun b entry => b.take entry.2) { start with bestCompatible := key }

end LfgBest

/-- The queue, with the cache as the source keeps it. -/
structure LFGQueue where
  mgr : LFGMgr
  /-- The keys of `CompatibleMapStore`, in the order of their strings. -/
  compatibleKeys : List (Finset ObjectGuid)
  /-- The roles of an entry, none where there is no entry. -/
  compatibleRoles : Finset ObjectGuid → LfgRolesMap
  best : ObjectGuid → LfgBest

def LFGQueue.start : LFGQueue where
  mgr := LFGMgr.start
  compatibleKeys := []
  compatibleRoles := fun _ => []
  best := fun _ => LfgBest.start

/-- `CompatibleMapStore[key]` makes an entry where there is none. -/
def insertKey (key : Finset ObjectGuid) (keys : List (Finset ObjectGuid)) :
    List (Finset ObjectGuid) :=
  if key ∈ keys then keys else keys.orderedInsert (fun a b => keyText a < keyText b) key

@[simp] theorem mem_insertKey {key other : Finset ObjectGuid} {keys : List (Finset ObjectGuid)} :
    other ∈ insertKey key keys ↔ other = key ∨ other ∈ keys := by
  rw [insertKey]
  split
  · next h => exact ⟨Or.inr, fun hor => hor.elim (fun heq => heq ▸ h) id⟩
  · exact List.mem_orderedInsert _

namespace LFGQueue

def setCompatibles (s : LFGQueue) (key : Finset ObjectGuid) (compatibles : LfgCompatibility) :
    LFGQueue :=
  { s with
    mgr := s.mgr.setCompatibles key compatibles
    compatibleKeys := insertKey key s.compatibleKeys }

def setCompatibilityData (s : LFGQueue) (key : Finset ObjectGuid) (compatibles : LfgCompatibility)
    (roles : LfgRolesMap) : LFGQueue :=
  { s.setCompatibles key compatibles with
    compatibleRoles := Function.update s.compatibleRoles key roles }

def removeFromCompatibles (s : LFGQueue) (guid : ObjectGuid) : LFGQueue :=
  { s with
    mgr := s.mgr.removeFromCompatibles guid
    compatibleKeys := s.compatibleKeys.filter fun key => !written guid key
    compatibleRoles := fun key => if written guid key then [] else s.compatibleRoles key }

def updateBestCompatibleInQueue (s : LFGQueue) (guid : ObjectGuid) (key : Finset ObjectGuid)
    (roles : LfgRolesMap) : LFGQueue :=
  { s with best := Function.update s.best guid ((s.best guid).updateBestCompatible key roles) }

/-- The keys `FindBestCompatibleInQueue` goes over for a guid. -/
def candidates (s : LFGQueue) (guid : ObjectGuid) : List (Finset ObjectGuid) :=
  s.compatibleKeys.filter fun key =>
    s.mgr.getCompatibles key = LFG_COMPATIBLES_WITH_LESS_PLAYERS && written guid key

def findBestCompatibleInQueue (s : LFGQueue) (guid : ObjectGuid) (b : LfgBest) : LfgBest :=
  (s.candidates guid).foldl (fun b key => b.updateBestCompatible key (s.compatibleRoles key)) b

/-- `RemoveFromQueue`. The loop over `QueueDataStore` changes each entry by itself. -/
def removeFromQueue (s : LFGQueue) (guid : ObjectGuid) : LFGQueue :=
  let s := removeFromCompatibles
    { s with mgr := (s.mgr.removeFromNewQueue guid).removeFromCurrentQueue guid } guid
  { s with
    mgr := { s.mgr with queueDataStore := Function.update s.mgr.queueDataStore guid none }
    best := fun other =>
      if other = guid then LfgBest.start
      else if (s.mgr.queueDataStore other).isSome && written guid (s.best other).bestCompatible then
        s.findBestCompatibleInQueue other { s.best other with bestCompatible := ∅ }
      else s.best other }

def addQueueData (s : LFGQueue) (guid : ObjectGuid) (data : LfgQueueData) : LFGQueue :=
  { s with
    mgr := s.mgr.addQueueData guid data
    best := Function.update s.best guid LfgBest.start }

/-- `UpdateQueueTimers`, less what it sends to the players. -/
def updateQueueTimers (s : LFGQueue) : LFGQueue :=
  { s with
    best := fun guid =>
      if (s.mgr.queueDataStore guid).isSome && (s.best guid).bestCompatible = ∅ then
        s.findBestCompatibleInQueue guid (s.best guid)
      else s.best guid }

/-- `GetJoinTime`, whose `QueueDataStore[guid]` makes an entry where there is none. -/
def getJoinTime (s : LFGQueue) (guid : ObjectGuid) : LFGQueue :=
  if (s.mgr.queueDataStore guid).isSome then s
  else
    { s with
      mgr :=
        { s.mgr with queueDataStore := Function.update s.mgr.queueDataStore guid (some default) }
      best := Function.update s.best guid LfgBest.start }

/-! ## 3. The matching -/

def finishCheck (s : LFGQueue) (check : GuidList) (numPlayers numLfgGroups : ℕ)
    (group : ObjectGuid) (proposalRoles : LfgRolesMap) : LfgCompatibility × LFGQueue :=
  let strGuids := concatenateGuids check
  if numPlayers ≠ MAXGROUPSIZE then
    let s := check.foldl
      (fun s guid => s.updateBestCompatibleInQueue guid strGuids proposalRoles) s
    (LFG_COMPATIBLES_WITH_LESS_PLAYERS,
      s.setCompatibilityData strGuids LFG_COMPATIBLES_WITH_LESS_PLAYERS proposalRoles)
  else if !s.mgr.allQueued check then
    (LFG_COMPATIBLES_BAD_STATES, s.setCompatibles strGuids LFG_COMPATIBLES_BAD_STATES)
  else
    let proposal := s.mgr.makeProposal check numLfgGroups group proposalRoles
    let s := { s with mgr := (s.mgr.markNotQueued check).addProposal proposal }
    (LFG_COMPATIBLES_MATCH, s.setCompatibles strGuids LFG_COMPATIBLES_MATCH)

def checkSeveral (s : LFGQueue) (check : GuidList) (numPlayers numLfgGroups : ℕ)
    (group : ObjectGuid) : LfgCompatibility × LFGQueue :=
  let strGuids := concatenateGuids check
  let proposalRoles := s.mgr.collectRoles check
  let (rolesFit, assigned) := checkGroupRoles proposalRoles
  if numPlayers ≠ proposalRoles.length then
    (LFG_INCOMPATIBLES_HAS_IGNORES, s.setCompatibles strGuids LFG_INCOMPATIBLES_HAS_IGNORES)
  else if !rolesFit then
    (LFG_INCOMPATIBLES_NO_ROLES, s.setCompatibles strGuids LFG_INCOMPATIBLES_NO_ROLES)
  else if s.mgr.commonDungeons check = [] then
    (LFG_INCOMPATIBLES_NO_DUNGEONS, s.setCompatibles strGuids LFG_INCOMPATIBLES_NO_DUNGEONS)
  else s.finishCheck check numPlayers numLfgGroups group assigned

def checkPlayers (s : LFGQueue) (check : GuidList) : LfgCompatibility × LFGQueue :=
  let strGuids := concatenateGuids check
  match s.mgr.countPlayers check 0 0 0 with
  | .missing guid => (LFG_COMPATIBILITY_PENDING, s.removeFromQueue guid)
  | .counted numPlayers numLfgGroups group =>
    if check.length = 1 ∧ numPlayers ≠ MAXGROUPSIZE then
      let guid := check.headD 0
      let (_, assigned) := checkGroupRoles (s.mgr.queueData guid).roles
      let s := s.updateBestCompatibleInQueue guid strGuids assigned
      (LFG_COMPATIBLES_WITH_LESS_PLAYERS,
        s.setCompatibilityData strGuids LFG_COMPATIBLES_WITH_LESS_PLAYERS assigned)
    else if 1 < numLfgGroups then
      (LFG_INCOMPATIBLES_MULTIPLE_LFG_GROUPS,
        s.setCompatibles strGuids LFG_INCOMPATIBLES_MULTIPLE_LFG_GROUPS)
    else if MAXGROUPSIZE < numPlayers then
      (LFG_INCOMPATIBLES_TOO_MUCH_PLAYERS,
        s.setCompatibles strGuids LFG_INCOMPATIBLES_TOO_MUCH_PLAYERS)
    else if 1 < check.length then s.checkSeveral check numPlayers numLfgGroups group
    else
      let (_, assigned) := checkGroupRoles (s.mgr.queueData (check.headD 0)).roles
      s.finishCheck check numPlayers numLfgGroups group assigned

def checkCompatibility (s : LFGQueue) : GuidList → LfgCompatibility × LFGQueue
  | [] => (LFG_INCOMPATIBLES_WRONG_GROUP_SIZE, s)
  | frontGuid :: check =>
    if MAXGROUPSIZE < check.length + 1 then (LFG_INCOMPATIBLES_WRONG_GROUP_SIZE, s)
    else if 2 < check.length + 1 then
      let (child, s) := s.checkCompatibility check
      if child < LFG_COMPATIBLES_WITH_LESS_PLAYERS then
        (child, s.setCompatibles (concatenateGuids (frontGuid :: check)) child)
      else s.checkPlayers (frontGuid :: check)
    else s.checkPlayers (frontGuid :: check)

/-- `FindNewGroups` up to its loop. -/
def lookUp (s : LFGQueue) (check : GuidList) : LfgCompatibility × LFGQueue :=
  let strGuids := concatenateGuids check
  let cached := s.mgr.getCompatibles strGuids
  let (compatibles, s) :=
    if cached = LFG_COMPATIBILITY_PENDING then s.checkCompatibility check else (cached, s)
  if compatibles = LFG_COMPATIBLES_BAD_STATES ∧ s.mgr.allQueued check then
    (LFG_COMPATIBLES_MATCH, s.setCompatibles strGuids LFG_COMPATIBLES_MATCH)
  else (compatibles, s)

/-- The loop of `FindNewGroups`; see `LFGMgr.matchQueued`. -/
def matchQueued : ℕ → LFGQueue → GuidList → GuidList → LfgCompatibility × LFGQueue × GuidList
  | 0, s, _, all => (LFG_COMPATIBLES_WITH_LESS_PLAYERS, s, all)
  | _ + 1, s, _, [] => (LFG_COMPATIBLES_WITH_LESS_PLAYERS, s, [])
  | fuel + 1, s, check, guid :: all =>
    let called := s.lookUp (check ++ [guid])
    let (subcompatibility, s, all) :=
      if called.1 = LFG_COMPATIBLES_WITH_LESS_PLAYERS then
        matchQueued fuel called.2 (check ++ [guid]) all
      else (called.1, called.2, all)
    if subcompatibility = LFG_COMPATIBLES_MATCH then (LFG_COMPATIBLES_MATCH, s, all)
    else matchQueued fuel s check all

def findNewGroups (s : LFGQueue) (check all : GuidList) :
    LfgCompatibility × LFGQueue × GuidList :=
  let called := s.lookUp check
  if called.1 = LFG_COMPATIBLES_WITH_LESS_PLAYERS then matchQueued all.length called.2 check all
  else (called.1, called.2, all)

/-- One round of `FindGroups`, for the first of the new guids: the answer and the state. -/
def findGroupsRound (s : LFGQueue) (frontguid : ObjectGuid) : LfgCompatibility × LFGQueue :=
  let s := { s with mgr := s.mgr.removeFromNewQueue frontguid }
  let (compatibles, s, _) := s.findNewGroups [frontguid] s.mgr.currentQueueStore
  if compatibles = LFG_COMPATIBLES_MATCH then (compatibles, s)
  else (compatibles, { s with mgr := s.mgr.addToCurrentQueue frontguid })

def findGroupsLoop : ℕ → LFGQueue → UInt8 → UInt8 × LFGQueue
  | 0, s, proposals => (proposals, s)
  | fuel + 1, s, proposals =>
    match s.mgr.newToQueueStore with
    | [] => (proposals, s)
    | frontguid :: _ =>
      let (compatibles, s) := s.findGroupsRound frontguid
      findGroupsLoop fuel s
        (if compatibles = LFG_COMPATIBLES_MATCH then proposals + 1 else proposals)

def findGroups (s : LFGQueue) : UInt8 × LFGQueue :=
  findGroupsLoop s.mgr.newToQueueStore.length s 0

/-! ## 4. It is the matching of `LFGMgr` -/

section Matching

variable {s : LFGQueue} {check all : GuidList}

/-- The answer of a check, and what `LFGMgr` sees of the state. -/
def seen (r : LfgCompatibility × LFGQueue) : LfgCompatibility × LFGMgr := (r.1, r.2.mgr)

theorem foldl_update_eq (key : Finset ObjectGuid) (roles : LfgRolesMap) (check : GuidList)
    (s : LFGQueue) :
    ∃ best, check.foldl (fun s guid => s.updateBestCompatibleInQueue guid key roles) s =
      { s with best } := by
  induction check generalizing s with
  | nil => exact ⟨s.best, rfl⟩
  | cons guid check ih =>
    rw [List.foldl_cons]
    obtain ⟨best, heq⟩ := ih (s.updateBestCompatibleInQueue guid key roles)
    exact ⟨best, heq⟩

theorem finishCheck_mgr (numPlayers numLfgGroups : ℕ) (group : ObjectGuid)
    (proposalRoles : LfgRolesMap) :
    seen (s.finishCheck check numPlayers numLfgGroups group proposalRoles) =
      s.mgr.finishCheck check numPlayers numLfgGroups group proposalRoles := by
  obtain ⟨best, hbest⟩ := foldl_update_eq (concatenateGuids check) proposalRoles check s
  rw [finishCheck, LFGMgr.finishCheck]
  simp only [hbest]
  split
  · rfl
  · split <;> rfl

theorem checkSeveral_mgr (numPlayers numLfgGroups : ℕ) (group : ObjectGuid) :
    seen (s.checkSeveral check numPlayers numLfgGroups group) =
      s.mgr.checkSeveral check numPlayers numLfgGroups group := by
  rw [checkSeveral, LFGMgr.checkSeveral]
  dsimp only
  split
  · rfl
  · split
    · rfl
    · split
      · rfl
      · exact finishCheck_mgr _ _ _ _

theorem checkPlayers_mgr : seen (s.checkPlayers check) = s.mgr.checkPlayers check := by
  rw [checkPlayers, LFGMgr.checkPlayers]
  cases s.mgr.countPlayers check 0 0 0 with
  | missing guid => rfl
  | counted numPlayers numLfgGroups group =>
    dsimp only
    split
    · rfl
    · split
      · rfl
      · split
        · rfl
        · split
          · exact checkSeveral_mgr _ _ _
          · exact finishCheck_mgr _ _ _ _

theorem checkCompatibility_mgr :
    seen (s.checkCompatibility check) = s.mgr.checkCompatibility check := by
  induction check generalizing s with
  | nil => rfl
  | cons frontGuid check ih =>
    rw [checkCompatibility, LFGMgr.checkCompatibility]
    split
    · rfl
    · split
      · dsimp only
        rw [← ih]
        split
        · next h => exact (if_pos h).symm
        · next h => exact checkPlayers_mgr.trans (if_neg h).symm
      · exact checkPlayers_mgr

theorem lookUp_mgr : seen (s.lookUp check) = s.mgr.lookUp check := by
  have hfound : seen (if s.mgr.getCompatibles (concatenateGuids check) = LFG_COMPATIBILITY_PENDING
      then s.checkCompatibility check else (s.mgr.getCompatibles (concatenateGuids check), s)) =
      if s.mgr.getCompatibles (concatenateGuids check) = LFG_COMPATIBILITY_PENDING
      then s.mgr.checkCompatibility check
      else (s.mgr.getCompatibles (concatenateGuids check), s.mgr) := by
    split
    · exact checkCompatibility_mgr
    · rfl
  rw [lookUp, LFGMgr.lookUp]
  dsimp only
  rw [← hfound]
  generalize (if s.mgr.getCompatibles (concatenateGuids check) = LFG_COMPATIBILITY_PENDING then
    s.checkCompatibility check else (s.mgr.getCompatibles (concatenateGuids check), s)) = r
  split
  · next h => exact (if_pos h).symm
  · next h => exact (if_neg h).symm

def seenSearch (r : LfgCompatibility × LFGQueue × GuidList) :
    LfgCompatibility × LFGMgr × GuidList := (r.1, r.2.1.mgr, r.2.2)

theorem matchQueued_mgr (fuel : ℕ) (s : LFGQueue) (check all : GuidList) :
    seenSearch (matchQueued fuel s check all) = LFGMgr.matchQueued fuel s.mgr check all := by
  induction fuel generalizing s check all with
  | zero => rfl
  | succ fuel ih =>
    cases all with
    | nil => rfl
    | cons guid all =>
      have hcalled : seenSearch (if (s.lookUp (check ++ [guid])).1 =
            LFG_COMPATIBLES_WITH_LESS_PLAYERS then
            matchQueued fuel (s.lookUp (check ++ [guid])).2 (check ++ [guid]) all
          else ((s.lookUp (check ++ [guid])).1, (s.lookUp (check ++ [guid])).2, all)) =
          if (s.mgr.lookUp (check ++ [guid])).1 = LFG_COMPATIBLES_WITH_LESS_PLAYERS then
            LFGMgr.matchQueued fuel (s.mgr.lookUp (check ++ [guid])).2 (check ++ [guid]) all
          else ((s.mgr.lookUp (check ++ [guid])).1, (s.mgr.lookUp (check ++ [guid])).2, all) := by
        rw [← lookUp_mgr]
        change seenSearch _ = if (s.lookUp (check ++ [guid])).1 = _ then _ else _
        split
        · exact ih _ _ _
        · rfl
      rw [matchQueued, LFGMgr.matchQueued]
      dsimp only
      rw [← hcalled]
      generalize (if (s.lookUp (check ++ [guid])).1 = LFG_COMPATIBLES_WITH_LESS_PLAYERS then
          matchQueued fuel (s.lookUp (check ++ [guid])).2 (check ++ [guid]) all
        else ((s.lookUp (check ++ [guid])).1, (s.lookUp (check ++ [guid])).2, all)) = r
      split
      · next h => exact (if_pos h).symm
      · next h => exact (ih _ _ _).trans (if_neg h).symm

theorem findNewGroups_mgr :
    seenSearch (s.findNewGroups check all) = s.mgr.findNewGroups check all := by
  rw [findNewGroups, LFGMgr.findNewGroups, ← lookUp_mgr]
  change seenSearch _ = if (s.lookUp check).1 = _ then _ else _
  split
  · exact matchQueued_mgr _ _ _ _
  · rfl

theorem findGroupsRound_mgr (frontguid : ObjectGuid) :
    (s.findGroupsRound frontguid).1 = (s.mgr.roundSearch frontguid).1 ∧
      (s.findGroupsRound frontguid).2.mgr = s.mgr.afterRound frontguid := by
  have hsearch : seenSearch (findNewGroups { s with mgr := s.mgr.removeFromNewQueue frontguid }
      [frontguid] s.mgr.currentQueueStore) = s.mgr.roundSearch frontguid := findNewGroups_mgr
  rw [findGroupsRound, LFGMgr.afterRound, ← hsearch]
  dsimp only [seenSearch]
  split
  · next h => exact ⟨rfl, (if_pos h).symm⟩
  · next h => exact ⟨rfl, (if_neg h).symm⟩

theorem findGroupsLoop_mgr (fuel : ℕ) (s : LFGQueue) (proposals : UInt8) :
    ((findGroupsLoop fuel s proposals).1, (findGroupsLoop fuel s proposals).2.mgr) =
      LFGMgr.findGroupsLoop fuel s.mgr proposals := by
  induction fuel generalizing s proposals with
  | zero => rfl
  | succ fuel ih =>
    cases hnew : s.mgr.newToQueueStore with
    | nil =>
      rw [findGroupsLoop, LFGMgr.findGroupsLoop, hnew]
    | cons frontguid rest =>
      obtain ⟨hanswer, hstate⟩ := @findGroupsRound_mgr s frontguid
      rw [LFGMgr.findGroupsLoop_succ hnew, findGroupsLoop, hnew]
      dsimp only
      rw [ih, hstate, hanswer]

/-- **`FindGroups` makes the proposals it makes there**, and takes the same guids off the queue:
nothing it does depends on the roles of the cache or on the best keys. -/
theorem findGroups_mgr :
    ((s.findGroups).1, (s.findGroups).2.mgr) = s.mgr.findGroups :=
  findGroupsLoop_mgr _ _ _

end Matching

end LFGQueue

end FunPvp.DungeonFinding
