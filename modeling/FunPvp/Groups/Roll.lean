/-
# Rolls for loot

A group rolls for an item of a loot: every member who may have the item votes, and whoever has the
highest number among those who need it (or, if nobody does, among the greedy) wins. A `Roll` has
the votes in a map and, beside it, the numbers of votes of each kind and of the players rolling.

A vote is counted by `CountRollVote`, which decides the roll when the numbers say that everybody
has voted; a member who leaves is taken out of the map and out of the numbers; the timer and the
end of the group end all rolls.
-/
import FunPvp.Lib.Run
import FunPvp.Loot.Loot

namespace FunPvp.Groups

open FunPvp.Lib FunPvp.Looting

abbrev PlayerGuid := UInt64

inductive RollVote
  | PASS
  | NEED
  | GREED
  | DISENCHANT
  | NOT_EMITED_YET
  | NOT_VALID
deriving DecidableEq

open RollVote

def RollVote.isNeed (v : RollVote) : Bool := v = NEED

def RollVote.isGreedy (v : RollVote) : Bool := v = GREED || v = DISENCHANT

def ROLL_PASS : UInt8 := 0
def ROLL_NEED : UInt8 := 1
def ROLL_GREED : UInt8 := 2
def ROLL_DISENCHANT : UInt8 := 3
def MAX_ROLL_TYPE : UInt8 := 4

/-! ## 1. Votes -/

/-- `std::map<ObjectGuid, RollVote>`, in the order of the guids. -/
abbrev PlayerVote := List (PlayerGuid × RollVote)

namespace PlayerVote

/-- `find`. -/
def get (votes : PlayerVote) (guid : PlayerGuid) : Option RollVote :=
  (votes.find? fun entry => entry.1 == guid).map Prod.snd

def set (guid : PlayerGuid) (vote : RollVote) : PlayerVote → PlayerVote
  | [] => [(guid, vote)]
  | entry :: votes =>
    if entry.1 = guid then (guid, vote) :: votes
    else if guid < entry.1 then (guid, vote) :: entry :: votes
    else entry :: set guid vote votes

def erase (votes : PlayerVote) (guid : PlayerGuid) : PlayerVote :=
  votes.eraseP fun entry => entry.1 == guid

end PlayerVote

structure Roll where
  itemGUID : ℕ
  /-- `getLoot()`, as long as the loot exists. -/
  loot : Option ℕ
  itemSlot : UInt8
  playerVote : PlayerVote
  totalPlayersRolling : UInt8
  totalNeed : UInt8
  totalGreed : UInt8
  totalPass : UInt8
deriving DecidableEq

namespace Roll

/-- `isValid`: the loot has not been deleted. -/
def isValid (r : Roll) : Bool := r.loot.isSome

def new (itemGUID loot : ℕ) (itemSlot : UInt8) : Roll where
  itemGUID := itemGUID
  loot := some loot
  itemSlot := itemSlot
  playerVote := []
  totalPlayersRolling := 0
  totalNeed := 0
  totalGreed := 0
  totalPass := 0

/-- A member `GroupLoot` or `NeedBeforeGreed` finds near enough and allowed to have the item; who
passes on group loot has voted. -/
def addPlayer (r : Roll) (member : PlayerGuid × Bool) : Roll :=
  let r := { r with totalPlayersRolling := r.totalPlayersRolling + 1 }
  if member.2 then
    { r with playerVote := PlayerVote.set member.1 PASS r.playerVote, totalPass := r.totalPass + 1 }
  else { r with playerVote := PlayerVote.set member.1 NOT_EMITED_YET r.playerVote }

/-- The `switch` of `CountRollVote`. -/
def vote (r : Roll) (guid : PlayerGuid) (choice : UInt8) : Roll :=
  if choice = ROLL_PASS then
    { r with totalPass := r.totalPass + 1, playerVote := PlayerVote.set guid PASS r.playerVote }
  else if choice = ROLL_NEED then
    { r with totalNeed := r.totalNeed + 1, playerVote := PlayerVote.set guid NEED r.playerVote }
  else if choice = ROLL_GREED then
    { r with totalGreed := r.totalGreed + 1, playerVote := PlayerVote.set guid GREED r.playerVote }
  else if choice = ROLL_DISENCHANT then
    { r with
      totalGreed := r.totalGreed + 1
      playerVote := PlayerVote.set guid DISENCHANT r.playerVote }
  else r

def allIn (r : Roll) : Bool :=
  r.totalPass.toNat + r.totalNeed.toNat + r.totalGreed.toNat ≥ r.totalPlayersRolling.toNat

def removePlayer (r : Roll) (guid : PlayerGuid) : Roll :=
  match r.playerVote.get guid with
  | none => r
  | some vote =>
    let r := if vote = GREED || vote = DISENCHANT then { r with totalGreed := r.totalGreed - 1 }
      else if vote = NEED then { r with totalNeed := r.totalNeed - 1 }
      else if vote = PASS then { r with totalPass := r.totalPass - 1 }
      else r
    let r := if vote ≠ NOT_VALID then
      { r with totalPlayersRolling := r.totalPlayersRolling - 1 } else r
    { r with playerVote := r.playerVote.erase guid }

end Roll

/-! ## 2. The end of a roll -/

/-- What `urand(1, 100)` returns. -/
abbrev RandomNumber := { n : UInt8 // 1 ≤ n ∧ n ≤ 100 }

/-- What a decision depends on: the number each player draws, who is connected and has a session,
and whose bags have room for the item. -/
structure RollEnv where
  number : PlayerGuid → RandomNumber
  connected : PlayerGuid → Bool
  canStore : PlayerGuid → Bool

/-- The loop over the votes: the highest number so far, who has it, and how he has voted. -/
def highest (env : RollEnv) (counts : RollVote → Bool) (votes : PlayerVote)
    (start : UInt8 × PlayerGuid × RollVote) : UInt8 × PlayerGuid × RollVote :=
  votes.foldl (fun best entry =>
    if !counts entry.2 then best
    else
      let randomN := (env.number entry.1).val
      if best.1 < randomN then (randomN, entry.1, entry.2) else best) start

/-- The loots the rolls are about and the open rolls; who has been given an item; and, as they were
then, the rolls that `CountRollVote` has decided. -/
structure RollState where
  loots : ℕ → Loot
  rollId : List Roll
  nextItemGuid : ℕ
  awards : List PlayerGuid
  decidedByVote : List Roll

namespace RollState

def setLoot (s : RollState) (loot : ℕ) (l : Loot) : RollState :=
  { s with loots := Function.update s.loots loot l }

def award (s : RollState) (loot : ℕ) (itemSlot : UInt8) (guid : PlayerGuid) : RollState :=
  { s.setLoot loot (((s.loots loot).modifyItemAt itemSlot.toNat fun item =>
      { item with isLooted := true }).countDown) with
    awards := guid :: s.awards }

def unblock (s : RollState) (loot : ℕ) (itemSlot : UInt8) : RollState :=
  s.setLoot loot ((s.loots loot).modifyItemAt itemSlot.toNat fun item =>
    { item with isBlocked := false })

/-- The winner stores the item, or his bags are full. -/
def storeWon (s : RollState) (env : RollEnv) (loot : ℕ) (itemSlot : UInt8) (guid : PlayerGuid) :
    RollState :=
  if env.canStore guid then s.award loot itemSlot guid else s.unblock loot itemSlot

/-- `CountTheRoll`, on a roll whose loot exists, but for the roll itself. -/
def settle (s : RollState) (env : RollEnv) (roll : Roll) (loot : ℕ) : RollState :=
  if roll.totalNeed > 0 then
    match roll.playerVote with
    | [] => s
    | first :: _ =>
      let (_, maxguid, _) := highest env RollVote.isNeed roll.playerVote
        (0, first.1, NOT_VALID)
      if env.connected maxguid then s.storeWon env loot roll.itemSlot maxguid else s
  else if roll.totalGreed > 0 then
    match roll.playerVote with
    | [] => s
    | first :: _ =>
      let (_, maxguid, rollvote) :=
        highest env RollVote.isGreedy roll.playerVote
          (0, first.1, NOT_VALID)
      if env.connected maxguid then
        if rollvote = GREED then s.storeWon env loot roll.itemSlot maxguid
        else if rollvote = DISENCHANT then s.award loot roll.itemSlot maxguid
        else s
      else s
  else s.unblock loot roll.itemSlot

def countTheRoll (s : RollState) (env : RollEnv) (i : ℕ) : RollState :=
  match s.rollId[i]? with
  | none => s
  | some roll =>
    match roll.loot with
    | none => { s with rollId := s.rollId.eraseIdx i }
    | some loot => { s.settle env roll loot with rollId := s.rollId.eraseIdx i }

def getRoll (s : RollState) (itemGUID : ℕ) : Option ℕ :=
  s.rollId.findIdx? fun roll => roll.itemGUID == itemGUID && roll.isValid

/-- The roll a vote is counted in, and its position; `none` if there is no such roll, the player
is not rolling, or the loot has no items. -/
def votesIn (s : RollState) (guid : PlayerGuid) (itemGUID : ℕ) : Option (ℕ × Roll) :=
  match s.getRoll itemGUID with
  | none => none
  | some i =>
    match s.rollId[i]? with
    | none => none
    | some roll =>
      if (roll.playerVote.get guid).isNone then none
      else if roll.loot.any fun loot => (s.loots loot).items.isEmpty then none
      else some (i, roll)

def countRollVote (s : RollState) (env : RollEnv) (guid : PlayerGuid) (itemGUID : ℕ)
    (choice : UInt8) : RollState :=
  match s.votesIn guid itemGUID with
  | none => s
  | some (i, roll) =>
    let s := { s with rollId := s.rollId.set i (roll.vote guid choice) }
    if (roll.vote guid choice).allIn then
      { s.countTheRoll env i with decidedByVote := roll.vote guid choice :: s.decidedByVote }
    else s

/-- What `RemoveMember` does with a roll. -/
def removeVoteAt (env : RollEnv) (guid : PlayerGuid) (s : RollState) (i : ℕ) : RollState :=
  match s.rollId[i]? with
  | none => s
  | some roll =>
    if (roll.playerVote.get guid).isNone then s
    else
      { s with rollId := s.rollId.set i (roll.removePlayer guid) }.countRollVote env guid
        roll.itemGUID MAX_ROLL_TYPE

def removeVotes (s : RollState) (env : RollEnv) (guid : PlayerGuid) : RollState :=
  (List.range s.rollId.length).foldl (removeVoteAt env guid) s

/-- `EndRoll`: all rolls for a loot are counted, whatever has been voted. -/
def endRoll (s : RollState) (env : RollEnv) (loot : ℕ) : ℕ → RollState
  | 0 => s
  | fuel + 1 =>
    match s.rollId.findIdx? fun roll => roll.loot == some loot with
    | none => s
    | some i => (s.countTheRoll env i).endRoll env loot fuel

/-- `GroupLoot` or `NeedBeforeGreed`, for one item: a roll of those who are near enough and may
have it, unless there are none. -/
def startRoll (s : RollState) (loot : ℕ) (itemSlot : UInt8) (members : List (PlayerGuid × Bool)) :
    RollState :=
  let s' := { s with nextItemGuid := s.nextItemGuid + 1 }
  let roll := members.foldl Roll.addPlayer (Roll.new s.nextItemGuid loot itemSlot)
  if roll.totalPlayersRolling > 0 then
    { s'.setLoot loot ((s.loots loot).modifyItemAt itemSlot.toNat fun item =>
        { item with isBlocked := true }) with
      rollId := s.rollId ++ [roll] }
  else s'

def deleteLoot (s : RollState) (loot : ℕ) : RollState :=
  { s with
    rollId := s.rollId.map fun roll =>
      if roll.loot = some loot then { roll with loot := none } else roll }

/-- `Disband`, as far as rolls are concerned. -/
def disband (s : RollState) : RollState := { s with rollId := [] }

end RollState

/-- What happens to the rolls of a group. -/
inductive RollEvent
  | start (loot : ℕ) (itemSlot : UInt8) (members : List (PlayerGuid × Bool))
  | vote (env : RollEnv) (guid : PlayerGuid) (itemGUID : ℕ) (choice : UInt8)
  | removeMember (env : RollEnv) (guid : PlayerGuid)
  | endRoll (env : RollEnv) (loot : ℕ)
  | deleteLoot (loot : ℕ)
  | loot (loot : ℕ) (change : Loot → Loot)
  | disband

def RollState.step (s : RollState) : RollEvent → RollState
  | .start loot itemSlot members => s.startRoll loot itemSlot members
  | .vote env guid itemGUID choice => s.countRollVote env guid itemGUID choice
  | .removeMember env guid => s.removeVotes env guid
  | .endRoll env loot => s.endRoll env loot s.rollId.length
  | .deleteLoot loot => s.deleteLoot loot
  | .loot loot change => s.setLoot loot (change (s.loots loot))
  | .disband => s.disband

end FunPvp.Groups
