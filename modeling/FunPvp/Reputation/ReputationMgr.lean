/-
# A character's reputation

For every faction of the reputation list a character has a state with a standing, on top of what the
faction grants his race and class, and flags. The manager counts how many factions are visible,
honored, revered and exalted, in counters of eight bits.

`SetReputation` spills over to other factions. `AssertEntry` ends the process where a template
names a faction that does not exist, and the result is then nothing. Standings are integers: the
code's own, as long as nothing overflows. Spillover is computed in `float`, of which nothing is
assumed (`SpilloverNumber`). Packets, achievements and quests are left out.
-/
import FunPvp.Lib.Counters

namespace FunPvp.Reputation

/-! ## 1. Ranks -/

inductive ReputationRank
  | REP_HATED
  | REP_HOSTILE
  | REP_UNFRIENDLY
  | REP_NEUTRAL
  | REP_FRIENDLY
  | REP_HONORED
  | REP_REVERED
  | REP_EXALTED
  deriving DecidableEq

namespace ReputationRank

def toNat : ReputationRank → ℕ
  | REP_HATED => 0
  | REP_HOSTILE => 1
  | REP_UNFRIENDLY => 2
  | REP_NEUTRAL => 3
  | REP_FRIENDLY => 4
  | REP_HONORED => 5
  | REP_REVERED => 6
  | REP_EXALTED => 7

instance : LE ReputationRank := ⟨fun a b => a.toNat ≤ b.toNat⟩

instance (a b : ReputationRank) : Decidable (a ≤ b) :=
  inferInstanceAs (Decidable (a.toNat ≤ b.toNat))

def pointsInRank : ReputationRank → ℤ
  | REP_HATED => 36000
  | REP_HOSTILE => 3000
  | REP_UNFRIENDLY => 3000
  | REP_NEUTRAL => 3000
  | REP_FRIENDLY => 6000
  | REP_HONORED => 12000
  | REP_REVERED => 21000
  | REP_EXALTED => 1000

def fromTop : List ReputationRank :=
  [REP_EXALTED, REP_REVERED, REP_HONORED, REP_FRIENDLY, REP_NEUTRAL, REP_UNFRIENDLY, REP_HOSTILE,
    REP_HATED]

end ReputationRank

open Lib ReputationRank

def Reputation_Cap : ℤ := 42999
def Reputation_Bottom : ℤ := -42000

def rankFrom (standing : ℤ) : ℤ → List ReputationRank → ReputationRank
  | _, [] => REP_HATED
  | limit, rank :: rest =>
    if standing ≥ limit - rank.pointsInRank then rank
    else rankFrom standing (limit - rank.pointsInRank) rest

def reputationToRank (standing : ℤ) : ReputationRank :=
  rankFrom standing (Reputation_Cap + 1) fromTop

/-- The last part of `SetOneFactionReputation`'s arithmetic: the standing within the bounds. -/
def clampStanding (standing : ℤ) : ℤ :=
  if standing > Reputation_Cap then Reputation_Cap
  else if standing < Reputation_Bottom then Reputation_Bottom
  else standing

/-- A total standing is within the bounds. -/
def InBounds (standing : ℤ) : Prop := Reputation_Bottom ≤ standing ∧ standing ≤ Reputation_Cap

theorem clampStanding_inBounds (standing : ℤ) : InBounds (clampStanding standing) := by
  unfold InBounds clampStanding Reputation_Cap Reputation_Bottom
  split
  · omega
  split <;> omega

/-! ## 2. Factions -/

/-- The arithmetic on `float` that spillover uses. -/
class SpilloverNumber (F : Type) where
  ofInt : ℤ → F
  mul : F → F → F
  /-- `int32(x)`. -/
  toInt : F → ℤ
  isZero : F → Bool

structure FactionEntry (F : Type) where
  ID : ℕ
  reputationListID : ℤ
  BaseRepRaceMask : Fin 4 → UInt32
  BaseRepClassMask : Fin 4 → UInt32
  BaseRepValue : Fin 4 → ℤ
  ReputationFlags : Fin 4 → UInt32
  team : ℕ
  spilloverRateIn : F
  spilloverRateOut : F
  spilloverMaxRankIn : ℕ

def FactionEntry.CanHaveReputation {F : Type} (e : FactionEntry F) : Prop :=
  0 ≤ e.reputationListID

instance {F : Type} (e : FactionEntry F) : Decidable e.CanHaveReputation :=
  inferInstanceAs (Decidable (0 ≤ e.reputationListID))

/-- `sFactionStore`, in the order of its index, which begins at 1. -/
structure FactionStore (F : Type) where
  rows : List (FactionEntry F)
  sorted : rows.Pairwise fun e e' => e.ID < e'.ID
  positive : ∀ e ∈ rows, 0 < e.ID

namespace FactionStore

variable {F : Type} (store : FactionStore F)

def lookupEntry (id : ℕ) : Option (FactionEntry F) := store.rows.find? fun e => e.ID = id

def getFactionTeamList (faction : ℕ) : Option (List ℕ) :=
  match store.rows.filter fun e => e.team ≠ 0 ∧ e.team = faction with
  | [] => none
  | e :: members => some ((e :: members).map (·.ID))

end FactionStore

/-- `MAX_SPILLOVER_FACTIONS` is 4. -/
structure RepSpilloverTemplate (F : Type) where
  faction : Fin 4 → ℕ
  faction_rate : Fin 4 → F
  faction_rank : Fin 4 → ℕ

/-- What stays the same while a character is in the world: the stores, his race and class, the rate
of reputation gains and what the scripts make of a change. -/
structure World (F : Type) where
  sFactionStore : FactionStore F
  getRepSpilloverTemplate : ℕ → Option (RepSpilloverTemplate F)
  /-- `LoadReputationSpilloverTemplate` leaves out a template with a faction that does not exist. -/
  templates_known : ∀ id template, getRepSpilloverTemplate id = some template →
    ∀ i, template.faction i ≠ 0 → ∃ e, sFactionStore.lookupEntry (template.faction i) = some e
  raceMask : UInt32
  classMask : UInt32
  /-- `floor(standing * RATE_REPUTATION_GAIN + 0.5)`. -/
  gain : ℤ → ℤ
  onPlayerReputationChange : ℕ → ℤ → Bool → ℤ

def FACTION_FLAG_VISIBLE : UInt8 := 0x01
def FACTION_FLAG_AT_WAR : UInt8 := 0x02
def FACTION_FLAG_HIDDEN : UInt8 := 0x04
def FACTION_FLAG_INVISIBLE_FORCED : UInt8 := 0x08
def FACTION_FLAG_PEACE_FORCED : UInt8 := 0x10
def FACTION_FLAG_INACTIVE : UInt8 := 0x20
def FACTION_FLAG_SPECIAL : UInt8 := 0x80

structure FactionState where
  ID : ℕ
  ReputationListID : ℤ
  Standing : ℤ
  Flags : UInt8
  needSend : Bool
  needSave : Bool

/-- Some bit of `flag` is set. -/
def FactionState.has (s : FactionState) (flag : UInt8) : Bool := s.Flags &&& flag ≠ 0

def FactionState.setAtWar (s : FactionState) (atWar : Bool) : FactionState :=
  if atWar ∧ s.has FACTION_FLAG_PEACE_FORCED then s
  else if s.has FACTION_FLAG_AT_WAR = atWar then s
  else
    { s with
      Flags := if atWar then s.Flags ||| FACTION_FLAG_AT_WAR else s.Flags &&& ~~~FACTION_FLAG_AT_WAR
      needSend := true
      needSave := true }

def FactionState.setInactive (s : FactionState) (inactive : Bool) : FactionState :=
  if inactive ∧ (s.has (FACTION_FLAG_INVISIBLE_FORCED ||| FACTION_FLAG_HIDDEN) ∨
      ¬s.has FACTION_FLAG_VISIBLE) then s
  else if s.has FACTION_FLAG_INACTIVE = inactive then s
  else
    { s with
      Flags :=
        if inactive then s.Flags ||| FACTION_FLAG_INACTIVE else s.Flags &&& ~~~FACTION_FLAG_INACTIVE
      needSend := true
      needSave := true }

/-! ## 3. The manager -/

/-- `ReputationMgr`, with its counters of eight bits. -/
structure ReputationMgr where
  factions : ℤ → Option FactionState
  visibleFactionCount : UInt8
  honoredFactionCount : UInt8
  reveredFactionCount : UInt8
  exaltedFactionCount : UInt8
  sendFactionIncreased : Bool

structure ReputationRow where
  faction : ℕ
  standing : ℤ
  flags : UInt16

section Player

variable {F : Type} (w : World F)

/-- The entry of the tables by race and class that applies to the player. -/
def baseRepIndex (e : FactionEntry F) : Option (Fin 4) :=
  (List.finRange 4).find? fun i =>
    (e.BaseRepRaceMask i &&& w.raceMask ≠ 0 ∨
        (e.BaseRepRaceMask i = 0 ∧ e.BaseRepClassMask i ≠ 0)) ∧
      (e.BaseRepClassMask i &&& w.classMask ≠ 0 ∨ e.BaseRepClassMask i = 0)

def getBaseReputation (e : FactionEntry F) : ℤ :=
  match baseRepIndex w e with
  | some i => e.BaseRepValue i
  | none => 0

def getBaseRank (e : FactionEntry F) : ReputationRank := reputationToRank (getBaseReputation w e)

def getDefaultStateFlags (e : FactionEntry F) : UInt32 :=
  match baseRepIndex w e with
  | some i => e.ReputationFlags i
  | none => 0

end Player

namespace ReputationMgr

def new : ReputationMgr := ⟨fun _ => none, 0, 0, 0, 0, false⟩

def updateRankCounters (m : ReputationMgr) (old_rank new_rank : ReputationRank) : ReputationMgr :=
  { m with
    exaltedFactionCount :=
      adjust m.exaltedFactionCount (REP_EXALTED ≤ old_rank) (REP_EXALTED ≤ new_rank)
    reveredFactionCount :=
      adjust m.reveredFactionCount (REP_REVERED ≤ old_rank) (REP_REVERED ≤ new_rank)
    honoredFactionCount :=
      adjust m.honoredFactionCount (REP_HONORED ≤ old_rank) (REP_HONORED ≤ new_rank) }

def put (m : ReputationMgr) (id : ℤ) (s : FactionState) : ReputationMgr :=
  { m with factions := Function.update m.factions id (some s) }

/-- Changing the state of a faction through a pointer to it. -/
def modify (m : ReputationMgr) (id : ℤ) (f : FactionState → FactionState) : ReputationMgr :=
  match m.factions id with
  | some s => m.put id (f s)
  | none => m

def setVisibleState (m : ReputationMgr) (id : ℤ) : ReputationMgr :=
  match m.factions id with
  | none => m
  | some s =>
    if s.has (FACTION_FLAG_INVISIBLE_FORCED ||| FACTION_FLAG_HIDDEN) ∧
        ¬s.has FACTION_FLAG_SPECIAL then m
    else if s.has FACTION_FLAG_VISIBLE then m
    else
      { m.put id { s with
          Flags := s.Flags ||| FACTION_FLAG_VISIBLE
          needSend := true
          needSave := true } with
        visibleFactionCount := m.visibleFactionCount + 1 }

/-- `SendState`: nothing is to be sent any more. -/
def sendState (m : ReputationMgr) : ReputationMgr :=
  { m with
    factions := fun id => (m.factions id).map fun s => { s with needSend := false }
    sendFactionIncreased := false }

section Player

variable {F : Type} (w : World F)

def getState (m : ReputationMgr) (e : FactionEntry F) : Option FactionState :=
  if e.CanHaveReputation then m.factions e.reputationListID else none

def getReputation (m : ReputationMgr) (e : FactionEntry F) : ℤ :=
  match m.getState e with
  | some s => getBaseReputation w e + s.Standing
  | none => 0

def getRank (m : ReputationMgr) (e : FactionEntry F) : ReputationRank :=
  reputationToRank (m.getReputation w e)

def getReputationRank (m : ReputationMgr) (faction : ℕ) : ReputationRank :=
  match w.sFactionStore.lookupEntry faction with
  | some e => m.getRank w e
  | none => reputationToRank 0

/-- One round of the loop in `Initialize`. -/
def initializeFaction (m : ReputationMgr) (e : FactionEntry F) : ReputationMgr :=
  if e.CanHaveReputation then
    let newFaction : FactionState :=
      { ID := e.ID
        ReputationListID := e.reputationListID
        Standing := 0
        Flags := (getDefaultStateFlags w e).toUInt8
        needSend := true
        needSave := true }
    let m :=
      if newFaction.has FACTION_FLAG_VISIBLE then
        { m with visibleFactionCount := m.visibleFactionCount + 1 }
      else m
    (m.updateRankCounters REP_HOSTILE (getBaseRank w e)).put e.reputationListID newFaction
  else m

def initializeFactions : ReputationMgr :=
  w.sFactionStore.rows.foldl (fun m e => m.initializeFaction w e) new

def setOneFactionReputation (m : ReputationMgr) (e : FactionEntry F) (standing : ℤ)
    (incremental : Bool) : Bool × ReputationMgr :=
  match m.factions e.reputationListID with
  | none => (false, m)
  | some s =>
    let BaseRep := getBaseReputation w e
    let standing := if incremental then w.gain standing + (s.Standing + BaseRep) else standing
    let standing := clampStanding standing
    let old_rank := reputationToRank (s.Standing + BaseRep)
    let new_rank := reputationToRank standing
    let m := m.put e.reputationListID
      { s with Standing := standing - BaseRep, needSend := true, needSave := true }
    let m := m.setVisibleState e.reputationListID
    let m :=
      if new_rank ≤ REP_HOSTILE then m.modify e.reputationListID (·.setAtWar true) else m
    let m := if ¬new_rank ≤ old_rank then { m with sendFactionIncreased := true } else m
    (true, m.updateRankCounters old_rank new_rank)

variable [SpilloverNumber F]

open SpilloverNumber

def spillTemplate (template : RepSpilloverTemplate F) (m : ReputationMgr) (standing : ℤ)
    (incremental : Bool) : Option ReputationMgr :=
  (List.finRange 4).foldlM (fun m i =>
    if template.faction i ≠ 0 then
      if (m.getReputationRank w (template.faction i)).toNat ≤ template.faction_rank i then
        -- bonuses are already given, so just modify standing by rate
        let spilloverRep := toInt (mul (ofInt standing) (template.faction_rate i))
        -- `AssertEntry`
        (w.sFactionStore.lookupEntry (template.faction i)).map fun e =>
          (m.setOneFactionReputation w e spilloverRep incremental).2
      else some m
    else some m) m

/-- The spillover to the factions of a list; it says as well what `SetReputation` returns so far. -/
def spillList (m : ReputationMgr) (e : FactionEntry F) (flist : List ℕ) (spillOverRepOut : F)
    (incremental : Bool) : Bool × ReputationMgr :=
  flist.foldl (fun (r : Bool × ReputationMgr) id =>
    match w.sFactionStore.lookupEntry id with
    | none => r
    | some factionEntryCalc =>
      if factionEntryCalc.ID = e.ID ∨
          ¬(r.2.getRank w factionEntryCalc).toNat ≤ factionEntryCalc.spilloverMaxRankIn then r
      else
        let spilloverRep := toInt (mul spillOverRepOut factionEntryCalc.spilloverRateIn)
        if spilloverRep ≠ 0 ∨ ¬incremental then
          r.2.setOneFactionReputation w factionEntryCalc spilloverRep incremental
        else r) (false, m)

def spillTeam (m : ReputationMgr) (e : FactionEntry F) (standing : ℤ) (incremental : Bool) :
    Bool × ReputationMgr :=
  let spillOverRepOut := ofInt standing
  match w.sFactionStore.getFactionTeamList e.ID with
  | some flist => m.spillList w e flist spillOverRepOut incremental
  | none =>
    if e.team ≠ 0 ∧ ¬isZero e.spilloverRateOut then
      let spillOverRepOut := mul spillOverRepOut e.spilloverRateOut
      match w.sFactionStore.lookupEntry e.team with
      | none => (false, m)
      | some parent =>
        -- some team factions have own reputation standing
        if (m.factions parent.reputationListID).any (·.has FACTION_FLAG_SPECIAL) then
          (false, (m.setOneFactionReputation w parent (toInt spillOverRepOut) incremental).2)
        else
          match w.sFactionStore.getFactionTeamList e.team with
          | some flist => m.spillList w e flist spillOverRepOut incremental
          | none => (false, m)
    else (false, m)

/-- All spillover of `SetReputation`: a template overrides the teams. -/
def spill (m : ReputationMgr) (e : FactionEntry F) (standing : ℤ) (incremental : Bool) :
    Option (Bool × ReputationMgr) :=
  match w.getRepSpilloverTemplate e.ID with
  | some template => (spillTemplate w template m standing incremental).map (false, ·)
  | none => some (m.spillTeam w e standing incremental)

def setReputation (m : ReputationMgr) (e : FactionEntry F) (standing : ℤ) (incremental : Bool) :
    Option (Bool × ReputationMgr) := do
  let standing := w.onPlayerReputationChange e.ID standing incremental
  let (res, m) ← m.spill w e standing incremental
  -- spillover done, update faction itself
  match m.factions e.reputationListID with
  | none => some (res, m)
  | some _ =>
    let (res, m) := m.setOneFactionReputation w e standing incremental
    some (res, m.sendState)

def setVisible (m : ReputationMgr) (e : FactionEntry F) : ReputationMgr :=
  if e.reputationListID < 0 then m else m.setVisibleState e.reputationListID

def setAtWar (m : ReputationMgr) (repListID : ℤ) (on : Bool) : ReputationMgr :=
  match m.factions repListID with
  | none => m
  | some s =>
    if s.has (FACTION_FLAG_INVISIBLE_FORCED ||| FACTION_FLAG_HIDDEN) then m
    else m.modify repListID (·.setAtWar on)

def setInactive (m : ReputationMgr) (repListID : ℤ) (on : Bool) : ReputationMgr :=
  m.modify repListID (·.setInactive on)

/-- The first half of a round of the loop in `LoadFromDB`, for an entry of the reputation list: the
standing and the counters. -/
def loadStanding (m : ReputationMgr) (e : FactionEntry F) (row : ReputationRow) : ReputationMgr :=
  -- `operator[]` makes a state where there is none
  let faction := (m.factions e.reputationListID).getD ⟨0, 0, 0, 0, false, false⟩
  let BaseRep := getBaseReputation w e
  let old_rank := reputationToRank BaseRep
  let new_rank := reputationToRank (BaseRep + row.standing)
  (m.put e.reputationListID { faction with Standing := row.standing }).updateRankCounters old_rank
    new_rank

def loadFlags (m : ReputationMgr) (e : FactionEntry F) (row : ReputationRow) : ReputationMgr :=
  let id := e.reputationListID
  let flag (f : UInt8) : Bool := row.flags.toUInt8 &&& f ≠ 0
  let m := if flag FACTION_FLAG_VISIBLE then m.setVisibleState id else m
  let m := if flag FACTION_FLAG_INACTIVE then m.modify id fun s => s.setInactive true else m
  let m :=
    if flag FACTION_FLAG_AT_WAR then m.modify id fun s => s.setAtWar true
    else
      -- allow remove if visible
      m.modify id fun s => if s.has FACTION_FLAG_VISIBLE then s.setAtWar false else s
  let m := if m.getRank w e ≤ REP_HOSTILE then m.modify id fun s => s.setAtWar true else m
  m.modify id fun s =>
    if s.Flags.toUInt16 = row.flags then { s with needSend := false, needSave := false } else s

/-- One round of the loop in `LoadFromDB`. -/
def loadRow (m : ReputationMgr) (row : ReputationRow) : ReputationMgr :=
  match w.sFactionStore.lookupEntry row.faction with
  | none => m
  | some e => if e.CanHaveReputation then (m.loadStanding w e row).loadFlags w e row else m

def loadFromDB (result : List ReputationRow) : ReputationMgr :=
  result.foldl (fun m row => m.loadRow w row) (initializeFactions w)

end Player

end ReputationMgr

/-! ## 4. Runs -/

inductive Operation (F : Type)
  | loadFromDB (result : List ReputationRow)
  | setReputation (e : FactionEntry F) (standing : ℤ) (incremental : Bool)
  | setOneFactionReputation (e : FactionEntry F) (standing : ℤ) (incremental : Bool)
  | setVisible (e : FactionEntry F)
  | setAtWar (repListID : ℤ) (on : Bool)
  | setInactive (repListID : ℤ) (on : Bool)

section Run

variable {F : Type} [SpilloverNumber F] (w : World F)

def ReputationMgr.run (m : ReputationMgr) : Operation F → Option ReputationMgr
  | .loadFromDB result => some (.loadFromDB w result)
  | .setReputation e standing incremental =>
    (m.setReputation w e standing incremental).map (·.2)
  | .setOneFactionReputation e standing incremental =>
    some (m.setOneFactionReputation w e standing incremental).2
  | .setVisible e => some (m.setVisible e)
  | .setAtWar repListID on => some (m.setAtWar repListID on)
  | .setInactive repListID on => some (m.setInactive repListID on)

def step (r : Option ReputationMgr) (op : Operation F) : Option ReputationMgr :=
  r.bind fun m => m.run w op

end Run

end FunPvp.Reputation
