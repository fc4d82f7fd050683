/-
# Arena challenges

`CreateSkirmish` marks two players as preparing for a skirmish, lets both join the queue, and only
then looks whether both have joined. If the first has not it takes back his mark, and if the second
has not it takes back that one: whatever the other has done stays. A group that the queue turns
down counts as joined, although nobody is queued. And the marks are kept in an array with room for
the indices 0 and 1, where a skirmish of two or of three has the index 2 or 3.

`settled_iff` says when a challenge leaves no side half joined.
-/
import Mathlib

namespace FunPvp.Challenges

/-! ## 1. Joining -/

abbrev Guid := ℕ

inductive SkirmishStatus
  | SKIRMISH_NONE
  | SKIRMISH_PREPEAR
  | SKIRMISH_JOINED
deriving DecidableEq

open SkirmishStatus

/-- What is asked of a group; `members` are those who are online. -/
structure Group where
  leaderGuid : Guid
  membersCount : ℕ
  members : List Guid

structure Player where
  guid : Guid
  level : ℕ
  group : Option Group
  /-- `GetSocial()`, by its `HasIgnore`. -/
  social : Option (Guid → Bool)
  isInCombat : Bool
  /-- `GetMap()->IsBattlegroundOrArena()`. -/
  onBattlegroundMap : Bool
  inBattleground : Bool
  isGameMaster : Bool
  hasAura : ℕ → Bool
  /-- `GetMap()->GetCreature`, of the guid 0. -/
  creature : Bool

/-- A `GroupQueueInfo` of a skirmish; the queue is that of the arena type. -/
structure GroupQueueInfo where
  arenaType : ℕ
  leader : Guid
  players : List Guid
deriving DecidableEq

/-- `skirmishStatus`, the `BattlegroundQueue`s of the arenas, and the queue ids of the players, in
which the type of an arena stands for its queue. -/
structure World where
  skirmishStatus : Guid → ℕ → SkirmishStatus
  queue : List GroupQueueInfo
  queueIds : Guid → List ℕ

def ARENA_TYPE_5v5 : ℕ := 1

def ARENA_TYPE_2v2 : ℕ := 2

def ARENA_TYPE_3v3 : ℕ := 3

def PLAYER_MAX_BATTLEGROUND_QUEUES : ℕ := 2

def World.getSkirmishStatus (w : World) (guid : Guid) (type : ℕ) : Option SkirmishStatus :=
  if type < ARENA_TYPE_5v5 + 1 then some (w.skirmishStatus guid type) else none

def World.mark (w : World) (guid : Guid) (type : ℕ) (status : SkirmishStatus) : World :=
  { w with skirmishStatus :=
      Function.update w.skirmishStatus guid (Function.update (w.skirmishStatus guid) type status) }

def World.setSkirmishStatus (w : World) (guid : Guid) (type : ℕ) (status : SkirmishStatus) :
    Option World :=
  if type < ARENA_TYPE_5v5 + 1 then some (w.mark guid type status) else none

/-- What the functions ask for: the target of a name, the players, `GetBattlegroundTemplate`,
`IsDisabledFor`, `GetBattlegroundBracketByLevel`, `CanJoinBattlegroundQueue` and
`IPExistsInQueue`. -/
structure Env where
  extractPlayerTarget : String → Option Player
  findPlayer : Guid → Option Player
  player : Player
  arenaTemplate : Bool
  disabled : Bool
  hasBracket : ℕ → Bool
  canJoinBattlegroundQueue : World → Group → ℕ → ℤ
  ipExistsInQueue : World → Player → ℕ → Bool

def arenaType (arenaslot : UInt8) : Option ℕ :=
  if arenaslot = 0 then some ARENA_TYPE_2v2 else if arenaslot = 1 then some ARENA_TYPE_3v3
  else if arenaslot = 2 then some ARENA_TYPE_5v5 else none

def addQueueId (ids : List ℕ) (type : ℕ) : List ℕ :=
  if type ∈ ids ∨ PLAYER_MAX_BATTLEGROUND_QUEUES ≤ ids.length then ids else ids ++ [type]

def World.addGroup (w : World) (leader : Guid) (players : List Guid) (type : ℕ) : World :=
  { w with
    queue := w.queue ++ [⟨type, leader, players⟩]
    queueIds := fun guid =>
      if guid ∈ players then addQueueId (w.queueIds guid) type else w.queueIds guid }

def Player.side (p : Player) (asGroup : Bool) : List Guid :=
  if asGroup then (p.group.map Group.members).getD [] else [p.guid]

/-- The guards of a join that is not rated, behind that of the skirmish status. -/
def Env.refuses (env : Env) (w : World) (p : Player) (type : ℕ) (asGroup : Bool) : Bool :=
  !env.arenaTemplate || env.disabled || !env.hasBracket p.level ||
    (if asGroup then !p.group.any fun grp => grp.leaderGuid = p.guid
    else type ∈ w.queueIds p.guid || PLAYER_MAX_BATTLEGROUND_QUEUES ≤ (w.queueIds p.guid).length ||
      p.hasAura 26013 || p.hasAura 9454) ||
    env.ipExistsInQueue w p type

/-- A group may be turned down, and its members are told so. -/
def Env.admits (env : Env) (w : World) (p : Player) (type : ℕ) (asGroup : Bool) : Bool :=
  !asGroup || p.group.any fun grp => 0 < env.canJoinBattlegroundQueue w grp type

def World.handleBattlemasterJoinArena (env : Env) (w : World) (p : Player) (arenaslot : UInt8)
    (asGroup : Bool) : Option World :=
  if p.inBattleground then some w
  else match arenaType arenaslot with
    | none => some w
    | some type => do
      let status ← w.getSkirmishStatus p.guid type
      if status ≠ SKIRMISH_PREPEAR ∧ ¬ p.creature then some w
      else if env.refuses w p type asGroup then some w
      else
        let w := if env.admits w p type asGroup then w.addGroup p.guid (p.side asGroup) type else w
        if status = SKIRMISH_PREPEAR then w.setSkirmishStatus p.guid type SKIRMISH_JOINED
        else some w

/-! ## 2. `CreateSkirmish` -/

/-- Two sides that have passed the checks. -/
structure Challenge where
  player1 : Player
  player2 : Player
  arenaslot : UInt8
  isGroup : Bool
  aType : ℕ

def Env.targets (env : Env) (args : List String) (isGM : Bool) : Option (Player × Player) :=
  match args with
  | [] => none
  | pParam1 :: rest => do
    let player2 ← if isGM then rest.head? >>= env.extractPlayerTarget else some env.player
    let player1 ← env.extractPlayerTarget pParam1
    return (player1, player2)

def Player.grps (p : Player) : ℕ :=
  match p.group with
  | some group => if group.membersCount ≤ 3 then group.membersCount else 1
  | none => 1

def Env.leaderOf (env : Env) (p : Player) (group : Group) : Player :=
  if group.leaderGuid ≠ p.guid ∧ group.leaderGuid ≠ 0 then (env.findPlayer group.leaderGuid).getD p
  else p

def Env.leaders (env : Env) (player1 player2 : Player) (isGroup : Bool) :
    Option (Player × Player) :=
  if isGroup then do
    let gr1 ← player1.group
    let gr2 ← player2.group
    return (env.leaderOf player1 gr1, env.leaderOf player2 gr2)
  else some (player1, player2)

/-- What `CreateSkirmish` asks of the two. -/
def World.mayFight (w : World) (player1 player2 : Player) : Bool :=
  (player2.social.any fun hasIgnore => !hasIgnore player1.guid) &&
    !(player1.isInCombat || player2.isInCombat) &&
    !(player1.onBattlegroundMap || player2.onBattlegroundMap) &&
    !(w.queueIds player1.guid ≠ [] || w.queueIds player2.guid ≠ []) &&
    player1.guid ≠ player2.guid && !(player1.isGameMaster || player2.isGameMaster) &&
    !(player1.hasAura 9454 || player2.hasAura 9454)

/-- `CreateSkirmish` up to the packets. -/
def Env.challenge (env : Env) (w : World) (args : List String) (type : UInt8)
    (isGroup isGM : Bool) : Option Challenge := do
  let (player1, player2) ← env.targets args isGM
  if player1.level < 80 ∨ player2.level < 80 then none
  else if type = 3 ∧ player1.grps ≠ player2.grps then none
  else
    let isGroup := isGroup || (type = 3 && player1.grps > 1)
    let arenaslot :=
      if type = 3 then if player1.grps = 3 then 1 else if player1.grps = 2 then 0 else 2 else type
    let (player1, player2) ← env.leaders player1 player2 isGroup
    if w.mayFight player1 player2 then
      (arenaType arenaslot).map fun aType => ⟨player1, player2, arenaslot, isGroup, aType⟩
    else none

/-- `CreateSkirmish` from the packets on. -/
def Challenge.join (env : Env) (w : World) (c : Challenge) : Option (Bool × World) := do
  let w ← w.setSkirmishStatus c.player1.guid c.aType SKIRMISH_PREPEAR
  let w ← w.setSkirmishStatus c.player2.guid c.aType SKIRMISH_PREPEAR
  let w ← w.handleBattlemasterJoinArena env c.player1 c.arenaslot c.isGroup
  let w ← w.handleBattlemasterJoinArena env c.player2 c.arenaslot c.isGroup
  let status1 ← w.getSkirmishStatus c.player1.guid c.aType
  let status2 ← w.getSkirmishStatus c.player2.guid c.aType
  if status1 ≠ SKIRMISH_JOINED then
    (w.setSkirmishStatus c.player1.guid c.aType SKIRMISH_NONE).map fun w => (false, w)
  else if status2 ≠ SKIRMISH_JOINED then
    (w.setSkirmishStatus c.player2.guid c.aType SKIRMISH_NONE).map fun w => (false, w)
  else some (true, w)

def World.createSkirmish (env : Env) (w : World) (args : List String) (type : UInt8)
    (isGroup isGM : Bool) : Option (Bool × World) :=
  match env.challenge w args type isGroup isGM with
  | none => some (false, w)
  | some c => c.join env w

/-! ## 3. What comes of a join -/

variable {env : Env} {w w' : World} {p : Player} {c : Challenge} {type : ℕ} {asGroup : Bool}

inductive Outcome
  | refused
  | turnedDown
  | queued

/-- The outcome of a join by a player who is prepared. -/
def Env.outcome (env : Env) (w : World) (p : Player) (type : ℕ) (asGroup : Bool) : Outcome :=
  if p.inBattleground || env.refuses w p type asGroup then .refused
  else if env.admits w p type asGroup then .queued else .turnedDown

def World.after (w : World) (p : Player) (type : ℕ) (asGroup : Bool) : Outcome → World
  | .refused => w
  | .turnedDown => w.mark p.guid type SKIRMISH_JOINED
  | .queued => (w.addGroup p.guid (p.side asGroup) type).mark p.guid type SKIRMISH_JOINED

theorem skirmishStatus_mark (w : World) (guid : Guid) (type : ℕ) (status : SkirmishStatus)
    (guid' : Guid) (type' : ℕ) : (w.mark guid type status).skirmishStatus guid' type' =
      if guid' = guid ∧ type' = type then status else w.skirmishStatus guid' type' := by
  by_cases hguid : guid' = guid
  · subst hguid
    simp [World.mark, Function.update_apply]
  · simp [World.mark, hguid]

theorem handleBattlemasterJoinArena_eq {arenaslot : UInt8} (htype : arenaType arenaslot = some type)
    (hin : type < ARENA_TYPE_5v5 + 1)
    (hprepared : w.skirmishStatus p.guid type = SKIRMISH_PREPEAR) :
    w.handleBattlemasterJoinArena env p arenaslot asGroup =
      some (w.after p type asGroup (env.outcome w p type asGroup)) := by
  rw [World.handleBattlemasterJoinArena, Env.outcome, htype]
  by_cases hbg : p.inBattleground
  · simp [hbg, World.after]
  · by_cases hrefuses : env.refuses w p type asGroup
    · simp [hbg, hrefuses, World.getSkirmishStatus, hin, hprepared, World.after]
    · by_cases hadmits : env.admits w p type asGroup
      · simp [hbg, hrefuses, hadmits, World.getSkirmishStatus, World.setSkirmishStatus, hin,
          hprepared, World.after]
      · simp [hbg, hrefuses, hadmits, World.getSkirmishStatus, World.setSkirmishStatus, hin,
          hprepared, World.after]

def Outcome.status : Outcome → SkirmishStatus
  | .refused => SKIRMISH_PREPEAR
  | _ => SKIRMISH_JOINED

theorem skirmishStatus_after (o : Outcome)
    (hprepared : w.skirmishStatus p.guid type = SKIRMISH_PREPEAR) (guid' : Guid) (type' : ℕ) :
    (w.after p type asGroup o).skirmishStatus guid' type' =
      if guid' = p.guid ∧ type' = type then o.status else w.skirmishStatus guid' type' := by
  cases o with
  | refused =>
    split_ifs with h
    · rw [h.1, h.2]
      exact hprepared
    · rfl
  | turnedDown => exact skirmishStatus_mark ..
  | queued => exact skirmishStatus_mark ..

/-! ## 4. The challenge -/

def Challenge.prepared (c : Challenge) (w : World) : World :=
  (w.mark c.player1.guid c.aType SKIRMISH_PREPEAR).mark c.player2.guid c.aType SKIRMISH_PREPEAR

def Challenge.outcome1 (c : Challenge) (env : Env) (w : World) : Outcome :=
  env.outcome (c.prepared w) c.player1 c.aType c.isGroup

def Challenge.joined1 (c : Challenge) (env : Env) (w : World) : World :=
  (c.prepared w).after c.player1 c.aType c.isGroup (c.outcome1 env w)

def Challenge.outcome2 (c : Challenge) (env : Env) (w : World) : Outcome :=
  env.outcome (c.joined1 env w) c.player2 c.aType c.isGroup

def Challenge.joined2 (c : Challenge) (env : Env) (w : World) : World :=
  (c.joined1 env w).after c.player2 c.aType c.isGroup (c.outcome2 env w)

/-- It was made of two players, for an arena type. -/
structure Challenge.Proper (c : Challenge) : Prop where
  slot : arenaType c.arenaslot = some c.aType
  ne : c.player1.guid ≠ c.player2.guid

theorem skirmishStatus_prepared (w : World) (guid : Guid) (type : ℕ) :
    (c.prepared w).skirmishStatus guid type =
      if (guid = c.player1.guid ∨ guid = c.player2.guid) ∧ type = c.aType then SKIRMISH_PREPEAR
      else w.skirmishStatus guid type := by
  rw [Challenge.prepared, skirmishStatus_mark, skirmishStatus_mark]
  split_ifs <;> first | rfl | tauto

theorem skirmishStatus_joined1 (guid : Guid) (type : ℕ) :
    (c.joined1 env w).skirmishStatus guid type =
      if guid = c.player1.guid ∧ type = c.aType then (c.outcome1 env w).status
      else (c.prepared w).skirmishStatus guid type :=
  skirmishStatus_after _ (by simp [skirmishStatus_prepared]) guid type

theorem Challenge.Proper.skirmishStatus_joined2 (hc : c.Proper) (guid : Guid) (type : ℕ) :
    (c.joined2 env w).skirmishStatus guid type =
      if guid = c.player2.guid ∧ type = c.aType then (c.outcome2 env w).status
      else (c.joined1 env w).skirmishStatus guid type :=
  skirmishStatus_after _ (by simp [skirmishStatus_joined1, hc.ne.symm, skirmishStatus_prepared])
    guid type

theorem Challenge.Proper.status1 (hc : c.Proper) :
    (c.joined2 env w).skirmishStatus c.player1.guid c.aType = (c.outcome1 env w).status := by
  simp [hc.skirmishStatus_joined2, skirmishStatus_joined1, hc.ne]

theorem Challenge.Proper.status2 (hc : c.Proper) :
    (c.joined2 env w).skirmishStatus c.player2.guid c.aType = (c.outcome2 env w).status := by
  simp [hc.skirmishStatus_joined2]

theorem Challenge.Proper.join_eq (hc : c.Proper) (hin : c.aType < ARENA_TYPE_5v5 + 1) :
    c.join env w = some (match c.outcome1 env w, c.outcome2 env w with
      | .refused, _ => (false, (c.joined2 env w).mark c.player1.guid c.aType SKIRMISH_NONE)
      | _, .refused => (false, (c.joined2 env w).mark c.player2.guid c.aType SKIRMISH_NONE)
      | _, _ => (true, c.joined2 env w)) := by
  have hfirst : (c.prepared w).handleBattlemasterJoinArena env c.player1 c.arenaslot c.isGroup =
      some (c.joined1 env w) :=
    handleBattlemasterJoinArena_eq hc.slot hin (by simp [skirmishStatus_prepared])
  have hsecond : (c.joined1 env w).handleBattlemasterJoinArena env c.player2 c.arenaslot c.isGroup =
      some (c.joined2 env w) :=
    handleBattlemasterJoinArena_eq hc.slot hin
      (by simp [skirmishStatus_joined1, hc.ne.symm, skirmishStatus_prepared])
  simp only [Challenge.join, World.setSkirmishStatus, World.getSkirmishStatus, if_pos hin,
    Option.bind_eq_bind, Option.bind_some, Option.map_some]
  change ((c.prepared w).handleBattlemasterJoinArena env c.player1 c.arenaslot c.isGroup).bind _ = _
  rw [hfirst, Option.bind_some, hsecond, Option.bind_some, hc.status1, hc.status2]
  cases c.outcome1 env w <;> cases c.outcome2 env w <;> rfl

theorem queue_after (o : Outcome) (w : World) (p : Player) (type : ℕ) (asGroup : Bool) :
    (w.after p type asGroup o).queue = w.queue ++
      match o with
      | .queued => [⟨type, p.guid, p.side asGroup⟩]
      | _ => [] := by
  cases o <;> simp [World.after, World.mark, World.addGroup]

theorem queueIds_after {o : Outcome} (h : o ≠ .queued) (w : World) (p : Player) (type : ℕ)
    (asGroup : Bool) : (w.after p type asGroup o).queueIds = w.queueIds := by
  cases o with
  | refused => rfl
  | turnedDown => rfl
  | queued => exact absurd rfl h

def Challenge.entry (c : Challenge) (p : Player) : GroupQueueInfo :=
  ⟨c.aType, p.guid, p.side c.isGroup⟩

/-- Neither side is left half joined. A failure leaves the queue as it was, and no status but that
of before or `SKIRMISH_NONE`; after a success both sides have been queued for the same arena type,
with the status `SKIRMISH_JOINED`. -/
def Settled (w : World) (challenge : Option Challenge) : Bool × World → Prop
  | (false, w') => w'.queue = w.queue ∧ w'.queueIds = w.queueIds ∧ ∀ guid type,
      w'.skirmishStatus guid type = SKIRMISH_NONE ∨
        w'.skirmishStatus guid type = w.skirmishStatus guid type
  | (true, w') => ∃ c, challenge = some c ∧
      w'.queue = w.queue ++ [c.entry c.player1, c.entry c.player2] ∧
      w'.skirmishStatus c.player1.guid c.aType = SKIRMISH_JOINED ∧
      w'.skirmishStatus c.player2.guid c.aType = SKIRMISH_JOINED

/-- The outcomes after which there is nothing to take back but what is taken back. -/
def Challenge.Paired (c : Challenge) (env : Env) (w : World) : Prop :=
  match c.outcome1 env w, c.outcome2 env w with
  | .queued, .queued => True
  | .refused, .refused => w.skirmishStatus c.player2.guid c.aType = SKIRMISH_PREPEAR
  | .refused, .turnedDown => w.skirmishStatus c.player2.guid c.aType = SKIRMISH_JOINED
  | .turnedDown, .refused => w.skirmishStatus c.player1.guid c.aType = SKIRMISH_JOINED
  | _, _ => False

theorem undone_iff {reset other : Guid} {status : SkirmishStatus} (hne : other ≠ reset)
    (hstatus : ∀ guid type', w'.skirmishStatus guid type' =
      if guid = reset ∧ type' = type then SKIRMISH_NONE
      else if guid = other ∧ type' = type then status else w.skirmishStatus guid type') :
    (∀ guid type', w'.skirmishStatus guid type' = SKIRMISH_NONE ∨
      w'.skirmishStatus guid type' = w.skirmishStatus guid type') ↔
    status = SKIRMISH_NONE ∨ status = w.skirmishStatus other type := by
  constructor
  · intro h
    have hother := h other type
    rwa [hstatus, if_neg fun hreset => hne hreset.1, if_pos ⟨rfl, rfl⟩] at hother
  · intro h guid type'
    rw [hstatus]
    split_ifs with hreset hother
    · exact .inl rfl
    · rw [hother.1, hother.2]
      exact h
    · exact .inr rfl

theorem Challenge.Proper.settled_first_iff (env : Env) (w : World) (hc : c.Proper) :
    Settled w (some c) (false, (c.joined2 env w).mark c.player1.guid c.aType SKIRMISH_NONE) ↔
      (c.joined2 env w).queue = w.queue ∧ (c.joined2 env w).queueIds = w.queueIds ∧
        ((c.outcome2 env w).status = SKIRMISH_NONE ∨
          (c.outcome2 env w).status = w.skirmishStatus c.player2.guid c.aType) := by
  refine and_congr Iff.rfl (and_congr Iff.rfl (undone_iff hc.ne.symm fun guid type => ?_))
  rw [skirmishStatus_mark, hc.skirmishStatus_joined2, skirmishStatus_joined1,
    skirmishStatus_prepared]
  split_ifs <;> first | rfl | tauto

theorem Challenge.Proper.settled_second_iff (env : Env) (w : World) (hc : c.Proper) :
    Settled w (some c) (false, (c.joined2 env w).mark c.player2.guid c.aType SKIRMISH_NONE) ↔
      (c.joined2 env w).queue = w.queue ∧ (c.joined2 env w).queueIds = w.queueIds ∧
        ((c.outcome1 env w).status = SKIRMISH_NONE ∨
          (c.outcome1 env w).status = w.skirmishStatus c.player1.guid c.aType) := by
  refine and_congr Iff.rfl (and_congr Iff.rfl (undone_iff hc.ne fun guid type => ?_))
  rw [skirmishStatus_mark, hc.skirmishStatus_joined2, skirmishStatus_joined1,
    skirmishStatus_prepared]
  split_ifs <;> first | rfl | tauto

theorem Challenge.Proper.settled_success_iff (env : Env) (w : World) (hc : c.Proper) :
    Settled w (some c) (true, c.joined2 env w) ↔
      (c.joined2 env w).queue = w.queue ++ [c.entry c.player1, c.entry c.player2] ∧
        (c.outcome1 env w).status = SKIRMISH_JOINED ∧
        (c.outcome2 env w).status = SKIRMISH_JOINED := by
  rw [← hc.status1, ← hc.status2]
  constructor
  · rintro ⟨c', heq, h⟩
    exact Option.some.inj heq ▸ h
  · exact fun h => ⟨c, rfl, h⟩

theorem Challenge.Proper.settled_join_iff (hc : c.Proper) (hin : c.aType < ARENA_TYPE_5v5 + 1) :
    (∃ result, c.join env w = some result ∧ Settled w (some c) result) ↔ c.Paired env w := by
  have hqueue : (c.joined2 env w).queue = _ := queue_after (c.outcome2 env w) ..
  have hqueue1 : (c.joined1 env w).queue = _ := queue_after (c.outcome1 env w) ..
  rw [hqueue1, show (c.prepared w).queue = w.queue from rfl] at hqueue
  have hids : c.outcome1 env w ≠ .queued → c.outcome2 env w ≠ .queued →
      (c.joined2 env w).queueIds = w.queueIds :=
    fun h1 h2 => (queueIds_after h2 ..).trans (queueIds_after h1 ..)
  have hfirst := hc.settled_first_iff env w
  have hsecond := hc.settled_second_iff env w
  have hsuccess := hc.settled_success_iff env w
  rw [hqueue] at hfirst hsecond hsuccess
  rw [hc.join_eq hin, Challenge.Paired]
  cases h1 : c.outcome1 env w <;> cases h2 : c.outcome2 env w <;>
    simp only [h1, h2, Option.some.injEq, exists_eq_left'] at hfirst hsecond hsuccess hids ⊢ <;>
    first
      | rw [hfirst]
      | rw [hsecond]
      | rw [hsuccess]
  all_goals simp [Outcome.status, Challenge.entry]
  -- left are the outcomes without a queued side
  all_goals exact ⟨fun h => h.2.symm, fun h => ⟨hids nofun nofun, h.symm⟩⟩

theorem arenaType_cases {arenaslot : UInt8} (h : arenaType arenaslot = some type) :
    type = ARENA_TYPE_5v5 ∨ ¬ type < ARENA_TYPE_5v5 + 1 := by
  rw [arenaType] at h
  split_ifs at h <;> obtain rfl := Option.some.inj h <;> decide

theorem proper_of_challenge {args : List String} {type : UInt8} {isGroup isGM : Bool}
    (h : env.challenge w args type isGroup isGM = some c) : c.Proper := by
  rw [Env.challenge] at h
  obtain ⟨⟨player1, player2⟩, -, h⟩ := Option.bind_eq_some_iff.mp h
  dsimp only at h
  split_ifs at h
  all_goals
    obtain ⟨⟨player1, player2⟩, -, h⟩ := Option.bind_eq_some_iff.mp h
    dsimp only at h
    split_ifs at h with hfight
    obtain ⟨aType, hslot, rfl⟩ := Option.map_eq_some_iff.mp h
    refine ⟨hslot, ?_⟩
    simp only [World.mayFight, Bool.and_eq_true, decide_eq_true_eq] at hfight
    tauto

/-- **When a challenge leaves no side half joined**: when it is refused before anybody joins, or is
one for the arena type 1 whose outcomes are paired. -/
theorem settled_iff (env : Env) (w : World) (args : List String) (type : UInt8)
    (isGroup isGM : Bool) :
    (∃ result, w.createSkirmish env args type isGroup isGM = some result ∧
      Settled w (env.challenge w args type isGroup isGM) result) ↔
    ∀ c, env.challenge w args type isGroup isGM = some c →
      c.aType = ARENA_TYPE_5v5 ∧ c.Paired env w := by
  rw [World.createSkirmish]
  cases hchallenge : env.challenge w args type isGroup isGM with
  | none =>
    have hsettled : Settled w none (false, w) := ⟨rfl, rfl, fun _ _ => .inr rfl⟩
    exact iff_of_true ⟨(false, w), rfl, hsettled⟩ fun c h => nomatch h
  | some c =>
    have hc := proper_of_challenge hchallenge
    dsimp only
    rcases arenaType_cases hc.slot with htype | hout
    · rw [hc.settled_join_iff (by rw [htype]; decide)]
      simp [htype]
    · have hnone : c.join env w = none := by
        simp [Challenge.join, World.setSkirmishStatus, hout]
      have hne : c.aType ≠ ARENA_TYPE_5v5 := by
        intro h
        rw [h] at hout
        exact hout (by decide)
      simp [hnone, hne]

def fighter (guid : Guid) (auras : List ℕ) : Player :=
  ⟨guid, 80, none, some fun _ => false, false, false, false, false, fun id => id ∈ auras, false⟩

def duel : Env :=
  ⟨fun name => some (if name = "Foo" then fighter 1 [26013] else fighter 2 []), fun _ => none,
    fighter 3 [], true, false, fun _ => true, fun _ _ _ => 0, fun _ _ _ => false⟩

def idle : World := ⟨fun _ _ => SKIRMISH_NONE, [], fun _ => []⟩

/-- The deserter is turned away, and his opponent stays in the queue. -/
theorem duel_not_settled :
    ¬ ∃ result, idle.createSkirmish duel ["Foo", "Bar"] 2 false true = some result ∧
      Settled idle (duel.challenge idle ["Foo", "Bar"] 2 false true) result := by
  rintro ⟨⟨ok, w'⟩, heq, hsettled⟩
  have hresult : (idle.createSkirmish duel ["Foo", "Bar"] 2 false true).map
      (fun result => (result.1, result.2.queue)) = some (false, [⟨1, 2, [2]⟩]) := by
    decide +kernel
  rw [heq, Option.map_some, Option.some.injEq, Prod.mk.injEq] at hresult
  obtain ⟨rfl, hqueue⟩ := hresult
  exact absurd (hqueue.symm.trans hsettled.1) (List.cons_ne_nil _ _)

end FunPvp.Challenges
