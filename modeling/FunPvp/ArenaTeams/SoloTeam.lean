/-
# The arena team of a solo player

`CreateArenateam` looks for a name that no team has, beginning with the player's own, and goes on
with his name and a number. The number is never counted up, so if the first two names are taken
the loop does not end. And the name it has found is not the one that is given to the team: `Create`
puts "[SoloQ 3v3]: " before it, and leaves the check for a taken name to its caller.

`createsFresh_iff` says that this is all: it ends with a fresh name exactly if one of the two names
is free, and free with the prefix as well.
-/
import FunPvp.ArenaTeams.LoadTeams
import FunPvp.Lib.While

namespace FunPvp.ArenaTeams

open Lib

/-! ## 1. `CreateArenateam` -/

def ARENA_TEAM_2v2 : UInt8 := 2

def ARENA_TEAM_3v3 : UInt8 := 3

def ARENA_TEAM_5v5 : UInt8 := 5

def ARENA_TYPE_5v5 : UInt8 := 1

def MAX_ARENA_SLOT : UInt8 := 3

def getSlotByType (type : UInt8) : UInt8 :=
  if type = ARENA_TEAM_2v2 then 0 else if type = ARENA_TEAM_3v3 then 1
  else if type = ARENA_TEAM_5v5 then 2 else 0xFF

/-- `std::transform` with `::toupper`. -/
def Name.toUpper (name : Name) : Name := name.map Char.toUpper

structure ArenaTeamMgr where
  ArenaTeamStore : ArenaTeamStore
  NextArenaTeamId : ℕ

def ArenaTeamMgr.getArenaTeamByName (mgr : ArenaTeamMgr) (arenaTeamName : Name) :
    Option ArenaTeam :=
  mgr.ArenaTeamStore.find? fun team => arenaTeamName.toUpper = team.TeamName.toUpper

structure Player where
  name : Name
  guid : ObjectGuid
  getClass : UInt8
  arenaTeamId : UInt8 → ℕ

/-- What the functions ask for: `ObjectAccessor::FindPlayer`, `GetArenaTeamIdFromDB`, and the rating
from `CHAR_SEL_MATCH_MAKER_RATING`, if there is one. -/
structure SoloEnv extends Env where
  findPlayer : ObjectGuid → Option Player
  arenaTeamIdFromDB : ObjectGuid → UInt8 → ℕ
  matchMakerRating : ObjectGuid → UInt8 → Option UInt16

def SoloEnv.setInArenaTeam (env : SoloEnv) (guid : ObjectGuid) (slot : UInt8) (arenaTeamId : ℕ) :
    SoloEnv :=
  { env with findPlayer := fun other => (env.findPlayer other).map fun player =>
      if other = guid then
        { player with arenaTeamId := Function.update player.arenaTeamId slot arenaTeamId }
      else player }

/-- `AddMember`. A member of a team of this type starts with a rating of 1000; the configured
rating of other types is left out. -/
def ArenaTeam.addMember (env : SoloEnv) (team : ArenaTeam) (playerGuid : ObjectGuid) :
    ArenaTeam × SoloEnv :=
  if team.Members.length ≥ team.type.toNat * 2 ∨
      (team.type = ARENA_TYPE_5v5 ∧ team.Members.length = 1) then (team, env)
  else
    let player := env.findPlayer playerGuid
    match (player.map fun p => (p.name, p.getClass)) <|> env.characters playerGuid with
    | none => (team, env)
    | some (playerName, playerClass) =>
      let slot := getSlotByType team.type
      if (player.any fun p => p.arenaTeamId slot ≠ 0) ∨
          env.arenaTeamIdFromDB playerGuid team.type ≠ 0 then (team, env)
      else
        ({ team with Members := team.Members ++ [⟨playerGuid, playerName, playerClass, 0, 0, 0, 0,
            1000, (env.matchMakerRating playerGuid slot).getD env.startMatchmakerRating⟩] },
          env.setInArenaTeam playerGuid slot team.TeamId)

def soloPrefix : Name := "[SoloQ 3v3]: ".toList

/-- `ArenaTeam::Create`, of a type whose names it does not check. -/
def ArenaTeamMgr.create (mgr : ArenaTeamMgr) (env : SoloEnv) (captainGuid : ObjectGuid)
    (teamName : Name) : Option (ArenaTeam × SoloEnv) × ArenaTeamMgr :=
  if (env.findPlayer captainGuid).isNone then (none, mgr)
  else
    let arenaTeam : ArenaTeam :=
      ⟨mgr.NextArenaTeamId, soloPrefix ++ teamName, captainGuid, ARENA_TEAM_5v5, []⟩
    (some (arenaTeam.addMember env captainGuid),
      { mgr with NextArenaTeamId := mgr.NextArenaTeamId + 1 })

/-- A round of the loop, which leaves `i` as it is. -/
def ArenaTeamMgr.nameRound (mgr : ArenaTeamMgr) (player : Player) :
    Name × ℕ → Except Name (Name × ℕ)
  | (teamName, i) =>
    if (mgr.getArenaTeamByName teamName).isSome then
      let teamName := player.name ++ Nat.toDigits 10 i
      if i < 100 then .ok (teamName, i) else .error teamName
    else .error teamName

/-- The end of `CreateArenateam`: the team it registers, if it returns `true`. The store has the
team by its pointer. -/
def ArenaTeamMgr.register (mgr : ArenaTeamMgr) (env : SoloEnv) (player : Player) (teamName : Name) :
    Option ArenaTeam × ArenaTeamMgr :=
  match mgr.create env player.guid teamName with
  | (none, mgr) => (none, mgr)
  | (some (arenaTeam, env), mgr) =>
    let arenaTeam := (arenaTeam.addMember env player.guid).1
    (some arenaTeam, { mgr with ArenaTeamStore := addArenaTeam mgr.ArenaTeamStore arenaTeam })

/-- `CreateArenateam`. There is no result when the rounds run out. -/
def ArenaTeamMgr.createArenateam (mgr : ArenaTeamMgr) (env : SoloEnv) (fuel : ℕ)
    (player : Option Player) (me : Bool) : Option (Option ArenaTeam × ArenaTeamMgr) :=
  match player with
  | none => some (none, mgr)
  | some player =>
    let slot := getSlotByType ARENA_TEAM_5v5
    if ¬ me ∨ slot ≥ MAX_ARENA_SLOT ∨ player.arenaTeamId slot ≠ 0 then some (none, mgr)
    else (whileLoop (mgr.nameRound player) fuel (player.name, 1)).map (mgr.register env player)

/-! ## 2. The name -/

variable {mgr : ArenaTeamMgr} {env : SoloEnv} {player : Player}

def ArenaTeamMgr.Free (mgr : ArenaTeamMgr) (name : Name) : Prop :=
  ∀ team ∈ mgr.ArenaTeamStore, name.toUpper ≠ team.TeamName.toUpper

instance (name : Name) : Decidable (mgr.Free name) := List.decidableBAll _ _

variable {name : Name} {me : Bool}

theorem isSome_getArenaTeamByName :
    (mgr.getArenaTeamByName name).isSome ↔ ¬ mgr.Free name := by
  simp [ArenaTeamMgr.getArenaTeamByName, ArenaTeamMgr.Free]

def ArenaTeamMgr.chosen (mgr : ArenaTeamMgr) (player : Player) : Option Name :=
  if mgr.Free player.name then some player.name
  else if mgr.Free (player.name ++ ['1']) then some (player.name ++ ['1'])
  else none

theorem nameRound_of_free {i : ℕ} (h : mgr.Free name) :
    mgr.nameRound player (name, i) = .error name := by
  rw [ArenaTeamMgr.nameRound, if_neg (isSome_getArenaTeamByName.not.mpr (not_not.mpr h))]

theorem nameRound_of_taken (h : ¬ mgr.Free name) :
    mgr.nameRound player (name, 1) = .ok (player.name ++ ['1'], 1) := by
  rw [ArenaTeamMgr.nameRound, if_pos (isSome_getArenaTeamByName.mpr h)]
  rfl

theorem gives_chosen (h : mgr.chosen player = some name) :
    Gives (mgr.nameRound player) (player.name, 1) name := by
  rw [ArenaTeamMgr.chosen] at h
  split_ifs at h with hown hnext
  · obtain rfl := Option.some.inj h
    exact .leave (nameRound_of_free hown)
  · obtain rfl := Option.some.inj h
    exact .next (nameRound_of_taken hown) (.leave (nameRound_of_free hnext))

theorem whileLoop_nameRound (h : mgr.chosen player = none) (fuel : ℕ) :
    whileLoop (mgr.nameRound player) fuel (player.name, 1) = none := by
  rw [ArenaTeamMgr.chosen] at h
  split_ifs at h with hown hnext
  cases fuel with
  | zero => rfl
  | succ fuel =>
    rw [whileLoop, nameRound_of_taken hown]
    exact whileLoop_eq_none (nameRound_of_taken hnext) fuel

/-! ## 3. The team -/

@[simp] theorem teamName_addMember (team : ArenaTeam) (guid : ObjectGuid) :
    (team.addMember env guid).1.TeamName = team.TeamName := by
  rw [ArenaTeam.addMember]
  split_ifs
  · rfl
  · dsimp only
    split
    · rfl
    · split_ifs <;> rfl

/-- `CreateArenateam` comes back, and if it registers a team no other team has its name. -/
def ArenaTeamMgr.CreatesFresh (mgr : ArenaTeamMgr) (env : SoloEnv) (player : Option Player)
    (me : Bool) : Prop :=
  ∃ registered mgr', (∃ needed, ∀ fuel, needed ≤ fuel →
      mgr.createArenateam env fuel player me = some (registered, mgr')) ∧
    ∀ team, registered = some team → mgr.Free team.TeamName

/-- What it asks for before it looks for a name. -/
def Player.Teamless (player : Player) (me : Bool) : Prop :=
  me = true ∧ player.arenaTeamId (getSlotByType ARENA_TEAM_5v5) = 0

theorem createArenateam_eq (h : player.Teamless me) (fuel : ℕ) :
    mgr.createArenateam env fuel (some player) me =
      (whileLoop (mgr.nameRound player) fuel (player.name, 1)).map (mgr.register env player) := by
  have hguard : ¬ (¬ me ∨ getSlotByType ARENA_TEAM_5v5 ≥ MAX_ARENA_SLOT ∨
      player.arenaTeamId (getSlotByType ARENA_TEAM_5v5) ≠ 0) := by
    rw [h.1, h.2]
    decide
  exact if_neg hguard

theorem createArenateam_of_not_teamless {player : Option Player}
    (h : ∀ p, player = some p → ¬ p.Teamless me) (fuel : ℕ) :
    mgr.createArenateam env fuel player me = some (none, mgr) := by
  cases player with
  | none => rfl
  | some p =>
    refine if_pos ?_
    by_contra hguard
    rw [not_or, not_or, not_not, not_not] at hguard
    exact h p rfl ⟨hguard.1, hguard.2.2⟩

theorem teamName_register (mgr : ArenaTeamMgr) (env : SoloEnv) (player : Player) (name : Name) :
    (mgr.register env player name).1.map ArenaTeam.TeamName =
      (env.findPlayer player.guid).map fun _ => soloPrefix ++ name := by
  rw [ArenaTeamMgr.register, ArenaTeamMgr.create]
  cases env.findPlayer player.guid with
  | none => rfl
  | some captain => simp

theorem not_createsFresh_of_taken (h : player.Teamless me)
    (htaken : mgr.chosen player = none) : ¬ mgr.CreatesFresh env (some player) me := by
  rintro ⟨registered, mgr', ⟨needed, hreturns⟩, -⟩
  have hnone := hreturns needed le_rfl
  rw [createArenateam_eq h, whileLoop_nameRound htaken] at hnone
  exact nomatch hnone

theorem createsFresh_iff_of_chosen (h : player.Teamless me)
    (hname : mgr.chosen player = some name) : mgr.CreatesFresh env (some player) me ↔
      ((env.findPlayer player.guid).isSome → mgr.Free (soloPrefix ++ name)) := by
  obtain ⟨needed, hloop⟩ := gives_chosen hname
  have hresult : ∀ fuel, needed ≤ fuel →
      mgr.createArenateam env fuel (some player) me = some (mgr.register env player name) := by
    intro fuel hfuel
    rw [createArenateam_eq h, hloop fuel hfuel, Option.map_some]
  have hteam := teamName_register mgr env player name
  constructor
  · rintro ⟨registered, mgr', ⟨needed', hreturns⟩, hfree⟩ hfound
    obtain ⟨captain, hcaptain⟩ := Option.isSome_iff_exists.mp hfound
    have heq := (hreturns (needed + needed') (Nat.le_add_left _ _)).symm.trans
      (hresult (needed + needed') (Nat.le_add_right _ _))
    rw [hcaptain, Option.map_some, ← Option.some.inj heq] at hteam
    obtain ⟨team, hregistered, heq⟩ := Option.map_eq_some_iff.mp hteam
    rw [← heq]
    exact hfree team hregistered
  · intro hfree
    refine ⟨(mgr.register env player name).1, _, ⟨needed, hresult⟩, fun team hregistered => ?_⟩
    rw [hregistered] at hteam
    obtain ⟨captain, hcaptain, heq⟩ := Option.map_eq_some_iff.mp hteam.symm
    rw [← heq]
    exact hfree (Option.isSome_of_eq_some hcaptain)

/-- **When a solo team gets a fresh name**: when one of the two names is free, and no team has it
with the prefix, if the captain is found. -/
theorem createsFresh_iff (mgr : ArenaTeamMgr) (env : SoloEnv) (player : Option Player) (me : Bool) :
    mgr.CreatesFresh env player me ↔ ∀ p, player = some p → p.Teamless me →
      ∃ name, mgr.chosen p = some name ∧
        ((env.findPlayer p.guid).isSome → mgr.Free (soloPrefix ++ name)) := by
  constructor
  · rintro hfresh p rfl hteamless
    cases hchosen : mgr.chosen p with
    | none => exact absurd hfresh (not_createsFresh_of_taken hteamless hchosen)
    | some name => exact ⟨name, rfl, (createsFresh_iff_of_chosen hteamless hchosen).mp hfresh⟩
  · intro h
    by_cases hteamless : ∃ p, player = some p ∧ p.Teamless me
    · obtain ⟨p, rfl, hteamless⟩ := hteamless
      obtain ⟨name, hchosen, hfree⟩ := h p rfl hteamless
      exact (createsFresh_iff_of_chosen hteamless hchosen).mpr hfree
    · have hnot := fun p hp hp' => hteamless ⟨p, hp, hp'⟩
      exact ⟨none, mgr, ⟨0, fun fuel _ => createArenateam_of_not_teamless hnot fuel⟩,
        fun team hteam => nomatch hteam⟩

def foo : Player := ⟨"Foo".toList, 1, 1, fun _ => 0⟩

/-- There are teams "FOO" and "foo1": the call does not come back. -/
theorem foo_hangs :
    ¬ ArenaTeamMgr.CreatesFresh ⟨[⟨1, "FOO".toList, 2, 2, []⟩, ⟨2, "foo1".toList, 3, 2, []⟩], 3⟩
      ⟨⟨fun _ => none, 1500⟩, fun _ => some foo, fun _ _ => 0, fun _ _ => none⟩ (some foo) true :=
  not_createsFresh_of_taken ⟨rfl, rfl⟩ (by decide)

end FunPvp.ArenaTeams
