/-
# Arena teams are loaded with their members

`LoadArenaTeams` goes through the rows of `arena_team`, and through the rows of all members with one
cursor that the teams share. `LoadMembersFromDB` takes rows until the first one of a later team, on
which the cursor is left standing, or until there are none. A member whose character is gone is
deleted, and a team is disbanded if its captain is not among the others.

`loadArenaTeams_eq` says that in ascending order every team gets its own rows: the cursor is always
on the first row of a team that is still to come.
-/
import Mathlib

namespace FunPvp.ArenaTeams

/-! ## 1. The loops of the code -/

/-- A `std::string`. -/
abbrev Name := List Char

abbrev ObjectGuid := ℕ

structure ArenaTeamMember where
  Guid : ObjectGuid
  Name : Name
  Class : UInt8
  WeekGames : UInt16
  WeekWins : UInt16
  SeasonGames : UInt16
  SeasonWins : UInt16
  PersonalRating : UInt16
  MatchMakerRating : UInt16

structure ArenaTeam where
  TeamId : ℕ
  TeamName : Name
  CaptainGuid : ObjectGuid
  type : UInt8
  Members : List ArenaTeamMember

abbrev ArenaTeamStore := List ArenaTeam

def addArenaTeam (store : ArenaTeamStore) (arenaTeam : ArenaTeam) : ArenaTeamStore :=
  store.filter (·.TeamId ≠ arenaTeam.TeamId) ++ [arenaTeam]

def removeArenaTeam (store : ArenaTeamStore) (arenaTeamId : ℕ) : ArenaTeamStore :=
  store.filter (·.TeamId ≠ arenaTeamId)

structure TeamRow where
  arenaTeamId : ℕ
  name : Name
  captainGuid : ObjectGuid
  type : UInt8

/-- A row of `arena_team_member`, with the rating from `character_arena_stats`, which is 0 if there
is none. -/
structure MemberRow where
  arenaTeamId : ℕ
  guid : ObjectGuid
  weekGames : UInt16
  weekWins : UInt16
  seasonGames : UInt16
  seasonWins : UInt16
  personalRating : UInt16
  matchMakerRating : UInt16

/-- What the rows are joined with: the name and the class from `characters`, if the character is
there, and `CONFIG_ARENA_START_MATCHMAKER_RATING`. -/
structure Env where
  characters : ObjectGuid → Option (Name × UInt8)
  startMatchmakerRating : UInt16

/-- `fields[6]`: a missing name is read as an empty one. -/
def Env.nameOf (env : Env) (guid : ObjectGuid) : Name :=
  ((env.characters guid).map Prod.fst).getD []

def Env.newMember (env : Env) (row : MemberRow) : ArenaTeamMember where
  Guid := row.guid
  Name := env.nameOf row.guid
  Class := ((env.characters row.guid).map Prod.snd).getD 0
  WeekGames := row.weekGames
  WeekWins := row.weekWins
  SeasonGames := row.seasonGames
  SeasonWins := row.seasonWins
  PersonalRating := row.personalRating
  MatchMakerRating :=
    if row.matchMakerRating > 0 then row.matchMakerRating else env.startMatchmakerRating

/-- Where `LoadMembersFromDB` is: the team, `captainPresentInTeam`, the members it has deleted from
the database and the rows from the cursor on. -/
structure MemberLoad where
  team : ArenaTeam
  captainPresentInTeam : Bool
  deleted : List (ℕ × ObjectGuid)
  result : List MemberRow

def ArenaTeam.delMember (team : ArenaTeam) (guid : ObjectGuid) : ArenaTeam :=
  { team with Members := team.Members.eraseP fun member => member.Guid = guid }

/-- The loop of `LoadMembersFromDB`; without a row `Fetch` gives no fields. -/
def loadMembersLoop (env : Env) (team : ArenaTeam) (captainPresentInTeam : Bool)
    (deleted : List (ℕ × ObjectGuid)) : List MemberRow → MemberLoad
  | [] => ⟨team, captainPresentInTeam, deleted, []⟩
  | row :: rows =>
    if row.arenaTeamId > team.TeamId then ⟨team, captainPresentInTeam, deleted, row :: rows⟩
    else
      let newMember := env.newMember row
      if newMember.Name = [] then
        loadMembersLoop env (team.delMember newMember.Guid) captainPresentInTeam
          (deleted ++ [(team.TeamId, newMember.Guid)]) rows
      else
        loadMembersLoop env { team with Members := team.Members ++ [newMember] }
          (captainPresentInTeam || newMember.Guid = team.CaptainGuid) deleted rows

/-- `LoadMembersFromDB`; the result is NULL if the query has found no row at all. -/
def loadMembersFromDB (env : Env) (team : ArenaTeam) :
    Option (List MemberRow) → Bool × List (ℕ × ObjectGuid) × ArenaTeam × Option (List MemberRow)
  | none => (false, [], team, none)
  | some rows =>
    let load := loadMembersLoop env team false [] rows
    (!(load.team.Members.isEmpty || !load.captainPresentInTeam), load.deleted, load.team,
      some load.result)

/-- What loading has done: the store, and what it has deleted from the database. -/
structure Loading where
  store : ArenaTeamStore
  deletedMembers : List (ℕ × ObjectGuid)
  disbanded : List ℕ

def loadArenaTeamFromDB (row : TeamRow) : ArenaTeam :=
  ⟨row.arenaTeamId, row.name, row.captainGuid, row.type, []⟩

/-- The loop of `LoadArenaTeams`. `Disband` empties a team that is deleted right afterwards. -/
def loadArenaTeamsLoop (env : Env) (loading : Loading) (result2 : Option (List MemberRow)) :
    List TeamRow → Loading
  | [] => loading
  | row :: rows =>
    let newArenaTeam := loadArenaTeamFromDB row
    let (ok, deleted, loaded, result2) := loadMembersFromDB env newArenaTeam result2
    let deletedMembers := loading.deletedMembers ++ deleted
    if ok then
      loadArenaTeamsLoop env ⟨addArenaTeam loading.store loaded, deletedMembers, loading.disbanded⟩
        result2 rows
    else
      loadArenaTeamsLoop env ⟨removeArenaTeam loading.store loaded.TeamId, deletedMembers,
        loading.disbanded ++ [loaded.TeamId]⟩ result2 rows

def loadArenaTeams (env : Env) (teams : List TeamRow) (members : List MemberRow) : Loading :=
  loadArenaTeamsLoop env ⟨[], [], []⟩ (if members = [] then none else some members) teams

/-! ## 2. The members of a team -/

def Env.Named (env : Env) (row : MemberRow) : Prop := env.nameOf row.guid ≠ []

instance (env : Env) (row : MemberRow) : Decidable (env.Named row) := instDecidableNot

def Env.membersOf (env : Env) (rows : List MemberRow) : List ArenaTeamMember :=
  (rows.filter fun row => env.Named row).map env.newMember

def Env.deletedOf (env : Env) (rows : List MemberRow) : List (ℕ × ObjectGuid) :=
  (rows.filter fun row => ¬ env.Named row).map fun row => (row.arenaTeamId, row.guid)

variable {env : Env}

theorem delMember_eq {team : ArenaTeam} {guid : ObjectGuid}
    (hmembers : ∀ member ∈ team.Members, env.nameOf member.Guid ≠ [])
    (hgone : env.nameOf guid = []) : team.delMember guid = team := by
  have hnone : ∀ member ∈ team.Members, ¬ decide (member.Guid = guid) = true := by
    intro member hmem heq
    rw [decide_eq_true_eq] at heq
    exact hmembers member hmem (heq ▸ hgone)
  rw [ArenaTeam.delMember, List.eraseP_of_forall_not hnone]

theorem loadMembersLoop_append (env : Env) {team : ArenaTeam} {mine later : List MemberRow}
    (captain : Bool) (deleted : List (ℕ × ObjectGuid))
    (hmembers : ∀ member ∈ team.Members, env.nameOf member.Guid ≠ [])
    (hmine : ∀ row ∈ mine, row.arenaTeamId = team.TeamId)
    (hlater : ∀ row ∈ later, team.TeamId < row.arenaTeamId) :
    loadMembersLoop env team captain deleted (mine ++ later) =
      ⟨{ team with Members := team.Members ++ env.membersOf mine },
        captain || (env.membersOf mine).any fun member => member.Guid = team.CaptainGuid,
        deleted ++ env.deletedOf mine, later⟩ := by
  induction mine generalizing team captain deleted with
  | nil =>
    cases later with
    | nil => simp [loadMembersLoop, Env.membersOf, Env.deletedOf]
    | cons row later =>
      have hgt : row.arenaTeamId > team.TeamId := hlater row List.mem_cons_self
      simp [loadMembersLoop, Env.membersOf, Env.deletedOf, hgt]
  | cons row mine ih =>
    have hid : row.arenaTeamId = team.TeamId := hmine row List.mem_cons_self
    have hrest := fun row hrow => hmine row (List.mem_cons_of_mem _ hrow)
    rw [List.cons_append, loadMembersLoop, if_neg (by omega)]
    dsimp only
    by_cases hname : (env.newMember row).Name = []
    · have hnot : ¬ env.Named row := not_not.mpr hname
      rw [if_pos hname, show (env.newMember row).Guid = row.guid from rfl,
        delMember_eq hmembers hname, ih _ _ hmembers hrest hlater]
      simp [Env.membersOf, Env.deletedOf, hnot, hid]
    · have hnamed : env.Named row := hname
      rw [if_neg hname, ih]
      · simp [Env.membersOf, Env.deletedOf, hnamed, Bool.or_assoc]
      · intro member hmem
        rcases List.mem_append.mp hmem with hold | hnew
        · exact hmembers member hold
        · rw [List.mem_singleton.mp hnew]
          exact hname
      · exact hrest
      · exact hlater

/-! ## 3. The merge join -/

def TeamRow.own (team : TeamRow) (members : List MemberRow) : List MemberRow :=
  members.filter fun row => row.arenaTeamId = team.arenaTeamId

def TeamRow.Captained (env : Env) (members : List MemberRow) (team : TeamRow) : Prop :=
  ∃ member ∈ env.membersOf (team.own members), member.Guid = team.captainGuid

instance (members : List MemberRow) : DecidablePred (TeamRow.Captained env members) := fun _ =>
  List.decidableBEx _ _

def TeamRow.loaded (env : Env) (members : List MemberRow) (team : TeamRow) : ArenaTeam :=
  { loadArenaTeamFromDB team with Members := env.membersOf (team.own members) }

theorem own_append {team : TeamRow} {members : List MemberRow}
    (hsorted : members.Pairwise fun row row' => row.arenaTeamId ≤ row'.arenaTeamId)
    (hle : ∀ row ∈ members, team.arenaTeamId ≤ row.arenaTeamId) :
    team.own members ++ members.filter (fun row => team.arenaTeamId < row.arenaTeamId) =
      members := by
  induction members with
  | nil => rfl
  | cons row members ih =>
    obtain ⟨hhead, htail⟩ := List.pairwise_cons.mp hsorted
    by_cases heq : row.arenaTeamId = team.arenaTeamId
    · have hrest := ih htail fun row' hrow => hle row' (List.mem_cons_of_mem _ hrow)
      simpa [TeamRow.own, heq] using hrest
    · have hlt : team.arenaTeamId < row.arenaTeamId :=
        lt_of_le_of_ne (hle row List.mem_cons_self) (Ne.symm heq)
      have hall : ∀ row' ∈ row :: members, team.arenaTeamId < row'.arenaTeamId := by
        intro row' hrow
        rcases List.mem_cons.mp hrow with rfl | hrow
        · exact hlt
        · exact hlt.trans_le (hhead row' hrow)
      rw [TeamRow.own, List.filter_eq_nil_iff.mpr, List.filter_eq_self.mpr, List.nil_append]
      · exact fun row' hrow => decide_eq_true (hall row' hrow)
      · exact fun row' hrow => by simpa using (hall row' hrow).ne'

theorem loadMembersFromDB_eq {team : TeamRow} {members : List MemberRow}
    (hsorted : members.Pairwise fun row row' => row.arenaTeamId ≤ row'.arenaTeamId)
    (hle : ∀ row ∈ members, team.arenaTeamId ≤ row.arenaTeamId) :
    loadMembersFromDB env (loadArenaTeamFromDB team) (some members) =
      (decide (team.Captained env members), env.deletedOf (team.own members),
        team.loaded env members,
        some (members.filter fun row => team.arenaTeamId < row.arenaTeamId)) := by
  have hloop := loadMembersLoop_append env false []
    (fun member hmem => absurd hmem List.not_mem_nil)
    (fun row hrow => of_decide_eq_true (List.mem_filter.mp hrow).2 :
      ∀ row ∈ team.own members, row.arenaTeamId = (loadArenaTeamFromDB team).TeamId)
    (fun row hrow => of_decide_eq_true (List.mem_filter.mp hrow).2 :
      ∀ row ∈ members.filter fun row => team.arenaTeamId < row.arenaTeamId,
        (loadArenaTeamFromDB team).TeamId < row.arenaTeamId)
  rw [own_append hsorted hle] at hloop
  rw [loadMembersFromDB, hloop]
  refine Prod.ext ?_ rfl
  rw [Bool.eq_iff_iff, decide_eq_true_iff, TeamRow.Captained]
  cases env.membersOf (team.own members) with
  | nil => simp [loadArenaTeamFromDB]
  | cons member rest =>
    simp only [Bool.false_or, Bool.not_or, Bool.not_not, Bool.and_eq_true, List.any_eq_true,
      decide_eq_true_eq]
    exact and_iff_right rfl

theorem own_filter_lt {team team' : TeamRow} (members : List MemberRow)
    (hlt : team.arenaTeamId < team'.arenaTeamId) :
    team'.own (members.filter fun row => team.arenaTeamId < row.arenaTeamId) =
      team'.own members := by
  rw [TeamRow.own, TeamRow.own, List.filter_filter]
  refine List.filter_congr fun row _ => ?_
  rw [Bool.and_eq_left_iff_imp, decide_eq_true_iff, decide_eq_true_iff]
  omega

theorem filter_ne_of_forall {store : ArenaTeamStore} {id : ℕ} (h : ∀ t ∈ store, t.TeamId ≠ id) :
    (store.filter fun t => t.TeamId ≠ id) = store :=
  List.filter_eq_self.mpr fun t ht => decide_eq_true (h t ht)

def Loading.and (loading : Loading) (env : Env) (teams : List TeamRow) (members : List MemberRow) :
    Loading where
  store := loading.store ++
    (teams.filter (TeamRow.Captained env members)).map (TeamRow.loaded env members)
  deletedMembers := loading.deletedMembers ++ env.deletedOf members
  disbanded := loading.disbanded ++
    (teams.filter fun team => ¬ team.Captained env members).map TeamRow.arenaTeamId

theorem loadArenaTeamsLoop_eq {teams : List TeamRow} {members : List MemberRow} {loading : Loading}
    (hteams : teams.Pairwise fun team team' => team.arenaTeamId < team'.arenaTeamId)
    (hsorted : members.Pairwise fun row row' => row.arenaTeamId ≤ row'.arenaTeamId)
    (hpresent : ∀ row ∈ members, ∃ team ∈ teams, team.arenaTeamId = row.arenaTeamId)
    (hnew : ∀ t ∈ loading.store, ∀ team ∈ teams, t.TeamId ≠ team.arenaTeamId) :
    loadArenaTeamsLoop env loading (some members) teams = loading.and env teams members := by
  induction teams generalizing members loading with
  | nil =>
    have hnone : members = [] := List.eq_nil_iff_forall_not_mem.mpr fun row hrow => by
      obtain ⟨team, hteam, -⟩ := hpresent row hrow
      exact absurd hteam List.not_mem_nil
    simp [loadArenaTeamsLoop, Loading.and, hnone, Env.deletedOf]
  | cons team teams ih =>
    obtain ⟨hfirst, hrest⟩ := List.pairwise_cons.mp hteams
    have hle : ∀ row ∈ members, team.arenaTeamId ≤ row.arenaTeamId := by
      intro row hrow
      obtain ⟨team', hteam', heq⟩ := hpresent row hrow
      rw [← heq]
      rcases List.mem_cons.mp hteam' with rfl | hmem
      · exact le_rfl
      · exact (hfirst team' hmem).le
    let later := members.filter fun row => team.arenaTeamId < row.arenaTeamId
    have hpresent' : ∀ row ∈ later, ∃ team ∈ teams, team.arenaTeamId = row.arenaTeamId := by
      intro row hrow
      obtain ⟨hmem, hlt⟩ := List.mem_filter.mp hrow
      obtain ⟨team', hteam', heq⟩ := hpresent row hmem
      refine ⟨team', (List.mem_cons.mp hteam').resolve_left ?_, heq⟩
      rintro rfl
      exact absurd (of_decide_eq_true hlt) (heq ▸ lt_irrefl _)
    -- behind the cursor the later teams are what they are among all rows
    have hsame : ∀ team' ∈ teams, team'.own later = team'.own members := fun team' hmem =>
      own_filter_lt members (hfirst team' hmem)
    have hcaptained : ∀ team' ∈ teams,
        (team'.Captained env later ↔ team'.Captained env members) := by
      intro team' hmem
      rw [TeamRow.Captained, TeamRow.Captained, hsame team' hmem]
    have hdeleted :
        env.deletedOf members = env.deletedOf (team.own members) ++ env.deletedOf later := by
      conv_lhs => rw [← own_append hsorted hle]
      simp [Env.deletedOf, later]
    have hkept : ∀ t ∈ loading.store, t.TeamId ≠ team.arenaTeamId := fun t ht =>
      hnew t ht team List.mem_cons_self
    have hstore : ∀ l : List TeamRow, (∀ team' ∈ l, team' ∈ teams) →
        l.map (TeamRow.loaded env later) = l.map (TeamRow.loaded env members) := by
      intro l hl
      refine List.map_congr_left fun team' hmem => ?_
      rw [TeamRow.loaded, TeamRow.loaded, hsame team' (hl team' hmem)]
    have hregister : teams.filter (TeamRow.Captained env later) =
        teams.filter (TeamRow.Captained env members) :=
      List.filter_congr fun team' hmem => decide_eq_decide.mpr (hcaptained team' hmem)
    have hdisband : (teams.filter fun team' => ¬ team'.Captained env later) =
        teams.filter fun team' => ¬ team'.Captained env members :=
      List.filter_congr fun team' hmem => decide_eq_decide.mpr (hcaptained team' hmem).not
    have hnext := fun loading hnew => @ih later loading hrest (hsorted.filter _) hpresent' hnew
    rw [loadArenaTeamsLoop, loadMembersFromDB_eq hsorted hle]
    dsimp only
    by_cases hcaptain : team.Captained env members
    · rw [if_pos (decide_eq_true hcaptain), hnext]
      · simp only [Loading.and, addArenaTeam]
        rw [show (team.loaded env members).TeamId = team.arenaTeamId from rfl,
          filter_ne_of_forall hkept, hregister, hdisband, hdeleted,
          hstore _ fun team' hmem => List.mem_of_mem_filter hmem]
        simp [hcaptain]
      · intro t ht team' hmem
        rcases List.mem_append.mp ht with hold | hadded
        · exact hnew t (List.mem_of_mem_filter hold) team' (List.mem_cons_of_mem _ hmem)
        · rw [List.mem_singleton.mp hadded]
          exact (hfirst team' hmem).ne
    · rw [if_neg (by simpa using hcaptain), hnext]
      · simp only [Loading.and, removeArenaTeam]
        rw [show (team.loaded env members).TeamId = team.arenaTeamId from rfl,
          filter_ne_of_forall hkept, hregister, hdisband, hdeleted,
          hstore _ fun team' hmem => List.mem_of_mem_filter hmem]
        simp [hcaptain]
      · intro t ht team' hmem
        exact hnew t (List.mem_of_mem_filter ht) team' (List.mem_cons_of_mem _ hmem)

theorem loadArenaTeamsLoop_none (deletedMembers : List (ℕ × ObjectGuid)) (disbanded : List ℕ)
    (teams : List TeamRow) :
    loadArenaTeamsLoop env ⟨[], deletedMembers, disbanded⟩ none teams =
      ⟨[], deletedMembers, disbanded ++ teams.map TeamRow.arenaTeamId⟩ := by
  induction teams generalizing disbanded with
  | nil => simp [loadArenaTeamsLoop]
  | cons team teams ih =>
    simp [loadArenaTeamsLoop, loadMembersFromDB, removeArenaTeam, loadArenaTeamFromDB, ih]

/-- **Loading is a merge join.**  The ids of the teams are the key of their table. Each team
has its own rows, in their order and without those of deleted characters; it is registered if one of
its members is the captain, and disbanded otherwise. -/
theorem loadArenaTeams_eq (env : Env) {teams : List TeamRow} {members : List MemberRow}
    (hteams : teams.Pairwise fun team team' => team.arenaTeamId < team'.arenaTeamId)
    (hsorted : members.Pairwise fun row row' => row.arenaTeamId ≤ row'.arenaTeamId)
    (hpresent : ∀ row ∈ members, ∃ team ∈ teams, team.arenaTeamId = row.arenaTeamId) :
    loadArenaTeams env teams members =
      ⟨(teams.filter (TeamRow.Captained env members)).map (TeamRow.loaded env members),
        env.deletedOf members,
        (teams.filter fun team => ¬ team.Captained env members).map TeamRow.arenaTeamId⟩ := by
  rw [loadArenaTeams]
  split_ifs with hmembers
  · subst hmembers
    have hnot : ∀ team : TeamRow, ¬ team.Captained env [] := by
      rintro team ⟨member, hmem, -⟩
      exact absurd hmem List.not_mem_nil
    rw [loadArenaTeamsLoop_none]
    simp [hnot, Env.deletedOf]
  · rw [loadArenaTeamsLoop_eq hteams hsorted hpresent fun t ht => absurd ht List.not_mem_nil]
    simp [Loading.and]

/-- The first team has two members and a row of a deleted character, the second one no row at all,
and the third one a member who is not its captain. -/
theorem threeTeams_loaded :
    loadArenaTeams ⟨fun guid => if guid = 9 then none else some (['A'], 1), 1500⟩
      [⟨1, ['X'], 7, 2⟩, ⟨3, ['Y'], 7, 3⟩, ⟨4, ['Z'], 8, 5⟩]
      [⟨1, 6, 0, 0, 0, 0, 0, 0⟩, ⟨1, 9, 0, 0, 0, 0, 0, 0⟩, ⟨1, 7, 0, 0, 0, 0, 0, 0⟩,
        ⟨4, 5, 0, 0, 0, 0, 0, 0⟩] =
      ⟨[⟨1, ['X'], 7, 2, [⟨6, ['A'], 1, 0, 0, 0, 0, 0, 1500⟩, ⟨7, ['A'], 1, 0, 0, 0, 0, 0, 1500⟩]⟩],
        [(1, 9)], [3, 4]⟩ :=
  (loadArenaTeams_eq _ (by decide) (by decide) (by decide)).trans rfl

end FunPvp.ArenaTeams
