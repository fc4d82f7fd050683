/-
# What a match does to the ratings

A rated match changes three ratings: the one of the team (`FinishGame`), the personal one of each
member (`ModifyPersonalRating`) and his matchmaker rating (`ModifyMatchmakerRating`). Each of them
looks at the sum first and stores a constant where it is too small.

So no rating ever wraps below zero. But only the constant of the matchmaker rating is the bound
itself. A team that would drop below 0 is given 1000, and a member who would drop below 500 is
given 1000 or 1500: a loss takes a low rating up. `lossesLower_iff` says which losses do.
-/
import FunPvp.Battleground.TempTeams

namespace FunPvp.Battleground

open FunPvp.Lib

/-! ## 1. The code -/

/-- `rating += mod`, over a `uint16`. Nothing is returned where that wraps below zero. -/
def addMod (rating : UInt16) (mod : ℤ) : Option UInt16 :=
  if (rating.toNat : ℤ) + mod < 0 then none
  else some (UInt16.ofNat (rating.toNat + mod).toNat)

/-- A rating is changed, unless that would take it below the bound. -/
def modifyRating (bound : ℤ) (reset rating : UInt16) (mod : ℤ) : Option UInt16 :=
  if (rating.toNat : ℤ) + mod < bound then some reset else addMod rating mod

/-- What `ModifyPersonalRating` gives to a member who would drop below 500. -/
def personalReset (type : ℕ) : UInt16 := if type = ARENA_TEAM_5v5 then 1500 else 1000

/-- `ArenaTeamMember::ModifyPersonalRating`. The fields of the player are left out. -/
def ArenaTeamMember.modifyPersonalRating (m : ArenaTeamMember) (mod : ℤ) (type : ℕ) :
    Option ArenaTeamMember :=
  (modifyRating 500 (personalReset type) m.PersonalRating mod).map fun rating =>
    { m with PersonalRating := rating }

def ArenaTeamMember.modifyMatchmakerRating (m : ArenaTeamMember) (mod : ℤ) :
    Option ArenaTeamMember :=
  (modifyRating 0 0 m.MatchMakerRating mod).map fun rating => { m with MatchMakerRating := rating }

/-- `ArenaTeam::FinishGame`. The rank is left out. -/
def ArenaTeam.finishGame (t : ArenaTeam) (mod : ℤ) : Option ArenaTeam :=
  -- Rating can only drop to 0
  (modifyRating 0 1000 t.Stats.Rating mod).map fun rating =>
    { t with
      Stats :=
        { t.Stats with
          Rating := rating
          WeekGames := t.Stats.WeekGames + 1
          SeasonGames := t.Stats.SeasonGames + 1 } }

def ArenaTeam.wonAgainst (t : ArenaTeam) (rating_change : ℤ) : Option ArenaTeam :=
  (t.finishGame rating_change).map fun t =>
    { t with
      Stats :=
        { t.Stats with
          WeekWins := t.Stats.WeekWins + 1
          SeasonWins := t.Stats.SeasonWins + 1 } }

def ArenaTeam.lostAgainst (t : ArenaTeam) (rating_change : ℤ) : Option ArenaTeam :=
  t.finishGame rating_change

/-- The loops over `Members`: the first member with the guid is changed. -/
def modifyFirst (guid : ObjectGuid) (f : ArenaTeamMember → Option ArenaTeamMember) :
    List ArenaTeamMember → Option (List ArenaTeamMember)
  | [] => some []
  | m :: members =>
    if m.Guid = guid then (f m).map (· :: members)
    else (modifyFirst guid f members).map (m :: ·)

/-- The ratings of a member after a match, and his games. -/
def ArenaTeamMember.played (type : ℕ) (mod MatchmakerRatingChange : ℤ) (m : ArenaTeamMember) :
    Option ArenaTeamMember := do
  let m ← m.modifyPersonalRating mod type
  let m ← m.modifyMatchmakerRating MatchmakerRatingChange
  some { m with WeekGames := m.WeekGames + 1, SeasonGames := m.SeasonGames + 1 }

def ArenaTeam.memberLost (t : ArenaTeam) (guid : ObjectGuid) (mod MatchmakerRatingChange : ℤ) :
    Option ArenaTeam :=
  (modifyFirst guid (ArenaTeamMember.played t.TeamType mod MatchmakerRatingChange) t.Members).map
    fun members => { t with Members := members }

/-- `ArenaTeam::OfflineMemberLost`: without a player, whose fields `MemberLost` sets. -/
def ArenaTeam.offlineMemberLost (t : ArenaTeam) (guid : ObjectGuid)
    (mod MatchmakerRatingChange : ℤ) : Option ArenaTeam :=
  t.memberLost guid mod MatchmakerRatingChange

def ArenaTeam.memberWon (t : ArenaTeam) (guid : ObjectGuid) (mod MatchmakerRatingChange : ℤ) :
    Option ArenaTeam :=
  (modifyFirst guid (fun m =>
    (m.played t.TeamType mod MatchmakerRatingChange).map fun m =>
      { m with SeasonWins := m.SeasonWins + 1, WeekWins := m.WeekWins + 1 }) t.Members).map
    fun members => { t with Members := members }

/-- What the end of a match tells a team. A loss takes points away. -/
inductive MatchResult
  | wonAgainst (rating_change : ℤ)
  | lostAgainst (loss : ℕ)
  | memberWon (guid : ObjectGuid) (mod MatchmakerRatingChange : ℤ)
  | memberLost (guid : ObjectGuid) (loss matchmakerLoss : ℕ)
  | offlineMemberLost (guid : ObjectGuid) (loss matchmakerLoss : ℕ)

def ArenaTeam.apply (t : ArenaTeam) : MatchResult → Option ArenaTeam
  | .wonAgainst rating_change => t.wonAgainst rating_change
  | .lostAgainst loss => t.lostAgainst (-loss)
  | .memberWon guid mod mmMod => t.memberWon guid mod mmMod
  | .memberLost guid loss mmLoss => t.memberLost guid (-loss) (-mmLoss)
  | .offlineMemberLost guid loss mmLoss => t.offlineMemberLost guid (-loss) (-mmLoss)

/-- One step of a run; nothing comes after a rating that has wrapped. -/
def ArenaTeam.step (t : Option ArenaTeam) (result : MatchResult) : Option ArenaTeam :=
  t.bind (·.apply result)

/-! ## 2. What a loss is supposed to do -/

def MatchResult.IsLoss : MatchResult → Prop
  | .lostAgainst _ | .memberLost .. | .offlineMemberLost .. => True
  | .wonAgainst _ | .memberWon .. => False

/-- No rating of the member has gone up. -/
def NoHigher (m m' : ArenaTeamMember) : Prop :=
  m'.PersonalRating ≤ m.PersonalRating ∧ m'.MatchMakerRating ≤ m.MatchMakerRating

/-- The result wraps no rating, and if it is a loss it takes none up. -/
def Lowers (t : Option ArenaTeam) (result : MatchResult) : Prop :=
  ∃ team team', t = some team ∧ team.apply result = some team' ∧
    (result.IsLoss → team'.Stats.Rating ≤ team.Stats.Rating ∧
      List.Forall₂ NoHigher team.Members team'.Members)

/-- The rating can pay for the loss, or is not below the constant that it is set to. -/
def CanPay (bound : ℕ) (reset rating : UInt16) (loss : ℕ) : Prop :=
  bound + loss ≤ rating.toNat ∨ reset ≤ rating

def Payable (t : Option ArenaTeam) (result : MatchResult) : Prop :=
  ∀ team, t = some team →
    match result with
    | .lostAgainst loss => CanPay 0 1000 team.Stats.Rating loss
    | .memberLost guid loss _ | .offlineMemberLost guid loss _ =>
      ∀ m, team.Members.find? (·.Guid = guid) = some m →
        CanPay 500 (personalReset team.TeamType) m.PersonalRating loss
    | .wonAgainst _ | .memberWon .. => True

/-! ## 3. One rating -/

theorem exists_modifyRating {bound : ℤ} (h : 0 ≤ bound) (reset rating : UInt16) (mod : ℤ) :
    ∃ rating', modifyRating bound reset rating mod = some rating' := by
  unfold modifyRating addMod
  split_ifs with hbound hzero
  · exact ⟨reset, rfl⟩
  · omega
  · exact ⟨_, rfl⟩

theorem modifyRating_le_iff (bound : ℕ) {reset rating rating' : UInt16} {loss : ℕ}
    (h : modifyRating bound reset rating (-loss) = some rating') :
    rating' ≤ rating ↔ CanPay bound reset rating loss := by
  unfold modifyRating addMod at h
  unfold CanPay
  split_ifs at h with hbound hzero
  · obtain rfl := Option.some.inj h
    constructor
    · exact Or.inr
    · rintro (hpay | hle)
      · omega
      · exact hle
  · obtain rfl := Option.some.inj h
    refine iff_of_true ?_ (Or.inl (by omega))
    have hlt := rating.toNat_lt
    rw [UInt16.le_iff_toNat_le, UInt16.toNat_ofNat', Nat.mod_eq_of_lt (by omega)]
    omega

/-! ## 4. The members -/

theorem exists_played (type : ℕ) (mod mmMod : ℤ) (m : ArenaTeamMember) :
    ∃ m', m.played type mod mmMod = some m' := by
  obtain ⟨personal, hpersonal⟩ :=
    exists_modifyRating (by decide : (0 : ℤ) ≤ 500) (personalReset type) m.PersonalRating mod
  obtain ⟨matchmaker, hmatchmaker⟩ :=
    exists_modifyRating le_rfl 0 m.MatchMakerRating mmMod
  exact ⟨_, by simp only [ArenaTeamMember.played, ArenaTeamMember.modifyPersonalRating,
    ArenaTeamMember.modifyMatchmakerRating, hpersonal, hmatchmaker, Option.map_some,
    Option.bind_eq_bind, Option.bind_some]; rfl⟩

theorem noHigher_played_iff {type loss mmLoss : ℕ} {m m' : ArenaTeamMember}
    (h : m.played type (-loss) (-mmLoss) = some m') :
    NoHigher m m' ↔ CanPay 500 (personalReset type) m.PersonalRating loss := by
  unfold ArenaTeamMember.played at h
  obtain ⟨m₁, hpersonal, h⟩ := Option.bind_eq_some_iff.mp h
  obtain ⟨m₂, hmatchmaker, h⟩ := Option.bind_eq_some_iff.mp h
  obtain rfl := Option.some.inj h
  obtain ⟨personal, hrating, rfl⟩ := Option.map_eq_some_iff.mp hpersonal
  obtain ⟨matchmaker, hmm, rfl⟩ := Option.map_eq_some_iff.mp hmatchmaker
  unfold NoHigher
  rw [← modifyRating_le_iff 500 hrating]
  exact and_iff_left ((modifyRating_le_iff 0 hmm).mpr (Or.inr (Nat.zero_le _)))

theorem NoHigher.refl (m : ArenaTeamMember) : NoHigher m m :=
  ⟨UInt16.le_refl _, UInt16.le_refl _⟩

theorem forall₂_noHigher_refl (members : List ArenaTeamMember) :
    List.Forall₂ NoHigher members members :=
  List.forall₂_same.mpr fun m _ => NoHigher.refl m

theorem exists_modifyFirst {f : ArenaTeamMember → Option ArenaTeamMember}
    (h : ∀ m, ∃ m', f m = some m') (guid : ObjectGuid) (members : List ArenaTeamMember) :
    ∃ members', modifyFirst guid f members = some members' := by
  induction members with
  | nil => exact ⟨[], rfl⟩
  | cons m members ih =>
    unfold modifyFirst
    split
    · obtain ⟨m', hm'⟩ := h m
      exact ⟨_, by rw [hm', Option.map_some]⟩
    · obtain ⟨members', hmembers'⟩ := ih
      exact ⟨_, by rw [hmembers', Option.map_some]⟩

theorem forall₂_modifyFirst_iff {f : ArenaTeamMember → Option ArenaTeamMember}
    {P : ArenaTeamMember → Prop} (h : ∀ m m', f m = some m' → (NoHigher m m' ↔ P m))
    {guid : ObjectGuid} {members members' : List ArenaTeamMember}
    (hmembers : modifyFirst guid f members = some members') :
    List.Forall₂ NoHigher members members' ↔
      ∀ m, members.find? (·.Guid = guid) = some m → P m := by
  induction members generalizing members' with
  | nil =>
    obtain rfl := Option.some.inj hmembers
    simp
  | cons m members ih =>
    unfold modifyFirst at hmembers
    split_ifs at hmembers with hguid
    · obtain ⟨m', hm', rfl⟩ := Option.map_eq_some_iff.mp hmembers
      rw [List.forall₂_cons, List.find?_cons_of_pos (by simpa using hguid), h m m' hm']
      simp only [Option.some.injEq, forall_eq', forall₂_noHigher_refl, and_true]
    · obtain ⟨rest, hrest, rfl⟩ := Option.map_eq_some_iff.mp hmembers
      rw [List.forall₂_cons, List.find?_cons_of_neg (by simpa using hguid), ih hrest]
      exact and_iff_right (NoHigher.refl m)

/-! ## 5. The team -/

theorem exists_finishGame (t : ArenaTeam) (mod : ℤ) : ∃ t', t.finishGame mod = some t' := by
  obtain ⟨rating, hrating⟩ := exists_modifyRating le_rfl 1000 t.Stats.Rating mod
  exact ⟨_, by rw [ArenaTeam.finishGame, hrating, Option.map_some]⟩

theorem exists_apply (t : ArenaTeam) (result : MatchResult) : ∃ t', t.apply result = some t' := by
  cases result with
  | wonAgainst rating_change =>
    obtain ⟨t', ht'⟩ := exists_finishGame t rating_change
    exact ⟨_, by rw [ArenaTeam.apply, ArenaTeam.wonAgainst, ht', Option.map_some]⟩
  | lostAgainst loss => exact exists_finishGame t (-loss)
  | memberWon guid mod mmMod =>
    have hplayed : ∀ m : ArenaTeamMember, ∃ m', ((m.played t.TeamType mod mmMod).map fun m =>
        { m with SeasonWins := m.SeasonWins + 1, WeekWins := m.WeekWins + 1 }) = some m' := by
      intro m
      obtain ⟨m', hm'⟩ := exists_played t.TeamType mod mmMod m
      exact ⟨_, by rw [hm', Option.map_some]⟩
    obtain ⟨members, hmembers⟩ := exists_modifyFirst hplayed guid t.Members
    exact ⟨_, by rw [ArenaTeam.apply, ArenaTeam.memberWon, hmembers, Option.map_some]⟩
  | memberLost guid loss mmLoss | offlineMemberLost guid loss mmLoss =>
    obtain ⟨members, hmembers⟩ :=
      exists_modifyFirst (exists_played t.TeamType (-loss) (-mmLoss)) guid t.Members
    refine ⟨{ t with Members := members }, ?_⟩
    simp only [ArenaTeam.apply, ArenaTeam.offlineMemberLost, ArenaTeam.memberLost, hmembers,
      Option.map_some]

theorem finishGame_lowers_iff {t t' : ArenaTeam} {loss : ℕ} (h : t.finishGame (-loss) = some t') :
    (t'.Stats.Rating ≤ t.Stats.Rating ∧ List.Forall₂ NoHigher t.Members t'.Members) ↔
      CanPay 0 1000 t.Stats.Rating loss := by
  obtain ⟨rating, hrating, rfl⟩ := Option.map_eq_some_iff.mp h
  rw [← modifyRating_le_iff 0 hrating]
  exact and_iff_left (forall₂_noHigher_refl t.Members)

theorem memberLost_lowers_iff {t t' : ArenaTeam} {guid : ObjectGuid} {loss mmLoss : ℕ}
    (h : t.memberLost guid (-loss) (-mmLoss) = some t') :
    (t'.Stats.Rating ≤ t.Stats.Rating ∧ List.Forall₂ NoHigher t.Members t'.Members) ↔
      ∀ m, t.Members.find? (·.Guid = guid) = some m →
        CanPay 500 (personalReset t.TeamType) m.PersonalRating loss := by
  obtain ⟨members, hmembers, rfl⟩ := Option.map_eq_some_iff.mp h
  rw [← forall₂_modifyFirst_iff (fun m m' => noHigher_played_iff) hmembers]
  exact and_iff_right (UInt16.le_refl _)

theorem lowers_iff_payable (t : ArenaTeam) (result : MatchResult) :
    Lowers (some t) result ↔ Payable (some t) result := by
  obtain ⟨t', ht'⟩ := exists_apply t result
  have hlowers : Lowers (some t) result ↔ (result.IsLoss →
      t'.Stats.Rating ≤ t.Stats.Rating ∧ List.Forall₂ NoHigher t.Members t'.Members) := by
    unfold Lowers
    simp [ht']
  rw [hlowers]
  unfold Payable
  simp only [Option.some.injEq, forall_eq']
  cases result with
  | wonAgainst rating_change => simp [MatchResult.IsLoss]
  | memberWon guid mod mmMod => simp [MatchResult.IsLoss]
  | lostAgainst loss => exact (forall_prop_of_true trivial).trans (finishGame_lowers_iff ht')
  | memberLost guid loss mmLoss =>
    exact (forall_prop_of_true trivial).trans (memberLost_lowers_iff ht')
  | offlineMemberLost guid loss mmLoss =>
    exact (forall_prop_of_true trivial).trans (memberLost_lowers_iff ht')

/-- **Which losses lower the ratings.**  Along every sequence of results no rating wraps below zero,
and no loss takes one up, if and only if every loss can be paid: by a team rating of at least the
loss or of 1000, and by a personal rating that stays at 500 or was not below what it is set to. -/
theorem lossesLower_iff (t : ArenaTeam) (results : List MatchResult) :
    Steps ArenaTeam.step Lowers (some t) results ↔
      Steps ArenaTeam.step Payable (some t) results := by
  refine Steps.congr (I := fun t => t.isSome) ?_ ?_ rfl results
  · intro t result ht
    obtain ⟨team, rfl⟩ := Option.isSome_iff_exists.mp ht
    obtain ⟨team', hteam'⟩ := exists_apply team result
    exact Option.isSome_iff_exists.mpr ⟨team', hteam'⟩
  · intro t result ht
    obtain ⟨team, rfl⟩ := Option.isSome_iff_exists.mp ht
    exact lowers_iff_payable team result

def lowTeam : ArenaTeam where
  addr := 0
  TeamId := 1
  TeamType := 2
  TeamName := "Low"
  CaptainGuid := 1
  Stats := ⟨10, 0, 0, 0, 0⟩
  Members := [⟨1, 0, 0, 0, 0, 510, 1500⟩]

/-- It loses 16 points and has 1000; its member loses 16 and has 1000 too. -/
theorem lowTeam_goes_up :
    ((lowTeam.lostAgainst (-16)).map fun t => t.Stats.Rating) = some 1000 ∧
      ((lowTeam.memberLost 1 (-16) (-16)).map fun t => t.Members.map (·.PersonalRating)) =
        some [1000] ∧
      ¬ Steps ArenaTeam.step Lowers (some lowTeam) [.lostAgainst 16] := by
  refine ⟨by decide +kernel, by decide +kernel, ?_⟩
  rintro ⟨⟨team, team', hteam, hteam', hloss⟩, -⟩
  obtain rfl := Option.some.inj hteam
  obtain rfl := Option.some.inj hteam'
  exact absurd (hloss trivial).1 (by decide +kernel)

end FunPvp.Battleground
