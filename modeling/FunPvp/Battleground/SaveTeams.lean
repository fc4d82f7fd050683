/-
# Saving a temporary team

When a solo arena ends, `SaveToDB` of a temporary team does not save that team: it writes what
the match has changed back into the real team of each member, the 5v5 team he is the captain of.

It goes through the members twice. The first pass looks the real teams up and packs those it
finds into `realTeams`; the second takes `realTeams` by the position of the member. The two agree
if every team is found, and then every member's own team gets the member's statistics and the
common change of the rating (`saveToDB_writes_back`): at least 0, and not at all if the change is
out of the range of a match.
-/
import FunPvp.Battleground.TempTeams

namespace FunPvp.Battleground

open FunPvp.Lib

/-! ## 1. The code -/

/-- The order in which the iterators go through `ArenaTeamStore`. -/
structure ArenaTeamMgr.Order (mgr : ArenaTeamMgr) where
  keys : List ℕ
  mem_keys : ∀ id, id ∈ keys ↔ mgr.ArenaTeamStore id ≠ none

/-- "Find real arena team for player": the first solo team he is the captain of. -/
def ArenaTeamMgr.findRealTeam (mgr : ArenaTeamMgr) (order : mgr.Order) (guid : ObjectGuid) :
    Option (ℕ × ArenaTeam) :=
  (order.keys.filterMap fun id => (mgr.ArenaTeamStore id).map fun team => (id, team)).find?
    fun entry => entry.1 < TEMP_ARENA_TEAM_ID && entry.2.CaptainGuid = guid &&
      entry.2.TeamType = ARENA_TEAM_5v5

/-- What `SaveToDB` leaves: the registry, and the teams that `SaveToDBHelper` has saved. -/
structure SaveResult where
  mgr : ArenaTeamMgr
  saved : List ℕ

/-- The first pass: the packed `realTeams`, and the sum of their ratings. Nothing is returned
where the `ASSERT` stops the server. -/
def collectRealTeams (mgr : ArenaTeamMgr) (order : mgr.Order) :
    List ArenaTeamMember → List ℕ → ℕ → Option (List ℕ × ℕ)
  | [], realTeams, oldRating => some (realTeams, oldRating)
  | m :: members, realTeams, oldRating =>
    match mgr.findRealTeam order m.Guid with
    | none => collectRealTeams mgr order members realTeams oldRating
    | some entry =>
      if realTeams.length < 3 then
        collectRealTeams mgr order members (realTeams ++ [entry.1])
          (oldRating + entry.2.Stats.Rating.toNat)
      else none

/-- What a member of the temporary team writes into a member of the real one. -/
def ArenaTeamMember.writeBack (rating : UInt16) (itr realMember : ArenaTeamMember) :
    ArenaTeamMember :=
  { realMember with
    PersonalRating := rating
    MatchMakerRating := itr.MatchMakerRating
    SeasonGames := itr.SeasonGames
    SeasonWins := itr.SeasonWins
    WeekGames := itr.WeekGames
    WeekWins := itr.WeekWins }

def changedRating (rating : UInt16) (ratingModifier : ℤ) : UInt16 :=
  if (rating.toNat : ℤ) + ratingModifier < 0 then 0
  else UInt16.ofNat (rating.toNat + ratingModifier).toNat

/-- What a member of the temporary team writes into the real team. -/
def ArenaTeam.writeBack (ratingModifier : ℤ) (itr : ArenaTeamMember) (team : ArenaTeam) :
    ArenaTeam :=
  let rating := changedRating team.Stats.Rating ratingModifier
  { team with
    Stats :=
      { Rating := rating
        SeasonGames := itr.SeasonGames
        SeasonWins := itr.SeasonWins
        WeekGames := itr.WeekGames
        WeekWins := itr.WeekWins }
    Members := team.Members.map fun realMember =>
      if realMember.Guid = team.CaptainGuid then itr.writeBack rating realMember
      else realMember }

/-- The write through a pointer in `realTeams`, with `SaveToDBHelper`. -/
def SaveResult.write (ratingModifier : ℤ) (r : SaveResult) (itr : ArenaTeamMember) (id : ℕ) :
    SaveResult where
  mgr :=
    { r.mgr with
      ArenaTeamStore := Function.update r.mgr.ArenaTeamStore id
        ((r.mgr.ArenaTeamStore id).map (ArenaTeam.writeBack ratingModifier itr)) }
  saved := r.saved ++ [id]

/-- The second pass, with `itrRealTeam` as the index. Nothing is returned where the array is
left. -/
def writeRealTeams (ratingModifier : ℤ) (realTeams : List ℕ) :
    List ArenaTeamMember → ℕ → SaveResult → Option SaveResult
  | [], _, r => some r
  | m :: members, itrRealTeam, r =>
    if 3 ≤ itrRealTeam then none
    else
      match realTeams[itrRealTeam]? with
      | none => writeRealTeams ratingModifier realTeams members (itrRealTeam + 1) r
      | some id =>
        if ratingModifier > 60 ∨ ratingModifier < -60 then
          writeRealTeams ratingModifier realTeams members (itrRealTeam + 1) r
        else
          writeRealTeams ratingModifier realTeams members (itrRealTeam + 1)
            (r.write ratingModifier m id)

def ArenaTeam.saveToDB (t : ArenaTeam) (mgr : ArenaTeamMgr) (order : mgr.Order) :
    Option SaveResult :=
  if t.TeamId < TEMP_ARENA_TEAM_ID then some ⟨mgr, [t.TeamId]⟩
  else
    match collectRealTeams mgr order t.Members [] 0 with
    | none => none
    | some (realTeams, sum) =>
      let oldRating := if 0 < t.Members.length then sum / t.Members.length else sum
      writeRealTeams (t.Stats.Rating.toNat - oldRating) realTeams t.Members 0 ⟨mgr, []⟩

/-! ## 2. What is written -/

/-- The team `id` is the solo team of the player: real, of type 5v5, with him as its captain. -/
structure ArenaTeamMgr.SoloTeamOf (mgr : ArenaTeamMgr) (guid : ObjectGuid) (id : ℕ)
    (team : ArenaTeam) : Prop where
  registered : mgr.ArenaTeamStore id = some team
  real : id < TEMP_ARENA_TEAM_ID
  captain : team.CaptainGuid = guid
  soloType : team.TeamType = ARENA_TEAM_5v5

/-- **What a saved team has become**: the rating is changed, but not below 0; games and wins are
the member's; so they are in the captain's entry, with the matchmaker rating and the rating of the
team; the other entries and everything else stay. -/
structure ArenaTeam.Saved (ratingModifier : ℤ) (itr : ArenaTeamMember) (team team' : ArenaTeam) :
    Prop where
  rating : (team.Stats.Rating.toNat + ratingModifier < 2 ^ 16) →
    (team'.Stats.Rating.toNat : ℤ) = max 0 (team.Stats.Rating.toNat + ratingModifier)
  games : team'.Stats.SeasonGames = itr.SeasonGames ∧ team'.Stats.SeasonWins = itr.SeasonWins ∧
    team'.Stats.WeekGames = itr.WeekGames ∧ team'.Stats.WeekWins = itr.WeekWins
  members : List.Forall₂ (fun m m' =>
    if m.Guid = team.CaptainGuid then
      m' = { itr with Guid := m.Guid, PersonalRating := team'.Stats.Rating }
    else m' = m) team.Members team'.Members
  same : team' = { team with Stats := team'.Stats, Members := team'.Members }

theorem changedRating_eq {rating : UInt16} {ratingModifier : ℤ}
    (h : rating.toNat + ratingModifier < 2 ^ 16) :
    ((changedRating rating ratingModifier).toNat : ℤ) = max 0 (rating.toNat + ratingModifier) := by
  unfold changedRating
  split
  · next hneg => rw [max_eq_left (le_of_lt hneg)]; rfl
  · next hpos =>
    rw [UInt16.toNat_ofNat', Nat.mod_eq_of_lt (by omega)]
    omega

theorem saved_writeBack (ratingModifier : ℤ) (itr : ArenaTeamMember) (team : ArenaTeam) :
    team.Saved ratingModifier itr (team.writeBack ratingModifier itr) where
  rating := changedRating_eq
  games := ⟨rfl, rfl, rfl, rfl⟩
  members := by
    refine List.forall₂_map_right_iff.mpr (List.forall₂_same.mpr fun m _ => ?_)
    split
    · rfl
    · rfl
  same := rfl

/-! ## 3. The passes -/

section Passes

variable {mgr : ArenaTeamMgr} {order : mgr.Order}

theorem findRealTeam_spec {guid : ObjectGuid} {id : ℕ} {team : ArenaTeam}
    (h : mgr.findRealTeam order guid = some (id, team)) : mgr.SoloTeamOf guid id team := by
  have hmem := List.mem_of_find?_eq_some h
  have hprop := List.find?_some h
  obtain ⟨key, -, hkey⟩ := List.mem_filterMap.mp hmem
  obtain ⟨team', hteam, heq⟩ := Option.map_eq_some_iff.mp hkey
  obtain ⟨rfl, rfl⟩ := Prod.mk.inj heq
  simp only [Bool.and_eq_true, decide_eq_true_eq] at hprop
  exact ⟨hteam, hprop.1.1, hprop.1.2, hprop.2⟩

theorem findRealTeam_isSome {guid : ObjectGuid} {id : ℕ} {team : ArenaTeam}
    (h : mgr.SoloTeamOf guid id team) : ∃ entry, mgr.findRealTeam order guid = some entry := by
  refine Option.isSome_iff_exists.mp (List.find?_isSome.mpr ⟨(id, team), ?_, ?_⟩)
  · refine List.mem_filterMap.mpr ⟨id, (order.mem_keys id).mpr ?_, ?_⟩
    · rw [h.registered]
      simp
    · rw [h.registered]
      rfl
  · simp [h.real, h.captain, h.soloType]

def Found (order : mgr.Order) (members : List ArenaTeamMember) (entries : List (ℕ × ArenaTeam)) :
    Prop :=
  List.Forall₂ (fun m entry => mgr.findRealTeam order m.Guid = some entry) members entries

theorem collectRealTeams_eq {members : List ArenaTeamMember} {entries : List (ℕ × ArenaTeam)}
    (h : Found order members entries) {realTeams : List ℕ} {oldRating : ℕ}
    (hlen : realTeams.length + members.length ≤ 3) :
    collectRealTeams mgr order members realTeams oldRating
      = some (realTeams ++ entries.map Prod.fst,
          oldRating + (entries.map fun entry => entry.2.Stats.Rating.toNat).sum) := by
  induction h generalizing realTeams oldRating with
  | nil => simp [collectRealTeams]
  | @cons m entry members entries hm _ ih =>
    rw [List.length_cons] at hlen
    have hlt : realTeams.length < 3 := by omega
    rw [collectRealTeams, hm]
    dsimp only
    rw [if_pos hlt, ih (by rw [List.length_append, List.length_singleton]; omega)]
    simp [Nat.add_assoc]

theorem writeRealTeams_out_of_range {ratingModifier : ℤ}
    (h : ratingModifier > 60 ∨ ratingModifier < -60) (realTeams : List ℕ)
    {members : List ArenaTeamMember} {itrRealTeam : ℕ} (hlen : itrRealTeam + members.length ≤ 3)
    (r : SaveResult) :
    writeRealTeams ratingModifier realTeams members itrRealTeam r = some r := by
  induction members generalizing itrRealTeam with
  | nil => rfl
  | cons m members ih =>
    rw [List.length_cons] at hlen
    rw [writeRealTeams, if_neg (by omega)]
    split
    · exact ih (by omega)
    · rw [if_pos h]
      exact ih (by omega)

theorem writeRealTeams_eq {ratingModifier : ℤ}
    (h : ¬ (ratingModifier > 60 ∨ ratingModifier < -60)) {members : List ArenaTeamMember}
    {before ids : List ℕ} (hids : members.length = ids.length)
    (hlen : before.length + members.length ≤ 3) (r : SaveResult) :
    writeRealTeams ratingModifier (before ++ ids) members before.length r
      = some ((members.zip ids).foldl (fun r e => r.write ratingModifier e.1 e.2) r) := by
  induction members generalizing before ids r with
  | nil => rfl
  | cons m members ih =>
    cases ids with
    | nil => exact absurd hids (by simp)
    | cons id ids =>
      rw [List.length_cons] at hlen
      have hids' : members.length = ids.length := Nat.succ.inj hids
      have hget : (before ++ id :: ids)[before.length]? = some id := by simp
      have hnext : before ++ id :: ids = (before ++ [id]) ++ ids := by simp
      rw [writeRealTeams, if_neg (by omega), hget]
      dsimp only
      rw [if_neg h, hnext]
      have hih := @ih (before ++ [id]) ids hids'
        (by rw [List.length_append, List.length_singleton]; omega) (r.write ratingModifier m id)
      rw [List.length_append, List.length_singleton] at hih
      exact hih

theorem foldl_write {ratingModifier : ℤ} (l : List (ArenaTeamMember × ℕ))
    (hnodup : (l.map Prod.snd).Nodup) (r : SaveResult) :
    let r' := l.foldl (fun r e => r.write ratingModifier e.1 e.2) r
    (∀ e ∈ l, r'.mgr.ArenaTeamStore e.2
      = (r.mgr.ArenaTeamStore e.2).map (ArenaTeam.writeBack ratingModifier e.1)) ∧
    (∀ id, id ∉ l.map Prod.snd → r'.mgr.ArenaTeamStore id = r.mgr.ArenaTeamStore id) ∧
    r'.saved = r.saved ++ l.map Prod.snd := by
  induction l generalizing r with
  | nil => exact ⟨fun e he => absurd he (by simp), fun _ _ => rfl, (List.append_nil _).symm⟩
  | cons e l ih =>
    obtain ⟨hhead, htail⟩ := List.nodup_cons.mp hnodup
    obtain ⟨hin, hout, hsaved⟩ := ih htail (r.write ratingModifier e.1 e.2)
    have hself : (r.write ratingModifier e.1 e.2).mgr.ArenaTeamStore e.2
        = (r.mgr.ArenaTeamStore e.2).map (ArenaTeam.writeBack ratingModifier e.1) :=
      Function.update_self _ _ _
    have hother : ∀ id, id ≠ e.2 →
        (r.write ratingModifier e.1 e.2).mgr.ArenaTeamStore id = r.mgr.ArenaTeamStore id :=
      fun id hne => Function.update_of_ne hne _ _
    refine ⟨?_, ?_, hsaved.trans (List.append_assoc _ _ _)⟩
    · intro e' he'
      rcases List.mem_cons.mp he' with rfl | hmem
      · exact (hout _ hhead).trans hself
      · have hne : e'.2 ≠ e.2 := fun heq => hhead (heq ▸ List.mem_map_of_mem hmem)
        exact (hin e' hmem).trans (by rw [hother _ hne])
    · intro id hid
      rw [List.map_cons, List.mem_cons, not_or] at hid
      exact (hout id hid.2).trans (hother id hid.1)

end Passes

/-! ## 4. Both passes together -/

/-- The average rating of the members' real teams before the match. -/
def averageRating {mgr : ArenaTeamMgr} (order : mgr.Order) (members : List ArenaTeamMember) : ℕ :=
  ((members.filterMap fun m => mgr.findRealTeam order m.Guid).map
    fun entry => entry.2.Stats.Rating.toNat).sum / members.length

section SaveToDB

variable {mgr : ArenaTeamMgr} {order : mgr.Order}

theorem found_filterMap {members : List ArenaTeamMember}
    (h : ∀ m ∈ members, ∃ entry, mgr.findRealTeam order m.Guid = some entry) :
    Found order members (members.filterMap fun m => mgr.findRealTeam order m.Guid) := by
  induction members with
  | nil => exact .nil
  | cons m members ih =>
    obtain ⟨entry, hentry⟩ := h m List.mem_cons_self
    rw [List.filterMap_cons, hentry]
    exact .cons hentry (ih fun m' hm' => h m' (List.mem_cons_of_mem m hm'))

theorem Found.nodup {members : List ArenaTeamMember} {entries : List (ℕ × ArenaTeam)}
    (h : Found order members entries)
    (hguid : (members.map ArenaTeamMember.Guid).Nodup) : (entries.map Prod.fst).Nodup := by
  induction h with
  | nil => exact List.nodup_nil
  | @cons m entry members entries hm hrest ih =>
    obtain ⟨hhead, htail⟩ := List.nodup_cons.mp hguid
    refine List.nodup_cons.mpr ⟨fun hmem => hhead ?_, ih htail⟩
    obtain ⟨entry', hentry', heq⟩ := List.mem_map.mp hmem
    obtain ⟨i, hi, rfl⟩ := List.getElem_of_mem hentry'
    have hi' : i < members.length := hrest.length_eq ▸ hi
    have hm' := (List.forall₂_iff_get.mp hrest).2 i hi' hi
    have h1 := findRealTeam_spec hm
    have h2 := findRealTeam_spec hm'
    have hteam : entry.2 = entries[i].2 := by
      have := h1.registered.symm.trans (heq ▸ h2.registered)
      exact Option.some.inj this
    have hguid : members[i].Guid = m.Guid := by
      rw [← h1.captain, hteam]
      exact h2.captain.symm
    exact hguid ▸ List.mem_map_of_mem (List.getElem_mem hi')

theorem saveToDB_eq {t : ArenaTeam} (ht : TEMP_ARENA_TEAM_ID ≤ t.TeamId)
    (hlen : t.Members.length ≤ 3)
    (hfound : ∀ m ∈ t.Members, ∃ entry, mgr.findRealTeam order m.Guid = some entry) :
    t.saveToDB mgr order = writeRealTeams (t.Stats.Rating.toNat - averageRating order t.Members)
      ((t.Members.filterMap fun m => mgr.findRealTeam order m.Guid).map Prod.fst) t.Members 0
      ⟨mgr, []⟩ := by
  have hcollect :=
    @collectRealTeams_eq mgr order _ _ (found_filterMap hfound) [] 0 (by simpa using hlen)
  rw [List.nil_append, Nat.zero_add] at hcollect
  rw [ArenaTeam.saveToDB, if_neg (not_lt.mpr ht), hcollect]
  dsimp only
  congr 2
  split
  · rfl
  · next hzero =>
    rw [averageRating, List.length_eq_zero_iff.mp (Nat.eq_zero_of_not_pos hzero)]
    simp

end SaveToDB

/-- **Saving writes back**, if every member has his solo team: that team gets the member's games,
wins and matchmaker rating and the common change of the rating, and no other team is touched. If
the change is out of the range of a match, nothing is. -/
theorem saveToDB_writes_back {mgr : ArenaTeamMgr} (order : mgr.Order) {t : ArenaTeam}
    (ht : TEMP_ARENA_TEAM_ID ≤ t.TeamId) (hlen : t.Members.length ≤ 3)
    (hguid : (t.Members.map ArenaTeamMember.Guid).Nodup)
    (hfound : ∀ m ∈ t.Members, ∃ id team, mgr.SoloTeamOf m.Guid id team) :
    ∃ r, t.saveToDB mgr order = some r ∧
      let ratingModifier : ℤ := t.Stats.Rating.toNat - averageRating order t.Members
      (|ratingModifier| ≤ 60 → ∀ m ∈ t.Members, ∃ id team team',
        mgr.SoloTeamOf m.Guid id team ∧ r.mgr.ArenaTeamStore id = some team' ∧
          team.Saved ratingModifier m team' ∧ id ∈ r.saved) ∧
      (60 < |ratingModifier| → r = ⟨mgr, []⟩) ∧
      ∀ id team, mgr.ArenaTeamStore id = some team →
        (∀ m ∈ t.Members, ¬ mgr.SoloTeamOf m.Guid id team) →
          r.mgr.ArenaTeamStore id = some team := by
  have hfind : ∀ m ∈ t.Members, ∃ entry, mgr.findRealTeam order m.Guid = some entry := by
    intro m hm
    obtain ⟨id, team, hteam⟩ := hfound m hm
    exact findRealTeam_isSome hteam
  have hF := found_filterMap hfind
  have hids := hF.length_eq
  have heq := saveToDB_eq ht hlen hfind
  rw [averageRating] at heq ⊢
  generalize (t.Members.filterMap fun m => mgr.findRealTeam order m.Guid) = entries at hF hids heq ⊢
  generalize ((t.Stats.Rating.toNat : ℤ) - _) = ratingModifier at heq ⊢
  by_cases hrange : ratingModifier > 60 ∨ ratingModifier < -60
  · have hout : 60 < |ratingModifier| := by
      rw [lt_abs]
      omega
    refine ⟨⟨mgr, []⟩, heq.trans (writeRealTeams_out_of_range hrange _ (by omega) _), ?_⟩
    exact ⟨fun hin => absurd hout (not_lt.mpr hin), fun _ => rfl, fun _ _ h _ => h⟩
  · have hin : |ratingModifier| ≤ 60 := by
      rw [abs_le]
      omega
    have hzip : (t.Members.zip (entries.map Prod.fst)).map Prod.snd = entries.map Prod.fst :=
      List.map_snd_zip (by rw [List.length_map, hids])
    have hnodup : ((t.Members.zip (entries.map Prod.fst)).map Prod.snd).Nodup := by
      rw [hzip]
      exact hF.nodup hguid
    obtain ⟨hwritten, hother, hsaved⟩ := @foldl_write ratingModifier _ hnodup ⟨mgr, []⟩
    have hwrite := @writeRealTeams_eq ratingModifier hrange t.Members [] (entries.map Prod.fst)
      (by rw [List.length_map, hids]) (by simpa using hlen) ⟨mgr, []⟩
    refine ⟨_, heq.trans hwrite, ?_, fun hout => absurd hout (not_lt.mpr hin), ?_⟩
    · intro _ m hm
      obtain ⟨i, hi, rfl⟩ := List.getElem_of_mem hm
      have hi' : i < entries.length := hids ▸ hi
      have hsolo := findRealTeam_spec ((List.forall₂_iff_get.mp hF).2 i hi hi')
      have hpair : (t.Members[i], entries[i].1) ∈ t.Members.zip (entries.map Prod.fst) := by
        refine List.mem_iff_getElem.mpr ⟨i, ?_, ?_⟩
        · rw [List.length_zip, List.length_map]
          exact lt_min hi hi'
        · rw [List.getElem_zip, List.getElem_map]
      refine ⟨entries[i].1, entries[i].2, _, hsolo, (hwritten _ hpair).trans ?_,
        saved_writeBack _ _ _, ?_⟩
      · exact congrArg _ hsolo.registered
      · rw [hsaved, hzip]
        exact List.mem_map_of_mem (List.getElem_mem hi')
    · intro id team hteam hnot
      refine (hother id ?_).trans hteam
      rw [hzip]
      intro hmem
      obtain ⟨entry, hentry, rfl⟩ := List.mem_map.mp hmem
      obtain ⟨i, hi, rfl⟩ := List.getElem_of_mem hentry
      have hi' : i < t.Members.length := hids ▸ hi
      have hsolo := findRealTeam_spec ((List.forall₂_iff_get.mp hF).2 i hi' hi)
      have hsame : entries[i].2 = team := Option.some.inj (hsolo.registered.symm.trans hteam)
      exact hnot t.Members[i] (List.getElem_mem hi') (hsame ▸ hsolo)

/-! ## 5. Three players -/

/-- The solo team of player `id`, with rating 10 for the first and 40 for the others. -/
def soloTeam (id : ℕ) : ArenaTeam :=
  ⟨id, id, ARENA_TEAM_5v5, "solo", id, ⟨if id = 1 then 10 else 40, 4, 2, 8, 4⟩,
    [⟨id, 4, 2, 8, 4, 1000, 1500⟩]⟩

/-- The registry with the solo teams of the players 1, 2 and 3. -/
def threeTeams : ArenaTeamMgr :=
  ⟨TEMP_ARENA_TEAM_ID + 1, fun id => if 1 ≤ id ∧ id ≤ 3 then some (soloTeam id) else none, 4⟩

def threeOrder : threeTeams.Order where
  keys := [1, 2, 3]
  mem_keys id := by
    show id ∈ [1, 2, 3] ↔ (if 1 ≤ id ∧ id ≤ 3 then some (soloTeam id) else none) ≠ none
    simp only [List.mem_cons, List.not_mem_nil, or_false]
    split
    · next h => exact ⟨fun _ => by simp, fun _ => by omega⟩
    · next h => exact ⟨fun hmem => by omega, fun hne => absurd rfl hne⟩

/-- Their temporary team, after a match that has taken it from 30 to 10. -/
def lostTeam : ArenaTeam :=
  ⟨0, TEMP_ARENA_TEAM_ID, ARENA_TEAM_5v5, "Team 1", 1, ⟨10, 5, 2, 9, 4⟩,
    [⟨1, 5, 2, 9, 4, 990, 1488⟩, ⟨2, 5, 2, 9, 4, 990, 1488⟩, ⟨3, 5, 2, 9, 4, 990, 1488⟩]⟩

/-- Each of the three gets what his entry in the temporary team says. -/
theorem lostTeam_saved : ∃ r, lostTeam.saveToDB threeTeams threeOrder = some r ∧
    ∀ m ∈ lostTeam.Members, ∃ id team team', threeTeams.SoloTeamOf m.Guid id team ∧
      r.mgr.ArenaTeamStore id = some team' ∧ team.Saved (-20) m team' ∧ id ∈ r.saved := by
  have hfound : ∀ m ∈ lostTeam.Members, ∃ id team, threeTeams.SoloTeamOf m.Guid id team := by
    intro m hm
    refine ⟨m.Guid, soloTeam m.Guid, ?_⟩
    fin_cases hm
    · exact ⟨rfl, by decide, rfl, rfl⟩
    · exact ⟨rfl, by decide, rfl, rfl⟩
    · exact ⟨rfl, by decide, rfl, rfl⟩
  obtain ⟨r, hr, hin, -⟩ :=
    saveToDB_writes_back threeOrder (le_refl _) (le_refl _) (by decide) hfound
  exact ⟨r, hr, hin (by decide)⟩

/-- **A rating stops at 0**: the change is -20, but the first player has only 10 to lose. -/
theorem rating_stops_at_zero : ¬ ∃ r, lostTeam.saveToDB threeTeams threeOrder = some r ∧
    ∀ id ∈ threeOrder.keys, ∀ team team', threeTeams.ArenaTeamStore id = some team →
      r.mgr.ArenaTeamStore id = some team' →
        (team'.Stats.Rating.toNat : ℤ) - team.Stats.Rating.toNat
          = lostTeam.Stats.Rating.toNat - averageRating threeOrder lostTeam.Members := by
  rintro ⟨r, hr, hchange⟩
  have hzero : (lostTeam.saveToDB threeTeams threeOrder).bind
      (fun r => (r.mgr.ArenaTeamStore 1).map fun team => team.Stats.Rating) = some 0 := by decide
  rw [hr, Option.bind_some] at hzero
  obtain ⟨team', hteam', hrating⟩ := Option.map_eq_some_iff.mp hzero
  have hfirst := hchange 1 (by decide) (soloTeam 1) team' rfl hteam'
  rw [hrating] at hfirst
  exact absurd hfirst (by decide)

end FunPvp.Battleground
