/-
# The rank table of a guild

The ranks of a guild are numbered 0, 1, 2, ... without gaps, at least 5 and at most 10 of them, and
the rows of `guild_rank` are the same. No handler and no loaded guild breaks this.

That the rank of every member is one of them is another matter. `HandleRemoveRank` takes the last
rank away without asking who holds it, and such a member is left with the number after the last
rank; `Validate` would repair a rank number above that one, and leaves that one alone. Apart from
these two cases every member's rank stays in the table (`RosterState.run_ranksSound`).
-/
import FunPvp.Guilds.Roster

namespace FunPvp.Guilds

open FunPvp.Lib

/-! ## 1. Ranks in sequence -/

/-- The ranks are numbered in sequence, and not too many. -/
structure Numbered (ranks : List RankInfo) : Prop where
  ids : ranks.map RankInfo.rankId = (List.range ranks.length).map UInt8.ofNat
  max : ranks.length ≤ GUILD_RANKS_MAX_COUNT.toNat

structure InSequence (ranks : List RankInfo) : Prop extends Numbered ranks where
  min : GUILD_RANKS_MIN_COUNT.toNat ≤ ranks.length

section Numbered

variable {ranks : List RankInfo} {rank : RankInfo}

theorem toNat_ofNat_rank {n : ℕ} (h : n ≤ 10) : (UInt8.ofNat n).toNat = n :=
  UInt8.toNat_ofNat_of_lt' (lt_of_le_of_lt h (by decide))

theorem Numbered.nil : Numbered [] := ⟨rfl, Nat.zero_le _⟩

theorem Numbered.length_le (h : Numbered ranks) : ranks.length ≤ 10 := h.max

theorem InSequence.le_length (h : InSequence ranks) : 5 ≤ ranks.length := h.min

theorem Numbered.of_map_eq {ranks' : List RankInfo} (h : Numbered ranks)
    (heq : ranks'.map RankInfo.rankId = ranks.map RankInfo.rankId) : Numbered ranks' := by
  have hlen : ranks'.length = ranks.length := by
    simpa using congrArg List.length heq
  constructor
  · rw [heq, h.ids, hlen]
  · rw [hlen]
    exact h.max

theorem InSequence.of_map_eq {ranks' : List RankInfo} (h : InSequence ranks)
    (heq : ranks'.map RankInfo.rankId = ranks.map RankInfo.rankId) : InSequence ranks' := by
  have hlen : ranks'.length = ranks.length := by
    simpa using congrArg List.length heq
  exact ⟨h.toNumbered.of_map_eq heq, by rw [hlen]; exact h.min⟩

theorem Numbered.append (h : Numbered ranks) (hlt : ranks.length < 10)
    (hid : rank.rankId = UInt8.ofNat ranks.length) : Numbered (ranks ++ [rank]) := by
  constructor
  · rw [List.map_append, h.ids, List.length_append, List.length_singleton, List.range_succ,
      List.map_append, List.map_singleton, List.map_singleton, hid]
  · rw [List.length_append, List.length_singleton]
    exact hlt

theorem Numbered.notMem (h : Numbered ranks) :
    UInt8.ofNat ranks.length ∉ ranks.map RankInfo.rankId := by
  rw [h.ids]
  intro hmem
  obtain ⟨i, hi, heq⟩ := List.mem_map.mp hmem
  have hlt := List.mem_range.mp hi
  have hle := h.length_le
  have hnat := congrArg UInt8.toNat heq
  rw [toNat_ofNat_rank hle, toNat_ofNat_rank (by omega)] at hnat
  omega

theorem Numbered.dropLast (h : Numbered ranks) : Numbered ranks.dropLast := by
  constructor
  · rw [List.map_dropLast, h.ids, ← List.map_dropLast, List.length_dropLast]
    cases ranks.length with
    | zero => rfl
    | succ n => rw [List.range_succ, List.dropLast_concat, Nat.add_sub_cancel]
  · rw [List.length_dropLast]
    exact le_trans (Nat.sub_le ..) h.max

theorem Numbered.getLast (h : Numbered ranks) (hne : ranks ≠ []) :
    (ranks.getLast hne).rankId = UInt8.ofNat (ranks.length - 1) := by
  have hlen : 0 < ranks.length := List.length_pos_iff.mpr hne
  have hget := congrArg (fun l => l[ranks.length - 1]?) h.ids
  simp only [List.getElem?_map] at hget
  rw [List.getElem?_range (by omega), List.getElem?_eq_getElem (by omega)] at hget
  rw [List.getLast_eq_getElem]
  exact Option.some.inj hget

end Numbered

namespace Guild

variable {g : Guild} {rankId : UInt8}

theorem toNat_getRanksSize (h : Numbered g.ranks) : g.getRanksSize.toNat = g.ranks.length :=
  toNat_ofNat_rank h.length_le

theorem toNat_getLowestRankId (h : InSequence g.ranks) :
    g.getLowestRankId.toNat = g.ranks.length - 1 := by
  have hsize := toNat_getRanksSize h.toNumbered
  have hmin := h.le_length
  have hle : (1 : UInt8) ≤ g.getRanksSize := by
    rw [UInt8.le_iff_toNat_le, hsize]
    exact le_trans (by decide) hmin
  change (g.getRanksSize - 1).toNat = _
  rw [UInt8.toNat_sub_of_le _ _ hle, hsize]
  rfl

theorem getRankInfo_of_lt (h : Numbered g.ranks) (hlt : rankId.toNat < g.ranks.length) :
    ∃ rankInfo ∈ g.ranks, g.getRankInfo rankId = some rankInfo ∧ rankInfo.rankId = rankId := by
  have hsize : rankId < g.getRanksSize := by
    rw [UInt8.lt_iff_toNat_lt, toNat_getRanksSize h]
    exact hlt
  refine ⟨g.ranks[rankId.toNat], List.getElem_mem hlt, ?_, ?_⟩
  · unfold getRankInfo
    rw [if_pos hsize, List.getElem?_eq_getElem hlt]
  · have hget := congrArg (fun l => l[rankId.toNat]?) h.ids
    simp only [List.getElem?_map] at hget
    rw [List.getElem?_range hlt, List.getElem?_eq_getElem hlt] at hget
    rw [Option.some.inj hget]
    exact UInt8.ofNat_toNat

end Guild

/-! ## 2. The table and its rows -/

namespace RankTables

variable {db : RankTables} {tabId rid : UInt8}

@[simp] theorem guildRank_insGuildBankRight :
    (db.insGuildBankRight tabId rid).guildRank = db.guildRank := by
  unfold insGuildBankRight
  split <;> rfl

theorem guildRank_foldl {α : Type} {write : RankTables → α → RankTables}
    (hwrite : ∀ db a, (write db a).guildRank = db.guildRank) (db : RankTables) (l : List α) :
    (l.foldl write db).guildRank = db.guildRank := by
  induction l generalizing db with
  | nil => rfl
  | cons a l ih => rw [List.foldl_cons, ih, hwrite]

@[simp] theorem guildRank_createMissingTabs (tabs : UInt8) (db : RankTables) (rank : RankInfo) :
    (db.createMissingTabs tabs rank).guildRank = db.guildRank :=
  guildRank_foldl (fun _ _ => guildRank_insGuildBankRight) db _

theorem guildRank_insGuildRank (h : rid ∉ db.guildRank) :
    (db.insGuildRank rid).guildRank = db.guildRank ++ [rid] := by
  unfold insGuildRank
  rw [if_neg h]

end RankTables

namespace StoredGuild

def Rows (st : StoredGuild) : Prop := st.db.guildRank = st.guild.ranks.map RankInfo.rankId

section createRank

variable {st : StoredGuild} {name : String} {rights : UInt32}

@[simp] theorem members_createRank :
    (st.createRank name rights).2.guild.members = st.guild.members := by
  unfold createRank
  dsimp only
  split <;> rfl

@[simp] theorem leaderGuid_createRank :
    (st.createRank name rights).2.guild.leaderGuid = st.guild.leaderGuid := by
  unfold createRank
  dsimp only
  split <;> rfl

theorem createRank_numbered (name : String) (rights : UInt32) (h : Numbered st.guild.ranks)
    (hlt : st.guild.ranks.length < 10) :
    Numbered (st.createRank name rights).2.guild.ranks ∧
      (st.createRank name rights).2.guild.ranks.length = st.guild.ranks.length + 1 ∧
      (st.Rows → (st.createRank name rights).2.Rows) := by
  have hsize : ¬ st.guild.getRanksSize ≥ GUILD_RANKS_MAX_COUNT := by
    rw [ge_iff_le, UInt8.le_iff_toNat_le, Guild.toNat_getRanksSize h]
    exact Nat.not_le.mpr hlt
  unfold createRank
  dsimp only
  rw [if_neg hsize]
  refine ⟨h.append hlt rfl, List.length_append, ?_⟩
  intro hrows
  have hfree : st.guild.getRanksSize ∉
      (st.db.createMissingTabs st.guild.getPurchasedTabsSize
        (RankInfo.new st.guild.getRanksSize name rights 0)).guildRank := by
    rw [RankTables.guildRank_createMissingTabs, hrows]
    exact h.notMem
  unfold Rows
  dsimp only
  rw [RankTables.guildRank_insGuildRank hfree, RankTables.guildRank_createMissingTabs, hrows,
    List.map_append]
  rfl

end createRank

section ranks

variable {st : StoredGuild} {player : ObjectGuid} {rankId : UInt8} {name : String}
  {getTrinityString : TrinityStrings → String}

theorem createRanks_numbered (st : StoredGuild) (l : List (TrinityStrings × UInt32))
    (h : Numbered st.guild.ranks) (hrows : st.Rows)
    (hle : st.guild.ranks.length + l.length ≤ 10) {st' : StoredGuild}
    (hst' : l.foldl (fun s rank => (s.createRank (getTrinityString rank.1) rank.2).2) st = st') :
    Numbered st'.guild.ranks ∧ st'.Rows ∧
      st'.guild.ranks.length = st.guild.ranks.length + l.length ∧
      st'.guild.members = st.guild.members ∧ st'.guild.leaderGuid = st.guild.leaderGuid := by
  induction l generalizing st with
  | nil =>
    subst hst'
    exact ⟨h, hrows, rfl, rfl, rfl⟩
  | cons rank l ih =>
    rw [List.length_cons] at hle
    obtain ⟨hnext, hlen, hkeep⟩ := createRank_numbered (getTrinityString rank.1) rank.2 h
      (by omega)
    obtain ⟨h1, h2, h3, h4, h5⟩ := ih _ hnext (hkeep hrows) (by omega) hst'
    refine ⟨h1, h2, ?_, h4.trans members_createRank, h5.trans leaderGuid_createRank⟩
    rw [h3, hlen, List.length_cons]
    omega

theorem createDefaultGuildRanks_spec (getTrinityString : TrinityStrings → String)
    (st : StoredGuild) (hnil : st.guild.ranks = []) {st' : StoredGuild}
    (hst' : st.createDefaultGuildRanks getTrinityString = st') :
    InSequence st'.guild.ranks ∧ st'.Rows ∧ st'.guild.members = st.guild.members ∧
      st'.guild.leaderGuid = st.guild.leaderGuid := by
  have hnone : st.guild.ranks.length = 0 := by rw [hnil]; rfl
  have hnumbered : Numbered st.guild.ranks := by rw [hnil]; exact Numbered.nil
  have hrows : ({ st with db := st.db.delGuildRanks } : StoredGuild).Rows := by
    unfold Rows
    dsimp only
    rw [hnil]
    rfl
  obtain ⟨h1, h2, h3, h4, h5⟩ := createRanks_numbered { st with db := st.db.delGuildRanks }
    defaultRanks hnumbered hrows (by dsimp only; rw [hnone]; decide) hst'
  refine ⟨⟨h1, ?_⟩, h2, h4, h5⟩
  rw [h3]
  exact Nat.le_add_left _ _

/-- What a change of the ranks that takes none away keeps. -/
structure KeepsTable (st st' : StoredGuild) : Prop where
  inSequence : InSequence st'.guild.ranks
  rows : st.Rows → st'.Rows
  length : st.guild.ranks.length ≤ st'.guild.ranks.length
  members : st'.guild.members = st.guild.members
  leaderGuid : st'.guild.leaderGuid = st.guild.leaderGuid

theorem KeepsTable.refl (h : InSequence st.guild.ranks) : KeepsTable st st :=
  ⟨h, id, le_refl _, rfl, rfl⟩

theorem KeepsTable.of_map_eq {st' : StoredGuild} (h : InSequence st.guild.ranks)
    (hids : st'.guild.ranks.map RankInfo.rankId = st.guild.ranks.map RankInfo.rankId)
    (hrows : st'.db.guildRank = st.db.guildRank)
    (hmembers : st'.guild.members = st.guild.members)
    (hleader : st'.guild.leaderGuid = st.guild.leaderGuid) : KeepsTable st st' := by
  refine ⟨h.of_map_eq hids, ?_, ?_, hmembers, hleader⟩
  · intro h0
    unfold Rows at h0 ⊢
    rw [hrows, hids, h0]
  · have hlen : st'.guild.ranks.length = st.guild.ranks.length := by
      simpa using congrArg List.length hids
    exact hlen.ge

theorem handleAddNewRank_keeps (h : InSequence st.guild.ranks) :
    KeepsTable st (st.handleAddNewRank player name) := by
  unfold handleAddNewRank
  split
  · exact KeepsTable.refl h
  · rename_i hsize
    split
    · have hlt : st.guild.ranks.length < 10 := by
        rw [ge_iff_le, UInt8.le_iff_toNat_le, Guild.toNat_getRanksSize h.toNumbered] at hsize
        exact Nat.not_le.mp hsize
      obtain ⟨hnext, hlen, hrows⟩ := createRank_numbered name
        (GR_RIGHT_GCHATLISTEN ||| GR_RIGHT_GCHATSPEAK) h.toNumbered hlt
      refine ⟨⟨hnext, ?_⟩, hrows, ?_, members_createRank, leaderGuid_createRank⟩
      · rw [hlen]
        exact le_trans h.min (Nat.le_succ _)
      · rw [hlen]
        exact Nat.le_succ _
    · exact KeepsTable.refl h

theorem map_rankId_updateRank {g : Guild} {f : RankInfo → RankInfo}
    (hf : ∀ rank, (f rank).rankId = rank.rankId) :
    (g.updateRank rankId f).ranks.map RankInfo.rankId = g.ranks.map RankInfo.rankId := by
  unfold Guild.updateRank
  split
  · refine List.ext_getElem? ?_
    intro i
    rw [List.getElem?_map, List.getElem?_map]
    dsimp only
    rw [List.getElem?_modify]
    cases g.ranks[i]? with
    | none => rfl
    | some rank =>
      change some (if rankId.toNat = i then f rank else rank).rankId = some rank.rankId
      split
      · rw [hf]
      · rfl
  · rfl

theorem handleSetRankInfo_keeps {rights moneyPerDay : UInt32}
    {rightsAndSlots : List GuildBankRightsAndSlots} (h : InSequence st.guild.ranks) :
    KeepsTable st
      (st.handleSetRankInfo player rankId name rights moneyPerDay rightsAndSlots) := by
  have hguild := Guild.handleSetRankInfo_induct (g := st.guild)
    (P := fun g => g.ranks.map RankInfo.rankId = st.guild.ranks.map RankInfo.rankId ∧
      g.members = st.guild.members ∧ g.leaderGuid = st.guild.leaderGuid)
    player rankId name rights moneyPerDay rightsAndSlots ⟨rfl, rfl, rfl⟩ (by
      intro g f hf hg
      have hid : ∀ rank, (f rank).rankId = rank.rankId := by
        intro rank
        rcases hf with rfl | rfl | ⟨r, rfl⟩ <;> rfl
      exact ⟨(map_rankId_updateRank hid).trans hg.1, Guild.members_updateRank.trans hg.2.1,
        Guild.leaderGuid_updateRank.trans hg.2.2⟩)
  refine KeepsTable.of_map_eq h hguild.1 ?_ hguild.2.1 hguild.2.2
  unfold handleSetRankInfo
  dsimp only
  split
  · rfl
  · split
    · rfl
    · exact RankTables.guildRank_foldl (fun _ _ => RankTables.guildRank_insGuildBankRight) _ _

theorem map_rankId_createMissingTabs (tabs : UInt8) (ranks : List RankInfo) :
    (ranks.map fun rank => rank.createMissingTabsIfNeeded tabs).map RankInfo.rankId =
      ranks.map RankInfo.rankId := by
  rw [List.map_map]
  rfl

theorem handleBuyBankTab_keeps {tabId : UInt8} {hasEnoughMoney : Bool}
    (h : InSequence st.guild.ranks) :
    KeepsTable st (st.handleBuyBankTab player tabId hasEnoughMoney) := by
  have hnew : KeepsTable st st.createNewBankTab :=
    KeepsTable.of_map_eq h (map_rankId_createMissingTabs _ _)
      (RankTables.guildRank_foldl (RankTables.guildRank_createMissingTabs _) _ _) rfl rfl
  unfold handleBuyBankTab
  repeat' split
  all_goals first | exact KeepsTable.refl h | exact hnew

/-- The rank is removed: there are more than the least number of ranks, it is one of them, and the
leader asks for it. -/
def Removes (st : StoredGuild) (player : ObjectGuid) (rankId : UInt8) : Prop :=
  GUILD_RANKS_MIN_COUNT < st.guild.getRanksSize ∧ rankId < st.guild.getRanksSize ∧
    st.guild.isLeader player = true

theorem handleRemoveRank_of_removes (h : st.Removes player rankId) :
    st.handleRemoveRank player rankId =
      { guild := { st.guild with ranks := st.guild.ranks.dropLast }
        db := (st.db.delGuildBankRightsForRank rankId).delGuildLowestRank rankId } := by
  unfold handleRemoveRank
  refine if_neg ?_
  rintro (hmin | hrank | hleader)
  · exact UInt8.not_le.mpr h.1 hmin
  · exact UInt8.not_le.mpr h.2.1 hrank
  · rw [h.2.2] at hleader
    cases hleader

theorem handleRemoveRank_of_not (h : ¬ st.Removes player rankId) :
    st.handleRemoveRank player rankId = st := by
  unfold handleRemoveRank
  refine if_pos ?_
  by_contra hnot
  obtain ⟨hmin, hnot⟩ := not_or.mp hnot
  obtain ⟨hrank, hleader⟩ := not_or.mp hnot
  exact h ⟨UInt8.not_le.mp hmin, UInt8.not_le.mp hrank, by simpa using hleader⟩

theorem handleRemoveRank_inSequence (h : InSequence st.guild.ranks) :
    InSequence (st.handleRemoveRank player rankId).guild.ranks := by
  by_cases hremoves : st.Removes player rankId
  · rw [handleRemoveRank_of_removes hremoves]
    refine ⟨h.toNumbered.dropLast, ?_⟩
    have hmin := UInt8.lt_iff_toNat_lt.mp hremoves.1
    rw [Guild.toNat_getRanksSize h.toNumbered] at hmin
    dsimp only
    rw [List.length_dropLast]
    omega
  · rw [handleRemoveRank_of_not hremoves]
    exact h

theorem filter_rows {m : ℕ} (hm : m ≤ 10) :
    ((List.range (m + 1)).map UInt8.ofNat).filter (fun key => ¬ key ≥ UInt8.ofNat m) =
      (List.range m).map UInt8.ofNat := by
  have hkeep : ∀ key ∈ (List.range m).map UInt8.ofNat, decide (¬ key ≥ UInt8.ofNat m) = true := by
    intro key hkey
    obtain ⟨i, hi, rfl⟩ := List.mem_map.mp hkey
    have hlt := List.mem_range.mp hi
    refine decide_eq_true ?_
    rw [ge_iff_le, UInt8.le_iff_toNat_le, toNat_ofNat_rank hm, toNat_ofNat_rank (by omega)]
    omega
  rw [List.range_succ, List.map_append, List.filter_append, List.filter_eq_self.mpr hkeep]
  simp

theorem handleRemoveLowestRank_spec (h : InSequence st.guild.ranks) (hrows : st.Rows)
    (hremoves : st.Removes player st.guild.getLowestRankId) {st' : StoredGuild}
    (hst' : st.handleRemoveRank player st.guild.getLowestRankId = st') :
    ∃ rank, rank.rankId = st.guild.getLowestRankId ∧
      st.guild.ranks = st'.guild.ranks ++ [rank] ∧
      st.db.guildRank = st'.db.guildRank ++ [rank.rankId] ∧
      st'.db.guildBankRight = st.db.guildBankRight.filter (fun key => key.2 ≠ rank.rankId) ∧
      st'.guild.members = st.guild.members ∧ st'.Rows := by
  rw [handleRemoveRank_of_removes hremoves] at hst'
  subst hst'
  have hne : st.guild.ranks ≠ [] := by
    intro hnil
    have hmin := h.le_length
    rw [hnil] at hmin
    cases hmin
  have hlowest : st.guild.getLowestRankId = UInt8.ofNat (st.guild.ranks.length - 1) := by
    rw [← UInt8.toNat_inj, Guild.toNat_getLowestRankId h,
      toNat_ofNat_rank (le_trans (Nat.sub_le ..) h.length_le)]
  have hlast := h.toNumbered.getLast hne
  have hsplit := (List.dropLast_append_getLast hne).symm
  have hids := h.ids
  have hdrop := h.toNumbered.dropLast.ids
  obtain ⟨m, hm⟩ : ∃ m, st.guild.ranks.length = m + 1 :=
    ⟨_, (Nat.succ_pred_eq_of_pos (List.length_pos_iff.mpr hne)).symm⟩
  have hle := h.length_le
  rw [List.length_dropLast, hm, Nat.add_sub_cancel] at hdrop
  rw [hm] at hids hlast hlowest
  rw [Nat.add_sub_cancel] at hlast hlowest
  have hleft : st.db.guildRank.filter (fun key => ¬ key ≥ st.guild.getLowestRankId) =
      st.guild.ranks.dropLast.map RankInfo.rankId := by
    rw [hlowest, hrows, hids, hdrop]
    exact filter_rows (by omega)
  refine ⟨st.guild.ranks.getLast hne, hlast.trans hlowest.symm, hsplit, ?_, ?_, rfl, hleft⟩
  · change _ = st.db.guildRank.filter _ ++ _
    rw [hleft, hrows]
    conv_lhs => rw [hsplit, List.map_append]
    rfl
  · rw [hlast, ← hlowest]
    rfl

/-! ## 3. A guild that is loaded -/

theorem map_rankId_load (rows : GuildRows) :
    (Guild.load rows).ranks.map RankInfo.rankId = rows.ranks.map RankRow.rid := by
  have hrights : ∀ (l : List BankRightRow) (g : Guild),
      (l.foldl Guild.loadBankRightFromDB g).ranks.map RankInfo.rankId =
        g.ranks.map RankInfo.rankId := by
    intro l
    induction l with
    | nil => exact fun _ => rfl
    | cons row l ih =>
      intro g
      rw [List.foldl_cons, ih]
      unfold Guild.loadBankRightFromDB Guild.setRankBankTabRightsAndSlots
      split
      · rfl
      · exact map_rankId_updateRank fun _ => rfl
  have hmembers : ∀ (l : List MemberRow) (g : Guild),
      (l.foldl Guild.loadMemberFromDB g).ranks = g.ranks := by
    intro l
    induction l with
    | nil => exact fun _ => rfl
    | cons row l ih =>
      intro g
      rw [List.foldl_cons, ih]
      unfold Guild.loadMemberFromDB
      split <;> rfl
  have hranks : ∀ (l : List RankRow) (g : Guild),
      (l.foldl Guild.loadRankFromDB g).ranks.map RankInfo.rankId =
        g.ranks.map RankInfo.rankId ++ l.map RankRow.rid := by
    intro l
    induction l with
    | nil => exact fun _ => (List.append_nil _).symm
    | cons row l ih =>
      intro g
      rw [List.foldl_cons, ih, List.map_cons]
      simp [Guild.loadRankFromDB, RankInfo.loadFromDB]
  unfold Guild.load
  rw [hrights, hmembers, hranks]
  rfl

theorem length_le_of_nodup {ids : List UInt8} (h : ids.Nodup) : ids.length ≤ 256 := by
  have hnodup := h.map fun _ _ => UInt8.toNat_inj.mp
  have hsub : ids.map UInt8.toNat ⊆ List.range 256 := by
    intro n hn
    obtain ⟨id, _, rfl⟩ := List.mem_map.mp hn
    exact List.mem_range.mpr id.toNat_lt
  have hle := (hnodup.subperm hsub).length_le
  rw [List.length_map, List.length_range] at hle
  exact hle

theorem inSequence_of_not_broken {g : Guild} (hnodup : (g.ranks.map RankInfo.rankId).Nodup)
    (h : brokenRanks g = false) : InSequence g.ranks := by
  unfold brokenRanks at h
  dsimp only at h
  rw [Bool.or_eq_false_iff, Bool.or_eq_false_iff] at h
  obtain ⟨⟨hmin, hmax⟩, hids⟩ := h
  have hmin := UInt8.le_iff_toNat_le.mp (UInt8.not_lt.mp (of_decide_eq_false hmin))
  have hmax := UInt8.le_iff_toNat_le.mp (UInt8.not_lt.mp (of_decide_eq_false hmax))
  have hlen := length_le_of_nodup hnodup
  rw [List.length_map] at hlen
  have hsize : g.getRanksSize.toNat = g.ranks.length := by
    have hmod : g.getRanksSize.toNat = g.ranks.length % 256 := UInt8.toNat_ofNat'
    have hfive : GUILD_RANKS_MIN_COUNT.toNat = 5 := rfl
    omega
  rw [hsize] at hmin hmax hids
  refine ⟨⟨List.ext_getElem? ?_, hmax⟩, hmin⟩
  intro i
  rw [List.getElem?_map, List.getElem?_map]
  by_cases hi : i < g.ranks.length
  · have hid := List.any_eq_false.mp hids i (List.mem_range.mpr hi)
    rw [List.getElem?_range hi]
    simpa using hid
  · rw [List.getElem?_eq_none (Nat.not_lt.mp hi), List.getElem?_eq_none (by simpa using hi)]
    rfl

theorem validateRanks_spec (st : StoredGuild) (hrows : st.Rows)
    (hnodup : (st.guild.ranks.map RankInfo.rankId).Nodup)
    {st' : StoredGuild} (hst' : st.validateRanks getTrinityString = st') :
    InSequence st'.guild.ranks ∧ st'.Rows ∧ st'.guild.members = st.guild.members ∧
      st'.guild.leaderGuid = st.guild.leaderGuid := by
  unfold validateRanks at hst'
  split at hst'
  · exact createDefaultGuildRanks_spec getTrinityString
      { st with guild := { st.guild with ranks := [] } } rfl hst'
  · rename_i hbroken
    have hkeeps : KeepsTable st st' := by
      subst hst'
      exact KeepsTable.of_map_eq (inSequence_of_not_broken hnodup (by simpa using hbroken))
        (map_rankId_createMissingTabs _ _)
        (RankTables.guildRank_foldl (RankTables.guildRank_createMissingTabs _) _ _) rfl rfl
    exact ⟨hkeeps.inSequence, hkeeps.rows hrows, hkeeps.members, hkeeps.leaderGuid⟩

end ranks

end StoredGuild

/-! ## 4. The members' ranks -/

namespace Guild

def Below (n : ℕ) (g : Guild) : Prop := ∀ member ∈ g.members, member.rankId.toNat < n

section Below

variable {g : Guild} {n : ℕ} {guid player : ObjectGuid} {member : Member} {name : String}

theorem Below.setMember (h : Below n g) (hm : member.rankId.toNat < n) :
    Below n (g.setMember member) := by
  intro other hother
  rcases mem_setMember.mp hother with rfl | ⟨hmem, _⟩
  · exact hm
  · exact h other hmem

theorem Below.eraseMember (h : Below n g) : Below n (g.eraseMember guid) :=
  fun other hother => h other (mem_eraseMember.mp hother).1

theorem Below.changeRank {newRank : UInt8} (h : Below n g) (hnew : newRank.toNat < n) :
    Below n (g.updateMember guid fun member => member.changeRank newRank) := by
  intro other hother
  obtain ⟨m, hm, rfl⟩ := mem_updateMember.mp hother
  split
  · exact hnew
  · exact h m hm

theorem Below.setLeaderGUID (h : Below n g) (hn : 0 < n) : Below n (g.setLeaderGUID member) :=
  Below.changeRank (g := { g with leaderGuid := member.guid }) h hn

theorem Below.deleteMember {g' : Guild} (h : Below n g) (hn : 0 < n)
    (hg' : g.deleteMember guid = some g') : Below n g' := by
  rcases deleteMember_some hg' with ⟨_, rfl⟩ | ⟨_, newLeader, _, _, rfl⟩
  · exact h.eraseMember
  · exact (h.setLeaderGUID hn).eraseMember

theorem ranks_deleteMember {g' : Guild} (hg' : g.deleteMember guid = some g') :
    g'.ranks = g.ranks := by
  rcases deleteMember_some hg' with ⟨_, rfl⟩ | ⟨_, newLeader, _, _, rfl⟩ <;> rfl

theorem Below.handleSetLeader (h : Below n g) (hn : 1 < n) :
    Below n (g.handleSetLeader player name) := by
  rcases handleSetLeader_spec g player name with heq | ⟨oldLeader, newLeader, _, _, _, heq⟩
  · rwa [heq]
  · rw [heq]
    exact (h.setLeaderGUID (by omega)).changeRank hn

theorem ranks_handleSetLeader : (g.handleSetLeader player name).ranks = g.ranks := by
  rcases handleSetLeader_spec g player name with heq | ⟨oldLeader, newLeader, _, _, _, heq⟩
  · rw [heq]
  · rw [heq]
    rfl

theorem toNat_getLowestRankId_lt (hseq : InSequence g.ranks) (hn : g.ranks.length ≤ n) :
    g.getLowestRankId.toNat < n := by
  have hmin := hseq.le_length
  rw [toNat_getLowestRankId hseq]
  omega

theorem toNat_sub_one {rankId : UInt8} (h : 0 < rankId.toNat) :
    (rankId - 1).toNat = rankId.toNat - 1 :=
  UInt8.toNat_sub_of_le _ _ (UInt8.le_iff_toNat_le.mpr h)

theorem toNat_add_one {rankId other : UInt8} (h : rankId < other) :
    (rankId + 1).toNat = rankId.toNat + 1 := by
  have hlt := UInt8.lt_iff_toNat_lt.mp h
  have hother := other.toNat_lt
  rw [UInt8.toNat_add]
  exact Nat.mod_eq_of_lt (show rankId.toNat + 1 < 2 ^ 8 by omega)

theorem Below.handleUpdateMemberRank {demote : Bool} (h : Below n g) (hseq : InSequence g.ranks)
    (hn : g.ranks.length ≤ n) : Below n (g.handleUpdateMemberRank player name demote) := by
  rcases handleUpdateMemberRank_spec g player name demote with
    heq | ⟨me, member, hme, hname, _, ⟨_, _, hlowest, heq⟩ | ⟨_, habove, heq⟩⟩
  · rwa [heq]
  · rw [heq]
    refine h.changeRank ?_
    have hlt := UInt8.lt_iff_toNat_lt.mp hlowest
    have hlow := toNat_getLowestRankId_lt hseq hn
    rw [toNat_add_one hlowest]
    omega
  · rw [heq]
    refine h.changeRank ?_
    have hlt := UInt8.lt_iff_toNat_lt.mp habove
    have hmember := h member (mem_of_getMemberByName hname)
    rw [toNat_sub_one (by omega)]
    omega

theorem ranks_handleUpdateMemberRank {demote : Bool} :
    (g.handleUpdateMemberRank player name demote).ranks = g.ranks := by
  rcases handleUpdateMemberRank_spec g player name demote with
    heq | ⟨me, member, _, _, _, ⟨_, _, _, heq⟩ | ⟨_, _, heq⟩⟩
  · rw [heq]
  · rw [heq]
    rfl
  · rw [heq]
    rfl

theorem Below.changeMemberRank {newRank : UInt8} (h : Below n g) (hseq : InSequence g.ranks)
    (hn : g.ranks.length ≤ n) : Below n (g.changeMemberRank guid newRank).2 := by
  rcases changeMemberRank_spec g guid newRank with heq | ⟨hle, _, _, heq⟩
  · rwa [heq]
  · rw [heq]
    exact h.changeRank (lt_of_le_of_lt (UInt8.le_iff_toNat_le.mp hle)
      (toNat_getLowestRankId_lt hseq hn))

theorem ranks_changeMemberRank {newRank : UInt8} :
    (g.changeMemberRank guid newRank).2.ranks = g.ranks := by
  rcases changeMemberRank_spec g guid newRank with heq | ⟨_, _, _, heq⟩
  · rw [heq]
  · rw [heq]
    rfl

theorem mem_of_mem_rehash {order : List ObjectGuid}
    (hm : member ∈ (RosterState.rehash order g).members) : member ∈ g.members := by
  unfold RosterState.rehash at hm
  split at hm
  · obtain ⟨guid, _, hget⟩ := List.mem_filterMap.mp hm
    exact mem_of_getMember hget
  · exact hm

theorem ranks_rehash {order : List ObjectGuid} : (RosterState.rehash order g).ranks = g.ranks := by
  unfold RosterState.rehash
  split <;> rfl

theorem Below.validateMembers (hseq : InSequence g.ranks)
    (hne : ∀ member ∈ g.members, member.rankId ≠ g.getRanksSize) :
    Below g.ranks.length g.validateMembers := by
  intro other hother
  obtain ⟨m, hm, rfl⟩ := List.mem_map.mp hother
  split
  · exact toNat_getLowestRankId_lt hseq (le_refl _)
  · rename_i hle
    have hle' := UInt8.le_iff_toNat_le.mp (UInt8.not_lt.mp hle)
    have hne' : m.rankId.toNat ≠ g.getRanksSize.toNat :=
      fun heq => hne m hm (UInt8.toNat_inj.mp heq)
    rw [toNat_getRanksSize hseq.toNumbered] at hle' hne'
    omega

theorem Below.validateLeader {g' : Guild} (h : Below n g) (hn : 0 < n)
    (hg' : g.validateLeader = some g') : Below n g' ∧ g'.ranks = g.ranks := by
  unfold Guild.validateLeader at hg'
  split at hg'
  · split at hg'
    · cases hg'
    · rename_i g0 hg0
      split at hg'
      · cases hg'
      · obtain rfl := Option.some.inj hg'
        exact ⟨h.deleteMember hn hg0, ranks_deleteMember hg0⟩
  · split at hg'
    · obtain rfl := Option.some.inj hg'
      exact ⟨h, rfl⟩
    · obtain rfl := Option.some.inj hg'
      exact ⟨h.setLeaderGUID hn, rfl⟩

theorem Below.validateMasters {allowMultipleGuildMaster : Bool} (h : Below n g) (hn : 1 < n) :
    Below n (g.validateMasters allowMultipleGuildMaster) := by
  unfold Guild.validateMasters
  split
  · exact h
  · intro other hother
    obtain ⟨m, hm, rfl⟩ := List.mem_map.mp hother
    split
    · exact hn
    · exact h m hm

theorem ranks_validateMasters {allowMultipleGuildMaster : Bool} :
    (g.validateMasters allowMultipleGuildMaster).ranks = g.ranks := by
  unfold Guild.validateMasters
  split <;> rfl

end Below

end Guild

/-! ## 5. Runs -/

/-- The ranks are in sequence, their rows are the same, and every member's rank is one of them. -/
structure RanksSound (st : StoredGuild) : Prop where
  inSequence : InSequence st.guild.ranks
  rows : st.Rows
  below : Guild.Below st.guild.ranks.length st.guild

namespace RanksSound

variable {st st' : StoredGuild} {f : Guild → Guild}

theorem pos (h : RanksSound st) : 1 < st.guild.ranks.length := by
  have hmin := h.inSequence.le_length
  omega

theorem mapGuild (h : RanksSound st) (hranks : (f st.guild).ranks = st.guild.ranks)
    (hbelow : Guild.Below st.guild.ranks.length (f st.guild)) : RanksSound (st.mapGuild f) := by
  unfold StoredGuild.mapGuild
  refine ⟨?_, ?_, ?_⟩
  · dsimp only
    rw [hranks]
    exact h.inSequence
  · unfold StoredGuild.Rows
    dsimp only
    rw [hranks]
    exact h.rows
  · dsimp only
    rw [hranks]
    exact hbelow

theorem keepsTable (h : RanksSound st) (hkeeps : StoredGuild.KeepsTable st st') :
    RanksSound st' := by
  refine ⟨hkeeps.inSequence, hkeeps.rows h.rows, ?_⟩
  intro member hm
  rw [hkeeps.members] at hm
  exact lt_of_lt_of_le (h.below member hm) hkeeps.length

end RanksSound

namespace RosterState

/-- If the rank is removed, it is the lowest and no member holds it. -/
def RemovesUnused (st : StoredGuild) (player : ObjectGuid) (rankId : UInt8) : Prop :=
  st.Removes player rankId →
    rankId = st.guild.getLowestRankId ∧ ∀ member ∈ st.guild.members, member.rankId ≠ rankId

/-- No rank is removed that a member holds. -/
def KeepsUsedRanks (s : RosterState) : RosterEvent → Prop
  | .removeLowestRank player =>
    ∀ st, s.stored = some st → RemovesUnused st player st.guild.getLowestRankId
  | .removeRank player rankId => ∀ st, s.stored = some st → RemovesUnused st player rankId
  | _ => True

theorem RanksSound.handleRemoveRank {st : StoredGuild} {player : ObjectGuid} {rankId : UInt8}
    (h : RanksSound st) (hunused : RemovesUnused st player rankId) :
    RanksSound (st.handleRemoveRank player rankId) := by
  by_cases hremoves : st.Removes player rankId
  · obtain ⟨rfl, hfree⟩ := hunused hremoves
    obtain ⟨rank, hid, hranks, _, _, hmembers, hrows⟩ :=
      StoredGuild.handleRemoveLowestRank_spec h.inSequence h.rows hremoves rfl
    refine ⟨StoredGuild.handleRemoveRank_inSequence h.inSequence, hrows, ?_⟩
    intro member hm
    rw [hmembers] at hm
    have hlen := congrArg List.length hranks
    rw [List.length_append, List.length_singleton] at hlen
    have hlt := h.below member hm
    have hne : member.rankId.toNat ≠ st.guild.ranks.length - 1 := by
      rw [← Guild.toNat_getLowestRankId h.inSequence]
      exact fun heq => hfree member hm (UInt8.toNat_inj.mp heq)
    omega
  · rw [StoredGuild.handleRemoveRank_of_not hremoves]
    exact h

theorem RanksSound.step {s : RosterState} (e : RosterEvent) (h : Holds (fun _ => RanksSound) s)
    (hC : KeepsUsedRanks s e) : Holds (fun _ => RanksSound) (s.step e) := by
  have hdelete : ∀ guid, Holds (fun _ => RanksSound) (s.deleteMember guid) := by
    intro guid
    refine h.deleteMember ?_
    intro st g hst hg
    exact hst.mapGuild (f := fun _ => g) (Guild.ranks_deleteMember hg)
      (hst.below.deleteMember (by have := hst.pos; omega) hg)
  cases e with
  | addMember guid name found =>
    refine h.addMember ?_
    intro st _ _ hst
    refine hst.mapGuild rfl (hst.below.setMember ?_)
    exact Guild.toNat_getLowestRankId_lt hst.inSequence (le_refl _)
  | leave player => exact h.handleLeaveMember (hdelete player)
  | removeMember player name => exact h.handleRemoveMember hdelete
  | deleteMember guid => exact hdelete guid
  | setLeader player name =>
    exact h.mapStored fun st hst =>
      hst.mapGuild Guild.ranks_handleSetLeader (hst.below.handleSetLeader hst.pos)
  | updateMemberRank player name demote =>
    exact h.mapStored fun st hst => hst.mapGuild Guild.ranks_handleUpdateMemberRank
      (hst.below.handleUpdateMemberRank hst.inSequence (le_refl _))
  | changeMemberRank guid newRank =>
    exact h.mapStored fun st hst => hst.mapGuild Guild.ranks_changeMemberRank
      (hst.below.changeMemberRank hst.inSequence (le_refl _))
  | addNewRank player name =>
    exact h.mapStored fun st hst =>
      hst.keepsTable (StoredGuild.handleAddNewRank_keeps hst.inSequence)
  | removeLowestRank player =>
    intro st' hst'
    obtain ⟨st, hst, rfl⟩ := Option.map_eq_some_iff.mp hst'
    exact RanksSound.handleRemoveRank (h st hst) (hC st hst)
  | removeRank player rankId =>
    intro st' hst'
    obtain ⟨st, hst, rfl⟩ := Option.map_eq_some_iff.mp hst'
    exact RanksSound.handleRemoveRank (h st hst) (hC st hst)
  | setRankInfo player rankId name rights moneyPerDay rightsAndSlots =>
    exact h.mapStored fun st hst =>
      hst.keepsTable (StoredGuild.handleSetRankInfo_keeps hst.inSequence)
  | buyBankTab player tabId hasEnoughMoney =>
    exact h.mapStored fun st hst =>
      hst.keepsTable (StoredGuild.handleBuyBankTab_keeps hst.inSequence)
  | disband => exact Holds.disband
  | rehash order =>
    exact h.mapStored fun st hst => hst.mapGuild Guild.ranks_rehash
      fun member hm => hst.below member (Guild.mem_of_mem_rehash hm)
  | elsewhere guid inGuild => exact h.elsewhere fun st _ hst => hst

/-- What is removed from memory and from the tables, if a rank is removed: the last rank, its row
and its bank rights. -/
def RemovesSame (s : RosterState) (e : RosterEvent) : Prop :=
  (∃ player, e = .removeLowestRank player) ∨ (∃ player rankId, e = .removeRank player rankId) →
    ∀ st st', s.stored = some st → (s.step e).stored = some st' →
      st' = st ∨ ∃ rank,
        st.guild.ranks = st'.guild.ranks ++ [rank] ∧
        st.db.guildRank = st'.db.guildRank ++ [rank.rankId] ∧
        st'.db.guildBankRight = st.db.guildBankRight.filter fun key => key.2 ≠ rank.rankId

theorem RanksSound.removesSame {s : RosterState} (e : RosterEvent)
    (h : Holds (fun _ => RanksSound) s) (hC : KeepsUsedRanks s e) : RemovesSame s e := by
  have hone : ∀ player rankId st, s.stored = some st → RemovesUnused st player rankId →
      st.handleRemoveRank player rankId = st ∨ ∃ rank,
        st.guild.ranks = (st.handleRemoveRank player rankId).guild.ranks ++ [rank] ∧
        st.db.guildRank = (st.handleRemoveRank player rankId).db.guildRank ++ [rank.rankId] ∧
        (st.handleRemoveRank player rankId).db.guildBankRight =
          st.db.guildBankRight.filter fun key => key.2 ≠ rank.rankId := by
    intro player rankId st hst hunused
    by_cases hremoves : st.Removes player rankId
    · obtain ⟨rfl, _⟩ := hunused hremoves
      obtain ⟨rank, _, hranks, hrow, hrights, _, _⟩ := StoredGuild.handleRemoveLowestRank_spec
        (h st hst).inSequence (h st hst).rows hremoves rfl
      exact Or.inr ⟨rank, hranks, hrow, hrights⟩
    · exact Or.inl (StoredGuild.handleRemoveRank_of_not hremoves)
  rintro (⟨player, rfl⟩ | ⟨player, rankId, rfl⟩) st st' hst hst'
  · obtain ⟨st0, hst0, rfl⟩ := Option.map_eq_some_iff.mp hst'
    obtain rfl := Option.some.inj (hst.symm.trans hst0)
    exact hone player _ st hst (hC st hst)
  · obtain ⟨st0, hst0, rfl⟩ := Option.map_eq_some_iff.mp hst'
    obtain rfl := Option.some.inj (hst.symm.trans hst0)
    exact hone player rankId st hst (hC st hst)

/-- How a guild begins: it is created, or its rows, which meet `C`, are loaded and validated. -/
inductive Begins (C : GuildRows → (TrinityStrings → String) → Prop) : RosterState → Prop
  | create (getTrinityString : TrinityStrings → String) (leader : ObjectGuid) (name : String)
      (inGuild : ObjectGuid → Bool) {s : RosterState}
      (h : create getTrinityString leader name inGuild = (true, s)) : Begins C s
  | load {getTrinityString : TrinityStrings → String} {allowMultipleGuildMaster : Bool}
      {rows : GuildRows} {st : StoredGuild} (inGuild : ObjectGuid → Bool)
      (hC : C rows getTrinityString)
      (h : (StoredGuild.load rows).validate getTrinityString allowMultipleGuildMaster = some st) :
      Begins C ⟨some st, inGuild⟩

/-- No loaded member has for his rank the number of ranks there are once these are validated. -/
def LoadsUsedRanks (rows : GuildRows) (getTrinityString : TrinityStrings → String) : Prop :=
  let st := StoredGuild.load rows
  ∀ member ∈ st.guild.members,
    member.rankId ≠ (st.validateRanks getTrinityString).guild.getRanksSize

theorem RanksSound.create {getTrinityString : TrinityStrings → String} {leader : ObjectGuid}
    {name : String} {inGuild : ObjectGuid → Bool} {s : RosterState}
    (h : create getTrinityString leader name inGuild = (true, s)) :
    Holds (fun _ => RanksSound) s := by
  obtain ⟨_, rfl⟩ := create_spec h
  intro st hst
  obtain rfl := Option.some.inj hst
  obtain ⟨hseq, hrows, hmembers, _⟩ :=
    StoredGuild.createDefaultGuildRanks_spec getTrinityString (blank leader) rfl rfl
  have hsound : RanksSound ((blank leader).createDefaultGuildRanks getTrinityString) := by
    refine ⟨hseq, hrows, ?_⟩
    intro member hm
    rw [hmembers] at hm
    cases hm
  exact hsound.mapGuild rfl (hsound.below.setMember (lt_trans Nat.zero_lt_one hsound.pos))

theorem RanksSound.load {getTrinityString : TrinityStrings → String} {st : StoredGuild}
    {allowMultipleGuildMaster : Bool} {rows : GuildRows}
    (hC : LoadsUsedRanks rows getTrinityString)
    (h : (StoredGuild.load rows).validate getTrinityString allowMultipleGuildMaster = some st) :
    RanksSound st := by
  obtain ⟨g, hg, rfl⟩ := Option.map_eq_some_iff.mp h
  have hids := StoredGuild.map_rankId_load rows
  obtain ⟨hseq, hrows, hmembers, _⟩ := StoredGuild.validateRanks_spec
    (StoredGuild.load rows) hids.symm (hids ▸ rows.ranks_nodup) rfl
  have hne : ∀ member ∈ ((StoredGuild.load rows).validateRanks getTrinityString).guild.members,
      member.rankId ≠
        ((StoredGuild.load rows).validateRanks getTrinityString).guild.getRanksSize := by
    intro member hm
    rw [hmembers] at hm
    exact hC member hm
  generalize (StoredGuild.load rows).validateRanks getTrinityString = st at hseq hrows hne hg ⊢
  have hmembers : RanksSound (st.mapGuild Guild.validateMembers) :=
    ⟨hseq, hrows, Guild.Below.validateMembers hseq hne⟩
  obtain ⟨hbelow, hranks⟩ := hmembers.below.validateLeader (by have := hmembers.pos; omega) hg
  have hleader := hmembers.mapGuild (f := fun _ => g) hranks hbelow
  exact hleader.mapGuild Guild.ranks_validateMasters (hleader.below.validateMasters hleader.pos)

/-- **The rank table over a run.**  From a guild that is created, or loaded without the one rank
`Validate` overlooks, and as long as no rank is removed that a member holds: the ranks are numbered
in sequence, between the least and the greatest number of them, and so are their rows; every
member's rank is one of them; and the rank that is removed from the tables is the one that is
removed from memory. -/
theorem run_ranksSound {s : RosterState} (hs : Begins LoadsUsedRanks s) {evs : List RosterEvent}
    (hevs : Steps step KeepsUsedRanks s evs) :
    States step
      (Holds fun _ st => RanksSound st ∧ ∀ member ∈ st.guild.members,
        ∃ rankInfo ∈ st.guild.ranks, st.guild.getRankInfo member.rankId = some rankInfo ∧
          rankInfo.rankId = member.rankId) s evs ∧
      Steps step RemovesSame s evs := by
  have hbegins : Holds (fun _ => RanksSound) s := by
    cases hs with
    | create getTrinityString leader name inGuild h => exact RanksSound.create h
    | load inGuild hC h =>
      intro st hst
      obtain rfl := Option.some.inj hst
      exact RanksSound.load hC h
  constructor
  · refine States.imp ?_
      (States.of_steps (fun s e hinv hC => RanksSound.step e hinv hC) hbegins hevs)
    intro s hinv st hst
    refine ⟨hinv st hst, ?_⟩
    intro member hm
    exact Guild.getRankInfo_of_lt (hinv st hst).inSequence.toNumbered
      ((hinv st hst).below member hm)
  · exact Steps.of_inv (fun s e hinv hC => RanksSound.step e hinv hC)
      (fun s e hinv hC => RanksSound.removesSame e hinv hC) hbegins hevs

def founded : RosterState := (create (fun _ => "Rank") 1 "Alice" fun _ => false).2

/-- A sixth rank is made, given to a second member, and removed once he has another. -/
theorem founded_ranksSound :
    States step
      (Holds fun _ st => RanksSound st ∧ ∀ member ∈ st.guild.members,
        ∃ rankInfo ∈ st.guild.ranks, st.guild.getRankInfo member.rankId = some rankInfo ∧
          rankInfo.rankId = member.rankId) founded
      [.addNewRank 1 "Recruit", .addMember 2 "Bob" true, .changeMemberRank 2 4,
        .removeLowestRank 1] ∧
      Steps step RemovesSame founded
        [.addNewRank 1 "Recruit", .addMember 2 "Bob" true, .changeMemberRank 2 4,
          .removeLowestRank 1] := by
  refine run_ranksSound (Begins.create (fun _ => "Rank") 1 "Alice" (fun _ => false) rfl)
    ⟨trivial, trivial, trivial, ?_, trivial⟩
  intro st hst _
  obtain rfl := Option.some.inj hst
  exact ⟨rfl, by decide⟩

/-- The rows of a guild in which the second member has a rank that does not exist. -/
def lostRankRows : GuildRows where
  leaderGuid := 1
  bankMoney := 0
  purchasedTabs := 0
  ranks := [⟨0, "Master", 0, 0⟩, ⟨1, "Officer", 0, 0⟩, ⟨2, "Veteran", 0, 0⟩, ⟨3, "Member", 0, 0⟩,
    ⟨4, "Initiate", 0, 0⟩]
  ranks_nodup := by decide
  members := [⟨1, "Alice", 0, fun _ => 0, true⟩, ⟨2, "Bob", 5, fun _ => 0, true⟩]
  bankRights := []

/-- **A member's rank is not always in the table**: not once his rank has been removed, nor when
a guild is loaded in which his rank is the first there is not. -/
theorem ranksSound_fails :
    (Begins (fun _ _ => True) founded ∧
      ∃ st, (exec step founded [.addNewRank 1 "Recruit", .addMember 2 "Bob" true,
        .removeLowestRank 1]).stored = some st ∧
        ∃ member ∈ st.guild.members, ¬ member.rankId.toNat < st.guild.ranks.length) ∧
      ∃ st, (StoredGuild.load lostRankRows).validate (fun _ => "Rank") false = some st ∧
        ∃ member ∈ st.guild.members, ¬ member.rankId.toNat < st.guild.ranks.length := by
  refine ⟨⟨Begins.create (fun _ => "Rank") 1 "Alice" (fun _ => false) rfl, _, rfl, ?_⟩, _, rfl, ?_⟩
  · decide
  · decide

end RosterState

end FunPvp.Guilds
