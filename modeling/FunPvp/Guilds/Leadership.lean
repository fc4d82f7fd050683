/-
# Who leads a guild

The leader of a guild is stored as its leader guid and as the member whose rank is that of a guild
master. As long as the guild exists the guid is that of a member (`Attended`), whoever joins,
leaves, is removed or takes over: where the leader is deleted another member takes his place, and
where there is no other the guild is disbanded.

That the two agree (`Led`) is up to two requests. `ChangeMemberRank` is the command of a game
master, who may make further guild masters with it or take the rank from the leader. And a leader
who names himself in `HandleSetLeader` is made leader first and an officer afterwards.
-/
import FunPvp.Guilds.RankTable

namespace FunPvp.Guilds

open FunPvp.Lib

/-! ## 1. The leader is a member -/

/-- Members have guids of their own, and the leader guid is one of them. -/
structure Attended (g : Guild) : Prop where
  nodup : (g.members.map Member.guid).Nodup
  leader : ∃ member ∈ g.members, member.guid = g.leaderGuid

namespace Attended

variable {g g' : Guild} {guid player : ObjectGuid} {member : Member} {name : String}

theorem of_map_eq (h : Attended g)
    (hguids : g'.members.map Member.guid = g.members.map Member.guid)
    (hleader : ∃ member ∈ g'.members, member.guid = g'.leaderGuid) : Attended g' :=
  ⟨by rw [hguids]; exact h.nodup, hleader⟩

theorem exists_of_map_eq {members members' : List Member}
    (hguids : members'.map Member.guid = members.map Member.guid)
    (hm : ∃ member ∈ members, member.guid = guid) : ∃ member ∈ members', member.guid = guid := by
  have hmem : guid ∈ members'.map Member.guid := by
    rw [hguids]
    exact List.mem_map.mpr hm
  exact List.mem_map.mp hmem

theorem setMember (h : Attended g) : Attended (g.setMember member) := by
  constructor
  · unfold Guild.setMember
    dsimp only
    rw [List.map_cons, List.nodup_cons]
    constructor
    · intro hmem
      obtain ⟨other, hother, hguid⟩ := List.mem_map.mp hmem
      have hne := (List.mem_filter.mp hother).2
      exact of_decide_eq_true hne hguid
    · exact h.nodup.sublist (List.filter_sublist.map _)
  · obtain ⟨leader, hmem, hguid⟩ := h.leader
    by_cases heq : leader.guid = member.guid
    · exact ⟨member, Guild.mem_setMember.mpr (Or.inl rfl), heq.symm.trans hguid⟩
    · exact ⟨leader, Guild.mem_setMember.mpr (Or.inr ⟨hmem, heq⟩), hguid⟩

theorem updateMember {f : Member → Member} (h : Attended g)
    (hf : ∀ member, (f member).guid = member.guid) : Attended (g.updateMember guid f) := by
  have hguids := Guild.map_guid_updateMember g guid hf
  exact h.of_map_eq hguids (exists_of_map_eq hguids h.leader)

theorem setLeaderGUID (h : Attended g) (hm : member ∈ g.members) :
    Attended (g.setLeaderGUID member) := by
  have hguids := Guild.map_guid_setLeaderGUID g member
  exact h.of_map_eq hguids (exists_of_map_eq hguids ⟨member, hm, rfl⟩)

theorem eraseMember (h : Attended g) (hne : g.leaderGuid ≠ guid) :
    Attended (g.eraseMember guid) := by
  constructor
  · exact h.nodup.sublist (List.filter_sublist.map _)
  · obtain ⟨leader, hmem, hguid⟩ := h.leader
    exact ⟨leader, Guild.mem_eraseMember.mpr ⟨hmem, hguid ▸ hne⟩, hguid⟩

theorem deleteMember (h : Attended g) (hg' : g.deleteMember guid = some g') : Attended g' := by
  rcases Guild.deleteMember_some hg' with ⟨hne, rfl⟩ | ⟨_, newLeader, hmem, hne, rfl⟩
  · exact h.eraseMember hne
  · exact (h.setLeaderGUID hmem).eraseMember hne

theorem handleSetLeader (h : Attended g) : Attended (g.handleSetLeader player name) := by
  rcases Guild.handleSetLeader_spec g player name with
    heq | ⟨oldLeader, newLeader, _, _, hnew, heq⟩
  · rwa [heq]
  · rw [heq]
    exact (h.setLeaderGUID (Guild.mem_of_getMemberByName hnew)).updateMember fun _ => rfl

theorem handleUpdateMemberRank {demote : Bool} (h : Attended g) :
    Attended (g.handleUpdateMemberRank player name demote) := by
  rcases Guild.handleUpdateMemberRank_spec g player name demote with
    heq | ⟨_, member, _, _, _, ⟨_, _, _, heq⟩ | ⟨_, _, heq⟩⟩
  · rwa [heq]
  · rw [heq]
    exact h.updateMember fun _ => rfl
  · rw [heq]
    exact h.updateMember fun _ => rfl

theorem changeMemberRank {newRank : UInt8} (h : Attended g) :
    Attended (g.changeMemberRank guid newRank).2 := by
  rcases Guild.changeMemberRank_spec g guid newRank with heq | ⟨_, _, _, heq⟩
  · rwa [heq]
  · rw [heq]
    exact h.updateMember fun _ => rfl

theorem mem_rehash {order : List ObjectGuid} (h : Attended g) (hm : member ∈ g.members) :
    member ∈ (RosterState.rehash order g).members := by
  unfold RosterState.rehash
  split
  · rename_i hperm
    refine List.mem_filterMap.mpr ⟨member.guid, ?_, Guild.getMember_of_mem h.nodup hm⟩
    exact hperm.mem_iff.mpr (List.mem_map_of_mem hm)
  · exact hm

theorem rehash {order : List ObjectGuid} (h : Attended g) :
    Attended (RosterState.rehash order g) := by
  constructor
  · unfold RosterState.rehash
    split
    · rename_i hperm
      have hguids : (order.filterMap g.getMember).map Member.guid = order := by
        rw [List.map_filterMap]
        have hsame : ∀ guid ∈ order, (g.getMember guid).map Member.guid = some guid := by
          intro guid hguid
          obtain ⟨member, hm, rfl⟩ := List.mem_map.mp (hperm.mem_iff.mp hguid)
          rw [Guild.getMember_of_mem h.nodup hm]
          rfl
        rw [List.filterMap_congr hsame, List.filterMap_some]
      dsimp only
      rw [hguids]
      exact hperm.nodup_iff.mpr h.nodup
    · exact h.nodup
  · obtain ⟨leader, hmem, hguid⟩ := h.leader
    have hleader : (RosterState.rehash order g).leaderGuid = g.leaderGuid := by
      unfold RosterState.rehash
      split <;> rfl
    exact ⟨leader, h.mem_rehash hmem, hguid.trans hleader.symm⟩

theorem of_members (h : Attended g) (hmembers : g'.members = g.members)
    (hleader : g'.leaderGuid = g.leaderGuid) : Attended g' := by
  refine ⟨by rw [hmembers]; exact h.nodup, ?_⟩
  rw [hmembers, hleader]
  exact h.leader

end Attended

/-! ## 2. The leader is the one guild master -/

/-- The leader is the member who has the rank of a guild master. That it stays so depends on the
ranks, of which the lowest is given to whoever joins, and on members being in a guild, so that
nobody joins a second time. -/
structure Mastered (inGuild : ObjectGuid → Bool) (g : Guild) : Prop extends Attended g where
  master : ∀ member ∈ g.members, member.rankId = GR_GUILDMASTER ↔ member.guid = g.leaderGuid
  inSequence : InSequence g.ranks
  below : g.Below 10
  inGuild : ∀ member ∈ g.members, inGuild member.guid = true

/-- The leader guid is that of a member whose rank is that of a guild master, and no other member
has that rank. -/
def Led (g : Guild) : Prop :=
  ∃ leader, g.getMember g.leaderGuid = some leader ∧ leader.rankId = GR_GUILDMASTER ∧
    ∀ member ∈ g.members, member.rankId = GR_GUILDMASTER → member = leader

theorem Attended.getMember_leader {g : Guild} (h : Attended g) :
    ∃ leader, g.getMember g.leaderGuid = some leader := by
  obtain ⟨leader, hmem, hguid⟩ := h.leader
  exact ⟨leader, hguid ▸ Guild.getMember_of_mem h.nodup hmem⟩

namespace Mastered

variable {inGuild : ObjectGuid → Bool} {g g' : Guild} {guid player : ObjectGuid}
  {member : Member} {name : String}

theorem led (h : Mastered inGuild g) : Led g := by
  obtain ⟨leader, hleader⟩ := h.toAttended.getMember_leader
  have hmem := Guild.mem_of_getMember hleader
  have hguid := Guild.guid_of_getMember hleader
  refine ⟨leader, hleader, (h.master leader hmem).mpr hguid, ?_⟩
  intro member hm hrank
  have heq := ((h.master member hm).mp hrank).trans hguid.symm
  exact List.inj_on_of_nodup_map h.nodup hm hmem heq

theorem length_le (h : Mastered inGuild g) : g.ranks.length ≤ 10 := h.inSequence.length_le

theorem eq_of_isLeader (h : Mastered inGuild g) (hplayer : g.isLeader player = true) :
    player = g.leaderGuid := by
  unfold Guild.isLeader at hplayer
  rcases Bool.or_eq_true_iff.mp hplayer with hguid | hrank
  · exact of_decide_eq_true hguid
  · split at hrank
    · rename_i member hget
      have hmaster := (h.master member (Guild.mem_of_getMember hget)).mp (of_decide_eq_true hrank)
      rw [← hmaster, Guild.guid_of_getMember hget]
    · cases hrank

theorem addMember (h : Mastered inGuild g) (hfree : inGuild guid = false) :
    Mastered (Function.update inGuild guid true)
      (g.setMember (Member.new guid name g.getLowestRankId)) := by
  have hnot : ∀ member ∈ g.members, member.guid ≠ guid := by
    intro member hm heq
    have hin := h.inGuild member hm
    rw [heq, hfree] at hin
    cases hin
  have hleader : g.leaderGuid ≠ guid := by
    obtain ⟨leader, hmem, hguid⟩ := h.leader
    exact hguid ▸ hnot leader hmem
  have hlowest := Guild.toNat_getLowestRankId h.inSequence
  have hmin := h.inSequence.le_length
  refine ⟨h.toAttended.setMember, ?_, h.inSequence, h.below.setMember ?_, ?_⟩
  · intro other hother
    rcases Guild.mem_setMember.mp hother with rfl | ⟨hmem, _⟩
    · constructor
      · intro hrank
        have hzero : g.getLowestRankId.toNat = 0 := congrArg UInt8.toNat hrank
        omega
      · exact fun heq => absurd heq.symm hleader
    · exact h.master other hmem
  · exact Guild.toNat_getLowestRankId_lt h.inSequence h.length_le
  · intro other hother
    rcases Guild.mem_setMember.mp hother with rfl | ⟨hmem, _⟩
    · exact Function.update_self ..
    · rw [Function.update_of_ne (hnot other hmem)]
      exact h.inGuild other hmem

theorem deleteMember (h : Mastered inGuild g) (hg' : g.deleteMember guid = some g') :
    Mastered (Function.update inGuild guid false) g' := by
  have hattended := h.toAttended.deleteMember hg'
  have hbelow := h.below.deleteMember (by decide) hg'
  have hseq : InSequence g'.ranks := Guild.ranks_deleteMember hg' ▸ h.inSequence
  rcases Guild.deleteMember_some hg' with ⟨hne, rfl⟩ | ⟨hguid, newLeader, hmem, hne, rfl⟩
  · refine ⟨hattended, ?_, hseq, hbelow, ?_⟩
    · exact fun other hother => h.master other (Guild.mem_eraseMember.mp hother).1
    · intro other hother
      obtain ⟨hother, hguid⟩ := Guild.mem_eraseMember.mp hother
      rw [Function.update_of_ne hguid]
      exact h.inGuild other hother
  · refine ⟨hattended, ?_, hseq, hbelow, ?_⟩
    · intro other hother
      obtain ⟨hother, hleft⟩ := Guild.mem_eraseMember.mp hother
      obtain ⟨m, hm, rfl⟩ := Guild.mem_setLeaderGUID.mp hother
      change _ ↔ _ = newLeader.guid
      split at hleft
      · rename_i heq
        rw [if_pos heq]
        exact ⟨fun _ => heq, fun _ => rfl⟩
      · rename_i heq
        rw [if_neg heq, h.master m hm, hguid]
        exact ⟨fun habs => absurd habs hleft, fun habs => absurd habs heq⟩
    · intro other hother
      obtain ⟨hother, hleft⟩ := Guild.mem_eraseMember.mp hother
      rw [Function.update_of_ne hleft]
      obtain ⟨m, hm, rfl⟩ := Guild.mem_setLeaderGUID.mp hother
      have hin := h.inGuild m hm
      split
      · exact hin
      · exact hin

theorem changeRank {newRank : UInt8} (h : Mastered inGuild g)
    (hmaster : newRank = GR_GUILDMASTER ↔ guid = g.leaderGuid) (hnew : newRank.toNat < 10) :
    Mastered inGuild (g.updateMember guid fun member => member.changeRank newRank) := by
  refine ⟨h.toAttended.updateMember fun _ => rfl, ?_, h.inSequence, h.below.changeRank hnew, ?_⟩
  · intro other hother
    obtain ⟨m, hm, rfl⟩ := Guild.mem_updateMember.mp hother
    split
    · rename_i heq
      subst heq
      exact hmaster
    · exact h.master m hm
  · intro other hother
    obtain ⟨m, hm, rfl⟩ := Guild.mem_updateMember.mp hother
    have hin := h.inGuild m hm
    split
    · exact hin
    · exact hin

theorem handleSetLeader (h : Mastered inGuild g)
    (hother : g.isLeader player = true → ∀ member, g.getMemberByName name = some member →
      member.guid ≠ player) :
    Mastered inGuild (g.handleSetLeader player name) := by
  have hattended : Attended (g.handleSetLeader player name) := h.toAttended.handleSetLeader
  have hbelow : (g.handleSetLeader player name).Below 10 := h.below.handleSetLeader (by decide)
  rcases Guild.handleSetLeader_spec g player name with
    heq | ⟨oldLeader, newLeader, hleader, hold, hnew, heq⟩
  · rwa [heq]
  · rw [heq] at hattended hbelow ⊢
    have hne := hother hleader newLeader hnew
    have hplayer := h.eq_of_isLeader hleader
    have hguid := Guild.guid_of_getMember hold
    refine ⟨hattended, ?_, h.inSequence, hbelow, ?_⟩
    · intro other hmem
      obtain ⟨m', hm', rfl⟩ := Guild.mem_updateMember.mp hmem
      obtain ⟨m, hm, rfl⟩ := Guild.mem_setLeaderGUID.mp hm'
      change _ ↔ _ = newLeader.guid
      by_cases hmnew : m.guid = newLeader.guid
      · have hmold : (m.changeRank GR_GUILDMASTER).guid ≠ oldLeader.guid := by
          rw [hguid]
          exact hmnew ▸ hne
        rw [if_pos hmnew, if_neg hmold]
        exact ⟨fun _ => hmnew, fun _ => rfl⟩
      · rw [if_neg hmnew]
        by_cases hmold : m.guid = oldLeader.guid
        · rw [if_pos hmold]
          have hofficer : GR_OFFICER ≠ GR_GUILDMASTER := by decide
          exact ⟨fun habs => absurd habs hofficer, fun habs => absurd habs hmnew⟩
        · rw [if_neg hmold, h.master m hm, ← hplayer, ← hguid]
          exact ⟨fun habs => absurd habs hmold, fun habs => absurd habs hmnew⟩
    · intro other hmem
      obtain ⟨m', hm', rfl⟩ := Guild.mem_updateMember.mp hmem
      obtain ⟨m, hm, rfl⟩ := Guild.mem_setLeaderGUID.mp hm'
      have hin := h.inGuild m hm
      split_ifs
      all_goals exact hin

theorem handleUpdateMemberRank {demote : Bool} (h : Mastered inGuild g) :
    Mastered inGuild (g.handleUpdateMemberRank player name demote) := by
  have hlow := Guild.toNat_getLowestRankId_lt h.inSequence h.length_le
  rcases Guild.handleUpdateMemberRank_spec g player name demote with
    heq | ⟨me, member, hme, hname, _, hmove⟩
  · rwa [heq]
  have hmem := Guild.mem_of_getMemberByName hname
  have hmember := h.below member hmem
  have hme := h.below me (Guild.mem_of_getMember hme)
  have hmove' : ∀ newRank : UInt8, 0 < member.rankId.toNat → 0 < newRank.toNat →
      newRank.toNat < 10 →
      Mastered inGuild (g.updateMember member.guid fun m => m.changeRank newRank) := by
    intro newRank hrank hnew hlt
    refine h.changeRank ?_ hlt
    constructor
    · intro hzero
      rw [hzero] at hnew
      cases hnew
    · intro hleader
      rw [(h.master member hmem).mpr hleader] at hrank
      cases hrank
  rcases hmove with ⟨_, hbelow, hlowest, heq⟩ | ⟨_, habove, heq⟩
  · rw [heq]
    have hlt := UInt8.lt_iff_toNat_lt.mp hbelow
    have hlt' := UInt8.lt_iff_toNat_lt.mp hlowest
    have hadd := Guild.toNat_add_one hlowest
    exact hmove' _ (by omega) (by omega) (by omega)
  · rw [heq]
    have hlt := UInt8.lt_iff_toNat_lt.mp habove
    have hadd : (me.rankId + 1).toNat = me.rankId.toNat + 1 := by
      rw [UInt8.toNat_add]
      exact Nat.mod_eq_of_lt (show me.rankId.toNat + 1 < 2 ^ 8 by omega)
    have hsub := Guild.toNat_sub_one (show 0 < member.rankId.toNat by omega)
    exact hmove' _ (by omega) (by omega) (by omega)

theorem changeMemberRank {newRank : UInt8} (h : Mastered inGuild g)
    (hmaster : newRank ≤ g.getLowestRankId → (g.getMember guid).isSome →
      (newRank = GR_GUILDMASTER ↔ guid = g.leaderGuid)) :
    Mastered inGuild (g.changeMemberRank guid newRank).2 := by
  rcases Guild.changeMemberRank_spec g guid newRank with heq | ⟨hle, member, hget, heq⟩
  · rwa [heq]
  · rw [heq]
    have hlow := Guild.toNat_getLowestRankId_lt h.inSequence h.length_le
    exact h.changeRank (hmaster hle (by rw [hget]; rfl))
      (lt_of_le_of_lt (UInt8.le_iff_toNat_le.mp hle) hlow)

theorem rehash {order : List ObjectGuid} (h : Mastered inGuild g) :
    Mastered inGuild (RosterState.rehash order g) := by
  have hleader : (RosterState.rehash order g).leaderGuid = g.leaderGuid := by
    unfold RosterState.rehash
    split <;> rfl
  have hseq : InSequence (RosterState.rehash order g).ranks := by
    rw [Guild.ranks_rehash]
    exact h.inSequence
  refine ⟨h.toAttended.rehash, ?_, hseq, ?_, ?_⟩
  · intro member hm
    rw [hleader]
    exact h.master member (Guild.mem_of_mem_rehash hm)
  · exact fun member hm => h.below member (Guild.mem_of_mem_rehash hm)
  · exact fun member hm => h.inGuild member (Guild.mem_of_mem_rehash hm)

theorem of_members (h : Mastered inGuild g) (hseq : InSequence g'.ranks)
    (hmembers : g'.members = g.members) (hleader : g'.leaderGuid = g.leaderGuid) :
    Mastered inGuild g' := by
  refine ⟨h.toAttended.of_members hmembers hleader, ?_, hseq, ?_, ?_⟩
  · rw [hmembers, hleader]
    exact h.master
  · unfold Guild.Below
    rw [hmembers]
    exact h.below
  · rw [hmembers]
    exact h.inGuild

end Mastered

/-! ## 3. Runs -/

namespace RosterState

/-- Neither does the leader name himself, nor does the command of a game master give the rank of a
guild master to another member or take it from the leader. -/
def LeavesMasters (s : RosterState) : RosterEvent → Prop
  | .setLeader player name =>
    ∀ st, s.stored = some st → st.guild.isLeader player = true →
      ∀ member, st.guild.getMemberByName name = some member → member.guid ≠ player
  | .changeMemberRank guid newRank =>
    ∀ st, s.stored = some st → newRank ≤ st.guild.getLowestRankId →
      (st.guild.getMember guid).isSome →
        (newRank = GR_GUILDMASTER ↔ guid = st.guild.leaderGuid)
  | _ => True

theorem members_handleRemoveRank (st : StoredGuild) (player : ObjectGuid) (rankId : UInt8) :
    (st.handleRemoveRank player rankId).guild.members = st.guild.members ∧
      (st.handleRemoveRank player rankId).guild.leaderGuid = st.guild.leaderGuid := by
  unfold StoredGuild.handleRemoveRank
  split
  · exact ⟨rfl, rfl⟩
  · exact ⟨rfl, rfl⟩

theorem Attended.step {s : RosterState} (e : RosterEvent)
    (h : Holds (fun _ st => InSequence st.guild.ranks ∧ Attended st.guild) s) :
    Holds (fun _ st => InSequence st.guild.ranks ∧ Attended st.guild) (s.step e) := by
  have hdelete : ∀ guid,
      Holds (fun _ st => InSequence st.guild.ranks ∧ Attended st.guild) (s.deleteMember guid) := by
    intro guid
    refine h.deleteMember ?_
    rintro st g ⟨hseq, hst⟩ hg
    exact ⟨Guild.ranks_deleteMember hg ▸ hseq, hst.deleteMember hg⟩
  have hkeeps : ∀ f : StoredGuild → StoredGuild,
      (∀ st, InSequence st.guild.ranks → StoredGuild.KeepsTable st (f st)) →
      Holds (fun _ st => InSequence st.guild.ranks ∧ Attended st.guild) (s.mapStored f) := by
    intro f hf
    refine h.mapStored ?_
    rintro st ⟨hseq, hst⟩
    have hk := hf st hseq
    exact ⟨hk.inSequence, hst.of_members hk.members hk.leaderGuid⟩
  have hremove : ∀ player (rankId : StoredGuild → UInt8),
      Holds (fun _ st => InSequence st.guild.ranks ∧ Attended st.guild)
        (s.mapStored fun st => st.handleRemoveRank player (rankId st)) := by
    intro player rankId
    refine h.mapStored ?_
    rintro st ⟨hseq, hst⟩
    obtain ⟨hmembers, hleader⟩ := members_handleRemoveRank st player (rankId st)
    exact ⟨StoredGuild.handleRemoveRank_inSequence hseq, hst.of_members hmembers hleader⟩
  cases e with
  | addMember guid name found => exact h.addMember fun st _ _ hst => ⟨hst.1, hst.2.setMember⟩
  | leave player => exact h.handleLeaveMember (hdelete player)
  | removeMember player name => exact h.handleRemoveMember hdelete
  | deleteMember guid => exact hdelete guid
  | setLeader player name =>
    refine h.mapStored ?_
    rintro st ⟨hseq, hst⟩
    exact ⟨Guild.ranks_handleSetLeader (g := st.guild) ▸ hseq, hst.handleSetLeader⟩
  | updateMemberRank player name demote =>
    refine h.mapStored ?_
    rintro st ⟨hseq, hst⟩
    exact ⟨Guild.ranks_handleUpdateMemberRank (g := st.guild) ▸ hseq, hst.handleUpdateMemberRank⟩
  | changeMemberRank guid newRank =>
    refine h.mapStored ?_
    rintro st ⟨hseq, hst⟩
    exact ⟨Guild.ranks_changeMemberRank (g := st.guild) ▸ hseq, hst.changeMemberRank⟩
  | addNewRank player name => exact hkeeps _ fun st => StoredGuild.handleAddNewRank_keeps
  | removeLowestRank player => exact hremove player fun st => st.guild.getLowestRankId
  | removeRank player rankId => exact hremove player fun _ => rankId
  | setRankInfo player rankId name rights moneyPerDay rightsAndSlots =>
    exact hkeeps _ fun st => StoredGuild.handleSetRankInfo_keeps
  | buyBankTab player tabId hasEnoughMoney =>
    exact hkeeps _ fun st => StoredGuild.handleBuyBankTab_keeps
  | disband => exact Holds.disband
  | rehash order =>
    refine h.mapStored ?_
    rintro st ⟨hseq, hst⟩
    exact ⟨Guild.ranks_rehash (g := st.guild) ▸ hseq, hst.rehash⟩
  | elsewhere guid inGuild => exact h.elsewhere fun st _ hst => hst

theorem Mastered.step {s : RosterState} (e : RosterEvent)
    (h : Holds (fun inGuild st => Mastered inGuild st.guild) s) (hC : LeavesMasters s e) :
    Holds (fun inGuild st => Mastered inGuild st.guild) (s.step e) := by
  have hdelete : ∀ guid,
      Holds (fun inGuild st => Mastered inGuild st.guild) (s.deleteMember guid) :=
    fun guid => h.deleteMember fun st g hst hg => hst.deleteMember hg
  have hkeeps : ∀ f : StoredGuild → StoredGuild,
      (∀ st, InSequence st.guild.ranks → StoredGuild.KeepsTable st (f st)) →
      Holds (fun inGuild st => Mastered inGuild st.guild) (s.mapStored f) := by
    intro f hf
    refine h.mapStored ?_
    intro st hst
    have hk := hf st hst.inSequence
    exact hst.of_members hk.inSequence hk.members hk.leaderGuid
  have hremove : ∀ player (rankId : StoredGuild → UInt8),
      Holds (fun inGuild st => Mastered inGuild st.guild)
        (s.mapStored fun st => st.handleRemoveRank player (rankId st)) := by
    intro player rankId
    refine h.mapStored ?_
    intro st hst
    obtain ⟨hmembers, hleader⟩ := members_handleRemoveRank st player (rankId st)
    exact hst.of_members (StoredGuild.handleRemoveRank_inSequence hst.inSequence) hmembers hleader
  cases e with
  | addMember guid name found =>
    exact h.addMember fun st _ hfree hst => hst.addMember hfree
  | leave player => exact h.handleLeaveMember (hdelete player)
  | removeMember player name => exact h.handleRemoveMember hdelete
  | deleteMember guid => exact hdelete guid
  | setLeader player name =>
    intro st' hst'
    obtain ⟨st, hst, rfl⟩ := Option.map_eq_some_iff.mp hst'
    exact (h st hst).handleSetLeader (hC st hst)
  | updateMemberRank player name demote =>
    exact h.mapStored fun st hst => hst.handleUpdateMemberRank
  | changeMemberRank guid newRank =>
    intro st' hst'
    obtain ⟨st, hst, rfl⟩ := Option.map_eq_some_iff.mp hst'
    exact (h st hst).changeMemberRank (hC st hst)
  | addNewRank player name => exact hkeeps _ fun st => StoredGuild.handleAddNewRank_keeps
  | removeLowestRank player => exact hremove player fun st => st.guild.getLowestRankId
  | removeRank player rankId => exact hremove player fun _ => rankId
  | setRankInfo player rankId name rights moneyPerDay rightsAndSlots =>
    exact hkeeps _ fun st => StoredGuild.handleSetRankInfo_keeps
  | buyBankTab player tabId hasEnoughMoney =>
    exact hkeeps _ fun st => StoredGuild.handleBuyBankTab_keeps
  | disband => exact Holds.disband
  | rehash order => exact h.mapStored fun st hst => hst.rehash
  | elsewhere guid inGuild =>
    refine h.elsewhere ?_
    intro st hnone hst
    refine { hst with inGuild := ?_ }
    intro member hm
    have hne : member.guid ≠ guid := by
      intro heq
      have hsome := Guild.isSome_getMember_iff.mpr ⟨member, hm, heq⟩
      rw [hnone] at hsome
      cases hsome
    rw [Function.update_of_ne hne]
    exact hst.inGuild member hm

theorem Mastered.create {getTrinityString : TrinityStrings → String} {leader : ObjectGuid}
    {name : String} {inGuild : ObjectGuid → Bool} {s : RosterState}
    (h : create getTrinityString leader name inGuild = (true, s)) :
    Holds (fun inGuild st => Mastered inGuild st.guild) s := by
  obtain ⟨_, rfl⟩ := create_spec h
  intro st hst
  obtain rfl := Option.some.inj hst
  obtain ⟨hseq, _, hmembers, hleader⟩ :=
    StoredGuild.createDefaultGuildRanks_spec getTrinityString (blank leader) rfl rfl
  generalize (blank leader).createDefaultGuildRanks getTrinityString = st at hseq hmembers hleader
  have honly : ∀ member,
      member ∈ (st.guild.setMember (Member.new leader name GR_GUILDMASTER)).members →
        member = Member.new leader name GR_GUILDMASTER := by
    intro member hm
    rcases Guild.mem_setMember.mp hm with heq | ⟨hmem, _⟩
    · exact heq
    · rw [hmembers] at hmem
      cases hmem
  refine ⟨⟨?_, ?_⟩, ?_, hseq, ?_, ?_⟩
  · change (List.map Member.guid (_ :: List.filter _ st.guild.members)).Nodup
    rw [hmembers]
    exact List.nodup_singleton _
  · exact ⟨_, Guild.mem_setMember.mpr (Or.inl rfl), hleader.symm⟩
  · intro member hm
    rw [honly member hm]
    exact ⟨fun _ => hleader.symm, fun _ => rfl⟩
  · intro member hm
    rw [honly member hm]
    exact Nat.zero_lt_succ _
  · intro member hm
    rw [honly member hm]
    exact Function.update_self ..

/-- **Who leads a guild, over a run.**  From its creation on, whatever happens, the leader guid is
that of a member while the guild exists. If moreover no leader names himself, and the command of a
game master neither makes a guild master nor unmakes the leader, that member has the rank of a
guild master, and no other member has it. -/
theorem run_led (getTrinityString : TrinityStrings → String) (leader : ObjectGuid) (name : String)
    (inGuild : ObjectGuid → Bool) {s : RosterState}
    (hs : create getTrinityString leader name inGuild = (true, s)) (evs : List RosterEvent) :
    States step (Holds fun _ st =>
      ∃ member, st.guild.getMember st.guild.leaderGuid = some member) s evs ∧
      (Steps step LeavesMasters s evs → States step (Holds fun _ st => Led st.guild) s evs) := by
  have hcreate := Mastered.create hs
  constructor
  · have hbegin : Holds (fun _ st => InSequence st.guild.ranks ∧ Attended st.guild) s :=
      fun st hst => ⟨(hcreate st hst).inSequence, (hcreate st hst).toAttended⟩
    have hrun := States.of_steps (fun s e hinv _ => Attended.step e hinv) hbegin
      (Steps.of_forall (C := fun _ _ => True) (fun _ _ => trivial) evs)
    exact hrun.imp fun s hinv st hst => (hinv st hst).2.getMember_leader
  · intro hC
    have hrun := States.of_steps (fun s e hinv hC => Mastered.step e hinv hC) hcreate hC
    exact hrun.imp fun s hinv st hst => (hinv st hst).led

/-- Two members join, one is promoted to the founder's second and made the leader, and the founder
leaves. -/
def succession : List RosterEvent :=
  [.addMember 2 "Bob" true, .addMember 3 "Eve" true, .changeMemberRank 2 1, .setLeader 1 "Bob",
    .leave 1]

theorem founded_led :
    States step (Holds fun _ st =>
      ∃ member, st.guild.getMember st.guild.leaderGuid = some member) founded succession ∧
      States step (Holds fun _ st => Led st.guild) founded succession := by
  have hrun := run_led (fun _ => "Rank") 1 "Alice" (fun _ => false) (s := founded) rfl succession
  refine ⟨hrun.1, hrun.2 ⟨trivial, trivial, ?_, ?_, trivial, trivial⟩⟩
  · intro st hst _ _
    obtain rfl := Option.some.inj hst
    decide
  · intro st hst _ member hname
    obtain rfl := Option.some.inj hst
    obtain rfl := Option.some.inj hname
    decide

/-- **The command of a game master undoes it**: another member may be made a guild master, and the
leader an officer. -/
theorem led_fails :
    (∃ st, (exec step founded [.addMember 2 "Bob" true, .changeMemberRank 2 0]).stored = some st ∧
      ∃ member ∈ st.guild.members, member.rankId = GR_GUILDMASTER ∧
        member.guid ≠ st.guild.leaderGuid) ∧
      ∃ st, (exec step founded [.changeMemberRank 1 1]).stored = some st ∧
        ∃ member ∈ st.guild.members, member.guid = st.guild.leaderGuid ∧
          member.rankId ≠ GR_GUILDMASTER :=
  ⟨⟨_, rfl, by decide⟩, _, rfl, by decide⟩

end RosterState

end FunPvp.Guilds
