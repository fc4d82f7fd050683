/-
# Who may move whom

Members of a guild promote, demote and remove each other. `HandleUpdateMemberRank` and
`HandleRemoveMember` compare the number of the member's rank with that of the one who asks, each in
its own way: a promotion needs two ranks of distance, because the new rank has to be below that of
the one who asks, a demotion and a removal need one.

Each request overrules in the sense of `Overrules`: it reaches only who is strictly below, and
leaves him strictly below. So nobody who is at or above all those who ask is ever moved
(`RosterState.authority`).
-/
import FunPvp.Lib.Hierarchy
import FunPvp.Guilds.Leadership

namespace FunPvp.Guilds

open FunPvp.Lib

/-! ## 1. Requests -/

/-- The rank invariants: members have guids of their own, the leader is a guild master, the ranks
are in sequence and every member's rank is one of them. -/
structure RankInvariants (g : Guild) : Prop where
  nodup : (g.members.map Member.guid).Nodup
  leader : ∀ member ∈ g.members, member.guid = g.leaderGuid → member.rankId = GR_GUILDMASTER
  inSequence : InSequence g.ranks
  below : g.Below g.ranks.length

namespace RosterState

inductive RequestKind
  | promote
  | demote
  | remove

/-- A request of `player` about the member called `name`. -/
structure Request where
  player : ObjectGuid
  kind : RequestKind
  name : String

def Request.event (r : Request) : RosterEvent :=
  match r.kind with
  | .promote => .updateMemberRank r.player r.name false
  | .demote => .updateMemberRank r.player r.name true
  | .remove => .removeMember r.player r.name

def request (s : RosterState) (r : Request) : RosterState := s.step r.event

def rank (s : RosterState) (guid : ObjectGuid) : Option ℕ :=
  s.stored.bind fun st => (st.guild.getMember guid).map fun member => member.rankId.toNat

/-- What a request does to a member below the one who asks. -/
def Moves : RequestKind → ℕ → Option ℕ → Prop
  | .promote, old, new => ∃ n, new = some n ∧ n + 1 = old
  | .demote, old, new => new = some (old + 1)
  | .remove, _, new => new = none

end RosterState

/-! ## 2. What one request does -/

namespace Guild

variable {g : Guild} {guid other : ObjectGuid}

theorem name_of_getMemberByName {member : Member} {name : String}
    (h : g.getMemberByName name = some member) : member.name = name := by
  simpa using List.find?_some h

theorem getMember_changeRank {newRank : UInt8} :
    (g.updateMember guid fun member => member.changeRank newRank).getMember other =
      if other = guid then (g.getMember other).map fun member => member.changeRank newRank
      else g.getMember other :=
  getMember_updateMember (f := fun member => member.changeRank newRank) fun _ => rfl

theorem getMember_eraseMember :
    (g.eraseMember guid).getMember other = if other = guid then none else g.getMember other := by
  unfold getMember eraseMember
  dsimp only
  rw [List.find?_filter]
  split
  · rename_i heq
    rw [heq, List.find?_eq_none]
    simp
  · rename_i hne
    refine congrArg (fun p => g.members.find? p) ?_
    funext member
    by_cases hm : member.guid = other
    · simp [hm, hne]
    · simp [hm]

end Guild

namespace RankInvariants

variable {g : Guild} {member : Member} {newRank : UInt8}

theorem changeRank (h : RankInvariants g) (hm : member ∈ g.members)
    (hmaster : member.rankId ≠ GR_GUILDMASTER) (hnew : newRank.toNat < g.ranks.length) :
    RankInvariants (g.updateMember member.guid fun m => m.changeRank newRank) := by
  refine ⟨?_, ?_, h.inSequence, h.below.changeRank hnew⟩
  · have hguids := Guild.map_guid_updateMember g member.guid
      (f := fun m => m.changeRank newRank) fun _ => rfl
    rw [hguids]
    exact h.nodup
  · intro other hother hguid
    obtain ⟨m, hm', rfl⟩ := Guild.mem_updateMember.mp hother
    split at hguid
    · rename_i heq
      exact absurd (h.leader member hm (heq ▸ hguid)) hmaster
    · rename_i hne
      rw [if_neg hne]
      exact h.leader m hm' hguid

theorem eraseMember (h : RankInvariants g) : RankInvariants (g.eraseMember member.guid) := by
  refine ⟨h.nodup.sublist (List.filter_sublist.map _), ?_, h.inSequence, h.below.eraseMember⟩
  exact fun other hother => h.leader other (Guild.mem_eraseMember.mp hother).1

end RankInvariants

namespace RosterState

/-- A request that does something: `me` asks for it, it is about `target`, who is below him, and
the guild goes on. -/
structure Acts (s : RosterState) (st : StoredGuild) (r : Request) (me target : Member) :
    Prop where
  asks : st.guild.getMember r.player = some me
  named : st.guild.getMemberByName r.name = some target
  other : target.guid ≠ r.player
  below : me.rankId.toNat < target.rankId.toNat
  frame : ∀ guid, guid ≠ target.guid → (s.request r).rank guid = s.rank guid
  moves : Moves r.kind target.rankId.toNat ((s.request r).rank target.guid)
  still : ∀ n, (s.request r).rank target.guid = some n → me.rankId.toNat < n
  inv : ∃ st', (s.request r).stored = some st' ∧ RankInvariants st'.guild

section request

variable {s : RosterState} {st : StoredGuild} {r : Request} {me target : Member}

theorem rank_of_stored (hst : s.stored = some st) (guid : ObjectGuid) :
    s.rank guid = (st.guild.getMember guid).map fun member => member.rankId.toNat := by
  unfold rank
  rw [hst]
  rfl

theorem Acts.of_changeRank {newRank : UInt8} {g : Guild} (hst : s.stored = some st)
    (hinv : RankInvariants st.guild)
    (hme : st.guild.getMember r.player = some me)
    (hnamed : st.guild.getMemberByName r.name = some target) (hother : target.guid ≠ r.player)
    (hbelow : me.rankId.toNat < target.rankId.toNat)
    (hg : g = st.guild.updateMember target.guid fun m => m.changeRank newRank)
    (hr : (s.request r).stored = some { st with guild := g })
    (hnew : newRank.toNat < st.guild.ranks.length)
    (hmoves : Moves r.kind target.rankId.toNat (some newRank.toNat))
    (hstill : me.rankId.toNat < newRank.toNat) : Acts s st r me target := by
  subst hg
  have hmem := Guild.mem_of_getMemberByName hnamed
  have hmaster : target.rankId ≠ GR_GUILDMASTER := by
    intro heq
    rw [heq] at hbelow
    exact absurd hbelow (Nat.not_lt_zero _)
  have htarget : (s.request r).rank target.guid = some newRank.toNat := by
    rw [rank_of_stored hr]
    dsimp only
    rw [Guild.getMember_changeRank, if_pos rfl, Guild.getMember_of_mem hinv.nodup hmem]
    rfl
  refine ⟨hme, hnamed, hother, hbelow, ?_, htarget ▸ hmoves, ?_,
    _, hr, hinv.changeRank hmem hmaster hnew⟩
  · intro guid hne
    rw [rank_of_stored hr, rank_of_stored hst]
    dsimp only
    rw [Guild.getMember_changeRank, if_neg hne]
  · intro n hn
    rw [htarget] at hn
    obtain rfl := Option.some.inj hn
    exact hstill

theorem Acts.of_erase (hst : s.stored = some st) (hinv : RankInvariants st.guild)
    (hme : st.guild.getMember r.player = some me)
    (hnamed : st.guild.getMemberByName r.name = some target) (hother : target.guid ≠ r.player)
    (hbelow : me.rankId.toNat < target.rankId.toNat) (hkind : r.kind = .remove)
    (hr : (s.request r).stored = some { st with guild := st.guild.eraseMember target.guid }) :
    Acts s st r me target := by
  have hgone : (s.request r).rank target.guid = none := by
    rw [rank_of_stored hr]
    dsimp only
    rw [Guild.getMember_eraseMember, if_pos rfl]
    rfl
  refine ⟨hme, hnamed, hother, hbelow, ?_, ?_, ?_, _, hr, hinv.eraseMember⟩
  · intro guid hne
    rw [rank_of_stored hr, rank_of_stored hst]
    dsimp only
    rw [Guild.getMember_eraseMember, if_neg hne]
  · rw [hgone, hkind]
    exact rfl
  · intro n hn
    rw [hgone] at hn
    cases hn

theorem mapStored_eq_self {f : StoredGuild → StoredGuild} (hst : s.stored = some st)
    (hf : f st = st) : s.mapStored f = s := by
  unfold mapStored
  rw [hst, Option.map_some, hf, ← hst]

theorem updateMemberRank_cases (hst : s.stored = some st) (hinv : RankInvariants st.guild)
    (r : Request) (demote : Bool) (hr : r.event = .updateMemberRank r.player r.name demote)
    (hkind : r.kind = if demote then .demote else .promote) :
    s.request r = s ∨ ∃ me target, Acts s st r me target := by
  have hrequest : s.request r = s.mapStored fun st =>
      st.mapGuild fun g => g.handleUpdateMemberRank r.player r.name demote := by
    unfold request
    rw [hr]
    rfl
  have hstored : (s.request r).stored =
      some { st with guild := st.guild.handleUpdateMemberRank r.player r.name demote } := by
    rw [hrequest]
    unfold mapStored
    rw [hst]
    rfl
  rcases Guild.handleUpdateMemberRank_spec st.guild r.player r.name demote with
    heq | ⟨me, target, hme, hnamed, hother, hmove⟩
  · refine Or.inl ?_
    rw [hrequest]
    exact mapStored_eq_self hst (congrArg (fun g => ({ st with guild := g } : StoredGuild)) heq)
  refine Or.inr ⟨me, target, ?_⟩
  have hlen := hinv.inSequence.length_le
  have hmehas := hinv.below me (Guild.mem_of_getMember hme)
  have htargethas := hinv.below target (Guild.mem_of_getMemberByName hnamed)
  rcases hmove with ⟨rfl, hbelow, hlowest, heq⟩ | ⟨rfl, habove, heq⟩
  · have hlt := UInt8.lt_iff_toNat_lt.mp hbelow
    have hlow := UInt8.lt_iff_toNat_lt.mp hlowest
    rw [Guild.toNat_getLowestRankId hinv.inSequence] at hlow
    have hadd := Guild.toNat_add_one hlowest
    refine Acts.of_changeRank hst hinv hme hnamed hother hlt heq hstored (by omega) ?_ (by omega)
    rw [hkind, hadd]
    exact rfl
  · have hlt := UInt8.lt_iff_toNat_lt.mp habove
    have hadd : (me.rankId + 1).toNat = me.rankId.toNat + 1 := by
      rw [UInt8.toNat_add]
      exact Nat.mod_eq_of_lt (show me.rankId.toNat + 1 < 2 ^ 8 by omega)
    have hsub := Guild.toNat_sub_one (show 0 < target.rankId.toNat by omega)
    refine Acts.of_changeRank hst hinv hme hnamed hother (by omega) heq hstored (by omega) ?_
      (by omega)
    rw [hkind]
    exact ⟨_, rfl, by omega⟩

theorem removeMember_cases (hst : s.stored = some st) (hinv : RankInvariants st.guild)
    (r : Request) (hkind : r.kind = .remove) :
    s.request r = s ∨ ∃ me target, Acts s st r me target := by
  have hrequest : s.request r = s.handleRemoveMember r.player r.name := by
    unfold request Request.event
    rw [hkind]
    rfl
  rcases handleRemoveMember_spec s r.player r.name with
    heq | ⟨st', me, target, hst', hme, hnamed, hmaster, hbelow, heq⟩
  · exact Or.inl (hrequest.trans heq)
  obtain rfl := Option.some.inj (hst.symm.trans hst')
  have hmem := Guild.mem_of_getMemberByName hnamed
  have hlt := UInt8.lt_iff_toNat_lt.mp hbelow
  have hleader : st.guild.leaderGuid ≠ target.guid :=
    fun h => hmaster (hinv.leader target hmem h.symm)
  have hother : target.guid ≠ r.player := by
    intro hself
    have hget := Guild.getMember_of_mem hinv.nodup hmem
    rw [hself, hme] at hget
    obtain rfl := Option.some.inj hget
    exact lt_irrefl _ hlt
  refine Or.inr ⟨me, target, Acts.of_erase hst hinv hme hnamed hother hlt hkind ?_⟩
  rw [hrequest, heq]
  unfold deleteMember Guild.deleteMember
  rw [hst]
  dsimp only
  rw [if_neg hleader]

theorem request_cases (hst : s.stored = some st) (hinv : RankInvariants st.guild) (r : Request) :
    s.request r = s ∨ ∃ me target, Acts s st r me target := by
  rcases r with ⟨player, kind, name⟩
  cases kind with
  | promote => exact updateMemberRank_cases hst hinv _ false rfl rfl
  | demote => exact updateMemberRank_cases hst hinv _ true rfl rfl
  | remove => exact removeMember_cases hst hinv _ rfl

theorem Acts.rank_target (h : Acts s st r me target) (hst : s.stored = some st)
    (hinv : RankInvariants st.guild) : s.rank target.guid = some target.rankId.toNat := by
  rw [rank_of_stored hst,
    Guild.getMember_of_mem hinv.nodup (Guild.mem_of_getMemberByName h.named)]
  rfl

theorem Acts.rank_me (h : Acts s st r me target) (hst : s.stored = some st) :
    s.rank r.player = some me.rankId.toNat := by
  rw [rank_of_stored hst, h.asks]
  rfl

/-- **A request overrules**: only somebody strictly below the one who asks is moved, and he stays
strictly below. -/
theorem request_overrules (hst : s.stored = some st) (hinv : RankInvariants st.guild)
    (r : Request) : Overrules r.player s.rank (s.request r).rank := by
  rcases request_cases hst hinv r with heq | ⟨me, target, h⟩
  · rw [heq]
    exact Overrules.refl _ _
  · intro guid
    by_cases hguid : guid = target.guid
    · subst hguid
      exact Or.inr ⟨_, _, h.rank_me hst, h.rank_target hst hinv, h.below, h.still⟩
    · exact Or.inl (h.frame guid hguid)

end request

/-! ## 3. Sequences of requests -/

def Ordered (s : RosterState) : Prop := ∃ st, s.stored = some st ∧ RankInvariants st.guild

theorem Ordered.request {s : RosterState} (h : Ordered s) (r : Request) :
    Ordered (s.request r) := by
  obtain ⟨st, hst, hinv⟩ := h
  rcases request_cases hst hinv r with heq | ⟨me, target, hacts⟩
  · rw [heq]
    exact ⟨st, hst, hinv⟩
  · exact hacts.inv

/-- **Rank authority.**  In a guild with the rank invariants, somebody whose rank or membership is
changed by a request is the member it is about and was strictly below the member who made it; he is
moved by exactly one rank, or removed, and is strictly below the other afterwards. And whatever
requests are made one after the other, a member at or above everyone who makes one keeps his
rank. -/
theorem authority {s : RosterState} {st : StoredGuild} (hst : s.stored = some st)
    (hinv : RankInvariants st.guild) :
    (∀ (r : Request) (guid : ObjectGuid), (s.request r).rank guid ≠ s.rank guid →
      ∃ me target, st.guild.getMember r.player = some me ∧
        st.guild.getMember guid = some target ∧ target.name = r.name ∧
        me.rankId < target.rankId ∧
        Moves r.kind target.rankId.toNat ((s.request r).rank guid) ∧
        (s.request r).rank r.player = some me.rankId.toNat ∧
        ∀ n, (s.request r).rank guid = some n → me.rankId.toNat < n) ∧
      ∀ (rs : List Request) (guid : ObjectGuid) (n : ℕ), s.rank guid = some n →
        (∀ r ∈ rs, ∀ m, s.rank r.player = some m → n ≤ m) →
          States request (fun s => s.rank guid = some n) s rs := by
  constructor
  · intro r guid hne
    rcases request_cases hst hinv r with heq | ⟨me, target, h⟩
    · exact absurd (congrArg (fun s => rank s guid) heq) hne
    · have hguid : guid = target.guid := by
        by_contra hother
        exact hne (h.frame guid hother)
      subst hguid
      refine ⟨me, target, h.asks,
        Guild.getMember_of_mem hinv.nodup (Guild.mem_of_getMemberByName h.named),
        Guild.name_of_getMemberByName h.named, UInt8.lt_iff_toNat_lt.mpr h.below, h.moves, ?_,
        h.still⟩
      rw [h.frame r.player fun heq => h.other heq.symm]
      exact h.rank_me hst
  · intro rs guid n hguid habove
    refine States.keepsRank (I := Ordered) (fun s r hs => hs.request r) ?_ ⟨st, hst, hinv⟩ hguid
      habove
    rintro s r ⟨st, hst, hinv⟩
    exact request_overrules hst hinv r

def staffed : RosterState :=
  exec step founded [.addMember 2 "Bob" true, .addMember 3 "Eve" true, .changeMemberRank 2 1]

/-- The officer promotes the initiate, who asks twice to have him demoted and removed. -/
theorem staffed_authority :
    ∃ st, staffed.stored = some st ∧
      (∃ me target, st.guild.getMember 2 = some me ∧ st.guild.getMember 3 = some target ∧
        target.name = "Eve" ∧ me.rankId < target.rankId ∧
        Moves .promote target.rankId.toNat ((staffed.request ⟨2, .promote, "Eve"⟩).rank 3) ∧
        (staffed.request ⟨2, .promote, "Eve"⟩).rank 2 = some me.rankId.toNat ∧
        ∀ n, (staffed.request ⟨2, .promote, "Eve"⟩).rank 3 = some n → me.rankId.toNat < n) ∧
      States request (fun s => s.rank 2 = some 1) staffed
        [⟨2, .promote, "Eve"⟩, ⟨3, .demote, "Bob"⟩, ⟨3, .remove, "Bob"⟩] := by
  obtain ⟨st, hst⟩ : ∃ st, staffed.stored = some st := ⟨_, rfl⟩
  have hinv : RankInvariants st.guild := by
    obtain rfl := Option.some.inj hst
    exact ⟨by decide, by decide, ⟨⟨by decide, by decide⟩, by decide⟩, by unfold Guild.Below; decide⟩
  have hauthority := authority hst hinv
  refine ⟨st, hst, hauthority.1 ⟨2, .promote, "Eve"⟩ 3 (by decide), hauthority.2 _ 2 1 rfl ?_⟩
  intro r hr m hm
  simp only [List.mem_cons, List.not_mem_nil, or_false] at hr
  rcases hr with rfl | rfl | rfl
  · exact (Option.some.inj hm).le
  · exact (Option.some.inj hm) ▸ (by decide)
  · exact (Option.some.inj hm) ▸ (by decide)

end RosterState

end FunPvp.Guilds
