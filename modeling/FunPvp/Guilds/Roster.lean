/-
# The roster of a guild

Who is in a guild, who holds which rank and who leads it, and which ranks there are. The leader
is stored twice: the guild has his guid, and he has the rank of a guild master. The ranks are kept
twice as well, in memory and as rows of the character database.

A guild begins with `Create`, or with what `LoadGuilds` has read of it and `Validate` has repaired,
and ends when it is disbanded. What happens in between is a run of `RosterState.step`.
-/
import FunPvp.Lib.Run
import FunPvp.Guilds.Guild

namespace FunPvp.Guilds

open FunPvp.Lib

def GUILD_RANK_NONE : UInt8 := 0xFF

/-! ## 1. Members -/

namespace Guild

def setMember (g : Guild) (member : Member) : Guild :=
  { g with members := member :: g.members.filter fun other => other.guid ≠ member.guid }

def eraseMember (g : Guild) (guid : ObjectGuid) : Guild :=
  { g with members := g.members.filter fun other => other.guid ≠ guid }

def setLeaderGUID (g : Guild) (leader : Member) : Guild :=
  { g with leaderGuid := leader.guid }.updateMember leader.guid fun member =>
    member.changeRank GR_GUILDMASTER

/-- One member in the walk of `DeleteMember` over the others: the first of the highest rank is
kept. -/
def scanLeader (guid : ObjectGuid) (newLeader : Option Member) (member : Member) :
    Option Member :=
  if member.guid = guid then newLeader
  else
    match newLeader with
    | none => some member
    | some leader => if leader.rankId > member.rankId then some member else some leader

/-- `DeleteMember` of a guild that is not being disbanded; `none` if this disbands it. -/
def deleteMember (g : Guild) (guid : ObjectGuid) : Option Guild :=
  if g.leaderGuid = guid then
    match g.members.foldl (scanLeader guid) none with
    | none => none
    | some newLeader => some ((g.setLeaderGUID newLeader).eraseMember guid)
  else some (g.eraseMember guid)

/-- `ChangeMemberRank`, the game master's command. -/
def changeMemberRank (g : Guild) (guid : ObjectGuid) (newRank : UInt8) : Bool × Guild :=
  if newRank ≤ g.getLowestRankId then
    match g.getMember guid with
    | some _ => (true, g.updateMember guid fun member => member.changeRank newRank)
    | none => (false, g)
  else (false, g)

def handleSetLeader (g : Guild) (player : ObjectGuid) (name : String) : Guild :=
  if !g.isLeader player then g
  else
    match g.getMember player with
    | none => g
    | some oldLeader =>
      match g.getMemberByName name with
      | none => g
      | some newLeader =>
        (g.setLeaderGUID newLeader).updateMember oldLeader.guid fun member =>
          member.changeRank GR_OFFICER

def handleUpdateMemberRank (g : Guild) (player : ObjectGuid) (name : String) (demote : Bool) :
    Guild :=
  if !g.hasRankRight player (if demote then GR_RIGHT_DEMOTE else GR_RIGHT_PROMOTE) then g
  else
    match g.getMemberByName name, g.getMember player with
    | some member, some memberMe =>
      if member.guid = player then g
      else if demote then
        if member.isRankNotLower memberMe.rankId then g
        else if member.rankId ≥ g.getLowestRankId then g
        else g.updateMember member.guid fun m => m.changeRank (member.rankId + 1)
      else if member.isRankNotLower (memberMe.rankId + 1) then g
      else g.updateMember member.guid fun m => m.changeRank (member.rankId - 1)
    | _, _ => g

end Guild

/-! ## 2. Ranks, in memory and in the database -/

/-- The keys of the guild's rows in `guild_rank` (`rid`) and in `guild_bank_right` (`TabId` and
`rid`). -/
structure RankTables where
  guildRank : List UInt8
  guildBankRight : List (UInt8 × UInt8)
deriving DecidableEq

namespace RankTables

/-- `CHAR_INS_GUILD_RANK`; a second row with the same key is refused. -/
def insGuildRank (db : RankTables) (rid : UInt8) : RankTables :=
  if rid ∈ db.guildRank then db else { db with guildRank := db.guildRank ++ [rid] }

/-- `CHAR_INS_GUILD_BANK_RIGHT`; a row with the same key is updated. -/
def insGuildBankRight (db : RankTables) (tabId rid : UInt8) : RankTables :=
  if (tabId, rid) ∈ db.guildBankRight then db
  else { db with guildBankRight := db.guildBankRight ++ [(tabId, rid)] }

/-- `CHAR_DEL_GUILD_RANKS` and `CHAR_DEL_GUILD_BANK_RIGHTS`. -/
def delGuildRanks (_ : RankTables) : RankTables := ⟨[], []⟩

def delGuildBankRightsForRank (db : RankTables) (rid : UInt8) : RankTables :=
  { db with guildBankRight := db.guildBankRight.filter fun key => key.2 ≠ rid }

def delGuildLowestRank (db : RankTables) (rid : UInt8) : RankTables :=
  { db with guildRank := db.guildRank.filter fun key => ¬ key ≥ rid }

/-- The rows `CreateMissingTabsIfNeeded` writes for a rank. -/
def createMissingTabs (tabs : UInt8) (db : RankTables) (rank : RankInfo) : RankTables :=
  (((List.range tabs.toNat).map UInt8.ofNat).filter fun i =>
      (rank.bankTabRightsAndSlots i).tabId ≠ i).foldl
    (fun db i => db.insGuildBankRight i rank.rankId) db

end RankTables

/-- A guild and its rows in the rank tables. -/
structure StoredGuild where
  guild : Guild
  db : RankTables

/-- The texts `_CreateDefaultGuildRanks` asks `GetTrinityString` for. -/
inductive TrinityStrings
  | LANG_GUILD_MASTER
  | LANG_GUILD_OFFICER
  | LANG_GUILD_VETERAN
  | LANG_GUILD_MEMBER
  | LANG_GUILD_INITIATE

namespace StoredGuild

/-- `_CreateRank`. The rank is put into the guild before `CreateMissingTabsIfNeeded` sees it, so
the tabs reach its rows and not the rank in the guild. -/
def createRank (s : StoredGuild) (name : String) (rights : UInt32) : Bool × StoredGuild :=
  let newRankId := s.guild.getRanksSize
  if newRankId ≥ GUILD_RANKS_MAX_COUNT then (false, s)
  else
    let info := RankInfo.new newRankId name rights 0
    (true,
      { guild := { s.guild with ranks := s.guild.ranks ++ [info] }
        db := (s.db.createMissingTabs s.guild.getPurchasedTabsSize info).insGuildRank newRankId })

def defaultRanks : List (TrinityStrings × UInt32) :=
  [(.LANG_GUILD_MASTER, GR_RIGHT_ALL), (.LANG_GUILD_OFFICER, GR_RIGHT_ALL),
    (.LANG_GUILD_VETERAN, GR_RIGHT_GCHATLISTEN ||| GR_RIGHT_GCHATSPEAK),
    (.LANG_GUILD_MEMBER, GR_RIGHT_GCHATLISTEN ||| GR_RIGHT_GCHATSPEAK),
    (.LANG_GUILD_INITIATE, GR_RIGHT_GCHATLISTEN ||| GR_RIGHT_GCHATSPEAK)]

def createDefaultGuildRanks (getTrinityString : TrinityStrings → String) (s : StoredGuild) :
    StoredGuild :=
  defaultRanks.foldl (fun s rank => (s.createRank (getTrinityString rank.1) rank.2).2)
    { s with db := s.db.delGuildRanks }

def handleAddNewRank (s : StoredGuild) (player : ObjectGuid) (name : String) : StoredGuild :=
  if s.guild.getRanksSize ≥ GUILD_RANKS_MAX_COUNT then s
  else if s.guild.isLeader player then
    (s.createRank name (GR_RIGHT_GCHATLISTEN ||| GR_RIGHT_GCHATSPEAK)).2
  else s

/-- `HandleRemoveRank`: the rows of `rankId` go, and the last rank of the guild. -/
def handleRemoveRank (s : StoredGuild) (player : ObjectGuid) (rankId : UInt8) : StoredGuild :=
  if s.guild.getRanksSize ≤ GUILD_RANKS_MIN_COUNT ∨ rankId ≥ s.guild.getRanksSize ∨
      !s.guild.isLeader player then s
  else
    { guild := { s.guild with ranks := s.guild.ranks.dropLast }
      db := (s.db.delGuildBankRightsForRank rankId).delGuildLowestRank rankId }

def handleRemoveLowestRank (s : StoredGuild) (player : ObjectGuid) : StoredGuild :=
  s.handleRemoveRank player s.guild.getLowestRankId

def handleSetRankInfo (s : StoredGuild) (player : ObjectGuid) (rankId : UInt8) (name : String)
    (rights moneyPerDay : UInt32) (rightsAndSlots : List GuildBankRightsAndSlots) :
    StoredGuild where
  guild := s.guild.handleSetRankInfo player rankId name rights moneyPerDay rightsAndSlots
  db :=
    if !s.guild.isLeader player then s.db
    else
      match s.guild.getRankInfo rankId with
      | none => s.db
      | some rankInfo =>
        (rightsAndSlots.filter fun r => r.tabId < s.guild.getPurchasedTabsSize).foldl
          (fun db r => db.insGuildBankRight r.tabId rankInfo.rankId) s.db

def createNewBankTab (s : StoredGuild) : StoredGuild :=
  let tabs := s.guild.getPurchasedTabsSize + 1
  { guild :=
      { s.guild with
        bankTabs := s.guild.bankTabs ++ [BankTab.new]
        ranks := s.guild.ranks.map fun rank => rank.createMissingTabsIfNeeded tabs }
    db := s.guild.ranks.foldl (RankTables.createMissingTabs tabs) s.db }

def handleBuyBankTab (s : StoredGuild) (player : ObjectGuid) (tabId : UInt8)
    (hasEnoughMoney : Bool) : StoredGuild :=
  if (s.guild.getMember player).isNone then s
  else if s.guild.getPurchasedTabsSize ≥ GUILD_BANK_MAX_TABS then s
  else if tabId ≠ s.guild.getPurchasedTabsSize then s
  else if !hasEnoughMoney then s
  else s.createNewBankTab

def mapGuild (s : StoredGuild) (f : Guild → Guild) : StoredGuild := { s with guild := f s.guild }

end StoredGuild

/-! ## 3. A guild that is loaded -/

structure RankRow where
  rid : UInt8
  rname : String
  rights : UInt32
  bankMoneyPerDay : UInt32

/-- A row of `guild_member`, joined to the character's; `checkStats` is what `CheckStats` says of
the latter. -/
structure MemberRow where
  guid : ObjectGuid
  name : String
  rank : UInt8
  bankWithdraw : UInt8 → UInt32
  checkStats : Bool

structure BankRightRow where
  tabId : UInt8
  rid : UInt8
  gbright : UInt8
  slotPerDay : UInt32

/-- The rows of a guild, in the order they are read. In `guild_rank` a guild has one row for each
`rid`. -/
structure GuildRows where
  leaderGuid : ObjectGuid
  bankMoney : UInt64
  purchasedTabs : UInt8
  ranks : List RankRow
  ranks_nodup : (ranks.map RankRow.rid).Nodup
  members : List MemberRow
  bankRights : List BankRightRow

def RankInfo.loadFromDB (row : RankRow) : RankInfo where
  rankId := row.rid
  name := row.rname
  rights := if row.rid = GR_GUILDMASTER then row.rights ||| GR_RIGHT_ALL else row.rights
  bankMoneyPerDay := row.bankMoneyPerDay
  bankTabRightsAndSlots := fun _ => ⟨TAB_UNDEFINED, 0, 0⟩

namespace Guild

def loadFromDB (rows : GuildRows) : Guild where
  leaderGuid := rows.leaderGuid
  ranks := []
  members := []
  bankTabs := List.replicate (min rows.purchasedTabs GUILD_BANK_MAX_TABS).toNat BankTab.new
  bankMoney := rows.bankMoney

def loadRankFromDB (g : Guild) (row : RankRow) : Guild :=
  { g with ranks := g.ranks ++ [RankInfo.loadFromDB row] }

def loadMemberFromDB (g : Guild) (row : MemberRow) : Guild :=
  if row.checkStats then
    g.setMember
      { guid := row.guid
        name := row.name
        rankId := row.rank
        bankWithdraw := fun i => (row.bankWithdraw i).toInt32 }
  else g

def loadBankRightFromDB (g : Guild) (row : BankRightRow) : Guild :=
  g.setRankBankTabRightsAndSlots row.rid ⟨row.tabId, row.gbright, row.slotPerDay⟩

/-- What `LoadGuilds` makes of the rows of a guild before it is validated. -/
def load (rows : GuildRows) : Guild :=
  rows.bankRights.foldl loadBankRightFromDB
    (rows.members.foldl loadMemberFromDB (rows.ranks.foldl loadRankFromDB (loadFromDB rows)))

def validateMembers (g : Guild) : Guild :=
  { g with
    members := g.members.map fun member =>
      if member.rankId > g.getRanksSize then member.changeRank g.getLowestRankId else member }

def validateLeader (g : Guild) : Option Guild :=
  match g.getMember g.leaderGuid with
  | none =>
    match g.deleteMember g.leaderGuid with
    | none => none
    | some g => if g.members.isEmpty then none else some g
  | some leader => if leader.isRank GR_GUILDMASTER then some g else some (g.setLeaderGUID leader)

def validateMasters (allowMultipleGuildMaster : Bool) (g : Guild) : Guild :=
  if allowMultipleGuildMaster then g
  else
    { g with
      members := g.members.map fun member =>
        if member.rankId = GR_GUILDMASTER ∧ member.guid ≠ g.leaderGuid then
          member.changeRank GR_OFFICER
        else member }

end Guild

namespace StoredGuild

/-- What `LoadGuilds` makes of the rows of a guild, which stay in the tables. -/
def load (rows : GuildRows) : StoredGuild where
  guild := Guild.load rows
  db :=
    { guildRank := rows.ranks.map RankRow.rid
      guildBankRight := rows.bankRights.map fun row => (row.tabId, row.rid) }

/-- `broken_ranks` in `Validate`: too few or too many, or not numbered in sequence. -/
def brokenRanks (g : Guild) : Bool :=
  let ranks := g.getRanksSize
  decide (ranks < GUILD_RANKS_MIN_COUNT) || decide (ranks > GUILD_RANKS_MAX_COUNT) ||
    (List.range ranks.toNat).any fun rankId =>
      decide ((g.ranks[rankId]?).map RankInfo.rankId ≠ some (UInt8.ofNat rankId))

/-- The ranks in `Validate`. What is done to single ranks before a broken one is found is undone
with them. -/
def validateRanks (getTrinityString : TrinityStrings → String) (s : StoredGuild) : StoredGuild :=
  if brokenRanks s.guild then
    createDefaultGuildRanks getTrinityString { s with guild := { s.guild with ranks := [] } }
  else
    let tabs := s.guild.getPurchasedTabsSize
    { guild :=
        { s.guild with
          ranks := s.guild.ranks.map fun rank => rank.createMissingTabsIfNeeded tabs }
      db := s.guild.ranks.foldl (RankTables.createMissingTabs tabs) s.db }

/-- `Validate`; `none` if the guild is to be deleted. -/
def validate (getTrinityString : TrinityStrings → String) (allowMultipleGuildMaster : Bool)
    (s : StoredGuild) : Option StoredGuild :=
  let s := s.validateRanks getTrinityString
  s.guild.validateMembers.validateLeader.map fun g =>
    { s with guild := g.validateMasters allowMultipleGuildMaster }

end StoredGuild

/-! ## 4. The guild among the players -/

/-- A guild, `none` once it is disbanded, and which players are in a guild, this one or another:
whether `GetGuildId`, or `GetGuildIdFromDB` for a player who is not connected, is not 0. -/
structure RosterState where
  stored : Option StoredGuild
  inGuild : ObjectGuid → Bool

namespace RosterState

/-- What is done to the guild and its rows, while there is a guild. -/
def mapStored (s : RosterState) (f : StoredGuild → StoredGuild) : RosterState :=
  { s with stored := s.stored.map f }

def disband (s : RosterState) : RosterState :=
  match s.stored with
  | none => s
  | some st =>
    { stored := none
      inGuild := fun guid => if (st.guild.getMember guid).isSome then false else s.inGuild guid }

/-- `AddMember`, of a player who is connected or whose row is `found`, and passes `CheckStats`. -/
def addMember (s : RosterState) (guid : ObjectGuid) (name : String) (found : Bool)
    (rankId : UInt8) : Bool × RosterState :=
  match s.stored with
  | none => (false, s)
  | some st =>
    if s.inGuild guid then (false, s)
    else
      let rankId := if rankId = GUILD_RANK_NONE then st.guild.getLowestRankId else rankId
      if !found then (false, s)
      else
        (true,
          { stored := some (st.mapGuild fun g => g.setMember (Member.new guid name rankId))
            inGuild := Function.update s.inGuild guid true })

/-- `DeleteMember`, of a guild that is not being disbanded. -/
def deleteMember (s : RosterState) (guid : ObjectGuid) : RosterState :=
  match s.stored with
  | none => s
  | some st =>
    match st.guild.deleteMember guid with
    | none => s.disband
    | some g =>
      { stored := some { st with guild := g }
        inGuild := Function.update s.inGuild guid false }

/-- The guild as `Create` finds it once its leader guid is set. -/
def blank (leader : ObjectGuid) : StoredGuild where
  guild := { leaderGuid := leader, ranks := [], members := [], bankTabs := [], bankMoney := 0 }
  db := { guildRank := [], guildBankRight := [] }

def create (getTrinityString : TrinityStrings → String) (leader : ObjectGuid) (name : String)
    (inGuild : ObjectGuid → Bool) : Bool × RosterState :=
  addMember
    { stored := some ((blank leader).createDefaultGuildRanks getTrinityString)
      inGuild := inGuild }
    leader name true GR_GUILDMASTER

def handleLeaveMember (s : RosterState) (player : ObjectGuid) : RosterState :=
  match s.stored with
  | none => s
  | some st =>
    if st.guild.isLeader player then
      if st.guild.members.length > 1 then s else s.disband
    else s.deleteMember player

def handleRemoveMember (s : RosterState) (player : ObjectGuid) (name : String) : RosterState :=
  match s.stored with
  | none => s
  | some st =>
    if !st.guild.hasRankRight player GR_RIGHT_REMOVE then s
    else
      match st.guild.getMemberByName name with
      | none => s
      | some member =>
        if member.isRank GR_GUILDMASTER then s
        else
          match st.guild.getMember player with
          | none => s
          | some memberMe =>
            if member.isRankNotLower memberMe.rankId then s else s.deleteMember member.guid

inductive RosterEvent
  | addMember (guid : ObjectGuid) (name : String) (found : Bool)
  | leave (player : ObjectGuid)
  | removeMember (player : ObjectGuid) (name : String)
  | deleteMember (guid : ObjectGuid)
  | setLeader (player : ObjectGuid) (name : String)
  | updateMemberRank (player : ObjectGuid) (name : String) (demote : Bool)
  | changeMemberRank (guid : ObjectGuid) (newRank : UInt8)
  | addNewRank (player : ObjectGuid) (name : String)
  | removeLowestRank (player : ObjectGuid)
  | removeRank (player : ObjectGuid) (rankId : UInt8)
  | setRankInfo (player : ObjectGuid) (rankId : UInt8) (name : String)
      (rights moneyPerDay : UInt32) (rightsAndSlots : List GuildBankRightsAndSlots)
  | buyBankTab (player : ObjectGuid) (tabId : UInt8) (hasEnoughMoney : Bool)
  | disband
  /-- The hash table of members is rebuilt in another order. -/
  | rehash (order : List ObjectGuid)
  /-- A player of no guild or of another one joins a guild elsewhere or leaves it. -/
  | elsewhere (guid : ObjectGuid) (inGuild : Bool)

def rehash (order : List ObjectGuid) (g : Guild) : Guild :=
  if order.Perm (g.members.map Member.guid) then
    { g with members := order.filterMap g.getMember }
  else g

/-- A player who is not a member joins a guild elsewhere or leaves it. -/
def elsewhere (s : RosterState) (guid : ObjectGuid) (inGuild : Bool) : RosterState :=
  match s.stored with
  | none => s
  | some st =>
    if (st.guild.getMember guid).isSome then s
    else { s with inGuild := Function.update s.inGuild guid inGuild }

def step (s : RosterState) : RosterEvent → RosterState
  | .addMember guid name found => (s.addMember guid name found GUILD_RANK_NONE).2
  | .leave player => s.handleLeaveMember player
  | .removeMember player name => s.handleRemoveMember player name
  | .deleteMember guid => s.deleteMember guid
  | .setLeader player name =>
    s.mapStored fun st => st.mapGuild fun g => g.handleSetLeader player name
  | .updateMemberRank player name demote =>
    s.mapStored fun st => st.mapGuild fun g => g.handleUpdateMemberRank player name demote
  | .changeMemberRank guid newRank =>
    s.mapStored fun st => st.mapGuild fun g => (g.changeMemberRank guid newRank).2
  | .addNewRank player name => s.mapStored fun st => st.handleAddNewRank player name
  | .removeLowestRank player => s.mapStored fun st => st.handleRemoveLowestRank player
  | .removeRank player rankId => s.mapStored fun st => st.handleRemoveRank player rankId
  | .setRankInfo player rankId name rights moneyPerDay rightsAndSlots =>
    s.mapStored fun st =>
      st.handleSetRankInfo player rankId name rights moneyPerDay rightsAndSlots
  | .buyBankTab player tabId hasEnoughMoney =>
    s.mapStored fun st => st.handleBuyBankTab player tabId hasEnoughMoney
  | .disband => s.disband
  | .rehash order => s.mapStored fun st => st.mapGuild (rehash order)
  | .elsewhere guid inGuild => s.elsewhere guid inGuild

end RosterState

/-! ## 5. What the handlers do -/

namespace Guild

section members

variable {g : Guild} {guid : ObjectGuid} {member other : Member} {f : Member → Member}

theorem mem_setMember :
    other ∈ (g.setMember member).members ↔
      other = member ∨ (other ∈ g.members ∧ other.guid ≠ member.guid) := by
  simp [setMember]

theorem mem_eraseMember :
    other ∈ (g.eraseMember guid).members ↔ other ∈ g.members ∧ other.guid ≠ guid := by
  simp [eraseMember]

theorem mem_updateMember :
    other ∈ (g.updateMember guid f).members ↔
      ∃ member ∈ g.members, (if member.guid = guid then f member else member) = other :=
  List.mem_map

theorem map_guid_updateMember (g : Guild) (guid : ObjectGuid)
    (hf : ∀ member, (f member).guid = member.guid) :
    (g.updateMember guid f).members.map Member.guid = g.members.map Member.guid := by
  unfold updateMember
  rw [List.map_map]
  refine List.map_congr_left ?_
  intro member _
  simp only [Function.comp_apply]
  split
  · exact hf member
  · rfl

theorem mem_setLeaderGUID :
    other ∈ (g.setLeaderGUID member).members ↔
      ∃ m ∈ g.members,
        (if m.guid = member.guid then m.changeRank GR_GUILDMASTER else m) = other :=
  List.mem_map

theorem map_guid_setLeaderGUID (g : Guild) (member : Member) :
    (g.setLeaderGUID member).members.map Member.guid = g.members.map Member.guid :=
  map_guid_updateMember { g with leaderGuid := member.guid } member.guid fun _ => rfl

theorem mem_of_getMemberByName {name : String} (h : g.getMemberByName name = some member) :
    member ∈ g.members :=
  List.mem_of_find?_eq_some h

theorem isSome_getMember_iff :
    (g.getMember guid).isSome ↔ ∃ member ∈ g.members, member.guid = guid := by
  simp [getMember]

theorem getMember_of_mem (hnodup : (g.members.map Member.guid).Nodup) (hm : member ∈ g.members) :
    g.getMember member.guid = some member := by
  cases hget : g.getMember member.guid with
  | none =>
    have hsome := isSome_getMember_iff.mpr ⟨member, hm, rfl⟩
    rw [hget] at hsome
    cases hsome
  | some found =>
    have hguid := guid_of_getMember hget
    rw [List.inj_on_of_nodup_map hnodup (mem_of_getMember hget) hm hguid]

end members

section deleteMember

variable {g g' : Guild} {guid : ObjectGuid} {newLeader : Member}

theorem scanLeader_foldl (guid : ObjectGuid) (members : List Member) (acc : Option Member) :
    match members.foldl (scanLeader guid) acc with
    | none => acc = none ∧ ∀ member ∈ members, member.guid = guid
    | some leader => acc = some leader ∨ (leader ∈ members ∧ leader.guid ≠ guid) := by
  induction members generalizing acc with
  | nil => cases acc <;> simp
  | cons member rest ih =>
    have hrest := ih (scanLeader guid acc member)
    rw [List.foldl_cons]
    revert hrest
    cases rest.foldl (scanLeader guid) (scanLeader guid acc member) with
    | none =>
      rintro ⟨hacc, hall⟩
      unfold scanLeader at hacc
      split at hacc
      · rename_i hguid
        exact ⟨hacc, List.forall_mem_cons.mpr ⟨hguid, hall⟩⟩
      · split at hacc
        · cases hacc
        · split at hacc <;> cases hacc
    | some leader =>
      rintro (hacc | ⟨hmem, hne⟩)
      · unfold scanLeader at hacc
        split at hacc
        · exact Or.inl hacc
        · rename_i hguid
          have hnew : some member = some leader → leader ∈ member :: rest ∧ leader.guid ≠ guid := by
            rintro ⟨⟩
            exact ⟨List.mem_cons_self, hguid⟩
          split at hacc
          · exact Or.inr (hnew hacc)
          · split at hacc
            · exact Or.inr (hnew hacc)
            · exact Or.inl hacc
      · exact Or.inr ⟨List.mem_cons_of_mem _ hmem, hne⟩

/-- **`DeleteMember` of a guild that remains**: the member is erased, and if he led the guild one
of the others does from now on. -/
theorem deleteMember_some (h : g.deleteMember guid = some g') :
    (g.leaderGuid ≠ guid ∧ g' = g.eraseMember guid) ∨
      (g.leaderGuid = guid ∧ ∃ newLeader ∈ g.members, newLeader.guid ≠ guid ∧
        g' = (g.setLeaderGUID newLeader).eraseMember guid) := by
  unfold deleteMember at h
  split at h
  · rename_i hleader
    have hscan := scanLeader_foldl guid g.members none
    cases hfold : g.members.foldl (scanLeader guid) none with
    | none =>
      rw [hfold] at h
      cases h
    | some newLeader =>
      rw [hfold] at h hscan
      rcases hscan with habs | ⟨hmem, hne⟩
      · cases habs
      · exact Or.inr ⟨hleader, newLeader, hmem, hne, (Option.some.inj h).symm⟩
  · rename_i hleader
    exact Or.inl ⟨hleader, (Option.some.inj h).symm⟩

end deleteMember

section handlers

/-- **`HandleSetLeader`** does nothing, or the leader who asks for it becomes an officer after the
member of that name has become the leader. -/
theorem handleSetLeader_spec (g : Guild) (player : ObjectGuid) (name : String) :
    g.handleSetLeader player name = g ∨
      ∃ oldLeader newLeader, g.isLeader player = true ∧ g.getMember player = some oldLeader ∧
        g.getMemberByName name = some newLeader ∧
        g.handleSetLeader player name =
          (g.setLeaderGUID newLeader).updateMember oldLeader.guid fun member =>
            member.changeRank GR_OFFICER := by
  unfold handleSetLeader
  split
  · exact Or.inl rfl
  · rename_i hleader
    split
    · exact Or.inl rfl
    · rename_i oldLeader hold
      split
      · exact Or.inl rfl
      · rename_i newLeader hnew
        exact Or.inr ⟨oldLeader, newLeader, by simpa using hleader, hold, hnew, rfl⟩

/-- **`HandleUpdateMemberRank`** does nothing, or it moves another member, below the one who asks,
by one rank: down if he is above the lowest, up if he is more than one below. -/
theorem handleUpdateMemberRank_spec (g : Guild) (player : ObjectGuid) (name : String)
    (demote : Bool) :
    g.handleUpdateMemberRank player name demote = g ∨
      ∃ memberMe member, g.getMember player = some memberMe ∧
        g.getMemberByName name = some member ∧ member.guid ≠ player ∧
        ((demote = true ∧ memberMe.rankId < member.rankId ∧
            member.rankId < g.getLowestRankId ∧
            g.handleUpdateMemberRank player name demote =
              g.updateMember member.guid fun m => m.changeRank (member.rankId + 1)) ∨
          (demote = false ∧ memberMe.rankId + 1 < member.rankId ∧
            g.handleUpdateMemberRank player name demote =
              g.updateMember member.guid fun m => m.changeRank (member.rankId - 1))) := by
  unfold handleUpdateMemberRank
  generalize g.hasRankRight player (if demote then GR_RIGHT_DEMOTE else GR_RIGHT_PROMOTE) = right
  split
  · exact Or.inl rfl
  · split
    · rename_i member memberMe hname hme
      split
      · exact Or.inl rfl
      · rename_i hother
        split
        · rename_i hdemote
          split
          · exact Or.inl rfl
          · rename_i hbelow
            split
            · exact Or.inl rfl
            · rename_i hlowest
              refine Or.inr ⟨memberMe, member, hme, hname, hother, Or.inl ⟨hdemote, ?_, ?_, rfl⟩⟩
              · exact UInt8.not_le.mp fun hle => hbelow (decide_eq_true hle)
              · exact UInt8.not_le.mp hlowest
        · rename_i hpromote
          split
          · exact Or.inl rfl
          · rename_i hbelow
            refine Or.inr ⟨memberMe, member, hme, hname, hother,
              Or.inr ⟨by simpa using hpromote, ?_, rfl⟩⟩
            exact UInt8.not_le.mp fun hle => hbelow (decide_eq_true hle)
    · exact Or.inl rfl

theorem changeMemberRank_spec (g : Guild) (guid : ObjectGuid) (newRank : UInt8) :
    (g.changeMemberRank guid newRank).2 = g ∨
      (newRank ≤ g.getLowestRankId ∧ ∃ member, g.getMember guid = some member ∧
        (g.changeMemberRank guid newRank).2 =
          g.updateMember guid fun member => member.changeRank newRank) := by
  unfold changeMemberRank
  split
  · rename_i hle
    split
    · rename_i member hget
      exact Or.inr ⟨hle, member, hget, rfl⟩
    · exact Or.inl rfl
  · exact Or.inl rfl

end handlers

end Guild

/-! ## 6. What holds of the guild while there is one -/

namespace RosterState

def Holds (P : (ObjectGuid → Bool) → StoredGuild → Prop) (s : RosterState) : Prop :=
  ∀ st, s.stored = some st → P s.inGuild st

section Holds

variable {P : (ObjectGuid → Bool) → StoredGuild → Prop} {s : RosterState}
  {f : StoredGuild → StoredGuild} {guid player : ObjectGuid} {name : String}

theorem Holds.mapStored (hf : ∀ st, P s.inGuild st → P s.inGuild (f st)) (h : Holds P s) :
    Holds P (s.mapStored f) := by
  intro st' hst'
  obtain ⟨st, hst, rfl⟩ := Option.map_eq_some_iff.mp hst'
  exact hf st (h st hst)

theorem stored_disband (s : RosterState) : s.disband.stored = none := by
  unfold disband
  split
  · rename_i hnone
    exact hnone
  · rfl

theorem Holds.disband : Holds P s.disband := by
  intro st hst
  rw [stored_disband] at hst
  cases hst

theorem Holds.addMember {found : Bool} {rankId : UInt8}
    (hadd : ∀ st, s.stored = some st → s.inGuild guid = false → P s.inGuild st →
      P (Function.update s.inGuild guid true) (st.mapGuild fun g => g.setMember (Member.new guid name
        (if rankId = GUILD_RANK_NONE then g.getLowestRankId else rankId))))
    (h : Holds P s) : Holds P (s.addMember guid name found rankId).2 := by
  unfold RosterState.addMember
  split
  · exact h
  · rename_i st hst
    split
    · exact h
    · rename_i hfree
      dsimp only
      split
      · exact h
      · intro st' hst'
        obtain rfl := Option.some.inj hst'
        exact hadd st hst (by simpa using hfree) (h st hst)

theorem Holds.deleteMember
    (hdelete : ∀ st g, P s.inGuild st → st.guild.deleteMember guid = some g →
      P (Function.update s.inGuild guid false) { st with guild := g })
    (h : Holds P s) : Holds P (s.deleteMember guid) := by
  unfold RosterState.deleteMember
  split
  · exact h
  · rename_i st hst
    split
    · exact Holds.disband
    · rename_i g hg
      intro st' hst'
      obtain rfl := Option.some.inj hst'
      exact hdelete st g (h st hst) hg

theorem Holds.handleLeaveMember (h : Holds P s) (hdelete : Holds P (s.deleteMember player)) :
    Holds P (s.handleLeaveMember player) := by
  unfold RosterState.handleLeaveMember
  split
  · exact h
  · split
    · split
      · exact h
      · exact Holds.disband
    · exact hdelete

theorem Holds.elsewhere {inGuild : Bool}
    (hfree : ∀ st, st.guild.getMember guid = none → P s.inGuild st →
      P (Function.update s.inGuild guid inGuild) st)
    (h : Holds P s) : Holds P (s.elsewhere guid inGuild) := by
  unfold RosterState.elsewhere
  split
  · exact h
  · rename_i st hst
    split
    · exact h
    · rename_i hnone
      intro st' hst'
      obtain rfl := Option.some.inj (hst.symm.trans hst')
      exact hfree st (by simpa using hnone) (h st hst)

end Holds

theorem create_spec {getTrinityString : TrinityStrings → String} {leader : ObjectGuid}
    {name : String} {inGuild : ObjectGuid → Bool} {s : RosterState}
    (h : create getTrinityString leader name inGuild = (true, s)) :
    inGuild leader = false ∧
      s = { stored := some (((blank leader).createDefaultGuildRanks getTrinityString).mapGuild
              fun g => g.setMember (Member.new leader name GR_GUILDMASTER))
            inGuild := Function.update inGuild leader true } := by
  unfold create addMember at h
  dsimp only at h
  split at h
  · cases h
  · rename_i hfree
    exact ⟨by simpa using hfree, (congrArg Prod.snd h).symm⟩

/-- **`HandleRemoveMember`** does nothing, or it deletes a member who is below the one who asks and
is no guild master. -/
theorem handleRemoveMember_spec (s : RosterState) (player : ObjectGuid) (name : String) :
    s.handleRemoveMember player name = s ∨
      ∃ st memberMe member, s.stored = some st ∧ st.guild.getMember player = some memberMe ∧
        st.guild.getMemberByName name = some member ∧ member.rankId ≠ GR_GUILDMASTER ∧
        memberMe.rankId < member.rankId ∧
        s.handleRemoveMember player name = s.deleteMember member.guid := by
  unfold handleRemoveMember
  split
  · exact Or.inl rfl
  · rename_i st hst
    split
    · exact Or.inl rfl
    · split
      · exact Or.inl rfl
      · rename_i member hname
        split
        · exact Or.inl rfl
        · rename_i hmaster
          split
          · exact Or.inl rfl
          · rename_i memberMe hme
            split
            · exact Or.inl rfl
            · rename_i hbelow
              refine Or.inr ⟨st, memberMe, member, hst, hme, hname, ?_, ?_, rfl⟩
              · exact fun h => hmaster (decide_eq_true h)
              · exact UInt8.not_le.mp fun hle => hbelow (decide_eq_true hle)

theorem Holds.handleRemoveMember {P : (ObjectGuid → Bool) → StoredGuild → Prop} {s : RosterState}
    {player : ObjectGuid} {name : String} (h : Holds P s)
    (hdelete : ∀ guid, Holds P (s.deleteMember guid)) :
    Holds P (s.handleRemoveMember player name) := by
  rcases handleRemoveMember_spec s player name with heq | ⟨_, _, member, _, _, _, _, _, heq⟩
  · rwa [heq]
  · rw [heq]
    exact hdelete member.guid

end RosterState

end FunPvp.Guilds
