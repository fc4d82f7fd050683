/-
# A guild

`Guild` holds its members, a table of ranks and a bank of item tabs and money. A member carries
the number of his rank, and his rights and daily limits are looked up in the table under that
number; what he has withdrawn today is counted on the member, one counter for each tab and one
for the money.

Members are kept in a hash table. The list here is that table in the order a walk over it would
take.
-/
import Mathlib

namespace FunPvp.Guilds

/-! ## 1. Constants -/

/-- `GUILD_BANK_MAX_TABS`, which is also the number of the money counter. -/
def GUILD_BANK_MAX_TABS : UInt8 := 6

def GUILD_BANK_MAX_SLOTS : UInt8 := 98

def NULL_SLOT : UInt8 := 255

def GUILD_RANKS_MIN_COUNT : UInt8 := 5

def GUILD_RANKS_MAX_COUNT : UInt8 := 10

def GUILD_WITHDRAW_MONEY_UNLIMITED : UInt32 := 0xFFFFFFFF

def GUILD_WITHDRAW_SLOT_UNLIMITED : UInt32 := 0xFFFFFFFF

def TAB_UNDEFINED : UInt8 := 0xFF

def GR_GUILDMASTER : UInt8 := 0

def GR_OFFICER : UInt8 := 1

/-- `GR_RIGHT_EMPTY`, which is part of every right below `GR_RIGHT_WITHDRAW_GOLD_LOCK`. -/
def GR_RIGHT_EMPTY : UInt32 := 0x00000040

def GR_RIGHT_GCHATLISTEN : UInt32 := GR_RIGHT_EMPTY ||| 0x00000001

def GR_RIGHT_GCHATSPEAK : UInt32 := GR_RIGHT_EMPTY ||| 0x00000002

def GR_RIGHT_REMOVE : UInt32 := GR_RIGHT_EMPTY ||| 0x00000020

def GR_RIGHT_PROMOTE : UInt32 := GR_RIGHT_EMPTY ||| 0x00000080

def GR_RIGHT_DEMOTE : UInt32 := GR_RIGHT_EMPTY ||| 0x00000100

def GR_RIGHT_WITHDRAW_REPAIR : UInt32 := 0x00040000

def GR_RIGHT_WITHDRAW_GOLD : UInt32 := 0x00080000

def GR_RIGHT_ALL : UInt32 := 0x001DF1FF

def GUILD_BANK_RIGHT_VIEW_TAB : UInt8 := 0x01

def GUILD_BANK_RIGHT_PUT_ITEM : UInt8 := 0x02

def GUILD_BANK_RIGHT_DEPOSIT_ITEM : UInt8 :=
  GUILD_BANK_RIGHT_VIEW_TAB ||| GUILD_BANK_RIGHT_PUT_ITEM

def GUILD_BANK_RIGHT_FULL : UInt8 := 0xFF

/-! ## 2. Members -/

/-- The counter of a player's guid, an `ObjectGuid::LowType`. -/
abbrev ObjectGuid := UInt32

/-- `Guild::Member`, with the fields the handlers read: `bankWithdraw` is `m_bankWithdraw`. -/
structure Member where
  guid : ObjectGuid
  name : String
  rankId : UInt8
  bankWithdraw : UInt8 → Int32

namespace Member

/-- The constructor of `Guild::Member`. -/
def new (guid : ObjectGuid) (name : String) (rankId : UInt8) : Member where
  guid := guid
  name := name
  rankId := rankId
  bankWithdraw := fun _ => 0

def isRank (member : Member) (rankId : UInt8) : Bool := decide (member.rankId = rankId)

def isRankNotLower (member : Member) (rankId : UInt8) : Bool := decide (member.rankId ≤ rankId)

def changeRank (member : Member) (newRank : UInt8) : Member := { member with rankId := newRank }

/-- `UpdateBankWithdrawValue`; the sum is one of unsigned numbers. -/
def updateBankWithdrawValue (member : Member) (tabId : UInt8) (amount : UInt32) : Member :=
  { member with
    bankWithdraw := Function.update member.bankWithdraw tabId
      ((member.bankWithdraw tabId).toUInt32 + amount).toInt32 }

@[simp] theorem guid_updateBankWithdrawValue (member : Member) (tabId : UInt8) (amount : UInt32) :
    (member.updateBankWithdrawValue tabId amount).guid = member.guid := rfl

theorem bankWithdraw_updated (member : Member) (tabId : UInt8) (amount : UInt32) :
    (member.updateBankWithdrawValue tabId amount).bankWithdraw tabId =
      ((member.bankWithdraw tabId).toUInt32 + amount).toInt32 := Function.update_self ..

theorem bankWithdraw_updated_of_ne (member : Member) {tabId other : UInt8} (amount : UInt32)
    (h : other ≠ tabId) :
    (member.updateBankWithdrawValue tabId amount).bankWithdraw other =
      member.bankWithdraw other := Function.update_of_ne h ..

def resetValues (member : Member) : Member := { member with bankWithdraw := fun _ => 0 }

/-- `GetBankWithdrawValue`: the guild master has an unlimited amount. -/
def getBankWithdrawValue (member : Member) (tabId : UInt8) : Int32 :=
  if member.isRank GR_GUILDMASTER then
    (if tabId = GUILD_BANK_MAX_TABS then GUILD_WITHDRAW_MONEY_UNLIMITED
      else GUILD_WITHDRAW_SLOT_UNLIMITED).toInt32
  else member.bankWithdraw tabId

end Member

/-! ## 3. Ranks -/

structure GuildBankRightsAndSlots where
  tabId : UInt8
  rights : UInt8
  slots : UInt32
deriving DecidableEq

def GuildBankRightsAndSlots.setGuildMasterValues (rightsAndSlots : GuildBankRightsAndSlots) :
    GuildBankRightsAndSlots :=
  { rightsAndSlots with
    rights := GUILD_BANK_RIGHT_FULL
    slots := GUILD_WITHDRAW_SLOT_UNLIMITED }

structure RankInfo where
  rankId : UInt8
  name : String
  rights : UInt32
  bankMoneyPerDay : UInt32
  bankTabRightsAndSlots : UInt8 → GuildBankRightsAndSlots

namespace RankInfo

/-- The constructor of `Guild::RankInfo`. -/
def new (rankId : UInt8) (name : String) (rights money : UInt32) : RankInfo where
  rankId := rankId
  name := name
  rights := rights
  bankMoneyPerDay := if rankId ≠ GR_GUILDMASTER then money else GUILD_WITHDRAW_MONEY_UNLIMITED
  bankTabRightsAndSlots := fun _ => ⟨TAB_UNDEFINED, 0, 0⟩

def getBankMoneyPerDay (rank : RankInfo) : Int32 := rank.bankMoneyPerDay.toInt32

def getBankTabRights (rank : RankInfo) (tabId : UInt8) : UInt8 :=
  if tabId < GUILD_BANK_MAX_TABS then (rank.bankTabRightsAndSlots tabId).rights else 0

def getBankTabSlotsPerDay (rank : RankInfo) (tabId : UInt8) : Int32 :=
  if tabId < GUILD_BANK_MAX_TABS then (rank.bankTabRightsAndSlots tabId).slots.toInt32 else 0

def setName (rank : RankInfo) (name : String) : RankInfo := { rank with name := name }

/-- `SetRights`: the leader does not lose his. -/
def setRights (rank : RankInfo) (rights : UInt32) : RankInfo :=
  { rank with rights := if rank.rankId = GR_GUILDMASTER then GR_RIGHT_ALL else rights }

def setBankMoneyPerDay (rank : RankInfo) (money : UInt32) : RankInfo :=
  { rank with
    bankMoneyPerDay :=
      if rank.rankId = GR_GUILDMASTER then GUILD_WITHDRAW_MONEY_UNLIMITED else money }

def setBankTabSlotsAndRights (rank : RankInfo) (rightsAndSlots : GuildBankRightsAndSlots) :
    RankInfo :=
  { rank with
    bankTabRightsAndSlots := Function.update rank.bankTabRightsAndSlots rightsAndSlots.tabId
      (if rank.rankId = GR_GUILDMASTER then rightsAndSlots.setGuildMasterValues
        else rightsAndSlots) }

def createMissingTabsIfNeeded (rank : RankInfo) (tabs : UInt8) : RankInfo :=
  { rank with
    bankTabRightsAndSlots := fun i =>
      let rightsAndSlots := rank.bankTabRightsAndSlots i
      if i < tabs ∧ rightsAndSlots.tabId ≠ i then
        if rank.rankId = GR_GUILDMASTER then
          GuildBankRightsAndSlots.setGuildMasterValues { rightsAndSlots with tabId := i }
        else { rightsAndSlots with tabId := i }
      else rightsAndSlots }

end RankInfo

/-! ## 4. The guild -/

/-- An item: its own guid, the entry of its template, how many are stacked, and whether it is
soulbound. -/
structure Item where
  guid : ℕ
  entry : UInt32
  count : UInt32
  soulBound : Bool
deriving DecidableEq

/-- `Guild::BankTab`: what lies in its slots. -/
structure BankTab where
  items : UInt8 → Option Item

/-- The constructor of `Guild::BankTab`. -/
def BankTab.new : BankTab := ⟨fun _ => none⟩

def BankTab.getItem (tab : BankTab) (slotId : UInt8) : Option Item :=
  if slotId < GUILD_BANK_MAX_SLOTS then tab.items slotId else none

structure Guild where
  leaderGuid : ObjectGuid
  ranks : List RankInfo
  members : List Member
  bankTabs : List BankTab
  bankMoney : UInt64

namespace Guild

def getRanksSize (g : Guild) : UInt8 := UInt8.ofNat g.ranks.length

def getRankInfo (g : Guild) (rankId : UInt8) : Option RankInfo :=
  if rankId < g.getRanksSize then g.ranks[rankId.toNat]? else none

def getLowestRankId (g : Guild) : UInt8 := UInt8.ofNat g.ranks.length - 1

def getPurchasedTabsSize (g : Guild) : UInt8 := UInt8.ofNat g.bankTabs.length

def getMember (g : Guild) (guid : ObjectGuid) : Option Member :=
  g.members.find? fun member => member.guid = guid

def getMemberByName (g : Guild) (name : String) : Option Member :=
  g.members.find? fun member => member.name = name

/-- What is done to a member through the pointer in the hash table. -/
def updateMember (g : Guild) (guid : ObjectGuid) (f : Member → Member) : Guild :=
  { g with members := g.members.map fun member => if member.guid = guid then f member else member }

def getItem (g : Guild) (tabId slotId : UInt8) : Option Item :=
  (g.bankTabs[tabId.toNat]?).bind fun tab => tab.getItem slotId

/-- `BankTab::SetItem` on a tab of the guild; `false` if there is no such slot. -/
def setItem (g : Guild) (tabId slotId : UInt8) (item : Option Item) : Bool × Guild :=
  if slotId ≥ GUILD_BANK_MAX_SLOTS then (false, g)
  else
    (true, { g with
      bankTabs := g.bankTabs.modify tabId.toNat fun tab =>
        { tab with items := Function.update tab.items slotId item } })

/-- `ResetTimes`, once a day. -/
def resetTimes (g : Guild) : Guild :=
  { g with members := g.members.map Member.resetValues }

/-! What `SetItem` leaves alone. -/

section setItem

variable {g : Guild} {tabId slotId : UInt8} {item : Option Item}

@[simp] theorem members_setItem : (g.setItem tabId slotId item).2.members = g.members := by
  unfold setItem
  split <;> rfl

@[simp] theorem ranks_setItem : (g.setItem tabId slotId item).2.ranks = g.ranks := by
  unfold setItem
  split <;> rfl

@[simp] theorem leaderGuid_setItem :
    (g.setItem tabId slotId item).2.leaderGuid = g.leaderGuid := by
  unfold setItem
  split <;> rfl

@[simp] theorem length_bankTabs_setItem :
    (g.setItem tabId slotId item).2.bankTabs.length = g.bankTabs.length := by
  unfold setItem
  split
  · rfl
  · exact List.length_modify ..

end setItem

/-! ## 5. Rights and limits of a rank -/

def getRankRights (g : Guild) (rankId : UInt8) : UInt32 :=
  match g.getRankInfo rankId with
  | some rankInfo => rankInfo.rights
  | none => 0

def getRankBankMoneyPerDay (g : Guild) (rankId : UInt8) : Int32 :=
  match g.getRankInfo rankId with
  | some rankInfo => rankInfo.getBankMoneyPerDay
  | none => 0

def getRankBankTabSlotsPerDay (g : Guild) (rankId tabId : UInt8) : Int32 :=
  if tabId < g.getPurchasedTabsSize then
    match g.getRankInfo rankId with
    | some rankInfo => rankInfo.getBankTabSlotsPerDay tabId
    | none => 0
  else 0

def getRankBankTabRights (g : Guild) (rankId tabId : UInt8) : UInt8 :=
  match g.getRankInfo rankId with
  | some rankInfo => rankInfo.getBankTabRights tabId
  | none => 0

def getMemberRemainingSlots (g : Guild) (member : Member) (tabId : UInt8) : Int32 :=
  if member.rankId = GR_GUILDMASTER then GUILD_WITHDRAW_SLOT_UNLIMITED.toInt32
  else if g.getRankBankTabRights member.rankId tabId &&& GUILD_BANK_RIGHT_VIEW_TAB ≠ 0 then
    let remaining :=
      g.getRankBankTabSlotsPerDay member.rankId tabId - member.getBankWithdrawValue tabId
    if remaining > 0 then remaining else 0
  else 0

/-- `_GetMemberRemainingMoney`: one mask serves repairs and plain withdrawals. -/
def getMemberRemainingMoney (g : Guild) (member : Member) : Int32 :=
  if member.rankId = GR_GUILDMASTER then GUILD_WITHDRAW_MONEY_UNLIMITED.toInt32
  else if g.getRankRights member.rankId &&&
      (GR_RIGHT_WITHDRAW_REPAIR ||| GR_RIGHT_WITHDRAW_GOLD) ≠ 0 then
    let remaining :=
      g.getRankBankMoneyPerDay member.rankId - member.getBankWithdrawValue GUILD_BANK_MAX_TABS
    if remaining > 0 then remaining else 0
  else 0

def updateMemberWithdrawSlots (g : Guild) (guid : ObjectGuid) (tabId : UInt8) : Guild :=
  match g.getMember guid with
  | some member =>
    if member.rankId ≠ GR_GUILDMASTER ∧
        member.getBankWithdrawValue tabId < g.getRankBankTabSlotsPerDay member.rankId tabId then
      g.updateMember guid fun member => member.updateBankWithdrawValue tabId 1
    else g
  | none => g

/-- `_MemberHasTabRights`: the leader always has full rights. -/
def memberHasTabRights (g : Guild) (guid : ObjectGuid) (tabId : UInt8) (rights : UInt8) : Bool :=
  match g.getMember guid with
  | some member =>
    member.isRank GR_GUILDMASTER || decide (g.leaderGuid = guid) ||
      decide (g.getRankBankTabRights member.rankId tabId &&& rights = rights)
  | none => false

def hasRankRight (g : Guild) (player : ObjectGuid) (right : UInt32) : Bool :=
  match g.getMember player with
  | some member => decide (g.getRankRights member.rankId &&& right ≠ GR_RIGHT_EMPTY)
  | none => false

/-- `_IsLeader`: both the leader's guid and the member's rank are looked at. -/
def isLeader (g : Guild) (player : ObjectGuid) : Bool :=
  decide (player = g.leaderGuid) ||
    match g.getMember player with
    | some member => member.isRank GR_GUILDMASTER
    | none => false

/-! ## 6. Rank settings -/

/-- What is done to a rank through the pointer `GetRankInfo` returns. -/
def updateRank (g : Guild) (rankId : UInt8) (f : RankInfo → RankInfo) : Guild :=
  if rankId < g.getRanksSize then { g with ranks := g.ranks.modify rankId.toNat f } else g

def setRankBankMoneyPerDay (g : Guild) (rankId : UInt8) (moneyPerDay : UInt32) : Guild :=
  g.updateRank rankId fun rankInfo => rankInfo.setBankMoneyPerDay moneyPerDay

def setRankBankTabRightsAndSlots (rankId : UInt8) (g : Guild)
    (rightsAndSlots : GuildBankRightsAndSlots) : Guild :=
  if rightsAndSlots.tabId ≥ g.getPurchasedTabsSize then g
  else g.updateRank rankId fun rankInfo => rankInfo.setBankTabSlotsAndRights rightsAndSlots

def handleSetRankInfo (g : Guild) (player : ObjectGuid) (rankId : UInt8) (name : String)
    (rights moneyPerDay : UInt32) (rightsAndSlots : List GuildBankRightsAndSlots) : Guild :=
  if !g.isLeader player then g
  else
    match g.getRankInfo rankId with
    | none => g
    | some _ =>
      let g := g.updateRank rankId fun rankInfo => (rankInfo.setName name).setRights rights
      let g := g.setRankBankMoneyPerDay rankId moneyPerDay
      rightsAndSlots.foldl (setRankBankTabRightsAndSlots rankId) g

section updateRank

variable {g : Guild} {rankId other : UInt8} {f : RankInfo → RankInfo}

@[simp] theorem members_updateRank : (g.updateRank rankId f).members = g.members := by
  unfold updateRank
  split <;> rfl

@[simp] theorem bankMoney_updateRank : (g.updateRank rankId f).bankMoney = g.bankMoney := by
  unfold updateRank
  split <;> rfl

@[simp] theorem leaderGuid_updateRank : (g.updateRank rankId f).leaderGuid = g.leaderGuid := by
  unfold updateRank
  split <;> rfl

@[simp] theorem length_ranks_updateRank :
    (g.updateRank rankId f).ranks.length = g.ranks.length := by
  unfold updateRank
  split
  · exact List.length_modify ..
  · rfl

theorem getRankInfo_updateRank : (g.updateRank rankId f).getRankInfo other =
    if other = rankId then (g.getRankInfo other).map f else g.getRankInfo other := by
  unfold getRankInfo
  rw [getRanksSize, length_ranks_updateRank]
  change (if other < g.getRanksSize then _ else _) = _
  by_cases hother : other < g.getRanksSize
  · rw [if_pos hother, if_pos hother]
    unfold updateRank
    by_cases hrank : rankId < g.getRanksSize
    · rw [if_pos hrank]
      dsimp only
      rw [List.getElem?_modify]
      by_cases heq : other = rankId
      · simp [heq]
      · have hne : rankId.toNat ≠ other.toNat := fun h => heq (UInt8.toNat_inj.mp h).symm
        simp [heq, hne]
    · have hne : other ≠ rankId := fun h => hrank (h ▸ hother)
      rw [if_neg hrank, if_neg hne]
  · simp [hother]

end updateRank

theorem handleSetRankInfo_induct {P : Guild → Prop} {g : Guild} (player : ObjectGuid)
    (rankId : UInt8) (name : String) (rights moneyPerDay : UInt32)
    (rightsAndSlots : List GuildBankRightsAndSlots) (hg : P g)
    (hset : ∀ g f, (f = (fun rankInfo => (rankInfo.setName name).setRights rights) ∨
      f = (fun rankInfo => rankInfo.setBankMoneyPerDay moneyPerDay) ∨
      ∃ r, f = fun rankInfo => rankInfo.setBankTabSlotsAndRights r) →
        P g → P (g.updateRank rankId f)) :
    P (g.handleSetRankInfo player rankId name rights moneyPerDay rightsAndSlots) := by
  unfold handleSetRankInfo
  split
  · exact hg
  split
  · exact hg
  dsimp only
  have hmoney := hset _ _ (Or.inr (Or.inl rfl)) (hset g _ (Or.inl rfl) hg)
  revert hmoney
  unfold setRankBankMoneyPerDay
  generalize ((g.updateRank rankId _).updateRank rankId _) = g'
  intro hmoney
  induction rightsAndSlots generalizing g' with
  | nil => exact hmoney
  | cons r rest ih =>
    refine ih _ ?_
    unfold setRankBankTabRightsAndSlots
    split
    · exact hmoney
    · exact hset _ _ (Or.inr (Or.inr ⟨r, rfl⟩)) hmoney

/-! ## 7. Looking members up -/

section getMember

variable {g : Guild} {guid player : ObjectGuid} {member : Member} {f : Member → Member}

theorem guid_of_getMember (h : g.getMember guid = some member) : member.guid = guid := by
  simpa using List.find?_some h

theorem mem_of_getMember (h : g.getMember guid = some member) : member ∈ g.members :=
  List.mem_of_find?_eq_some h

theorem getMember_updateMember (hf : ∀ member, (f member).guid = member.guid) :
    (g.updateMember player f).getMember guid =
      if guid = player then (g.getMember guid).map f else g.getMember guid := by
  have hguid : (fun member : Member => decide (member.guid = guid)) ∘
      (fun member => if member.guid = player then f member else member) =
        fun member => decide (member.guid = guid) := by
    funext member
    simp only [Function.comp_apply]
    split
    · rw [hf]
    · rfl
  unfold getMember updateMember
  rw [List.find?_map, hguid]
  cases hfind : g.members.find? fun member => decide (member.guid = guid) with
  | none => simp
  | some member =>
    have hm : member.guid = guid := by simpa using List.find?_some hfind
    by_cases hp : guid = player
    · simp [hm, hp]
    · simp [hm, hp]

theorem getMember_resetTimes :
    g.resetTimes.getMember guid = (g.getMember guid).map Member.resetValues := by
  unfold getMember resetTimes
  exact List.find?_map ..

end getMember

end Guild

end FunPvp.Guilds
