/-
# The money of a guild bank

Members put money into the bank and take it out, for themselves or to have their gear repaired.
What a member below guild master takes in a day is limited by his rank; one counter serves
withdrawals and repairs.

The two ways to take money out are told apart by a flag only. The limit is looked up by
`_GetMemberRemainingMoney`, which asks for either of two rights, that for repairs and that for
gold, and nothing else asks for the latter. So a member who may only have his gear repaired at the
guild's cost can withdraw as much as that for himself (`repairOnly_withdraws`); where no such member
asks for it, the bank is as one expects (`run_sound`).
-/
import FunPvp.Lib.Run
import FunPvp.Lib.SignedLimit
import FunPvp.Lib.Stacks
import FunPvp.Guilds.Guild

namespace FunPvp.Guilds

open FunPvp.Lib

/-! ## 1. A player's gold -/

def MAX_MONEY_AMOUNT : UInt32 := 0x7FFFFFFF

/-- `Player::ModifyMoney`: whether it succeeds, and the gold afterwards. -/
def modifyMoney (money : UInt32) (amount : Int32) : Bool × UInt32 :=
  if amount = 0 then (true, money)
  else if amount < 0 then
    (true, if money > (-amount).toUInt32 then money + amount.toUInt32 else 0)
  else if money < MAX_MONEY_AMOUNT - amount.toUInt32 then (true, money + amount.toUInt32)
  else (false, money)

structure MoneyState where
  guild : Guild
  gold : ObjectGuid → UInt32

namespace MoneyState

/-! ## 2. The handlers -/

def modifyBankMoney (g : Guild) (amount : UInt64) (add : Bool) : Bool × Guild :=
  if add then (true, { g with bankMoney := g.bankMoney + amount })
  else if g.bankMoney < amount then (false, g)
  else (true, { g with bankMoney := g.bankMoney - amount })

def handleMemberDepositMoney (s : MoneyState) (player : ObjectGuid) (amount : UInt32) :
    MoneyState where
  guild := (modifyBankMoney s.guild amount.toUInt64 true).2
  gold := Function.update s.gold player (modifyMoney (s.gold player) (-amount.toInt32)).2

def handleMemberWithdrawMoney (s : MoneyState) (player : ObjectGuid) (amount : UInt32)
    (repair : Bool) : Bool × MoneyState :=
  let amount := min amount MAX_MONEY_AMOUNT
  if s.guild.bankMoney < amount.toUInt64 then (false, s)
  else
    match s.guild.getMember player with
    | none => (false, s)
    | some member =>
      if (s.guild.getMemberRemainingMoney member).toUInt32 < amount then (false, s)
      else
        match (if repair then (true, s.gold player)
          else modifyMoney (s.gold player) amount.toInt32) with
        | (false, _) => (false, s)
        | (true, money) =>
          let g := s.guild.updateMember player fun member =>
            member.updateBankWithdrawValue GUILD_BANK_MAX_TABS amount
          (true,
            { guild := (modifyBankMoney g amount.toUInt64 false).2
              gold := Function.update s.gold player money })

inductive MoneyEvent
  | deposit (player : ObjectGuid) (money : UInt32)
  | withdraw (player : ObjectGuid) (money : UInt32)
  | repair (player : ObjectGuid) (costs : UInt32)
  | setRankInfo (player : ObjectGuid) (rankId : UInt8) (name : String)
      (rights moneyPerDay : UInt32) (rightsAndSlots : List GuildBankRightsAndSlots)
  | resetTimes

/-- A member asks for a deposit: `HandleGuildBankDepositMoney` checks his gold. -/
def handleGuildBankDepositMoney (s : MoneyState) (player : ObjectGuid) (money : UInt32) :
    MoneyState :=
  if money ≠ 0 ∧ s.gold player ≥ money ∧ (s.guild.getMember player).isSome then
    s.handleMemberDepositMoney player money
  else s

/-- `HandleGuildBankWithdrawMoney`; `false` also if there is nothing to withdraw. -/
def handleGuildBankWithdrawMoney (s : MoneyState) (player : ObjectGuid) (money : UInt32) :
    Bool × MoneyState :=
  if money ≠ 0 then s.handleMemberWithdrawMoney player money false else (false, s)

/-- The part of `DurabilityRepair` that has the guild pay; a repair costs at least 1. -/
def durabilityRepair (s : MoneyState) (player : ObjectGuid) (costs : UInt32) :
    Bool × MoneyState :=
  s.handleMemberWithdrawMoney player (if costs = 0 then 1 else costs) true

def step (s : MoneyState) : MoneyEvent → MoneyState
  | .deposit player money => s.handleGuildBankDepositMoney player money
  | .withdraw player money => (s.handleGuildBankWithdrawMoney player money).2
  | .repair player costs => (s.durabilityRepair player costs).2
  | .setRankInfo player rankId name rights moneyPerDay rightsAndSlots =>
    { s with
      guild := s.guild.handleSetRankInfo player rankId name rights moneyPerDay rightsAndSlots }
  | .resetTimes => { s with guild := s.guild.resetTimes }

/-! ## 3. What a request does -/

section Money

variable {money amount : UInt32}

theorem toUInt32_neg (amount : UInt32) : (-amount.toInt32).toUInt32 = -amount := rfl

theorem toInt_of_le_max (h : amount ≤ MAX_MONEY_AMOUNT) : amount.toInt32.toInt = amount.toNat := by
  have hle : amount.toNat ≤ 2147483647 := UInt32.le_iff_toNat_le.mp h
  rw [toInt_eq]
  exact if_pos (show amount.toNat < 2 ^ 31 by omega)

theorem modifyMoney_neg (hamount : amount ≠ 0) (hle : amount ≤ money)
    (hmax : money ≤ MAX_MONEY_AMOUNT) :
    (modifyMoney money (-amount.toInt32)).2 = money - amount := by
  have hint := toInt_of_le_max (UInt32.le_trans hle hmax)
  have hpos : 0 < amount.toNat := Nat.pos_of_ne_zero fun h0 => hamount (UInt32.toNat_inj.mp h0)
  have hneg : (-amount.toInt32).toInt = -amount.toNat := by
    have hlt := amount.toInt32.toInt_lt
    rw [Int32.toInt_neg, hint]
    exact Int.bmod_eq_of_le (by omega) (by omega)
  have hne : -amount.toInt32 ≠ 0 := by
    intro h0
    rw [h0] at hneg
    have hzero : (0 : Int32).toInt = 0 := rfl
    omega
  have hlt : -amount.toInt32 < 0 := by
    rw [Int32.lt_iff_toInt_lt, hneg]
    have hzero : (0 : Int32).toInt = 0 := rfl
    omega
  have hback : (- -amount.toInt32).toUInt32 = amount := by simp
  unfold modifyMoney
  rw [if_neg hne, if_pos hlt, hback]
  dsimp only
  split
  · rw [toUInt32_neg]
    exact (UInt32.sub_eq_add_neg money amount).symm
  · rename_i hnot
    have heq : money = amount := UInt32.le_antisymm (UInt32.not_lt.mp hnot) hle
    rw [heq]
    exact (UInt32.sub_self amount).symm

theorem modifyMoney_pos (hmax : amount ≤ MAX_MONEY_AMOUNT) :
    modifyMoney money amount.toInt32 = (false, money) ∨
      (modifyMoney money amount.toInt32 = (true, money + amount) ∧
        (amount = 0 ∨ money.toNat + amount.toNat < MAX_MONEY_AMOUNT.toNat)) := by
  have hint := toInt_of_le_max hmax
  have hnot : ¬ amount.toInt32 < 0 := by
    rw [Int32.lt_iff_toInt_lt, hint]
    have hzero : (0 : Int32).toInt = 0 := rfl
    omega
  have hback : amount.toInt32.toUInt32 = amount := rfl
  unfold modifyMoney
  rw [if_neg hnot, hback]
  split
  · rename_i hzero
    have hzero' : amount = 0 := congrArg Int32.toUInt32 hzero
    subst hzero'
    exact Or.inr ⟨by simp, Or.inl rfl⟩
  · split
    · rename_i hlt
      rw [UInt32.lt_iff_toNat_lt, UInt32.toNat_sub_of_le _ _ hmax] at hlt
      exact Or.inr ⟨rfl, Or.inr (by omega)⟩
    · exact Or.inl rfl

end Money

section Withdraw

variable {s : MoneyState} {player : ObjectGuid} {amount : UInt32} {repair : Bool}

/-- A withdrawal of the amount is carried out: the bank has it, the member has it left today, and
it goes to his gold unless it is for a repair. -/
structure Withdraws (s : MoneyState) (player : ObjectGuid) (amount : UInt32) (repair : Bool)
    (member : Member) (s' : MoneyState) : Prop where
  get : s.guild.getMember player = some member
  bank : amount.toNat ≤ s.guild.bankMoney.toNat
  left : amount ≤ (s.guild.getMemberRemainingMoney member).toUInt32
  guild : s'.guild = { (s.guild.updateMember player fun member =>
    member.updateBankWithdrawValue GUILD_BANK_MAX_TABS amount) with
      bankMoney := s.guild.bankMoney - amount.toUInt64 }
  gold : s'.gold =
    Function.update s.gold player (s.gold player + if repair then 0 else amount)
  room : repair = true ∨ amount = 0 ∨
    (s.gold player).toNat + amount.toNat < MAX_MONEY_AMOUNT.toNat

theorem withdraw_cases (s : MoneyState) (player : ObjectGuid) (amount : UInt32) (repair : Bool) :
    s.handleMemberWithdrawMoney player amount repair = (false, s) ∨
      (s.handleMemberWithdrawMoney player amount repair).1 = true ∧
        ∃ member, Withdraws s player (min amount MAX_MONEY_AMOUNT) repair member
          (s.handleMemberWithdrawMoney player amount repair).2 := by
  have hmax : min amount MAX_MONEY_AMOUNT ≤ MAX_MONEY_AMOUNT := by
    rw [UInt32.le_iff_toNat_le, UInt32.toNat_min]
    exact Nat.min_le_right _ _
  unfold handleMemberWithdrawMoney
  dsimp only
  generalize min amount MAX_MONEY_AMOUNT = amount at hmax ⊢
  split
  · exact Or.inl rfl
  rename_i hbank
  split
  · exact Or.inl rfl
  rename_i member hget
  split
  · exact Or.inl rfl
  rename_i hleft
  have hmodify : (modifyBankMoney (s.guild.updateMember player fun member =>
      member.updateBankWithdrawValue GUILD_BANK_MAX_TABS amount) amount.toUInt64 false).2 =
        { (s.guild.updateMember player fun member =>
          member.updateBankWithdrawValue GUILD_BANK_MAX_TABS amount) with
            bankMoney := s.guild.bankMoney - amount.toUInt64 } := by
    unfold modifyBankMoney
    rw [if_neg (by decide)]
    exact congrArg Prod.snd (if_neg hbank)
  have hbank' : amount.toNat ≤ s.guild.bankMoney.toNat := by
    rw [UInt64.not_lt, UInt64.le_iff_toNat_le, UInt32.toNat_toUInt64] at hbank
    exact hbank
  cases repair with
  | true =>
    refine Or.inr ⟨rfl, member, hget, hbank', UInt32.not_lt.mp hleft, hmodify, ?_, Or.inl rfl⟩
    simp
  | false =>
    simp only [Bool.false_eq_true, if_false]
    rcases modifyMoney_pos hmax with hmoney | ⟨hmoney, hroom⟩
    · rw [hmoney]
      exact Or.inl rfl
    · rw [hmoney]
      exact Or.inr ⟨rfl, member, hget, hbank', UInt32.not_lt.mp hleft, hmodify, by simp,
        Or.inr hroom⟩

end Withdraw

/-! ## 4. Nothing is lost -/

def memberGuids (g : Guild) : Finset ObjectGuid := (g.members.map Member.guid).toFinset

def wealth (s : MoneyState) : ℕ :=
  s.guild.bankMoney.toNat + ∑ player ∈ memberGuids s.guild, (s.gold player).toNat

/-- A rank that has the guild master's number, and may withdraw gold. -/
def IsMasterRank (rankInfo : RankInfo) : Prop :=
  rankInfo.rankId = GR_GUILDMASTER ∧ rankInfo.rights &&& GR_RIGHT_WITHDRAW_GOLD ≠ 0

/-- What is so when a guild has been created or loaded: no player has more gold than he can, the
bank and the members have less than 2^64, and the first rank is the guild master's. -/
structure WellFormed (s : MoneyState) : Prop where
  gold : ∀ player, s.gold player ≤ MAX_MONEY_AMOUNT
  fits : s.wealth < 2 ^ 64
  master : ∃ rankInfo, s.guild.getRankInfo GR_GUILDMASTER = some rankInfo ∧ IsMasterRank rankInfo

def repairPayment (s : MoneyState) : MoneyEvent → ℕ
  | .repair player costs =>
    if (s.durabilityRepair player costs).1 then
      (min (if costs = 0 then 1 else costs) MAX_MONEY_AMOUNT).toNat
    else 0
  | _ => 0

section WellFormed

variable {s s' : MoneyState} {player : ObjectGuid} {amount money : UInt32} {repair : Bool}

theorem mem_memberGuids {member : Member} (h : s.guild.getMember player = some member) :
    player ∈ memberGuids s.guild := by
  rw [memberGuids, List.mem_toFinset, List.mem_map]
  exact ⟨member, Guild.mem_of_getMember h, Guild.guid_of_getMember h⟩

theorem memberGuids_updateMember {g : Guild} {f : Member → Member}
    (hf : ∀ member, (f member).guid = member.guid) :
    memberGuids (g.updateMember player f) = memberGuids g := by
  unfold memberGuids Guild.updateMember
  rw [List.map_map]
  congr 2
  funext member
  rw [Function.comp_apply]
  split
  · exact hf member
  · rfl

theorem sum_gold_update (h : player ∈ memberGuids s.guild) (money : UInt32) :
    ∑ p ∈ memberGuids s.guild, (Function.update s.gold player money p).toNat +
        (s.gold player).toNat =
      ∑ p ∈ memberGuids s.guild, (s.gold p).toNat + money.toNat :=
  sum_update_add h UInt32.toNat s.gold money

theorem gold_le_wealth (h : player ∈ memberGuids s.guild) :
    s.guild.bankMoney.toNat + (s.gold player).toNat ≤ s.wealth :=
  Nat.add_le_add_left
    (Finset.single_le_sum (f := fun p => (s.gold p).toNat) (fun _ _ => Nat.zero_le _) h) _

theorem gold_update (h : ∀ p, s.gold p ≤ MAX_MONEY_AMOUNT) (hmoney : money ≤ MAX_MONEY_AMOUNT)
    (p : ObjectGuid) : Function.update s.gold player money p ≤ MAX_MONEY_AMOUNT := by
  by_cases hp : p = player
  · rw [hp, Function.update_self]
    exact hmoney
  · rw [Function.update_of_ne hp]
    exact h p

theorem deposit_spec (hs : WellFormed s) (hget : (s.guild.getMember player).isSome)
    (hamount : amount ≠ 0) (hle : amount ≤ s.gold player) :
    WellFormed (s.handleMemberDepositMoney player amount) ∧
      (s.handleMemberDepositMoney player amount).wealth = s.wealth ∧
      (s.handleMemberDepositMoney player amount).guild.bankMoney.toNat =
        s.guild.bankMoney.toNat + amount.toNat := by
  obtain ⟨member, hmember⟩ := Option.isSome_iff_exists.mp hget
  have hmem := mem_memberGuids hmember
  have hlen : amount.toNat ≤ (s.gold player).toNat := UInt32.le_iff_toNat_le.mp hle
  have hbound := (gold_le_wealth hmem).trans_lt hs.fits
  have hmoney := modifyMoney_neg hamount hle (hs.gold player)
  have hgold : (s.handleMemberDepositMoney player amount).gold =
      Function.update s.gold player (s.gold player - amount) :=
    congrArg (Function.update s.gold player) hmoney
  have hbank : (s.handleMemberDepositMoney player amount).guild.bankMoney.toNat =
      s.guild.bankMoney.toNat + amount.toNat := by
    change (s.guild.bankMoney + amount.toUInt64).toNat = _
    rw [UInt64.toNat_add, UInt32.toNat_toUInt64]
    exact Nat.mod_eq_of_lt (by omega)
  have hwealth : (s.handleMemberDepositMoney player amount).wealth = s.wealth := by
    have hsum := sum_gold_update hmem (s.gold player - amount)
    rw [UInt32.toNat_sub_of_le _ _ hle, ← hgold] at hsum
    have hguids : memberGuids (s.handleMemberDepositMoney player amount).guild =
        memberGuids s.guild := rfl
    unfold wealth
    rw [hbank, hguids]
    omega
  refine ⟨⟨?_, hwealth ▸ hs.fits, hs.master⟩, hwealth, hbank⟩
  intro p
  rw [hgold]
  refine gold_update hs.gold ?_ p
  have hmax := UInt32.le_iff_toNat_le.mp (hs.gold player)
  rw [UInt32.le_iff_toNat_le, UInt32.toNat_sub_of_le _ _ hle]
  omega

theorem Withdraws.spec {member : Member} (h : Withdraws s player amount repair member s')
    (hs : WellFormed s) :
    WellFormed s' ∧ s'.wealth + (if repair then amount.toNat else 0) = s.wealth ∧
      s'.guild.bankMoney.toNat + amount.toNat = s.guild.bankMoney.toNat := by
  have hmem := mem_memberGuids h.get
  have hguids : memberGuids s'.guild = memberGuids s.guild := by
    rw [h.guild]
    exact memberGuids_updateMember fun m => m.guid_updateBankWithdrawValue _ _
  have hbank : s'.guild.bankMoney.toNat + amount.toNat = s.guild.bankMoney.toNat := by
    have hle : amount.toUInt64 ≤ s.guild.bankMoney := by
      rw [UInt64.le_iff_toNat_le, UInt32.toNat_toUInt64]
      exact h.bank
    rw [h.guild]
    change (s.guild.bankMoney - amount.toUInt64).toNat + _ = _
    rw [UInt64.toNat_sub_of_le _ _ hle, UInt32.toNat_toUInt64]
    have := h.bank
    omega
  have hpaid : (s.gold player + if repair then 0 else amount).toNat =
      (s.gold player).toNat + (if repair then 0 else amount.toNat) := by
    cases repair with
    | true => simp
    | false =>
      have hmax := UInt32.le_iff_toNat_le.mp (hs.gold player)
      have hmaxval : MAX_MONEY_AMOUNT.toNat = 2147483647 := rfl
      simp only [Bool.false_eq_true, if_false]
      rw [UInt32.toNat_add]
      refine Nat.mod_eq_of_lt ?_
      rcases h.room with hroom | rfl | hroom
      · exact absurd hroom (by simp)
      · have hzero : (0 : UInt32).toNat = 0 := rfl
        omega
      · omega
  have hgold : ∀ p, s'.gold p ≤ MAX_MONEY_AMOUNT := by
    intro p
    rw [h.gold]
    refine gold_update hs.gold ?_ p
    have hmax := UInt32.le_iff_toNat_le.mp (hs.gold player)
    rw [UInt32.le_iff_toNat_le, hpaid]
    rcases h.room with rfl | rfl | hroom
    · simpa using hmax
    · simpa using hmax
    · cases repair <;> simp <;> omega
  have hwealth : s'.wealth + (if repair then amount.toNat else 0) = s.wealth := by
    have hsum := sum_gold_update hmem (s.gold player + if repair then 0 else amount)
    rw [hpaid, ← h.gold] at hsum
    unfold wealth
    rw [hguids]
    cases repair <;> simp at hsum ⊢ <;> omega
  refine ⟨⟨hgold, ?_, ?_⟩, hwealth, hbank⟩
  · have := hs.fits
    omega
  · obtain ⟨rankInfo, hrank, hmaster⟩ := hs.master
    refine ⟨rankInfo, ?_, hmaster⟩
    rw [h.guild]
    exact hrank

theorem handleSetRankInfo_spec {g : Guild} (player : ObjectGuid) (rankId : UInt8) (name : String)
    (rights moneyPerDay : UInt32) (rightsAndSlots : List GuildBankRightsAndSlots)
    (hmaster : ∃ rankInfo, g.getRankInfo GR_GUILDMASTER = some rankInfo ∧ IsMasterRank rankInfo) :
    let g' := g.handleSetRankInfo player rankId name rights moneyPerDay rightsAndSlots
    g'.members = g.members ∧ g'.bankMoney = g.bankMoney ∧
      ∃ rankInfo, g'.getRankInfo GR_GUILDMASTER = some rankInfo ∧ IsMasterRank rankInfo := by
  refine Guild.handleSetRankInfo_induct (P := fun g' => g'.members = g.members ∧
    g'.bankMoney = g.bankMoney ∧ ∃ rankInfo, g'.getRankInfo GR_GUILDMASTER = some rankInfo ∧
      IsMasterRank rankInfo) player rankId name rights moneyPerDay rightsAndSlots
    ⟨rfl, rfl, hmaster⟩ ?_
  intro g' f hf hg'
  obtain ⟨hmembers, hbank, rankInfo, hget, hmaster⟩ := hg'
  refine ⟨Guild.members_updateRank.trans hmembers, Guild.bankMoney_updateRank.trans hbank, ?_⟩
  rw [Guild.getRankInfo_updateRank, hget]
  split
  · refine ⟨f rankInfo, rfl, ?_⟩
    rcases hf with rfl | rfl | ⟨r, rfl⟩
    · refine ⟨hmaster.1, ?_⟩
      change (if rankInfo.rankId = GR_GUILDMASTER then GR_RIGHT_ALL else rights) &&& _ ≠ 0
      rw [if_pos hmaster.1]
      decide
    · exact hmaster
    · exact hmaster
  · exact ⟨rankInfo, rfl, hmaster⟩

end WellFormed

/-! ## 5. The daily limit -/

/-- What a request takes out of the bank, for a member himself or for his gear. -/
def withdrawn (guid : ObjectGuid) (s : MoneyState) : MoneyEvent → ℕ
  | .withdraw player money =>
    if player = guid ∧ (s.handleGuildBankWithdrawMoney player money).1 = true then
      (min money MAX_MONEY_AMOUNT).toNat
    else 0
  | .repair player costs =>
    if player = guid ∧ (s.durabilityRepair player costs).1 = true then
      (min (if costs = 0 then 1 else costs) MAX_MONEY_AMOUNT).toNat
    else 0
  | _ => 0

/-- The day goes on, and the limit of the rank is what it was. -/
def SameDay (rankId : UInt8) (s : MoneyState) (e : MoneyEvent) : Prop :=
  e ≠ .resetTimes ∧
    (s.step e).guild.getRankBankMoneyPerDay rankId = s.guild.getRankBankMoneyPerDay rankId

/-- The member has taken `k` today: that is his counter, and it is within the limit. -/
structure Spent (guid : ObjectGuid) (rankId : UInt8) (limit : Int32) (k : ℕ) (s : MoneyState) :
    Prop where
  member : ∃ member, s.guild.getMember guid = some member ∧ member.rankId = rankId ∧
    (member.bankWithdraw GUILD_BANK_MAX_TABS).toInt = k
  same : s.guild.getRankBankMoneyPerDay rankId = limit
  le : (k : ℤ) ≤ max 0 limit.toInt

section Spent

variable {s s' : MoneyState} {guid player : ObjectGuid} {rankId : UInt8} {limit : Int32} {k : ℕ}
  {amount : UInt32} {repair : Bool} {member : Member}

theorem Spent.left (h : Spent guid rankId limit k s) (hrank : rankId ≠ GR_GUILDMASTER)
    (hget : s.guild.getMember guid = some member)
    (hleft : amount ≤ (s.guild.getMemberRemainingMoney member).toUInt32) :
    ((k + amount.toNat : ℕ) : ℤ) ≤ max 0 limit.toInt := by
  obtain ⟨member', hget', hrankId, hk⟩ := h.member
  rw [hget, Option.some.injEq] at hget'
  subst hget'
  have hvalue : member.getBankWithdrawValue GUILD_BANK_MAX_TABS =
      member.bankWithdraw GUILD_BANK_MAX_TABS := by
    unfold Member.getBankWithdrawValue Member.isRank
    rw [hrankId]
    exact if_neg (by simpa using hrank)
  have hle := UInt32.le_iff_toNat_le.mp hleft
  have hnone : ∀ n : ℕ, n ≤ (0 : Int32).toUInt32.toNat → ((k + n : ℕ) : ℤ) ≤ max 0 limit.toInt := by
    intro n hn
    have hzero : (0 : Int32).toUInt32.toNat = 0 := rfl
    have hn0 : n = 0 := by omega
    subst hn0
    exact h.le
  unfold Guild.getMemberRemainingMoney at hle
  rw [hrankId, if_neg hrank, hvalue, h.same] at hle
  dsimp only at hle
  split at hle
  · split at hle
    · rename_i hpos
      have hnat := toNat_of_pos hpos
      rw [toInt_sub_counter hk h.le] at hnat
      push_cast
      omega
    · exact hnone _ hle
  · exact hnone _ hle

theorem Spent.withdraws (h : Spent guid rankId limit k s) (hrank : rankId ≠ GR_GUILDMASTER)
    (hw : Withdraws s player amount repair member s') :
    Spent guid rankId limit (k + if player = guid then amount.toNat else 0) s' := by
  obtain ⟨member', hget', hrankId, hk⟩ := h.member
  have hget : s'.guild.getMember guid = if guid = player then
      some (member'.updateBankWithdrawValue GUILD_BANK_MAX_TABS amount) else some member' := by
    rw [hw.guild]
    change (s.guild.updateMember player _).getMember guid = _
    rw [Guild.getMember_updateMember fun m => m.guid_updateBankWithdrawValue _ _, hget']
    rfl
  have hlimit : s'.guild.getRankBankMoneyPerDay rankId = limit := by
    rw [hw.guild]
    exact h.same
  by_cases hp : player = guid
  · subst hp
    rw [if_pos rfl] at hget ⊢
    have hle := h.left hrank hw.get hw.left
    refine ⟨⟨_, hget, hrankId, ?_⟩, hlimit, hle⟩
    have hhi := limit.toInt_lt
    rw [Member.bankWithdraw_updated]
    exact_mod_cast toInt_add_counter hk (by omega)
  · rw [if_neg hp, Nat.add_zero]
    rw [if_neg fun hg => hp hg.symm] at hget
    exact ⟨⟨member', hget, hrankId, hk⟩, hlimit, h.le⟩

theorem Spent.withdraw (h : Spent guid rankId limit k s) (hrank : rankId ≠ GR_GUILDMASTER)
    (player : ObjectGuid) (amount : UInt32) (repair : Bool) :
    Spent guid rankId limit
      (k + if player = guid ∧ (s.handleMemberWithdrawMoney player amount repair).1 = true then
        (min amount MAX_MONEY_AMOUNT).toNat else 0)
      (s.handleMemberWithdrawMoney player amount repair).2 := by
  rcases withdraw_cases s player amount repair with hfail | ⟨hok, member, hw⟩
  · rw [hfail]
    simpa using h
  · rw [hok]
    simpa using h.withdraws hrank hw

theorem Spent.step (h : Spent guid rankId limit k s) (hrank : rankId ≠ GR_GUILDMASTER)
    {e : MoneyEvent} (hday : SameDay rankId s e) :
    Spent guid rankId limit (k + withdrawn guid s e) (s.step e) := by
  cases e with
  | deposit player money =>
    change Spent guid rankId limit (k + 0) (s.handleGuildBankDepositMoney player money)
    unfold handleGuildBankDepositMoney
    split
    · exact ⟨h.member, h.same, h.le⟩
    · exact h
  | withdraw player money =>
    change Spent guid rankId limit (k + if player = guid ∧
      (s.handleGuildBankWithdrawMoney player money).1 = true then _ else 0)
        (s.handleGuildBankWithdrawMoney player money).2
    unfold handleGuildBankWithdrawMoney
    split
    · exact h.withdraw hrank player money false
    · simpa using h
  | repair player costs => exact h.withdraw hrank player (if costs = 0 then 1 else costs) true
  | setRankInfo player r name rights moneyPerDay rightsAndSlots =>
    have hmembers : (s.step (.setRankInfo player r name rights moneyPerDay
        rightsAndSlots)).guild.members = s.guild.members :=
      Guild.handleSetRankInfo_induct (P := fun g => g.members = s.guild.members) player r name
        rights moneyPerDay rightsAndSlots rfl
        fun g f _ hg => Guild.members_updateRank.trans hg
    refine ⟨?_, hday.2.trans h.same, h.le⟩
    unfold Guild.getMember
    rw [hmembers]
    exact h.member
  | resetTimes => exact absurd rfl hday.1

/-- **The daily limit on money.**  What a member below guild master takes out of the bank from one
reset to the next is at most the money a day of his rank; as the limit is signed, one of 2^31 and
more is none at all. -/
theorem withdrawn_le {day : List MoneyEvent} (hget : s.guild.getMember guid = some member)
    (hrank : member.rankId ≠ GR_GUILDMASTER)
    (hday : Steps step (SameDay member.rankId) (s.step .resetTimes) day) :
    tally step (withdrawn guid) (s.step .resetTimes) day ≤
      (s.guild.getRankBankMoneyPerDay member.rankId).toInt.toNat := by
  have hstart : Spent guid member.rankId (s.guild.getRankBankMoneyPerDay member.rankId) 0
      (s.step .resetTimes) := by
    refine ⟨⟨member.resetValues, ?_, rfl, rfl⟩, rfl, ?_⟩
    · change s.guild.resetTimes.getMember guid = _
      rw [Guild.getMember_resetTimes, hget]
      rfl
    · rw [Nat.cast_zero]
      exact le_max_left _ _
  have hrun := exec_tally step (w := withdrawn guid)
    (J := fun k s' => Spent guid member.rankId (s.guild.getRankBankMoneyPerDay member.rankId) k s')
    (fun k s' e h hC => h.step hrank hC) hstart hday
  have hle := hrun.le
  omega

end Spent

/-! ## 6. Runs -/

/-- What a request does to the bank's money, as a number that does not wrap. -/
def bankChange (s : MoneyState) : MoneyEvent → ℤ
  | .deposit player money =>
    if money ≠ 0 ∧ s.gold player ≥ money ∧ (s.guild.getMember player).isSome then money.toNat else 0
  | .withdraw player money =>
    if (s.handleGuildBankWithdrawMoney player money).1 then -(min money MAX_MONEY_AMOUNT).toNat
    else 0
  | .repair player costs =>
    if (s.durabilityRepair player costs).1 then
      -(min (if costs = 0 then 1 else costs) MAX_MONEY_AMOUNT).toNat
    else 0
  | _ => 0

def Refused (s : MoneyState) : MoneyEvent → Prop
  | .withdraw player money => (s.handleGuildBankWithdrawMoney player money).1 = false
  | .repair player costs => (s.durabilityRepair player costs).1 = false
  | _ => False

/-- A member whose rank may withdraw gold. -/
def MayWithdraw (g : Guild) (player : ObjectGuid) : Prop :=
  ∃ member, g.getMember player = some member ∧
    g.getRankRights member.rankId &&& GR_RIGHT_WITHDRAW_GOLD ≠ 0

/-- What is expected of a step: only a repair takes something out of what the bank and the members
have, the bank's money does not wrap, what is refused changes nothing, and who withdraws gold has
the right to. -/
structure StepSound (s : MoneyState) (e : MoneyEvent) : Prop where
  wealth : (s.step e).wealth + repairPayment s e = s.wealth
  bank : ((s.step e).guild.bankMoney.toNat : ℤ) = s.guild.bankMoney.toNat + bankChange s e
  refused : Refused s e → s.step e = s
  right : ∀ player money, e = .withdraw player money →
    (s.handleGuildBankWithdrawMoney player money).1 = true → MayWithdraw s.guild player

/-- What is expected of a run: each step is sound, the repairs together are what is missing, and
in each day of it a member below guild master keeps to the limit of his rank. -/
structure RunSound (s : MoneyState) (evs : List MoneyEvent) : Prop where
  steps : Steps step StepSound s evs
  wealth : (exec step s evs).wealth + tally step repairPayment s evs = s.wealth
  limit : ∀ before day, before ++ .resetTimes :: day <+: evs →
    ∀ guid member, (exec step s before).guild.getMember guid = some member →
      member.rankId ≠ GR_GUILDMASTER →
        Steps step (SameDay member.rankId) ((exec step s before).step .resetTimes) day →
          tally step (withdrawn guid) ((exec step s before).step .resetTimes) day ≤
            ((exec step s before).guild.getRankBankMoneyPerDay member.rankId).toInt.toNat

/-- No member whose rank may have his gear repaired, but may not withdraw gold, asks for gold. -/
def NoRepairOnly (s : MoneyState) : MoneyEvent → Prop
  | .withdraw player _ =>
    ∀ member, s.guild.getMember player = some member → member.rankId ≠ GR_GUILDMASTER →
      s.guild.getRankRights member.rankId &&& GR_RIGHT_WITHDRAW_REPAIR ≠ 0 →
        s.guild.getRankRights member.rankId &&& GR_RIGHT_WITHDRAW_GOLD ≠ 0
  | _ => True

section Sound

variable {s : MoneyState} {player : ObjectGuid} {amount : UInt32} {repair : Bool} {e : MoneyEvent}

theorem rights_of_left {g : Guild} {member : Member} (hrank : member.rankId ≠ GR_GUILDMASTER)
    (hpos : amount ≠ 0) (hleft : amount ≤ (g.getMemberRemainingMoney member).toUInt32) :
    g.getRankRights member.rankId &&& GR_RIGHT_WITHDRAW_REPAIR ≠ 0 ∨
      g.getRankRights member.rankId &&& GR_RIGHT_WITHDRAW_GOLD ≠ 0 := by
  by_contra hnot
  rw [not_or, not_not, not_not] at hnot
  have hsplit : g.getRankRights member.rankId &&&
      (GR_RIGHT_WITHDRAW_REPAIR ||| GR_RIGHT_WITHDRAW_GOLD) =
        g.getRankRights member.rankId &&& GR_RIGHT_WITHDRAW_REPAIR |||
          g.getRankRights member.rankId &&& GR_RIGHT_WITHDRAW_GOLD :=
    UInt32.toBitVec_inj.mp BitVec.and_or_distrib_left
  have hmask : g.getRankRights member.rankId &&&
      (GR_RIGHT_WITHDRAW_REPAIR ||| GR_RIGHT_WITHDRAW_GOLD) = 0 := by
    rw [hsplit, hnot.1, hnot.2]
    rfl
  have hzero : g.getMemberRemainingMoney member = 0 := by
    unfold Guild.getMemberRemainingMoney
    rw [if_neg hrank, if_neg (by simpa using hmask)]
  rw [hzero] at hleft
  refine hpos (UInt32.toNat_inj.mp ?_)
  have hle := UInt32.le_iff_toNat_le.mp hleft
  have hnat : (0 : Int32).toUInt32.toNat = 0 := rfl
  have hnat' : (0 : UInt32).toNat = 0 := rfl
  omega

theorem withdraw_sound (hs : WellFormed s) (player : ObjectGuid) (amount : UInt32)
    (repair : Bool) :
    let out := s.handleMemberWithdrawMoney player amount repair
    WellFormed out.2 ∧
      out.2.wealth + (if repair = true ∧ out.1 = true then (min amount MAX_MONEY_AMOUNT).toNat
        else 0) = s.wealth ∧
      (out.2.guild.bankMoney.toNat : ℤ) = s.guild.bankMoney.toNat +
        (if out.1 then -((min amount MAX_MONEY_AMOUNT).toNat : ℤ) else 0) ∧
      (out.1 = false → out.2 = s) := by
  intro out
  rcases withdraw_cases s player amount repair with hfail | ⟨hok, member, hw⟩
  · have hout : out = (false, s) := hfail
    rw [hout]
    refine ⟨hs, ?_, ?_, fun _ => rfl⟩ <;> simp
  · have hout : out.1 = true := hok
    obtain ⟨hwf, hwealth, hbank⟩ := hw.spec hs
    rw [hout]
    refine ⟨hwf, ?_, ?_, fun h => absurd h (by simp)⟩
    · simpa using hwealth
    · simp only [if_true]
      change ((s.handleMemberWithdrawMoney player amount repair).2.guild.bankMoney.toNat : ℤ) = _
      omega

theorem step_sound (hs : WellFormed s) (hC : NoRepairOnly s e) :
    WellFormed (s.step e) ∧ StepSound s e := by
  cases e with
  | deposit player money =>
    have hstep : s.step (.deposit player money) = s.handleGuildBankDepositMoney player money := rfl
    unfold handleGuildBankDepositMoney at hstep
    split at hstep
    · rename_i hcond
      obtain ⟨hwf, hwealth, hbank⟩ := deposit_spec hs hcond.2.2 hcond.1 hcond.2.1
      rw [← hstep] at hwf hwealth hbank
      refine ⟨hwf, hwealth, ?_, fun h => h.elim, ?_⟩
      · rw [hbank, bankChange, if_pos hcond]
        push_cast
        rfl
      · intro player money h
        exact absurd h (by simp)
    · rename_i hcond
      have hwealth : (s.step (.deposit player money)).wealth = s.wealth := by rw [hstep]
      refine ⟨by rwa [hstep], hwealth, ?_, fun h => h.elim, ?_⟩
      · rw [hstep, bankChange, if_neg hcond, add_zero]
      · intro player money h
        exact absurd h (by simp)
  | withdraw player money =>
    by_cases hmoney : money ≠ 0
    · have hout : s.handleGuildBankWithdrawMoney player money =
          s.handleMemberWithdrawMoney player money false := if_pos hmoney
      obtain ⟨hwf, hwealth, hbank, hrefused⟩ := withdraw_sound hs player money false
      rw [← hout] at hwf hwealth hbank hrefused
      have hsame : (s.handleGuildBankWithdrawMoney player money).2.wealth = s.wealth := by
        simpa using hwealth
      refine ⟨hwf, hsame, hbank, hrefused, ?_⟩
      intro player' money' he hok
      rw [MoneyEvent.withdraw.injEq] at he
      obtain ⟨rfl, rfl⟩ := he
      rw [hout] at hok
      rcases withdraw_cases s player money false with hfail | ⟨-, member, hw⟩
      · rw [hfail] at hok
        exact absurd hok (by simp)
      refine ⟨member, hw.get, ?_⟩
      by_cases hmaster : member.rankId = GR_GUILDMASTER
      · -- the guild master's rank has every right
        obtain ⟨rankInfo, hrank, -, hright⟩ := hs.master
        rw [hmaster]
        unfold Guild.getRankRights
        rw [hrank]
        exact hright
      · have hpos : min money MAX_MONEY_AMOUNT ≠ 0 := by
          intro h0
          have hn := congrArg UInt32.toNat h0
          have hmax : MAX_MONEY_AMOUNT.toNat = 2147483647 := rfl
          have hne : money.toNat ≠ 0 := fun h => hmoney (UInt32.toNat_inj.mp h)
          rw [UInt32.toNat_min, hmax] at hn
          have hzero : (0 : UInt32).toNat = 0 := rfl
          omega
        rcases rights_of_left hmaster hpos hw.left with hrepair | hgold
        · exact hC member hw.get hmaster hrepair
        · exact hgold
    · have hout : s.handleGuildBankWithdrawMoney player money = (false, s) := if_neg hmoney
      have hstep : s.step (.withdraw player money) = s := congrArg Prod.snd hout
      have hwealth : (s.step (.withdraw player money)).wealth = s.wealth := by rw [hstep]
      refine ⟨by rwa [hstep], hwealth, ?_, fun _ => hstep, ?_⟩
      · rw [hstep, bankChange, hout]
        simp
      · intro player' money' he hok
        rw [MoneyEvent.withdraw.injEq] at he
        obtain ⟨rfl, rfl⟩ := he
        rw [hout] at hok
        exact absurd hok (by simp)
  | repair player costs =>
    obtain ⟨hwf, hwealth, hbank, hrefused⟩ :=
      withdraw_sound hs player (if costs = 0 then 1 else costs) true
    simp only [true_and] at hwealth
    refine ⟨hwf, hwealth, hbank, hrefused, ?_⟩
    intro player money h
    exact absurd h (by simp)
  | setRankInfo player rankId name rights moneyPerDay rightsAndSlots =>
    obtain ⟨hmembers, hbank, hmaster⟩ := handleSetRankInfo_spec player rankId name
      rights moneyPerDay rightsAndSlots hs.master
    have hwealth : (s.step (.setRankInfo player rankId name rights moneyPerDay
        rightsAndSlots)).wealth = s.wealth := by
      unfold wealth memberGuids step
      rw [hmembers, hbank]
    refine ⟨⟨hs.gold, hwealth ▸ hs.fits, hmaster⟩, hwealth, ?_, fun h => h.elim, ?_⟩
    · change ((s.guild.handleSetRankInfo player rankId name rights moneyPerDay
        rightsAndSlots).bankMoney.toNat : ℤ) = _
      rw [hbank]
      exact (add_zero _).symm
    · intro player money h
      exact absurd h (by simp)
  | resetTimes =>
    have hguids : memberGuids s.guild.resetTimes = memberGuids s.guild := by
      unfold memberGuids Guild.resetTimes
      rw [List.map_map]
      rfl
    have hwealth : (s.step .resetTimes).wealth = s.wealth := by
      unfold wealth step
      rw [hguids]
      rfl
    refine ⟨⟨hs.gold, hwealth ▸ hs.fits, hs.master⟩, hwealth, (add_zero _).symm,
      fun h => h.elim, ?_⟩
    intro player money h
    exact absurd h (by simp)

/-- **The money of the bank.**  In every run in which no member whose rank has the right for
repairs only asks for gold, the bank is as expected. -/
theorem run_sound (s : MoneyState) (evs : List MoneyEvent) (hs : WellFormed s)
    (hC : Steps step NoRepairOnly s evs) : RunSound s evs := by
  have hsteps : Steps step StepSound s evs := by
    induction evs generalizing s with
    | nil => exact trivial
    | cons e evs ih =>
      obtain ⟨hwf, hsound⟩ := step_sound hs hC.1
      exact ⟨hsound, ih _ hwf hC.2⟩
  refine ⟨hsteps, ?_, ?_⟩
  · have hrun := exec_tally step (w := repairPayment)
      (J := fun k s' => s'.wealth + k = s.wealth)
      (fun k s' e hk hstep => by
        have := hstep.wealth
        omega) (Nat.add_zero _) hsteps
    rw [Nat.zero_add] at hrun
    exact hrun
  · intro before day _ guid member hget hrank hday
    exact withdrawn_le hget hrank hday

end Sound

/-- A guild of a master and an officer, whose rank has the given rights and 100 a day; the bank
has 1000. -/
def officersGuild (rights : UInt32) : MoneyState where
  guild :=
    { leaderGuid := 1
      ranks := [RankInfo.new 0 "Guild Master" GR_RIGHT_ALL 0, RankInfo.new 1 "Officer" rights 100]
      members := [Member.new 1 "Thrall" 0, Member.new 2 "Vol'jin" 1]
      bankTabs := []
      bankMoney := 1000 }
  gold := fun _ => 50

theorem officersGuild_wellFormed (rights : UInt32) : WellFormed (officersGuild rights) where
  gold := fun _ => (by decide : (50 : UInt32) ≤ MAX_MONEY_AMOUNT)
  fits := by
    have hguids : memberGuids (officersGuild rights).guild = {1, 2} := rfl
    unfold wealth
    rw [hguids]
    change 1000 + ∑ _player ∈ ({1, 2} : Finset ObjectGuid), 50 < 2 ^ 64
    decide
  master := ⟨_, rfl, rfl, by decide⟩

/-- An officer who may withdraw gold does so, and has his gear repaired. -/
theorem officersGuild_sound :
    RunSound (officersGuild (GR_RIGHT_WITHDRAW_REPAIR ||| GR_RIGHT_WITHDRAW_GOLD))
      [.withdraw 2 60, .repair 2 40, .deposit 1 50] := by
  refine run_sound _ _ (officersGuild_wellFormed _) ⟨?_, trivial, trivial, trivial⟩
  intro member hget _ _
  have hmember : member = Member.new 2 "Vol'jin" 1 := Option.some.inj hget.symm
  subst hmember
  decide

/-- **One mask serves both.**  An officer who may only have his gear repaired withdraws gold. -/
theorem repairOnly_withdraws :
    WellFormed (officersGuild GR_RIGHT_WITHDRAW_REPAIR) ∧
      ¬ RunSound (officersGuild GR_RIGHT_WITHDRAW_REPAIR) [.withdraw 2 100] := by
  refine ⟨officersGuild_wellFormed _, fun h => ?_⟩
  obtain ⟨member, hget, hright⟩ := h.steps.1.right 2 100 rfl (by decide)
  have hmember : member = Member.new 2 "Vol'jin" 1 := Option.some.inj hget.symm
  subst hmember
  exact hright (by decide)

end MoneyState

end FunPvp.Guilds
