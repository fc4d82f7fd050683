/-
# Auctions and gold

Gold moves from players into bids and deposits, and from there into mails. What is counted is the
players' gold, what their auction mails carry, the bids on live auctions, and what has been charged
for their deposits.

A sale pays the owner the deposit of the entry, which is an estimate until he is charged for it,
stays one if he is offline then, and is written in full even if he has not got that much gold; so it
may pay out a deposit that nobody has paid (`unpaid_deposit`). Where every deposit that is paid out
has been charged, no step creates gold, and every bidder who is outbid, or whose auction is
cancelled, gets back what he has paid (`run_createsNoGold`).
-/
import FunPvp.Lib.Stacks
import FunPvp.Auctions.Stores

namespace FunPvp.Auctions

open FunPvp.Lib
open FunPvp.Guilds (MAX_MONEY_AMOUNT)
open FunPvp.Guilds.MoneyState (modifyMoney_neg toInt_of_le_max toUInt32_neg)

/-! ## 1. Paying -/

section Pay

variable {money amount : UInt32}

theorem toNat_pay (hle : amount ≤ money) (hmax : money ≤ MAX_MONEY_AMOUNT) :
    (Guilds.modifyMoney money (-amount.toInt32)).2.toNat + amount.toNat = money.toNat := by
  by_cases hamount : amount = 0
  · subst hamount
    simp [Guilds.modifyMoney]
  · rw [modifyMoney_neg hamount hle hmax, UInt32.toNat_sub_of_le _ _ hle]
    have := UInt32.le_iff_toNat_le.mp hle
    omega

theorem charge_le (hfits : amount.toNat < 2 ^ 31) :
    (Guilds.modifyMoney money (-amount.toInt32)).2 ≤ money := by
  by_cases hamount : amount = 0
  · subst hamount
    simp [Guilds.modifyMoney]
  · have hle : amount ≤ MAX_MONEY_AMOUNT := by
      rw [UInt32.le_iff_toNat_le]
      have hmax : MAX_MONEY_AMOUNT.toNat = 2 ^ 31 - 1 := rfl
      omega
    have hint := toInt_of_le_max hle
    have hpos : 0 < amount.toNat :=
      Nat.pos_of_ne_zero fun h0 => hamount (UInt32.toNat_inj.mp h0)
    have hneg : (-amount.toInt32).toInt = -amount.toNat := by
      rw [Int32.toInt_neg, hint]
      exact Int.bmod_eq_of_le (by omega) (by omega)
    have hzero : (0 : Int32).toInt = 0 := rfl
    have hne : -amount.toInt32 ≠ 0 := by
      intro h0
      rw [h0] at hneg
      omega
    have hlt : -amount.toInt32 < 0 := by
      rw [Int32.lt_iff_toInt_lt, hneg]
      omega
    have hback : (- -amount.toInt32).toUInt32 = amount := by simp
    unfold Guilds.modifyMoney
    rw [if_neg hne, if_pos hlt, hback]
    dsimp only
    split
    · next hgt =>
      have hgt' := UInt32.lt_iff_toNat_lt.mp hgt
      rw [toUInt32_neg, ← UInt32.sub_eq_add_neg, UInt32.le_iff_toNat_le,
        UInt32.toNat_sub_of_le _ _ (UInt32.le_of_lt hgt)]
      omega
    · exact UInt32.zero_le

end Pay

theorem sum_map_replace {α : Type} (key : α → ℕ) {l : List α} (hnodup : (l.map key).Nodup) {a : α}
    (ha : a ∈ l) (w : α → ℕ) (f : α → α) :
    ((l.map fun b => if key b = key a then f b else b).map w).sum + w a =
      (l.map w).sum + w (f a) := by
  induction l with
  | nil => exact absurd ha List.not_mem_nil
  | cons b l ih =>
    obtain ⟨hb, hnodup⟩ := List.nodup_cons.mp hnodup
    simp only [List.map_cons, List.sum_cons]
    by_cases hkey : key b = key a
    · have hrest : (l.map fun b => if key b = key a then f b else b) = l := by
        refine (List.map_congr_left fun c hc => if_neg fun heq => hb ?_).trans (List.map_id l)
        rw [hkey, ← heq]
        exact List.mem_map_of_mem hc
      have hba : b = a := by
        rcases List.mem_cons.mp ha with rfl | ha
        · rfl
        · exact absurd (hkey ▸ List.mem_map_of_mem ha) hb
      subst hba
      rw [if_pos rfl, hrest]
      omega
    · have hmem : a ∈ l := by
        rcases List.mem_cons.mp ha with rfl | ha
        · exact absurd rfl hkey
        · exact ha
      have := ih hnodup hmem
      rw [if_neg hkey]
      omega

/-- An entry without its deposit and its time, which are what the pending lists write. -/
def AuctionEntry.face {P : Type} (a : AuctionEntry P) : AuctionEntry P :=
  { a with deposit := 0, expireTime := 0 }

theorem AuctionEntry.of_face {P : Type} {a b : AuctionEntry P} (h : a.face = b.face) :
    a.id = b.id ∧ a.itemGUIDLow = b.itemGUIDLow ∧ a.bid = b.bid ∧ a.etime = b.etime ∧
      a.auctionHouseEntry = b.auctionHouseEntry := by
  simp only [AuctionEntry.face, AuctionEntry.mk.injEq] at h
  tauto

/-! ## 2. What is counted -/

namespace AuctionHouseMgr

section Counted

variable {P : Type}

def mailSum (m : AuctionHouseMgr P) : ℕ := (m.mails.map (·.money.toNat)).sum

/-- The bids and the charged deposits of the live auctions. -/
def liveSum (m : AuctionHouseMgr P) : ℕ :=
  (m.auctions.map fun a => a.bid.toNat + m.charged a.id).sum

def goldSum [Fintype P] (m : AuctionHouseMgr P) : ℕ := ∑ p, (m.gold p).toNat

def total [Fintype P] (m : AuctionHouseMgr P) : ℕ := m.goldSum + m.mailSum + m.liveSum

variable {env : Env P} {m m' : AuctionHouseMgr P} {a : AuctionEntry P}

@[simp] theorem sendMail_gold (receiver : P) (money : UInt32) (item : Option ℕ) :
    (m.sendMail env receiver money item).gold = m.gold := by
  unfold sendMail
  split <;> rfl

@[simp] theorem sendMail_charged (receiver : P) (money : UInt32) (item : Option ℕ) :
    (m.sendMail env receiver money item).charged = m.charged := by
  unfold sendMail
  split <;> rfl

@[simp] theorem sendMail_paid (receiver : P) (money : UInt32) (item : Option ℕ) :
    (m.sendMail env receiver money item).paid = m.paid := by
  unfold sendMail
  split <;> rfl

theorem sendMail_mails {receiver : P} (h : env.accountExists receiver) (money : UInt32)
    (item : Option ℕ) :
    (m.sendMail env receiver money item).mails = m.mails ++ [⟨receiver, money, item⟩] := by
  rw [sendMail, if_pos h]

/-- Only mails may be new, and only items may be gone. -/
structure MailsOnly (m m' : AuctionHouseMgr P) (new : List (AuctionMail P)) : Prop where
  gold : m'.gold = m.gold
  charged : m'.charged = m.charged
  paid : m'.paid = m.paid
  mails : m'.mails = m.mails ++ new

theorem MailsOnly.trans {m'' : AuctionHouseMgr P} {new new' : List (AuctionMail P)}
    (h : MailsOnly m m' new) (h' : MailsOnly m' m'' new') : MailsOnly m m'' (new ++ new') :=
  ⟨h'.gold.trans h.gold, h'.charged.trans h.charged, h'.paid.trans h.paid, by
    rw [h'.mails, h.mails, List.append_assoc]⟩

theorem mailsOnly_sendMail {receiver : P} (h : env.accountExists receiver) (money : UInt32)
    (item : Option ℕ) :
    MailsOnly m (m.sendMail env receiver money item) [⟨receiver, money, item⟩] :=
  ⟨sendMail_gold _ _ _, sendMail_charged _ _ _, sendMail_paid _ _ _, sendMail_mails h _ _⟩

theorem mailsOnly_sendItem (env : Env P) (receiver : Option P) (guid : ℕ) :
    ∃ new, MailsOnly m (m.sendItem env receiver guid) new ∧
      ∀ mail ∈ new, mail.money = 0 := by
  have hnone : MailsOnly m m [] := ⟨rfl, rfl, rfl, (List.append_nil _).symm⟩
  unfold sendItem
  split
  · exact ⟨[], hnone, by simp⟩
  · split
    · exact ⟨[], ⟨rfl, rfl, rfl, (List.append_nil _).symm⟩, by simp⟩
    · split
      · next receiver hreceiver => exact ⟨_, mailsOnly_sendMail hreceiver _ _, by simp⟩
      · exact ⟨[], ⟨rfl, rfl, rfl, (List.append_nil _).symm⟩, by simp⟩

theorem mailsOnly_sendBidBack (hacc : ∀ p, env.accountExists p) {bidder : P}
    (h : a.bidder = some bidder) :
    MailsOnly m (m.sendBidBack env a) [⟨bidder, a.bid, none⟩] := by
  rw [sendBidBack, h]
  exact mailsOnly_sendMail (hacc bidder) _ _

theorem MailsOnly.mailSum {new : List (AuctionMail P)} (h : MailsOnly m m' new) :
    m'.mailSum = m.mailSum + (new.map (·.money.toNat)).sum := by
  simp [AuctionHouseMgr.mailSum, h.mails]

theorem sum_of_money_zero {new : List (AuctionMail P)} (h : ∀ mail ∈ new, mail.money = 0) :
    (new.map (·.money.toNat)).sum = 0 := by
  refine List.sum_eq_zero fun n hn => ?_
  obtain ⟨mail, hmail, rfl⟩ := List.mem_map.mp hn
  simp [h mail hmail]

theorem liveSum_closed (hnodup : m.ids.Nodup) (ha : a ∈ m.auctions)
    (hm' : m'.auctions = m.auctions.filter fun b => ¬ b.id = a.id)
    (hcharged : m'.charged = m.charged) :
    m'.liveSum + (a.bid.toNat + m.charged a.id) = m.liveSum := by
  have hperm : m.auctions.Perm (a :: m.auctions.filter fun b => ¬ b.id = a.id) := by
    have hl : m.auctions.Nodup := List.Nodup.of_map _ hnodup
    refine (List.perm_ext_iff_of_nodup hl (List.nodup_cons.mpr ⟨by simp, hl.filter _⟩)).mpr
      fun b => ?_
    rw [List.mem_cons, List.mem_filter]
    constructor
    · intro hb
      by_cases hid : b.id = a.id
      · exact Or.inl (List.inj_on_of_nodup_map hnodup hb ha hid)
      · exact Or.inr ⟨hb, by simpa using hid⟩
    · rintro (rfl | ⟨hb, -⟩)
      · exact ha
      · exact hb
  have hsum := (hperm.map fun b => b.bid.toNat + m.charged b.id).sum_eq
  simp only [liveSum, hm', hcharged, hsum, List.map_cons, List.sum_cons]
  omega

end Counted

/-! ## 3. Books that balance -/

/-- What holds of every entry: a bid stays below the buyout, there is a bidder for every bid, and
the owner does not bid. -/
structure Fair {P : Type} (a : AuctionEntry P) : Prop where
  bid_lt : a.buyout = 0 ∨ a.bid < a.buyout
  bid_none : a.bidder = none → a.bid = 0
  bidder_ne : a.bidder ≠ some a.owner

theorem Fair.face_iff {P : Type} (a : AuctionEntry P) : Fair a.face ↔ Fair a :=
  ⟨fun h => ⟨h.bid_lt, h.bid_none, h.bidder_ne⟩, fun h => ⟨h.bid_lt, h.bid_none, h.bidder_ne⟩⟩

/-- The stores are sound, no player has more gold than one can have, and a bid is what its bidder has
paid. -/
structure Books {P : Type} (m : AuctionHouseMgr P) : Prop where
  sound : m.Sound
  gold_le : ∀ p, m.gold p ≤ MAX_MONEY_AMOUNT
  fair : ∀ a ∈ m.auctions, Fair a
  paid : ∀ a ∈ m.auctions, m.paid a.id = a.bid.toNat

variable {P : Type} {env : Env P} {m m' m'' : AuctionHouseMgr P} {a : AuctionEntry P}

theorem books_load (t : Tables P) (hgold : ∀ p, t.gold p ≤ MAX_MONEY_AMOUNT)
    (hfair : ∀ r ∈ t.rows, Fair r.1) : t.load.Books := by
  refine ⟨t.sound_load, hgold, fun a ha => ?_, fun a ha => ?_⟩
  · obtain ⟨r, hr, rfl⟩ := List.mem_map.mp ha
    exact hfair r hr
  · obtain ⟨r, hr, rfl⟩ := List.mem_map.mp ha
    have hpaid : t.load.paid r.1.id =
        ((t.rows.find? fun s => s.1.id = r.1.id).map fun s => s.1.bid.toNat).getD 0 := rfl
    cases hfind : t.rows.find? fun s => s.1.id = r.1.id with
    | none => simpa using List.find?_eq_none.mp hfind r hr
    | some s =>
      have hid : s.1.id = r.1.id := by simpa using List.find?_some hfind
      have hs := List.mem_of_find?_eq_some hfind
      rw [hpaid, hfind, List.inj_on_of_nodup_map t.ids_nodup hs hr hid]
      rfl

/-- What of a sale goes back to the owner from his deposit has been charged, and nothing wraps. -/
structure RefundCovered (env : Env P) (m : AuctionHouseMgr P) (a : AuctionEntry P) : Prop where
  fits : a.bid.toNat + a.deposit.toNat < 2 ^ 32
  cut_le : (a.getAuctionCut env).toNat ≤ a.bid.toNat + a.deposit.toNat
  covered : a.deposit.toNat ≤ m.charged a.id + (a.getAuctionCut env).toNat

instance : Decidable (RefundCovered env m a) :=
  decidable_of_iff (a.bid.toNat + a.deposit.toNat < 2 ^ 32 ∧
      (a.getAuctionCut env).toNat ≤ a.bid.toNat + a.deposit.toNat ∧
      a.deposit.toNat ≤ m.charged a.id + (a.getAuctionCut env).toNat)
    ⟨fun ⟨h₁, h₂, h₃⟩ => ⟨h₁, h₂, h₃⟩, fun h => ⟨h.fits, h.cut_le, h.covered⟩⟩

theorem RefundCovered.profit_le (h : RefundCovered env m a) :
    (a.bid + a.deposit - a.getAuctionCut env).toNat ≤ a.bid.toNat + m.charged a.id := by
  have hsum : (a.bid + a.deposit).toNat = a.bid.toNat + a.deposit.toNat := by
    rw [UInt32.toNat_add]
    exact Nat.mod_eq_of_lt h.fits
  have hle : a.getAuctionCut env ≤ a.bid + a.deposit := by
    rw [UInt32.le_iff_toNat_le, hsum]
    exact h.cut_le
  rw [UInt32.toNat_sub_of_le _ _ hle, hsum]
  have := h.covered
  omega

theorem Books.closed (h : m.Books) (ha : a ∈ m.auctions)
    (hpending : ∀ p ∈ m.pending, a.id ∉ p.auctions) (hclosed : Closed a m m')
    (hgold : ∀ p, m'.gold p ≤ m.gold p) (hpaid : ∀ id, id ≠ a.id → m'.paid id = m.paid id) :
    m'.Books := by
  have hmem : ∀ b ∈ m'.auctions, b ∈ m.auctions ∧ b.id ≠ a.id := by
    intro b hb
    rw [hclosed.auctions] at hb
    obtain ⟨hb, hid⟩ := List.mem_filter.mp hb
    exact ⟨hb, by simpa using hid⟩
  refine ⟨h.sound.closed ha hpending hclosed, fun p => UInt32.le_trans (hgold p) (h.gold_le p),
    fun b hb => h.fair b (hmem b hb).1, fun b hb => ?_⟩
  rw [hpaid b.id (hmem b hb).2]
  exact h.paid b (hmem b hb).1

theorem mailsOnly_sale (hacc : ∀ p, env.accountExists p) (a : AuctionEntry P) :
    ∃ new, MailsOnly m ((m.sendAuctionSuccessfulMail env a).sendAuctionWonMail env a)
        (⟨a.owner, a.bid + a.deposit - a.getAuctionCut env, none⟩ :: new) ∧
      ∀ mail ∈ new, mail.money = 0 := by
  obtain ⟨new, hnew, hzero⟩ := mailsOnly_sendItem (m := m.sendAuctionSuccessfulMail env a) env
    a.bidder a.itemGUIDLow
  exact ⟨new, (mailsOnly_sendMail (hacc a.owner) _ _).trans hnew, hzero⟩

theorem cancel_noBidder [LinearOrder P] {player : P} {auctioneer : Option House} {auctionId : ℕ}
    (hcancel : m.cancelAccepted env player auctioneer auctionId = some a) (hb : a.bidder = none) :
    MailsOnly m (m.handleAuctionRemoveItem env player auctioneer auctionId)
      [⟨player, 0, some a.itemGUIDLow⟩] := by
  rw [handleAuctionRemoveItem, hcancel]
  simp only [hb, Option.isSome_none, Bool.false_eq_true, if_false]
  exact ⟨rfl, rfl, rfl, rfl⟩

theorem cancel_bidder [LinearOrder P] (hacc : ∀ p, env.accountExists p) {player bidder : P}
    {auctioneer : Option House} {auctionId : ℕ}
    (hcancel : m.cancelAccepted env player auctioneer auctionId = some a)
    (hb : a.bidder = some bidder) :
    MailsOnly (m.modifyMoney player (-(a.getAuctionCut env).toInt32))
      (m.handleAuctionRemoveItem env player auctioneer auctionId)
      [⟨bidder, a.bid, none⟩, ⟨player, 0, some a.itemGUIDLow⟩] := by
  have hback := mailsOnly_sendBidBack (m := m) hacc hb
  rw [handleAuctionRemoveItem, hcancel]
  simp only [hb, Option.isSome_some, if_true]
  refine ⟨?_, hback.charged, hback.paid, ?_⟩
  · show ((m.sendBidBack env a).modifyMoney player _).gold = _
    simp only [modifyMoney, hback.gold]
  · show (m.sendBidBack env a).mails ++ _ = m.mails ++ _
    rw [hback.mails, List.append_assoc]
    rfl

/-! ## 4. Deposits and times -/

/-- The entries are the same but for deposits and times. -/
structure SameBids (m m' : AuctionHouseMgr P) : Prop where
  same : SameAuctions m m'
  faces : m'.auctions.map AuctionEntry.face = m.auctions.map AuctionEntry.face
  paid : m'.paid = m.paid

theorem SameBids.trans (h : SameBids m m') (h' : SameBids m' m'') : SameBids m m'' :=
  ⟨h.same.trans h'.same, h'.faces.trans h.faces, h'.paid.trans h.paid⟩

theorem SameStores.sameBids (h : SameStores m m') (hpaid : m'.paid = m.paid) : SameBids m m' :=
  ⟨h.sameAuctions, by rw [h.auctions], hpaid⟩

theorem SameBids.exists_face (h : SameBids m m') {b : AuctionEntry P} (hb : b ∈ m'.auctions) :
    ∃ c ∈ m.auctions, c.face = b.face := by
  have hmem : b.face ∈ m.auctions.map AuctionEntry.face := by
    rw [← h.faces]
    exact List.mem_map_of_mem hb
  exact List.mem_map.mp hmem

theorem Books.sameBids (h : m.Books) (hsame : SameBids m m')
    (hgold : ∀ p, m'.gold p ≤ m.gold p) : m'.Books := by
  refine ⟨h.sound.sameAuctions hsame.same,
    fun p => UInt32.le_trans (hgold p) (h.gold_le p), fun b hb => ?_, fun b hb => ?_⟩
  · obtain ⟨c, hc, hface⟩ := hsame.exists_face hb
    exact (Fair.face_iff b).mp (hface ▸ (Fair.face_iff c).mpr (h.fair c hc))
  · obtain ⟨c, hc, hface⟩ := hsame.exists_face hb
    obtain ⟨hid, -, hbid, -⟩ := AuctionEntry.of_face hface
    rw [hsame.paid, ← hid, ← hbid]
    exact h.paid c hc

theorem SameBids.deref (h : SameBids m m') (id : ℕ) :
    (m'.deref id).map AuctionEntry.face = (m.deref id).map AuctionEntry.face := by
  have hfind : ∀ l : List (AuctionEntry P), (l.find? fun a => a.id = id).map AuctionEntry.face =
      (l.map AuctionEntry.face).find? fun a => a.id = id := by
    intro l
    rw [List.find?_map]
    rfl
  simp only [AuctionHouseMgr.deref, hfind, h.faces]

theorem SameBids.faces_of_mapM (h : SameBids m m') {l : List ℕ}
    {entries entries' : List (AuctionEntry P)} (he : l.mapM m.deref = some entries)
    (he' : l.mapM m'.deref = some entries') :
    entries'.map AuctionEntry.face = entries.map AuctionEntry.face := by
  have hmap : ∀ {m₁ : AuctionHouseMgr P} {es : List (AuctionEntry P)},
      l.mapM m₁.deref = some es →
      (l.map fun id => (m₁.deref id).map AuctionEntry.face) =
        (es.map AuctionEntry.face).map some := by
    intro m₁ es hes
    have := congrArg (List.map (Option.map AuctionEntry.face)) (mapM_eq_some_iff.mp hes)
    simpa [Function.comp_def] using this
  have heq := (hmap he').symm.trans ((List.map_congr_left fun id _ => h.deref id).trans (hmap he))
  exact (List.map_injective_iff.mpr (Option.some_injective _)) heq

def chargeFor (env : Env P) (m : AuctionHouseMgr P) (p : PendingAuctions P) : UInt32 :=
  match p.auctions.mapM m.deref with
  | some (first :: entries) => m.totalDeposit env first (first :: entries)
  | _ => 0

theorem SameBids.chargeFor (h : SameBids m m') (env : Env P) {p : PendingAuctions P}
    (hp : ∀ id ∈ p.auctions, id ∈ m.ids) (hne : p.auctions ≠ []) :
    m'.chargeFor env p = m.chargeFor env p := by
  obtain ⟨first, entries, he, -⟩ := exists_pending_deref hp hne
  obtain ⟨first', entries', he', -⟩ :=
    exists_pending_deref (m := m') (by rw [h.same.ids]; exact hp) hne
  have hfaces := h.faces_of_mapM he he'
  have hfirst : first'.face = first.face := (List.cons.inj hfaces).1
  have hcounts : ((first' :: entries').map (·.itemCount)) = (first :: entries).map (·.itemCount) := by
    have := congrArg (List.map (·.itemCount)) hfaces
    simpa only [List.map_map, Function.comp_def, AuctionEntry.face] using this
  obtain ⟨-, hguid, -, htime, hentry⟩ := AuctionEntry.of_face hfirst
  simp only [AuctionHouseMgr.chargeFor, he, he', totalDeposit, getAItem, h.same.aItems, hguid,
    hentry, htime, hcounts]

theorem liveSum_charged (hnodup : m.ids.Nodup) (id charge : ℕ) :
    ({ m with charged := Function.update m.charged id charge } : AuctionHouseMgr P).liveSum ≤
      m.liveSum + charge := by
  suffices h : ∀ l : List (AuctionEntry P), (l.map (·.id)).Nodup →
      (l.map fun a => a.bid.toNat + Function.update m.charged id charge a.id).sum ≤
        (l.map fun a => a.bid.toNat + m.charged a.id).sum + charge from h m.auctions hnodup
  intro l hl
  induction l with
  | nil => simp
  | cons a l ih =>
    obtain ⟨hnot, hl⟩ := List.nodup_cons.mp hl
    simp only [List.map_cons, List.sum_cons]
    by_cases hid : a.id = id
    · have hrest : (l.map fun b => b.bid.toNat + Function.update m.charged id charge b.id) =
          l.map fun b => b.bid.toNat + m.charged b.id := by
        refine List.map_congr_left fun b hb => ?_
        have hne : b.id ≠ id := fun heq =>
          hnot (List.mem_map.mpr ⟨b, hb, heq.trans hid.symm⟩)
        rw [Function.update_of_ne hne]
      rw [hrest, hid, Function.update_self]
      omega
    · rw [Function.update_of_ne hid]
      have := ih hl
      omega

theorem liveSum_modifyAuction (id : ℕ) {f : AuctionEntry P → AuctionEntry P}
    (hf : ∀ a, (f a).face = a.face) : (m.modifyAuction id f).liveSum = m.liveSum := by
  have hcases : ∀ a : AuctionEntry P, (if a.id = id then f a else a).face = a.face := by
    intro a
    split
    · exact hf a
    · rfl
  simp only [liveSum, modifyAuction, List.map_map]
  refine congrArg List.sum (List.map_congr_left fun a _ => ?_)
  obtain ⟨hid, -, hbid, -⟩ := AuctionEntry.of_face (hcases a)
  simp only [Function.comp_apply, hbid, hid]

theorem sameBids_writeRow {id : ℕ} {f : AuctionEntry P → AuctionEntry P}
    (hf : ∀ a, (f a).face = a.face) (hid : id ∈ m.rows) :
    SameBids m (((m.modifyAuction id f).deleteFromDB id).saveToDB id) := by
  have hfaces : ((m.modifyAuction id f).auctions.map AuctionEntry.face) =
      m.auctions.map AuctionEntry.face := by
    simp only [modifyAuction, List.map_map]
    refine List.map_congr_left fun a _ => ?_
    simp only [Function.comp_apply]
    split
    · exact hf a
    · rfl
  refine ⟨(sameAuctions_modifyAuction id (fun a => ?_) fun a => ?_).trans
    (sameAuctions_replaceRow hid), hfaces, rfl⟩
  · exact (AuctionEntry.of_face (hf a)).1
  · exact (AuctionEntry.of_face (hf a)).2.1

theorem writeShares_sound (shares : List (ℕ × UInt32)) (paid : ℕ) (hm : m.Sound)
    (hrows : ∀ share ∈ shares, share.1 ∈ m.rows) :
    SameBids m (shares.foldl writeShare (m, paid)).1 ∧
      (shares.foldl writeShare (m, paid)).1.liveSum + (shares.foldl writeShare (m, paid)).2 ≤
        m.liveSum + paid ∧
      (shares.foldl writeShare (m, paid)).1.gold = m.gold ∧
      (shares.foldl writeShare (m, paid)).1.mails = m.mails := by
  induction shares generalizing m paid with
  | nil => exact ⟨(SameStores.refl m).sameBids rfl, le_refl _, rfl, rfl⟩
  | cons share shares ih =>
    have hrow := hrows share List.mem_cons_self
    have hwrite := sameBids_writeRow (m := m) (f := fun a => { a with deposit := share.2 })
      (fun _ => rfl) hrow
    have hone : SameBids m (writeShare (m, paid) share).1 :=
      ⟨⟨hwrite.same.ids, hwrite.same.guids, hwrite.same.aItems, hwrite.same.pending,
        hwrite.same.rows, hwrite.same.nextAuctionId, hwrite.same.nextItemGuid,
        hwrite.same.inventory⟩, hwrite.faces, rfl⟩
    have hsound := hm.sameAuctions hone.same
    have hlive : (writeShare (m, paid) share).1.liveSum ≤
        m.liveSum + min share.2.toNat paid := by
      have hnodup := (hm.sameAuctions hwrite.same).ids_nodup
      have hcharged := liveSum_charged hnodup share.1 (min share.2.toNat paid)
      have hsame : (((m.modifyAuction share.1 fun a => { a with deposit := share.2 }).deleteFromDB
          share.1).saveToDB share.1).liveSum = m.liveSum :=
        liveSum_modifyAuction (m := m) (f := fun a => { a with deposit := share.2 }) share.1
          fun _ => rfl
      rw [hsame] at hcharged
      exact hcharged
    have hpaid : (writeShare (m, paid) share).2 = paid - share.2.toNat := rfl
    obtain ⟨hbids, hsum, hgold, hmails⟩ := ih (m := (writeShare (m, paid) share).1)
      (writeShare (m, paid) share).2 hsound fun s hs => by
        rw [hone.same.rows]
        exact hrows s (List.mem_cons_of_mem _ hs)
    refine ⟨hone.trans hbids, ?_, hgold, hmails⟩
    refine hsum.trans ?_
    rw [hpaid]
    omega

theorem expireNow_sound (entries : List (AuctionEntry P)) (now : ℕ)
    (hrows : ∀ a ∈ entries, a.id ∈ m.rows) :
    SameBids m (entries.foldl (fun m a =>
        ((m.modifyAuction a.id fun a => { a with expireTime := now }).deleteFromDB a.id).saveToDB
          a.id) m) ∧
      (entries.foldl (fun m a =>
        ((m.modifyAuction a.id fun a => { a with expireTime := now }).deleteFromDB a.id).saveToDB
          a.id) m).liveSum = m.liveSum ∧
      (entries.foldl (fun m a =>
        ((m.modifyAuction a.id fun a => { a with expireTime := now }).deleteFromDB a.id).saveToDB
          a.id) m).gold = m.gold ∧
      (entries.foldl (fun m a =>
        ((m.modifyAuction a.id fun a => { a with expireTime := now }).deleteFromDB a.id).saveToDB
          a.id) m).mails = m.mails := by
  induction entries generalizing m with
  | nil => exact ⟨(SameStores.refl m).sameBids rfl, rfl, rfl, rfl⟩
  | cons a entries ih =>
    have hone := sameBids_writeRow (m := m) (f := fun a => { a with expireTime := now })
      (fun _ => rfl) (hrows a List.mem_cons_self)
    obtain ⟨hbids, hlive, hgold, hmails⟩ := ih (m := ((m.modifyAuction a.id fun a =>
      { a with expireTime := now }).deleteFromDB a.id).saveToDB a.id) fun b hb => by
        rw [hone.same.rows]
        exact hrows b (List.mem_cons_of_mem _ hb)
    have hsame := liveSum_modifyAuction (m := m) (f := fun a => { a with expireTime := now }) a.id
      fun _ => rfl
    exact ⟨hone.trans hbids, hlive.trans hsame, hgold, hmails⟩

/-! ## 5. Expiry -/

section Expiry

variable [Fintype P]

theorem Books.expire (h : m.Books) (hacc : ∀ p, env.accountExists p) (ha : a ∈ m.auctions)
    (hpending : ∀ p ∈ m.pending, a.id ∉ p.auctions)
    (hcovered : ¬ (a.bidder = none ∧ a.bid = 0) → RefundCovered env m a) :
    (m.expire env a).Books ∧ (m.expire env a).total ≤ m.total ∧
      (m.expire env a).charged = m.charged := by
  have hclosed : Closed a m (m.expire env a) := closed_expire a
  obtain ⟨new, hnew, hsum⟩ : ∃ new, MailsOnly m (m.expire env a) new ∧
      (new.map (·.money.toNat)).sum ≤ a.bid.toNat + m.charged a.id := by
    unfold AuctionHouseMgr.expire
    split
    · obtain ⟨new, hnew, hzero⟩ := mailsOnly_sendItem (m := m) env (some a.owner) a.itemGUIDLow
      exact ⟨new, ⟨hnew.gold, hnew.charged, hnew.paid, hnew.mails⟩, by
        rw [sum_of_money_zero hzero]
        exact Nat.zero_le _⟩
    · next hbid =>
      obtain ⟨new, hnew, hzero⟩ := mailsOnly_sale (m := m) hacc a
      refine ⟨_, ⟨hnew.gold, hnew.charged, hnew.paid, hnew.mails⟩, ?_⟩
      rw [List.map_cons, List.sum_cons, sum_of_money_zero hzero, Nat.add_zero]
      exact (hcovered hbid).profit_le
  have hlive := liveSum_closed h.sound.ids_nodup ha hclosed.auctions hnew.charged
  have hmail := hnew.mailSum
  refine ⟨h.closed ha hpending hclosed (fun p => by rw [hnew.gold]; exact UInt32.le_refl _)
    (fun id _ => by rw [hnew.paid]), ?_, hnew.charged⟩
  simp only [total, goldSum, hnew.gold]
  omega

theorem Books.update (h : m.Books) (hacc : ∀ p, env.accountExists p) (curTime : ℕ)
    (hpending : ∀ a ∈ m.auctions, a.expireTime ≤ curTime + 60 → ∀ p ∈ m.pending,
      a.id ∉ p.auctions)
    (hcovered : ∀ a ∈ m.auctions, a.expireTime ≤ curTime + 60 →
      ¬ (a.bidder = none ∧ a.bid = 0) → RefundCovered env m a) :
    (m.update env curTime).Books ∧ (m.update env curTime).total ≤ m.total := by
  have hstep : ∀ (m₁ : AuctionHouseMgr P) (a : AuctionEntry P),
      (m₁.Books ∧ m₁.total ≤ m.total ∧ m₁.charged = m.charged ∧ m₁.pending = m.pending) →
      m₁.auctions.Sublist m.auctions → a ∈ m₁.auctions → a.expireTime ≤ curTime + 60 →
      (m₁.expire env a).Books ∧ (m₁.expire env a).total ≤ m.total ∧
        (m₁.expire env a).charged = m.charged ∧ (m₁.expire env a).pending = m.pending := by
    rintro m₁ a ⟨h₁, htotal, hcharged, hp⟩ hsub ha htime
    have hcov : ¬ (a.bidder = none ∧ a.bid = 0) → RefundCovered env m₁ a := fun hbid =>
      have hc := hcovered a (hsub.subset ha) htime hbid
      ⟨hc.fits, hc.cut_le, hcharged ▸ hc.covered⟩
    obtain ⟨hbooks, hle, hch⟩ := h₁.expire hacc ha
      (fun p hmem => hpending a (hsub.subset ha) htime p (hp ▸ hmem)) hcov
    exact ⟨hbooks, hle.trans htotal, hch.trans hcharged, (closed_expire a).pending.trans hp⟩
  obtain ⟨⟨hbooks, htotal, -, -⟩, -⟩ := update_rule env curTime
    (I := fun m₁ => m₁.Books ∧ m₁.total ≤ m.total ∧ m₁.charged = m.charged ∧
      m₁.pending = m.pending)
    h.sound.ids_nodup hstep ⟨h, le_refl _, rfl, rfl⟩
  exact ⟨hbooks, htotal⟩

end Expiry

/-! ## 6. Bids -/

theorem modifyMoney_gold_le [LinearOrder P] {player : P} {amount : Int32}
    (h : (Guilds.modifyMoney (m.gold player) amount).2 ≤ m.gold player) (p : P) :
    (m.modifyMoney player amount).gold p ≤ m.gold p := by
  unfold modifyMoney
  by_cases hp : p = player
  · subst hp
    simpa using h
  · simp [Function.update_of_ne hp]

variable [Fintype P]

/-- A player pays a price for an auction: what he has bid before counts, and the bid of another
goes back to him. -/
structure Pays (m m' : AuctionHouseMgr P) (player : P) (a : AuctionEntry P) (price : UInt32) :
    Prop where
  same : SameStores m m'
  charged : m'.charged = m.charged
  gold_le : ∀ p, m'.gold p ≤ m.gold p
  paid_self : m'.paid a.id = price.toNat
  paid_ne : ∀ id, id ≠ a.id → m'.paid id = m.paid id
  sum : m'.goldSum + m'.mailSum + price.toNat = m.goldSum + m.mailSum + a.bid.toNat
  back : ∀ bidder, a.bidder = some bidder → bidder ≠ player →
    m'.mails = m.mails ++ [⟨bidder, a.bid, none⟩]

theorem Pays.bid {player : P} {price : UInt32} (hp : Pays m m' player a price) (h : m.Books)
    (hacc : m.BidAccepted player a price) (hlow : price < a.buyout ∨ a.buyout = 0) :
    (m'.modifyAuction a.id fun b => b.bidBy player price).Books ∧
      (m'.modifyAuction a.id fun b => b.bidBy player price).total = m.total := by
  have hmem : ∀ b ∈ m.auctions, b.id = a.id → b = a := fun b hb hid =>
    List.inj_on_of_nodup_map h.sound.ids_nodup hb hacc.mem hid
  have hsame : SameAuctions m
      (m'.modifyAuction a.id fun b => b.bidBy player price) :=
    hp.same.sameAuctions.trans (sameAuctions_modifyAuction _ (fun _ => rfl) fun _ => rfl)
  refine ⟨⟨h.sound.sameAuctions hsame,
    fun p => UInt32.le_trans (hp.gold_le p) (h.gold_le p), ?_, ?_⟩, ?_⟩
  · intro b hb
    obtain ⟨c, hc, rfl⟩ := List.mem_map.mp hb
    rw [hp.same.auctions] at hc
    split
    · next hid =>
      rw [hmem c hc hid]
      refine ⟨hlow.symm, fun hnone => by simp [AuctionEntry.bidBy] at hnone, ?_⟩
      exact fun heq => hacc.owner_ne (Option.some.inj heq).symm
    · exact h.fair c hc
  · intro b hb
    obtain ⟨c, hc, rfl⟩ := List.mem_map.mp hb
    rw [hp.same.auctions] at hc
    split
    · next hid => exact hid ▸ hp.paid_self
    · next hid => exact (hp.paid_ne c.id hid).trans (h.paid c hc)
  · have hlive : (m'.modifyAuction a.id fun b => b.bidBy player price).liveSum + a.bid.toNat =
          m.liveSum + price.toNat := by
      have hsum := sum_map_replace (fun b : AuctionEntry P => b.id) h.sound.ids_nodup hacc.mem
        (fun b => b.bid.toNat + m.charged b.id)
        (fun b => b.bidBy player price)
      simp only [liveSum, modifyAuction, hp.same.auctions, hp.charged]
      simp only [AuctionEntry.bidBy] at hsum ⊢
      omega
    have hsum := hp.sum
    have hg : (m'.modifyAuction a.id fun b => b.bidBy player price).goldSum = m'.goldSum := rfl
    have hm : (m'.modifyAuction a.id fun b => b.bidBy player price).mailSum = m'.mailSum := rfl
    simp only [total, hg, hm]
    omega

variable [LinearOrder P]

theorem goldSum_modifyMoney (player : P) (amount : Int32) :
    (m.modifyMoney player amount).goldSum + (m.gold player).toNat =
      m.goldSum + ((m.modifyMoney player amount).gold player).toNat := by
  have hupd := sum_update_add (Finset.mem_univ player) UInt32.toNat m.gold
    (Guilds.modifyMoney (m.gold player) amount).2
  have hself : ((m.modifyMoney player amount).gold player) =
      (Guilds.modifyMoney (m.gold player) amount).2 := Function.update_self _ _ _
  rw [hself]
  exact hupd

theorem modifyMoney_pay {player : P} {amount : UInt32} (hle : amount ≤ m.gold player)
    (hmax : m.gold player ≤ MAX_MONEY_AMOUNT) :
    (m.modifyMoney player (-amount.toInt32)).goldSum + amount.toNat = m.goldSum ∧
      ((m.modifyMoney player (-amount.toInt32)).gold player).toNat + amount.toNat =
        (m.gold player).toNat ∧
      ∀ p, (m.modifyMoney player (-amount.toInt32)).gold p ≤ m.gold p := by
  have hpay := toNat_pay hle hmax
  have hself : (m.modifyMoney player (-amount.toInt32)).gold player =
      (Guilds.modifyMoney (m.gold player) (-amount.toInt32)).2 := Function.update_self _ _ _
  have hsum := goldSum_modifyMoney (m := m) player (-amount.toInt32)
  rw [hself] at hsum ⊢
  refine ⟨by omega, hpay, modifyMoney_gold_le ?_⟩
  rw [UInt32.le_iff_toNat_le]
  omega

theorem pays_own {player : P} {amount price : UInt32} (h : m.Books) (ha : a ∈ m.auctions)
    (hle : amount ≤ m.gold player) (hbidder : ∀ bidder, a.bidder = some bidder → bidder = player)
    (hprice : amount.toNat + a.bid.toNat = price.toNat) :
    Pays m (m.payFor player a amount) player a price := by
  obtain ⟨hsum, hself, hgold⟩ := modifyMoney_pay hle (h.gold_le player)
  refine ⟨sameStores_payFor _ _ _, rfl, hgold, ?_, fun id hid => ?_, ?_, fun bidder hb hne => ?_⟩
  · have hpaid : (m.payFor player a amount).paid a.id =
        (if a.bidder = some player then m.paid a.id else 0) + ((m.gold player).toNat -
          ((m.modifyMoney player (-amount.toInt32)).gold player).toNat) :=
      Function.update_self _ _ _
    have hbid : (if a.bidder = some player then m.paid a.id else 0) = a.bid.toNat := by
      split
      · exact h.paid a ha
      · next hnot =>
        have hnone : a.bidder = none := by
          cases hb : a.bidder with
          | none => rfl
          | some bidder => exact absurd (hbidder bidder hb ▸ hb) hnot
        rw [(h.fair a ha).bid_none hnone]
        rfl
    rw [hpaid, hbid]
    omega
  · exact Function.update_of_ne hid _ _
  · have hg : (m.payFor player a amount).goldSum =
        (m.modifyMoney player (-amount.toInt32)).goldSum := rfl
    have hm : (m.payFor player a amount).mailSum = m.mailSum := rfl
    rw [hg, hm]
    omega
  · exact absurd (hbidder bidder hb) hne

theorem pays_other {player bidder : P} {price : UInt32} (h : m.Books)
    (hle : price ≤ m.gold player) (hb : a.bidder = some bidder) (hne : bidder ≠ player)
    (hm : SameStores m m') (hcharged : m'.charged = m.charged)
    (hgold : m'.gold = (m.payFor player a price).gold)
    (hpaid : m'.paid = (m.payFor player a price).paid)
    (hmails : m'.mails = m.mails ++ [⟨bidder, a.bid, none⟩]) : Pays m m' player a price := by
  obtain ⟨hsum, hself, hle'⟩ := modifyMoney_pay hle (h.gold_le player)
  refine ⟨hm, hcharged, fun p => hgold ▸ hle' p, ?_, fun id hid => ?_, ?_, fun b hb' _ => ?_⟩
  · have hown : ¬ a.bidder = some player := by
      rw [hb]
      exact fun heq => hne (Option.some.inj heq)
    have hpaid' : (m.payFor player a price).paid a.id =
        (if a.bidder = some player then m.paid a.id else 0) + ((m.gold player).toNat -
          ((m.modifyMoney player (-price.toInt32)).gold player).toNat) :=
      Function.update_self _ _ _
    rw [hpaid, hpaid', if_neg hown]
    omega
  · rw [hpaid]
    exact Function.update_of_ne hid _ _
  · have hg : m'.goldSum = (m.modifyMoney player (-price.toInt32)).goldSum := by
      simp only [goldSum, hgold]
      rfl
    have hmail : m'.mailSum = m.mailSum + a.bid.toNat := by
      simp [mailSum, hmails]
    rw [hg, hmail]
    omega
  · rw [hmails, ← Option.some.inj (hb.symm.trans hb')]

theorem pays_payBid (h : m.Books) (hacc : ∀ p, env.accountExists p) {player : P} {price : UInt32}
    (hbid : m.BidAccepted player a price) : Pays m (m.payBid env player a price) player a price := by
  cases hb : a.bidder with
  | none =>
    rw [payBid, hb]
    refine pays_own h hbid.mem hbid.price_le (fun bidder hb' => by simp [hb] at hb') ?_
    rw [(h.fair a hbid.mem).bid_none hb]
    rfl
  | some bidder =>
    by_cases hown : bidder = player
    · simp only [payBid, hb, if_pos hown]
      have hlt := UInt32.lt_iff_toNat_lt.mp hbid.bid_lt
      have hsub := UInt32.toNat_sub_of_le _ _ (UInt32.le_of_lt hbid.bid_lt)
      have hle := UInt32.le_iff_toNat_le.mp hbid.price_le
      refine pays_own h hbid.mem (UInt32.le_iff_toNat_le.mpr (by omega)) ?_ (by omega)
      exact fun b hb' => (Option.some.inj (hb.symm.trans hb')) ▸ hown
    · simp only [payBid, hb, if_neg hown]
      have hback := mailsOnly_sendBidBack (m := m) hacc hb
      refine pays_other h hbid.price_le hb hown
        ((sameStores_sendBidBack a).trans (sameStores_payFor _ _ _)) hback.charged ?_ ?_ hback.mails
      · simp only [payFor, modifyMoney, sendAuctionOutbiddedMail, hback.gold]
      · simp only [payFor, modifyMoney, sendAuctionOutbiddedMail, hback.gold, hback.paid]

theorem pays_payBuyout (h : m.Books) (hacc : ∀ p, env.accountExists p) {player : P}
    (hmem : a ∈ m.auctions) (hlow : a.bid < a.buyout) (hle : a.buyout ≤ m.gold player) :
    Pays m (m.payBuyout env player a) player a a.buyout := by
  by_cases hown : a.bidder = some player
  · rw [payBuyout, if_pos hown]
    have hlt := UInt32.lt_iff_toNat_lt.mp hlow
    have hsub := UInt32.toNat_sub_of_le _ _ (UInt32.le_of_lt hlow)
    have hle' := UInt32.le_iff_toNat_le.mp hle
    refine pays_own h hmem (UInt32.le_iff_toNat_le.mpr (by omega)) ?_ (by omega)
    exact fun b hb => Option.some.inj (hb.symm.trans hown)
  · rw [payBuyout, if_neg hown]
    dsimp only
    cases hb : a.bidder with
    | none =>
      rw [if_neg (by simp)]
      refine pays_own h hmem hle (fun bidder hb' => by simp [hb] at hb') ?_
      rw [(h.fair a hmem).bid_none hb]
      rfl
    | some bidder =>
      have hne : bidder ≠ player := fun heq => hown (heq ▸ hb)
      have hback := mailsOnly_sendBidBack (m := m.payFor player a a.buyout) hacc hb
      rw [if_pos (by simp)]
      exact pays_other h hle hb hne
        ((sameStores_payFor _ _ _).trans (sameStores_sendBidBack a)) hback.charged hback.gold
        hback.paid hback.mails

theorem Books.placeBid (h : m.Books) (hacc : ∀ p, env.accountExists p) {player : P}
    {price : UInt32} (hbid : m.BidAccepted player a price)
    (hlow : price < a.buyout ∨ a.buyout = 0) :
    (m.placeBid env player a price).Books ∧ (m.placeBid env player a price).total = m.total ∧
      ∀ bidder, a.bidder = some bidder → bidder ≠ player →
        (m.placeBid env player a price).mails = m.mails ++ [⟨bidder, a.bid, none⟩] := by
  have hpays := pays_payBid h hacc hbid
  obtain ⟨hbooks, htotal⟩ := hpays.bid h hbid hlow
  exact ⟨hbooks, htotal, hpays.back⟩

theorem Books.buyout (h : m.Books) (hacc : ∀ p, env.accountExists p) {player : P}
    {price : UInt32} (hbid : m.BidAccepted player a price)
    (hlow : ¬ (price < a.buyout ∨ a.buyout = 0)) (hpending : ∀ p ∈ m.pending, a.id ∉ p.auctions)
    (hcovered : RefundCovered env m (a.bidBy player a.buyout)) :
    (m.buyout env player a).Books ∧ (m.buyout env player a).total ≤ m.total ∧
      ∀ bidder, a.bidder = some bidder → bidder ≠ player → ∃ new,
        (m.buyout env player a).mails = m.mails ++ new ∧
          ((new.filter fun mail => mail.receiver = bidder).map (·.money.toNat)).sum =
            a.bid.toNat := by
  rw [not_or, UInt32.not_lt] at hlow
  have hlt : a.bid < a.buyout := (h.fair a hbid.mem).bid_lt.resolve_left hlow.2
  have hpays := pays_payBuyout h hacc hbid.mem hlt (UInt32.le_trans hlow.1 hbid.price_le)
  have hclosed : Closed a m (m.buyout env player a) := closed_buyout player a
  -- the mails of the sale
  obtain ⟨new, hnew, hzero⟩ := mailsOnly_sale
    (m := (m.payBuyout env player a).sendAuctionSalePendingMail env (a.bidBy player a.buyout)) hacc
    (a.bidBy player a.buyout)
  have hsale := (mailsOnly_sendMail (m := m.payBuyout env player a) (hacc a.owner) 0 none).trans
    hnew
  replace hsale : MailsOnly (m.payBuyout env player a) (m.buyout env player a) _ :=
    ⟨hsale.gold, hsale.charged, hsale.paid, hsale.mails⟩
  have hprofit := hcovered.profit_le
  have hmail := hsale.mailSum
  have hlive := liveSum_closed h.sound.ids_nodup hbid.mem hclosed.auctions
    (hsale.charged.trans hpays.charged)
  have hsum := hpays.sum
  refine ⟨h.closed hbid.mem hpending hclosed (fun p => by rw [hsale.gold]; exact hpays.gold_le p)
    (fun id hid => by rw [hsale.paid]; exact hpays.paid_ne id hid), ?_, ?_⟩
  · simp only [List.map_append, List.map_cons, List.map_nil, List.sum_append, List.sum_cons,
      sum_of_money_zero hzero, List.sum_nil] at hmail
    have hzero' : (0 : UInt32).toNat = 0 := rfl
    simp only [total, goldSum, hsale.gold] at hsum ⊢
    simp only [AuctionEntry.bidBy] at hprofit hmail
    omega
  · intro bidder hb hne
    refine ⟨_, by rw [hsale.mails, hpays.back bidder hb hne, List.append_assoc], ?_⟩
    have howner : a.owner ≠ bidder := fun heq => (h.fair a hbid.mem).bidder_ne (heq ▸ hb)
    have hrest : ((new.filter fun mail => mail.receiver = bidder).map (·.money.toNat)).sum = 0 :=
      sum_of_money_zero fun mail hmem => hzero mail (List.mem_of_mem_filter hmem)
    simp [AuctionEntry.bidBy, howner, hrest]

/-! ## 7. Cancelling and selling -/

theorem Books.cancel (h : m.Books) (hacc : ∀ p, env.accountExists p) {player : P}
    {auctioneer : Option House} {auctionId : ℕ}
    (hcancel : m.cancelAccepted env player auctioneer auctionId = some a)
    (hpending : ∀ p ∈ m.pending, a.id ∉ p.auctions) :
    (m.handleAuctionRemoveItem env player auctioneer auctionId).Books ∧
      (m.handleAuctionRemoveItem env player auctioneer auctionId).total ≤ m.total ∧
      ∀ bidder, a.bidder = some bidder → ∃ new,
        (m.handleAuctionRemoveItem env player auctioneer auctionId).mails = m.mails ++ new ∧
          ((new.filter fun mail => mail.receiver = bidder).map (·.money.toNat)).sum =
            a.bid.toNat := by
  obtain ⟨hmem, howner, hcut⟩ := cancelAccepted_some hcancel
  have hclosed := closed_cancel hcancel
  cases hb : a.bidder with
  | none =>
    have hnew := cancel_noBidder hcancel hb
    have hlive := liveSum_closed h.sound.ids_nodup hmem hclosed.auctions hnew.charged
    have hmail := hnew.mailSum
    refine ⟨h.closed hmem hpending hclosed (fun p => by rw [hnew.gold]; exact UInt32.le_refl _)
      fun id _ => congrFun hnew.paid id, ?_, fun bidder hbidder => by simp at hbidder⟩
    simp only [List.map_cons, List.map_nil, List.sum_cons, List.sum_nil, UInt32.toNat_zero] at hmail
    simp only [total, goldSum, hnew.gold]
    omega
  | some bidder =>
    have hnew := cancel_bidder hacc hcancel hb
    obtain ⟨hsum, -, hgold⟩ := modifyMoney_pay (hcut (by simp [hb])) (h.gold_le player)
    have hlive := liveSum_closed h.sound.ids_nodup hmem hclosed.auctions hnew.charged
    have hmail := hnew.mailSum
    refine ⟨h.closed hmem hpending hclosed (fun p => by rw [hnew.gold]; exact hgold p)
      fun id _ => congrFun hnew.paid id, ?_, ?_⟩
    · have hm : (m.modifyMoney player (-(a.getAuctionCut env).toInt32)).mailSum = m.mailSum := rfl
      simp only [List.map_cons, List.map_nil, List.sum_cons, List.sum_nil, UInt32.toNat_zero,
        hm] at hmail
      simp only [total, goldSum, hnew.gold] at hsum ⊢
      omega
    · rintro b hb'
      obtain rfl := Option.some.inj hb'
      refine ⟨_, hnew.mails, ?_⟩
      have hne : player ≠ bidder := by
        rintro rfl
        exact (h.fair a hmem).bidder_ne (howner ▸ hb)
      simp [hne]

theorem Books.sellItem (h : m.Books) (env : Env P) (player : P)
    (auctioneer : Option (House × UInt32)) (items : List (ℕ × UInt32))
    (bid buyout etime : UInt32) (now : ℕ) :
    ∃ m', m.handleAuctionSellItem env player auctioneer items bid buyout etime now = some m' ∧
      m'.Books ∧ m'.total = m.total := by
  rcases h.sound.sellsTo env player auctioneer items bid buyout etime now with
    hm | ⟨sold, n, a, found, hput, hm⟩
  · exact ⟨m, hm, h, rfl⟩
  · obtain ⟨m₁, hm₁, hsound, -, -⟩ :=
      (h.sound.skipGuids hput.next_le).startAuction player hput.guid_lt hput.free hput.id hput.guid
    obtain ⟨htake, -⟩ := takeItems_inventory (m := m₁) player found
    have hstart : m₁.auctions = m.auctions ++ [a] ∧ m₁.gold = m.gold ∧ m₁.mails = m.mails ∧
        m₁.charged = Function.update m.charged a.id 0 ∧
        m₁.paid = Function.update m.paid a.id 0 := by
      have hadd : ({ m with nextItemGuid := n } : AuctionHouseMgr P).addAItem sold =
          some { m with nextItemGuid := n, aItems := m.aItems ++ [sold] } := by
        have hfree : ({ m with nextItemGuid := n } : AuctionHouseMgr P).getAItem sold.guid = none :=
          hput.free
        simp [addAItem, hfree]
      rw [startAuction, hadd] at hm₁
      obtain rfl := Option.some.inj hm₁
      exact ⟨rfl, rfl, rfl, rfl, rfl⟩
    obtain ⟨hauctions, hgold, hmails, hcharged, hpaid⟩ := hstart
    have hnew : ∀ b ∈ m.auctions, b.id ≠ a.id := by
      intro b hb heq
      have := h.sound.id_lt b.id (List.mem_map_of_mem hb)
      rw [heq, hput.id] at this
      exact lt_irrefl _ this
    have hbid : a.bid.toNat = 0 := by
      rw [hput.bid]
      rfl
    refine ⟨_, by rw [hm, hm₁]; rfl, ?_, ?_⟩
    · have hsound' := hsound.takeItems player found
      change (m₁.takeItems player found).Books
      rw [htake] at hsound' ⊢
      refine ⟨hsound', fun p => by rw [hgold]; exact h.gold_le p, ?_, ?_⟩
      · intro b hb
        rw [hauctions] at hb
        rcases List.mem_append.mp hb with hb | hb
        · exact h.fair b hb
        · rw [List.mem_singleton.mp hb]
          refine ⟨?_, fun _ => hput.bid, by simp [hput.bidder]⟩
          by_cases hbuyout : a.buyout = 0
          · exact Or.inl hbuyout
          · exact Or.inr (hput.bid ▸ UInt32.pos_iff_ne_zero.mpr hbuyout)
      · intro b hb
        rw [hauctions] at hb
        simp only [hpaid]
        rcases List.mem_append.mp hb with hb | hb
        · rw [Function.update_of_ne (hnew b hb)]
          exact h.paid b hb
        · rw [List.mem_singleton.mp hb, Function.update_self, hbid]
    · change (m₁.takeItems player found).total = m.total
      rw [htake]
      have hlive : m₁.liveSum = m.liveSum := by
        have hold : (m.auctions.map fun b => b.bid.toNat + Function.update m.charged a.id 0 b.id) =
            m.auctions.map fun b => b.bid.toNat + m.charged b.id :=
          List.map_congr_left fun b hb => by rw [Function.update_of_ne (hnew b hb)]
        simp [liveSum, hauctions, hcharged, hold, hbid]
      have htotal : m₁.total = m.total := by
        simp only [total, goldSum, mailSum, hgold, hmails, hlive]
      exact htotal

/-! ## 8. Pending deposits -/

theorem Books.pendingAuctionProcess (h : m.Books) {p : PendingAuctions P}
    (hp : ∀ id ∈ p.auctions, id ∈ m.ids) (hne : p.auctions ≠ [])
    (hfits : (m.chargeFor env p).toNat < 2 ^ 31) :
    ∃ m', m.pendingAuctionProcess env p = some m' ∧ SameBids m m' ∧
      (∀ q, m'.gold q ≤ m.gold q) ∧ m'.total ≤ m.total := by
  obtain ⟨first, entries, hl, -⟩ := exists_pending_deref hp hne
  have hcharge : m.chargeFor env p = m.totalDeposit env first (first :: entries) := by
    rw [chargeFor, hl]
  rw [hcharge] at hfits
  refine ⟨_, by simp only [AuctionHouseMgr.pendingAuctionProcess, hl]; rfl, ?_⟩
  -- the charge, then the shares
  let m₁ := m.modifyMoney p.player (-(m.totalDeposit env first (first :: entries)).toInt32)
  have hsame : SameStores m m₁ := sameStores_modifyMoney _ _
  have hgold : ∀ q, m₁.gold q ≤ m.gold q := modifyMoney_gold_le (charge_le hfits)
  have hmoney : m₁.goldSum + (m.gold p.player).toNat = m.goldSum + (m₁.gold p.player).toNat :=
    goldSum_modifyMoney _ _
  have hrows : ∀ share ∈ depositShares (m.totalDeposit env first (first :: entries))
      p.auctions.length (m.totalDeposit env first (first :: entries)) p.auctions,
      share.1 ∈ m₁.rows := by
    intro share hshare
    rw [hsame.rows, h.sound.rows_eq, List.mem_toFinset]
    exact hp _ (mem_depositShares hshare)
  obtain ⟨hbids, hlive, hg, hm⟩ := writeShares_sound (m := m₁) _
    ((m.gold p.player).toNat - (m₁.gold p.player).toNat) (h.sound.sameAuctions hsame.sameAuctions)
    hrows
  have herase : ∀ m₂ : AuctionHouseMgr P, SameBids m₂ (m₂.erasePending p.player) :=
    fun m₂ => ⟨sameAuctions_erasePending _, rfl, rfl⟩
  have hle := UInt32.le_iff_toNat_le.mp (hgold p.player)
  have htotal : ∀ r : AuctionHouseMgr P × ℕ, r.1.gold = m₁.gold → r.1.mails = m₁.mails →
      r.1.liveSum + r.2 ≤ m₁.liveSum + ((m.gold p.player).toNat - (m₁.gold p.player).toNat) →
      (r.1.erasePending p.player).total ≤ m.total := by
    intro r hg hm hlive
    have hl₁ : m₁.liveSum = m.liveSum := rfl
    have hl : (r.1.erasePending p.player).liveSum = r.1.liveSum := rfl
    have hmail : (r.1.erasePending p.player).mailSum = m.mailSum := by
      simp only [mailSum, erasePending, hm]
      rfl
    have hgs : (r.1.erasePending p.player).goldSum = m₁.goldSum := by
      simp only [goldSum, erasePending, hg]
    simp only [total, hmail, hgs, hl]
    omega
  refine ⟨((hsame.sameBids rfl).trans hbids).trans (herase _), fun q => ?_, htotal _ hg hm hlive⟩
  exact (congrFun hg q) ▸ hgold q

theorem Books.updatePending (h : m.Books) (env : Env P) (online : P → Bool) (now : ℕ)
    {p : PendingAuctions P}
    (hp : ∀ id ∈ p.auctions, id ∈ m.ids) (hne : p.auctions ≠ [])
    (hfits : online p.player → UInt32.ofNat p.auctions.length = p.count →
      (m.chargeFor env p).toNat < 2 ^ 31) :
    ∃ m', m.updatePending env online now p = some m' ∧ SameBids m m' ∧
      (∀ q, m'.gold q ≤ m.gold q) ∧ m'.total ≤ m.total := by
  unfold AuctionHouseMgr.updatePending
  split
  · next honline =>
    split
    · next hcount => exact h.pendingAuctionProcess hp hne (hfits honline hcount)
    · refine ⟨_, rfl, ⟨⟨rfl, rfl, rfl, fun q hq => ?_, rfl, rfl, rfl, rfl⟩, rfl, rfl⟩,
        fun q => UInt32.le_refl _, le_refl _⟩
      obtain ⟨r, hr, rfl⟩ := List.mem_map.mp hq
      refine ⟨r, hr, ?_⟩
      split <;> rfl
  · obtain ⟨first, entries, hl, hlive⟩ := exists_pending_deref hp hne
    refine ⟨_, by rw [hl]; rfl, ?_⟩
    obtain ⟨hbids, hsum, hgold, hmails⟩ := expireNow_sound (m := m) (first :: entries) now
      fun a ha => by
        rw [h.sound.rows_eq, List.mem_toFinset]
        exact List.mem_map_of_mem (hlive a ha)
    have htotal : ∀ m₁ : AuctionHouseMgr P, m₁.liveSum = m.liveSum → m₁.gold = m.gold →
        m₁.mails = m.mails → (m₁.erasePending p.player).total = m.total := by
      intro m₁ hsum hgold hmails
      have hl : (m₁.erasePending p.player).liveSum = m₁.liveSum := rfl
      simp only [total, hl, hsum]
      simp only [goldSum, mailSum, erasePending, hgold, hmails]
    refine ⟨hbids.trans ⟨sameAuctions_erasePending _, rfl, rfl⟩, fun q => ?_,
      (htotal _ hsum hgold hmails).le⟩
    exact (congrFun hgold q) ▸ UInt32.le_refl _

theorem Books.updatePendingAuctions (h : m.Books) (online : P → Bool) (now : ℕ)
    (hfits : ∀ p ∈ m.pending, online p.player → UInt32.ofNat p.auctions.length = p.count →
      (m.chargeFor env p).toNat < 2 ^ 31) :
    ∃ m', m.updatePendingAuctions env online now = some m' ∧ m'.Books ∧ m'.total ≤ m.total := by
  obtain ⟨m', hm', hbids, hgold, htotal⟩ : ∃ m', m.updatePendingAuctions env online now = some m' ∧
      SameBids m m' ∧ (∀ q, m'.gold q ≤ m.gold q) ∧ m'.total ≤ m.total := by
    refine exists_foldlM_eq_some (I := fun m₁ => SameBids m m₁ ∧ (∀ q, m₁.gold q ≤ m.gold q) ∧
      m₁.total ≤ m.total) ⟨(SameStores.refl m).sameBids rfl, fun q => UInt32.le_refl _, le_refl _⟩
      fun p hp m₁ ⟨hb₁, hg₁, ht₁⟩ => ?_
    have hlive := h.sound.pending_live p hp
    have hne := h.sound.pending_ne p hp
    have hcharge := hb₁.chargeFor env hlive hne
    obtain ⟨m₂, hm₂, hb₂, hg₂, ht₂⟩ := (h.sameBids hb₁ hg₁).updatePending env online now
      (p := p) (by rw [hb₁.same.ids]; exact hlive) hne
      fun honline hcount => hcharge ▸ hfits p hp honline hcount
    exact ⟨m₂, hm₂, hb₁.trans hb₂, fun q => UInt32.le_trans (hg₂ q) (hg₁ q), ht₂.trans ht₁⟩
  exact ⟨m', hm', h.sameBids hbids hgold, htotal⟩

/-! ## 9. Runs -/

/-- The bid that an event gives back, with its auction and its bidder: he is outbid by another
player, or the auction is cancelled. -/
def givenBack (env : Env P) (m : AuctionHouseMgr P) : Event P → Option (AuctionEntry P × P)
  | .placeBid player auctioneer auctionId price sameAccount => do
    let auction ← m.bidAccepted env player auctioneer auctionId price sameAccount
    let bidder ← auction.bidder
    if bidder = player then none else some (auction, bidder)
  | .removeItem player auctioneer auctionId => do
    let auction ← m.cancelAccepted env player auctioneer auctionId
    let bidder ← auction.bidder
    some (auction, bidder)
  | _ => none

/-- The event leaves no more gold than there was, and who is outbid or cancelled is sent what he has
paid. -/
def CreatesNoGold (env : Env P) (st : Option (AuctionHouseMgr P)) (e : Event P) : Prop :=
  ∃ m m', st = some m ∧ step env st e = some m' ∧ m'.total ≤ m.total ∧
    ∀ a bidder, m.givenBack env e = some (a, bidder) → ∃ new, m'.mails = m.mails ++ new ∧
      ((new.filter fun mail => mail.receiver = bidder).map (·.money.toNat)).sum = m.paid a.id

/-- Every deposit that a sale pays out has been charged, and every charge is less than `2^31`. -/
def Covered (env : Env P) (st : Option (AuctionHouseMgr P)) (e : Event P) : Prop :=
  match st with
  | none => True
  | some m =>
    match e with
    | .placeBid player auctioneer auctionId price sameAccount =>
      ∀ a ∈ m.bidAccepted env player auctioneer auctionId price sameAccount,
        ¬ (price < a.buyout ∨ a.buyout = 0) → RefundCovered env m (a.bidBy player a.buyout)
    | .update curTime =>
      ∀ a ∈ m.auctions, a.expireTime ≤ curTime + 60 → ¬ (a.bidder = none ∧ a.bid = 0) →
        RefundCovered env m a
    | .updatePendingAuctions online _ =>
      ∀ p ∈ m.pending, online p.player → UInt32.ofNat p.auctions.length = p.count →
        (m.chargeFor env p).toNat < 2 ^ 31
    | _ => True

instance (st : Option (AuctionHouseMgr P)) (e : Event P) : Decidable (Covered env st e) := by
  unfold Covered
  cases st <;> cases e <;> dsimp only <;> infer_instance

theorem Books.step (h : m.Books) (hacc : ∀ p, env.accountExists p) {e : Event P}
    (hends : EndsProcessed env (some m) e) (hcovered : Covered env (some m) e) :
    (∃ m', AuctionHouseMgr.step env (some m) e = some m' ∧ m'.Books) ∧
      CreatesNoGold env (some m) e := by
  replace hends : ∀ id ∈ m.ending env e, ∀ p ∈ m.pending, id ∉ p.auctions := hends
  have hsame : ∀ m', AuctionHouseMgr.step env (some m) e = some m' → m'.Books →
      m'.total ≤ m.total → m.givenBack env e = none →
      (∃ m', AuctionHouseMgr.step env (some m) e = some m' ∧ m'.Books) ∧
        CreatesNoGold env (some m) e := fun m' hm' hbooks htotal hnone =>
    ⟨⟨m', hm', hbooks⟩, m, m', rfl, hm', htotal, fun a bidder hback => by simp [hnone] at hback⟩
  cases e with
  | sellItem player auctioneer items bid buyout etime now =>
    obtain ⟨m', hm', hbooks, htotal⟩ :=
      h.sellItem env player auctioneer items bid buyout etime now
    exact hsame m' hm' hbooks htotal.le rfl
  | placeBid player auctioneer auctionId price sameAccount =>
    cases hbid : m.bidAccepted env player auctioneer auctionId price sameAccount with
    | none =>
      refine hsame m ?_ h (le_refl _) (by simp [givenBack, hbid])
      simp [AuctionHouseMgr.step, handle, handleAuctionPlaceBid, hbid]
    | some a =>
      have haccepted := bidAccepted_some hbid
      have hback : ∀ b bidder, m.givenBack env (.placeBid player auctioneer auctionId price
          sameAccount) = some (b, bidder) → b = a ∧ a.bidder = some bidder ∧ bidder ≠ player := by
        intro b bidder hb
        cases hbidder : a.bidder with
        | none => simp [givenBack, hbid, hbidder] at hb
        | some c =>
          by_cases hc : c = player
          · simp [givenBack, hbid, hbidder, hc] at hb
          · simp only [givenBack, hbid, hbidder, Option.bind_eq_bind, Option.bind_some, if_neg hc,
              Option.some.injEq, Prod.mk.injEq] at hb
            exact ⟨hb.1.symm, congrArg some hb.2, hb.2 ▸ hc⟩
      by_cases hlow : price < a.buyout ∨ a.buyout = 0
      · have hstep : AuctionHouseMgr.step env (some m) (.placeBid player auctioneer auctionId price
            sameAccount) = some (m.placeBid env player a price) := by
          simp [AuctionHouseMgr.step, handle, handleAuctionPlaceBid, hbid, hlow]
        obtain ⟨hbooks, htotal, hmails⟩ := h.placeBid hacc haccepted hlow
        refine ⟨⟨_, hstep, hbooks⟩, m, _, rfl, hstep, htotal.le, fun b bidder hb => ?_⟩
        obtain ⟨rfl, hbidder, hne⟩ := hback b bidder hb
        refine ⟨_, hmails bidder hbidder hne, ?_⟩
        simp [h.paid b haccepted.mem]
      · have hstep : AuctionHouseMgr.step env (some m) (.placeBid player auctioneer auctionId price
            sameAccount) = some (m.buyout env player a) := by
          simp only [AuctionHouseMgr.step, handle, handleAuctionPlaceBid, hbid, Option.bind_some,
            if_neg hlow]
        have hpending : ∀ p ∈ m.pending, a.id ∉ p.auctions :=
          hends a.id (by simp only [ending, hbid, if_neg hlow, List.mem_singleton])
        obtain ⟨hbooks, htotal, hmails⟩ := h.buyout hacc haccepted hlow hpending
          (hcovered a hbid hlow)
        refine ⟨⟨_, hstep, hbooks⟩, m, _, rfl, hstep, htotal, fun b bidder hb => ?_⟩
        obtain ⟨rfl, hbidder, hne⟩ := hback b bidder hb
        rw [h.paid b haccepted.mem]
        exact hmails bidder hbidder hne
  | removeItem player auctioneer auctionId =>
    cases hcancel : m.cancelAccepted env player auctioneer auctionId with
    | none =>
      refine hsame m ?_ h (le_refl _) (by simp [givenBack, hcancel])
      simp [AuctionHouseMgr.step, handle, handleAuctionRemoveItem, hcancel]
    | some a =>
      have hpending : ∀ p ∈ m.pending, a.id ∉ p.auctions :=
        hends a.id (by simp [ending, hcancel])
      obtain ⟨hbooks, htotal, hmails⟩ := h.cancel hacc hcancel hpending
      refine ⟨⟨_, rfl, hbooks⟩, m, _, rfl, rfl, htotal, fun b bidder hb => ?_⟩
      obtain ⟨rfl, hbidder⟩ : b = a ∧ a.bidder = some bidder := by
        cases hbidder : a.bidder with
        | none => simp [givenBack, hcancel, hbidder] at hb
        | some c =>
          simp only [givenBack, hcancel, hbidder, Option.bind_eq_bind, Option.bind_some,
            Option.some.injEq, Prod.mk.injEq] at hb
          exact ⟨hb.1.symm, congrArg some hb.2⟩
      rw [h.paid b (cancelAccepted_some hcancel).mem]
      exact hmails bidder hbidder
  | updatePendingAuctions online now =>
    obtain ⟨m', hm', hbooks, htotal⟩ := h.updatePendingAuctions online now hcovered
    exact hsame m' hm' hbooks htotal rfl
  | update curTime =>
    have hdue : ∀ a ∈ m.auctions, a.expireTime ≤ curTime + 60 → ∀ p ∈ m.pending,
        a.id ∉ p.auctions := fun a ha htime =>
      hends a.id (List.mem_map_of_mem (List.mem_filter.mpr ⟨ha, by simpa using htime⟩))
    obtain ⟨hbooks, htotal⟩ := h.update hacc curTime hdue hcovered
    exact hsame _ rfl hbooks htotal rfl

end AuctionHouseMgr

open AuctionHouseMgr

variable {P : Type} [Fintype P] [LinearOrder P]

/-- **No step of a run creates gold**, and every bidder who is outbid or cancelled gets back what he
has paid, in every run in which no pending auction ends and every deposit that is paid out has been
charged. -/
theorem run_createsNoGold (env : Env P) (hacc : ∀ p, env.accountExists p) (t : Tables P)
    (hgold : ∀ p, t.gold p ≤ MAX_MONEY_AMOUNT) (hfair : ∀ r ∈ t.rows, Fair r.1)
    (evs : List (Event P))
    (hevs : Steps (step env) (fun st e => EndsProcessed env st e ∧ Covered env st e)
      (some t.load) evs) :
    Steps (step env) (CreatesNoGold env) (some t.load) evs := by
  refine Steps.of_inv (I := fun st => ∃ m, st = some m ∧ m.Books) ?_ ?_
    ⟨_, rfl, books_load t hgold hfair⟩ hevs
  · rintro _ e ⟨m, rfl, h⟩ ⟨hends, hcovered⟩
    exact (h.step hacc hends hcovered).1
  · rintro _ e ⟨m, rfl, h⟩ ⟨hends, hcovered⟩
    exact (h.step hacc hends hcovered).2

/-- An item is sold, its deposit is charged, a bid is placed, and the auction expires. -/
theorem charged_createsNoGold :
    Steps (step flatEnv) (CreatesNoGold flatEnv) (some oneItem.load)
      [sellIt, .updatePendingAuctions (fun _ => true) 0, .updatePendingAuctions (fun _ => true) 0,
        .placeBid false (some .neutral) 1 20 false, .update 50000] := by
  refine run_createsNoGold flatEnv (fun _ => rfl) oneItem (by decide +kernel) (by simp [oneItem]) _
    ⟨?_, ?_, ?_, ?_, ?_, trivial⟩ <;> decide +kernel

/-- **A buyout pays out a deposit that nobody has paid** if the seller has not been charged yet. -/
theorem unpaid_deposit :
    ¬ ∀ (env : Env Bool) (t : Tables Bool) (evs : List (Event Bool)),
      (∀ p, env.accountExists p) → (∀ p, t.gold p ≤ MAX_MONEY_AMOUNT) → t.rows = [] →
      Steps (step env) (CreatesNoGold env) (some t.load) evs := by
  intro h
  obtain ⟨-, ⟨m, m', hm, hm', htotal, -⟩, -⟩ :=
    h flatEnv oneItem [sellIt, .placeBid false (some .neutral) 1 500 false] (fun _ => rfl)
      (by decide +kernel) rfl
  have hbefore : some m.total = some 2000 := by
    rw [← Option.map_some, ← hm]
    decide +kernel
  have hafter : some m'.total = some 2100 := by
    rw [← Option.map_some, ← hm']
    decide +kernel
  have := Option.some.inj hbefore
  have := Option.some.inj hafter
  omega

end FunPvp.Auctions
