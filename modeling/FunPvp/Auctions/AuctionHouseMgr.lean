/-
# The auction houses

An auction takes its item out of the seller's inventory into `mAitems`, and its entry goes to one of
three houses and, by pointer, to the seller's list in `pendingAuctionMap`. The deposit of an entry
is only an estimate at first: half a second after the last sale `PendingAuctionProcess` charges the
seller for the whole list and writes the shares into the entries.

An entry is deleted when it is bought out, cancelled or expired. Nothing takes it off the pending
list, so the list may point to deleted entries; a manager that follows such a pointer is `none` here,
and so is one that fails an assertion. An entry stands for its pointer, and its id for both, since
no id is given out twice.

`charged` and `paid` are no data of the source: they record what the owner of an auction has been
charged for its deposit, and what its bidder has paid.
-/
import FunPvp.Guilds.BankMoney

namespace FunPvp.Auctions

open FunPvp.Guilds (MAX_MONEY_AMOUNT)

/-! ## 1. Items and auctions -/

def MAX_AUCTION_ITEMS : ℕ := 160

/-- `12*HOUR`. -/
def MIN_AUCTION_TIME : UInt32 := 43200

/-- What `HandleAuctionSellItem` reads of an item. It is `auctionable` if it can be traded, is no
bag with something in it, is not conjured and has no duration. -/
structure Item where
  guid : ℕ
  entry : UInt32
  count : UInt32
  maxStackCount : UInt32
  auctionable : Bool
deriving DecidableEq

/-- The three `AuctionHouseObject`s. -/
inductive House
  | horde
  | alliance
  | neutral
deriving DecidableEq

/-- `AuctionEntry`, with the house whose map it is in; `P` are the players. -/
structure AuctionEntry (P : Type) where
  id : ℕ
  house : House
  itemGUIDLow : ℕ
  itemCount : UInt32
  owner : P
  startbid : UInt32
  bid : UInt32
  buyout : UInt32
  expireTime : ℕ
  bidder : Option P
  deposit : UInt32
  etime : UInt32
  auctionHouseEntry : UInt32
deriving DecidableEq

/-- An entry of `pendingAuctionMap`: the auctions, and how many of them there were at the last
update. -/
structure PendingAuctions (P : Type) where
  player : P
  auctions : List ℕ
  count : UInt32
deriving DecidableEq

structure AuctionMail (P : Type) where
  receiver : P
  money : UInt32
  item : Option ℕ
deriving DecidableEq

/-- What the source computes in floating point from the rates, and which players have an account. -/
structure Env (P : Type) where
  getAuctionDeposit : UInt32 → UInt32 → Item → UInt32 → UInt32
  percentCut : UInt32 → UInt32 → Int32
  percentOutBid : UInt32 → UInt32
  auctionTime : UInt32 → UInt32
  accountExists : P → Bool

section

variable {P : Type} (env : Env P)

/-- `GetAuctionCut`: `std::max(cut, 0)`. -/
def AuctionEntry.getAuctionCut (a : AuctionEntry P) : UInt32 :=
  if env.percentCut a.auctionHouseEntry a.bid < 0 then 0
  else (env.percentCut a.auctionHouseEntry a.bid).toUInt32

def AuctionEntry.getAuctionOutBid (a : AuctionEntry P) : UInt32 :=
  if env.percentOutBid a.bid = 0 then 1 else env.percentOutBid a.bid

def AuctionEntry.bidBy (a : AuctionEntry P) (player : P) (price : UInt32) : AuctionEntry P :=
  { a with bidder := some player, bid := price }

end

/-! ## 2. The stores -/

/-- `AuctionHouseMgr`, the ids of the rows of `auctionhouse`, the players' items and gold, and the
mails. -/
structure AuctionHouseMgr (P : Type) where
  auctions : List (AuctionEntry P)
  aItems : List Item
  pending : List (PendingAuctions P)
  rows : Finset ℕ
  nextAuctionId : ℕ
  nextItemGuid : ℕ
  inventory : P → List Item
  gold : P → UInt32
  mails : List (AuctionMail P)
  charged : ℕ → ℕ
  paid : ℕ → ℕ

namespace AuctionHouseMgr

variable {P : Type} [LinearOrder P] (env : Env P)

/-- The auction an entry on a pending list points to, if it has not been deleted. -/
def deref (m : AuctionHouseMgr P) (id : ℕ) : Option (AuctionEntry P) :=
  m.auctions.find? fun a => a.id = id

def getAuction (m : AuctionHouseMgr P) (house : House) (id : ℕ) : Option (AuctionEntry P) :=
  m.auctions.find? fun a => a.house = house ∧ a.id = id

def modifyAuction (m : AuctionHouseMgr P) (id : ℕ) (f : AuctionEntry P → AuctionEntry P) :
    AuctionHouseMgr P :=
  { m with auctions := m.auctions.map fun a => if a.id = id then f a else a }

def getAItem (m : AuctionHouseMgr P) (guid : ℕ) : Option Item :=
  m.aItems.find? fun i => i.guid = guid

def addAItem (m : AuctionHouseMgr P) (item : Item) : Option (AuctionHouseMgr P) :=
  if (m.getAItem item.guid).isNone then some { m with aItems := m.aItems ++ [item] } else none

def removeAItem (m : AuctionHouseMgr P) (guid : ℕ) : AuctionHouseMgr P :=
  { m with aItems := m.aItems.filter fun i => ¬ i.guid = guid }

def saveToDB (m : AuctionHouseMgr P) (id : ℕ) : AuctionHouseMgr P :=
  { m with rows := insert id m.rows }

def deleteFromDB (m : AuctionHouseMgr P) (id : ℕ) : AuctionHouseMgr P :=
  { m with rows := m.rows.erase id }

/-- `AddAuction`; the id is the highest so far. -/
def addAuction (m : AuctionHouseMgr P) (a : AuctionEntry P) : AuctionHouseMgr P :=
  { m with auctions := m.auctions ++ [a] }

/-- `RemoveAuction`, which deletes the entry. -/
def removeAuction (m : AuctionHouseMgr P) (id : ℕ) : AuctionHouseMgr P :=
  { m with auctions := m.auctions.filter fun a => ¬ a.id = id }

def modifyMoney (m : AuctionHouseMgr P) (player : P) (amount : Int32) : AuctionHouseMgr P :=
  { m with gold := Function.update m.gold player (Guilds.modifyMoney (m.gold player) amount).2 }

def sendMail (m : AuctionHouseMgr P) (receiver : P) (money : UInt32) (item : Option ℕ) :
    AuctionHouseMgr P :=
  if env.accountExists receiver then { m with mails := m.mails ++ [⟨receiver, money, item⟩] } else m

/-! ## 3. The mails -/

def sendItem (m : AuctionHouseMgr P) (receiver : Option P) (guid : ℕ) : AuctionHouseMgr P :=
  if (m.getAItem guid).isNone then m
  else
    match receiver with
    | none => m.removeAItem guid
    | some receiver =>
      if env.accountExists receiver then m.sendMail env receiver 0 (some guid)
      else m.removeAItem guid

def sendAuctionWonMail (m : AuctionHouseMgr P) (a : AuctionEntry P) : AuctionHouseMgr P :=
  m.sendItem env a.bidder a.itemGUIDLow

def sendAuctionExpiredMail (m : AuctionHouseMgr P) (a : AuctionEntry P) : AuctionHouseMgr P :=
  m.sendItem env (some a.owner) a.itemGUIDLow

def sendAuctionSalePendingMail (m : AuctionHouseMgr P) (a : AuctionEntry P) : AuctionHouseMgr P :=
  m.sendMail env a.owner 0 none

def sendAuctionSuccessfulMail (m : AuctionHouseMgr P) (a : AuctionEntry P) : AuctionHouseMgr P :=
  m.sendMail env a.owner (a.bid + a.deposit - a.getAuctionCut env) none

def sendBidBack (m : AuctionHouseMgr P) (a : AuctionEntry P) : AuctionHouseMgr P :=
  match a.bidder with
  | none => m
  | some bidder => m.sendMail env bidder a.bid none

def sendAuctionOutbiddedMail (m : AuctionHouseMgr P) (a : AuctionEntry P) : AuctionHouseMgr P :=
  m.sendBidBack env a

def sendAuctionCancelledToBidderMail (m : AuctionHouseMgr P) (a : AuctionEntry P) :
    AuctionHouseMgr P :=
  m.sendBidBack env a

/-! ## 4. Selling -/

def pendingAuctionAdd (m : AuctionHouseMgr P) (player : P) (id : ℕ) : AuctionHouseMgr P :=
  { m with
    pending :=
      if m.pending.any fun p => p.player = player then
        m.pending.map fun p =>
          if p.player = player then { p with auctions := p.auctions ++ [id] } else p
      else
        (m.pending.takeWhile fun p => p.player < player) ++ [⟨player, [id], 0⟩] ++
          m.pending.dropWhile fun p => p.player < player }

/-- The items a player asks to sell, with their counts; `none` if one of them is refused. -/
def selectItems (m : AuctionHouseMgr P) (player : P) (items : List (ℕ × UInt32)) :
    Option (List (Item × UInt32)) := do
  let found ← items.mapM fun i =>
    ((m.inventory player).find? fun item => item.guid = i.1).map fun item => (item, i.2)
  if found.all fun i => (m.getAItem i.1.guid).isNone && i.1.auctionable && i.2 ≤ i.1.count &&
      (found.head?.map (·.1.entry)) == some i.1.entry
  then some found else none

/-- The items that are sold as a whole leave the inventory, the others lose their count. -/
def takeItems (m : AuctionHouseMgr P) (player : P) (found : List (Item × UInt32)) :
    AuctionHouseMgr P :=
  found.foldl (fun m i =>
    { m with
      inventory := Function.update m.inventory player <|
        if i.1.count = i.2 then (m.inventory player).filter fun item => ¬ item.guid = i.1.guid
        else (m.inventory player).map fun item =>
          if item.guid = i.1.guid then { item with count := item.count - i.2 } else item }) m

def startAuction (m : AuctionHouseMgr P) (player : P) (item : Item) (a : AuctionEntry P) :
    Option (AuctionHouseMgr P) :=
  (m.addAItem item).map fun m =>
    let m := ((m.addAuction a).pendingAuctionAdd player a.id).saveToDB a.id
    { m with
      nextAuctionId := m.nextAuctionId + 1
      charged := Function.update m.charged a.id 0
      paid := Function.update m.paid a.id 0 }

/-- `HandleAuctionSellItem`. `auctioneer` gives the house and its entry, if the creature is an
auctioneer the player can interact with. -/
def handleAuctionSellItem (m : AuctionHouseMgr P) (player : P) (auctioneer : Option (House × UInt32))
    (items : List (ℕ × UInt32)) (bid buyout etime : UInt32) (now : ℕ) :
    Option (AuctionHouseMgr P) :=
  if items.length > MAX_AUCTION_ITEMS then some m
  else if items.any fun i => i.1 = 0 ∨ i.2 = 0 ∨ i.2 > 1000 then some m
  else if bid = 0 ∨ etime = 0 then some m
  else if bid > MAX_MONEY_AMOUNT ∨ buyout > MAX_MONEY_AMOUNT then some m
  else
    match auctioneer with
    | none => some m
    | some (house, houseEntry) =>
      let etime := etime * 60
      if ¬ (etime = MIN_AUCTION_TIME ∨ etime = 2 * MIN_AUCTION_TIME ∨
          etime = 4 * MIN_AUCTION_TIME) then some m
      else
        match m.selectItems player items with
        | none => some m
        | some [] => some m
        | some ((item, count) :: found) =>
          let finalCount := (items.map (·.2)).sum
          if finalCount = 0 then some m
          else if ¬ (items.map (·.1)).Nodup then some m
          else if ((item, count) :: found).any fun i => i.1.maxStackCount < finalCount then some m
          else
            let deposit := env.getAuctionDeposit houseEntry etime item finalCount
            if m.gold player < deposit then some m
            else
              let sold : Item :=
                if found = [] ∧ item.count = count then item
                else { item with guid := m.nextItemGuid, count := finalCount }
              let m' := { m with
                nextItemGuid :=
                  if found = [] ∧ item.count = count then m.nextItemGuid else m.nextItemGuid + 1 }
              (m'.startAuction player sold
                { id := m.nextAuctionId
                  house := house
                  itemGUIDLow := sold.guid
                  itemCount := sold.count
                  owner := player
                  startbid := bid
                  bid := 0
                  buyout := buyout
                  expireTime := now + (env.auctionTime etime).toNat
                  bidder := none
                  deposit := deposit
                  etime := etime
                  auctionHouseEntry := houseEntry }).map
                fun m => m.takeItems player ((item, count) :: found)

/-! ## 5. Bidding, buying out and cancelling -/

/-- The end of an auction: `DeleteFromDB`, `RemoveAItem` and `RemoveAuction`. -/
def closeAuction (m : AuctionHouseMgr P) (a : AuctionEntry P) : AuctionHouseMgr P :=
  ((m.deleteFromDB a.id).removeAItem a.itemGUIDLow).removeAuction a.id

/-- The checks of `HandleAuctionPlaceBid`: the auction, if the bid is accepted. `sameAccount` says
that the owner is offline and of the player's account. -/
def bidAccepted (m : AuctionHouseMgr P) (player : P) (auctioneer : Option House) (auctionId : ℕ)
    (price : UInt32) (sameAccount : Bool) : Option (AuctionEntry P) :=
  if auctionId = 0 ∨ price = 0 then none
  else do
    let house ← auctioneer
    let auction ← m.getAuction house auctionId
    if auction.owner = player ∨ sameAccount then none
    else if price ≤ auction.bid ∨ price < auction.startbid then none
    else if (price < auction.buyout ∨ auction.buyout = 0) ∧
        price < auction.bid + auction.getAuctionOutBid env then none
    else if m.gold player < price then none
    else some auction

/-- The gold that leaves the player is recorded as paid for the auction, in addition to his bid
before. -/
def payFor (m : AuctionHouseMgr P) (player : P) (a : AuctionEntry P) (amount : UInt32) :
    AuctionHouseMgr P :=
  let m' := m.modifyMoney player (-amount.toInt32)
  { m' with
    paid := Function.update m.paid a.id <|
      (if a.bidder = some player then m.paid a.id else 0) +
        ((m.gold player).toNat - (m'.gold player).toNat) }

/-- The payment for a bid; the bidder before gets his bid back. -/
def payBid (m : AuctionHouseMgr P) (player : P) (auction : AuctionEntry P) (price : UInt32) :
    AuctionHouseMgr P :=
  match auction.bidder with
  | none => m.payFor player auction price
  | some bidder =>
    if bidder = player then m.payFor player auction (price - auction.bid)
    else (m.sendAuctionOutbiddedMail env auction).payFor player auction price

def placeBid (m : AuctionHouseMgr P) (player : P) (auction : AuctionEntry P) (price : UInt32) :
    AuctionHouseMgr P :=
  (m.payBid env player auction price).modifyAuction auction.id fun a => a.bidBy player price

def payBuyout (m : AuctionHouseMgr P) (player : P) (auction : AuctionEntry P) :
    AuctionHouseMgr P :=
  if auction.bidder = some player then m.payFor player auction (auction.buyout - auction.bid)
  else
    let m := m.payFor player auction auction.buyout
    if auction.bidder.isSome then m.sendAuctionOutbiddedMail env auction else m

/-- What follows the payment of a buyout: the mails, and the end of the auction. -/
def sell (m : AuctionHouseMgr P) (auction : AuctionEntry P) : AuctionHouseMgr P :=
  (((m.sendAuctionSalePendingMail env auction).sendAuctionSuccessfulMail env auction
    ).sendAuctionWonMail env auction).closeAuction auction

/-- The buyout of `HandleAuctionPlaceBid`. -/
def buyout (m : AuctionHouseMgr P) (player : P) (auction : AuctionEntry P) : AuctionHouseMgr P :=
  (m.payBuyout env player auction).sell env (auction.bidBy player auction.buyout)

def handleAuctionPlaceBid (m : AuctionHouseMgr P) (player : P) (auctioneer : Option House)
    (auctionId : ℕ) (price : UInt32) (sameAccount : Bool) : AuctionHouseMgr P :=
  match m.bidAccepted env player auctioneer auctionId price sameAccount with
  | none => m
  | some auction =>
    if price < auction.buyout ∨ auction.buyout = 0 then m.placeBid env player auction price
    else m.buyout env player auction

/-- The checks of `HandleAuctionRemoveItem`: the auction, if it can be cancelled. -/
def cancelAccepted (m : AuctionHouseMgr P) (player : P) (auctioneer : Option House)
    (auctionId : ℕ) : Option (AuctionEntry P) := do
  let house ← auctioneer
  let auction ← m.getAuction house auctionId
  if ¬ auction.owner = player then none
  else if (m.getAItem auction.itemGUIDLow).isNone then none
  else if auction.bidder.isSome ∧ m.gold player < auction.getAuctionCut env then none
  else some auction

def handleAuctionRemoveItem (m : AuctionHouseMgr P) (player : P) (auctioneer : Option House)
    (auctionId : ℕ) : AuctionHouseMgr P :=
  match m.cancelAccepted env player auctioneer auctionId with
  | none => m
  | some auction =>
    let m :=
      if auction.bidder.isSome then
        (m.sendAuctionCancelledToBidderMail env auction).modifyMoney player
          (-(auction.getAuctionCut env).toInt32)
      else m
    let m : AuctionHouseMgr P :=
      { m with mails := m.mails ++ [⟨player, 0, some auction.itemGUIDLow⟩] }
    m.closeAuction auction

/-! ## 6. Expiry and the pending auctions -/

/-- The body of the loop of `AuctionHouseObject::Update`, for an auction that expires. -/
def expire (m : AuctionHouseMgr P) (auction : AuctionEntry P) : AuctionHouseMgr P :=
  (if auction.bidder = none ∧ auction.bid = 0 then m.sendAuctionExpiredMail env auction
    else (m.sendAuctionSuccessfulMail env auction).sendAuctionWonMail env auction).closeAuction
    auction

def expiring (m : AuctionHouseMgr P) (house : House) (curTime : ℕ) : List (AuctionEntry P) :=
  m.auctions.filter fun a => a.house = house ∧ ¬ a.expireTime > curTime + 60

def updateHouse (m : AuctionHouseMgr P) (house : House) (curTime : ℕ) : AuctionHouseMgr P :=
  (m.expiring house curTime).foldl (expire env) m

def update (m : AuctionHouseMgr P) (curTime : ℕ) : AuctionHouseMgr P :=
  ((m.updateHouse env .horde curTime).updateHouse env .alliance curTime).updateHouse env .neutral
    curTime

/-- The loop that writes the deposits: the last auction gets what remains. -/
def depositShares (totaldeposit : UInt32) (size : ℕ) : UInt32 → List ℕ → List (ℕ × UInt32)
  | _, [] => []
  | depositremain, [id] => [(id, depositremain)]
  | depositremain, id :: ids =>
    let share := UInt32.ofNat (totaldeposit.toNat / size)
    (id, share) :: depositShares totaldeposit size (depositremain - share) ids

/-- The share of one auction is written, and its row replaced; `rest` is what the player has paid
and is not accounted for yet. -/
def writeShare (s : AuctionHouseMgr P × ℕ) (share : ℕ × UInt32) : AuctionHouseMgr P × ℕ :=
  let m := ((s.1.modifyAuction share.1 fun a => { a with deposit := share.2 }).deleteFromDB
    share.1).saveToDB share.1
  ({ m with charged := Function.update m.charged share.1 (min share.2.toNat s.2) },
    s.2 - share.2.toNat)

def erasePending (m : AuctionHouseMgr P) (player : P) : AuctionHouseMgr P :=
  { m with pending := m.pending.filter fun p => ¬ p.player = player }

/-- The deposit that `PendingAuctionProcess` charges for a list of entries. -/
def totalDeposit (m : AuctionHouseMgr P) (first : AuctionEntry P) (entries : List (AuctionEntry P)) :
    UInt32 :=
  match m.getAItem first.itemGUIDLow with
  | none => 0
  | some item =>
    env.getAuctionDeposit first.auctionHouseEntry first.etime item (entries.map (·.itemCount)).sum

def pendingAuctionProcess (m : AuctionHouseMgr P) (p : PendingAuctions P) :
    Option (AuctionHouseMgr P) :=
  match p.auctions.mapM m.deref with
  | none => none
  | some [] => none
  | some (first :: entries) =>
    let totaldeposit := m.totalDeposit env first (first :: entries)
    let m' := m.modifyMoney p.player (-totaldeposit.toInt32)
    let paid := (m.gold p.player).toNat - (m'.gold p.player).toNat
    some <|
      ((depositShares totaldeposit p.auctions.length totaldeposit p.auctions).foldl writeShare
        (m', paid)).1.erasePending p.player

/-- One round of the loop of `UpdatePendingAuctions`; `online` are the connected players. -/
def updatePending (online : P → Bool) (now : ℕ) (m : AuctionHouseMgr P) (p : PendingAuctions P) :
    Option (AuctionHouseMgr P) :=
  if online p.player then
    if UInt32.ofNat p.auctions.length = p.count then m.pendingAuctionProcess env p
    else
      some { m with
        pending := m.pending.map fun q =>
          if q.player = p.player then { q with count := UInt32.ofNat p.auctions.length } else q }
  else
    (p.auctions.mapM m.deref).map fun entries =>
      (entries.foldl (fun m a =>
        ((m.modifyAuction a.id fun a => { a with expireTime := now }).deleteFromDB a.id).saveToDB
          a.id) m).erasePending p.player

def updatePendingAuctions (m : AuctionHouseMgr P) (online : P → Bool) (now : ℕ) :
    Option (AuctionHouseMgr P) :=
  m.pending.foldlM (updatePending env online now) m

/-! ## 7. Steps -/

/-- The requests of the players and the two timers. -/
inductive Event (P : Type)
  | sellItem (player : P) (auctioneer : Option (House × UInt32)) (items : List (ℕ × UInt32))
      (bid buyout etime : UInt32) (now : ℕ)
  | placeBid (player : P) (auctioneer : Option House) (auctionId : ℕ) (price : UInt32)
      (sameAccount : Bool)
  | removeItem (player : P) (auctioneer : Option House) (auctionId : ℕ)
  | updatePendingAuctions (online : P → Bool) (now : ℕ)
  | update (curTime : ℕ)

def handle (m : AuctionHouseMgr P) : Event P → Option (AuctionHouseMgr P)
  | .sellItem player auctioneer items bid buyout etime now =>
    m.handleAuctionSellItem env player auctioneer items bid buyout etime now
  | .placeBid player auctioneer auctionId price sameAccount =>
    some (m.handleAuctionPlaceBid env player auctioneer auctionId price sameAccount)
  | .removeItem player auctioneer auctionId =>
    some (m.handleAuctionRemoveItem env player auctioneer auctionId)
  | .updatePendingAuctions online now => m.updatePendingAuctions env online now
  | .update curTime => some (m.update env curTime)

/-- One event; after a deleted entry has been followed nothing is said any more. -/
def step (st : Option (AuctionHouseMgr P)) (e : Event P) : Option (AuctionHouseMgr P) :=
  st.bind fun m => m.handle env e

end AuctionHouseMgr

end FunPvp.Auctions
