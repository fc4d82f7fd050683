/-
# The coins of the store

The coins of an account are a column of the login database. A purchase reads it twice, once to see
whether the player can pay and once to compute what is left, and has that number written later: the
update waits in a queue. A bonus code adds its coins in the database itself, at once.

An update in the queue holds a number, not a difference. Whatever happens to the coins before it is
executed, it undoes; and what a purchase reads meanwhile is spent already. `coinsKept_iff` says
exactly when the coins stay what the players are owed: no code is redeemed while an update waits,
and a purchase reads, the second time, what the updates in the queue will leave.
-/
import FunPvp.Lib.Run

namespace FunPvp.Store

open FunPvp.Lib

/-! ## 1. The code -/

/-- `StoreItem`: what a purchase reads of it. -/
structure StoreItem where
  m_itemEntry : UInt32
  m_price : UInt32

structure BonusCode where
  code : UInt32
  coin : UInt32

/-- The databases, as far as one account goes. `redeemed` and `spent` are what its players have
been told; `wrapped` is set when the new balance of a purchase wraps below zero. -/
structure Databases where
  /-- `account.coin`. -/
  coin : ℕ
  /-- The updates of `coin` that wait for the worker of the pool. -/
  queue : List UInt32
  bonus_code : List BonusCode
  redeemed : ℕ
  spent : ℕ
  wrapped : Bool

inductive PurchaseResult
  | ERROR
  | NOT_ENOUGH_COINS
  | NOT_ENOUGH_FREE_SLOTS
  | SUCCESS
  deriving DecidableEq

namespace Databases

def execute (db : Databases) : Databases :=
  match db.queue with
  | [] => db
  | newCoinsValue :: queue => { db with coin := newCoinsValue.toNat, queue := queue }

def getAccountCoins (db : Databases) : UInt32 := UInt32.ofNat db.coin

def setAccountCoins (db : Databases) (newCoinsValue : UInt32) : Databases :=
  { db with queue := db.queue ++ [newCoinsValue] }

/-- `PurchaseItem`, by a player who is there. `couldAddItem` is what `AddItem` returns; `executed`
updates leave the queue between the two reads. -/
def purchaseItem (m_items : List StoreItem) (itemEntry : UInt32) (couldAddItem : Bool)
    (executed : ℕ) (db : Databases) : PurchaseResult × Databases :=
  match m_items.find? (·.m_itemEntry = itemEntry) with
  | none => (.ERROR, db)
  | some it =>
    let price := it.m_price
    let coins := db.getAccountCoins
    if price > coins then (.NOT_ENOUGH_COINS, db)
    else if !couldAddItem then (.NOT_ENOUGH_FREE_SLOTS, db)
    else
      let db := execute^[executed] db
      let coins := db.getAccountCoins
      let db := db.setAccountCoins (coins - price)
      (.SUCCESS,
        { db with
          spent := db.spent + price.toNat
          wrapped := db.wrapped || coins < price })

/-- `BonusCode`. It asks only for the first row of the table. The items, the honor and the arena
points are left out. -/
def bonusCode (player_code : UInt32) (db : Databases) : Databases :=
  match db.bonus_code with
  | [] => db
  | fields :: _ =>
    if fields.code = player_code then
      let db :=
        if fields.coin > 0 then
          { db with
            coin := db.coin + fields.coin.toNat
            redeemed := db.redeemed + fields.coin.toNat }
        else db
      { db with bonus_code := db.bonus_code.filter (·.code ≠ fields.code) }
    else db

end Databases

/-- What happens, one thing at a time: an account has one session. -/
inductive Event
  | purchaseItem (itemEntry : UInt32) (couldAddItem : Bool) (executed : ℕ)
  | bonusCode (player_code : UInt32)
  | execute
  /-- Somebody writes the table of the codes. -/
  | newCodes (bonus_code : List BonusCode)

def step (m_items : List StoreItem) (db : Databases) : Event → Databases
  | .purchaseItem itemEntry couldAddItem executed =>
    (db.purchaseItem m_items itemEntry couldAddItem executed).2
  | .bonusCode player_code => db.bonusCode player_code
  | .execute => db.execute
  | .newCodes bonus_code => { db with bonus_code := bonus_code }

def Databases.start (coin : ℕ) (bonus_code : List BonusCode) : Databases :=
  ⟨coin, [], bonus_code, 0, 0, false⟩

/-! ## 2. What the coins are supposed to be -/

def Databases.settled (db : Databases) : ℕ := (Databases.execute^[db.queue.length] db).coin

/-- Once all updates are applied, the coins are what the account had, with all that was redeemed and
without all that was spent; no balance has wrapped. -/
def CoinsKept (initial : ℕ) (db : Databases) : Prop :=
  (db.settled : ℤ) = initial + db.redeemed - db.spent ∧ db.wrapped = false

def Databases.bought (m_items : List StoreItem) (itemEntry : UInt32) (couldAddItem : Bool)
    (db : Databases) : Option StoreItem :=
  (m_items.find? (·.m_itemEntry = itemEntry)).filter fun it =>
    it.m_price ≤ db.getAccountCoins && couldAddItem

def Databases.bonus (player_code : UInt32) (db : Databases) : ℕ :=
  match db.bonus_code with
  | [] => 0
  | fields :: _ => if fields.code = player_code then fields.coin.toNat else 0

/-- Nothing that waits in the queue interferes: a code with coins comes when the queue is empty, and
a purchase that goes through finds at its second read the balance that the queue leaves, and enough
of it. -/
def Undisturbed (m_items : List StoreItem) (db : Databases) : Event → Prop
  | .purchaseItem itemEntry couldAddItem executed =>
    ∀ it, db.bought m_items itemEntry couldAddItem = some it →
      (Databases.execute^[executed] db).getAccountCoins.toNat = db.settled ∧
        it.m_price ≤ (Databases.execute^[executed] db).getAccountCoins
  | .bonusCode player_code => db.queue = [] ∨ db.bonus player_code = 0
  | .execute | .newCodes _ => True

/-! ## 3. The queue -/

variable {db : Databases} {initial : ℕ} {m_items : List StoreItem}

theorem settled_of_nil (h : db.queue = []) : db.settled = db.coin := by
  unfold Databases.settled
  rw [h]
  rfl

theorem settled_execute (db : Databases) : db.execute.settled = db.settled := by
  unfold Databases.settled
  cases hqueue : db.queue with
  | nil =>
    have hexecute : db.execute = db := by
      unfold Databases.execute
      rw [hqueue]
    rw [hexecute, hqueue]
  | cons v queue =>
    have hlength : db.execute.queue.length = queue.length := by
      unfold Databases.execute
      rw [hqueue]
    rw [hlength, List.length_cons, Function.iterate_succ_apply]

theorem settled_of_concat {queue : List UInt32} {v : UInt32}
    (h : db.queue = queue ++ [v]) : db.settled = v.toNat := by
  induction queue generalizing db with
  | nil =>
    rw [← settled_execute]
    unfold Databases.execute
    rw [h]
    exact settled_of_nil rfl
  | cons w queue ih =>
    rw [← settled_execute]
    unfold Databases.execute
    rw [h]
    exact ih rfl

theorem execute_frame (db : Databases) : db.execute.redeemed = db.redeemed ∧
    db.execute.spent = db.spent ∧ db.execute.wrapped = db.wrapped := by
  unfold Databases.execute
  split <;> exact ⟨rfl, rfl, rfl⟩

theorem coinsKept_execute_iff (db : Databases) :
    CoinsKept initial db.execute ↔ CoinsKept initial db := by
  obtain ⟨hredeemed, hspent, hwrapped⟩ := execute_frame db
  unfold CoinsKept
  rw [settled_execute, hredeemed, hspent, hwrapped]

theorem coinsKept_iterate_iff (n : ℕ) (db : Databases) :
    CoinsKept initial (Databases.execute^[n] db) ↔ CoinsKept initial db := by
  induction n generalizing db with
  | zero => exact Iff.rfl
  | succ n ih => rw [Function.iterate_succ_apply, ih, coinsKept_execute_iff]

theorem settled_iterate (n : ℕ) (db : Databases) :
    (Databases.execute^[n] db).settled = db.settled := by
  induction n generalizing db with
  | zero => rfl
  | succ n ih => rw [Function.iterate_succ_apply, ih, settled_execute]

/-! ## 4. One step -/

/-- What a purchase writes. It is the balance without the price exactly if the balance it has read
is the one that the queue leaves, and covers the price. -/
theorem coinsKept_spend_iff (h : CoinsKept initial db) (price : UInt32) :
    CoinsKept initial
        (let db' := db.setAccountCoins (db.getAccountCoins - price)
        { db' with
          spent := db'.spent + price.toNat
          wrapped := db'.wrapped || db.getAccountCoins < price }) ↔
      db.getAccountCoins.toNat = db.settled ∧ price ≤ db.getAccountCoins := by
  obtain ⟨hsettled, hwrapped⟩ := h
  unfold CoinsKept
  rw [settled_of_concat (show _ = db.queue ++ [db.getAccountCoins - price] from rfl)]
  dsimp only [Databases.setAccountCoins]
  rw [hwrapped, Bool.false_or, decide_eq_false_iff_not, UInt32.not_lt]
  refine and_congr_left fun hle => ?_
  have hle' : price.toNat ≤ db.getAccountCoins.toNat := hle
  rw [UInt32.toNat_sub_of_le _ _ hle]
  omega

theorem coinsKept_purchaseItem_iff
    (h : CoinsKept initial db) (itemEntry : UInt32) (couldAddItem : Bool) (executed : ℕ) :
    CoinsKept initial (step m_items db (.purchaseItem itemEntry couldAddItem executed)) ↔
      Undisturbed m_items db (.purchaseItem itemEntry couldAddItem executed) := by
  unfold step Databases.purchaseItem Undisturbed Databases.bought
  cases hitem : m_items.find? fun it => it.m_itemEntry = itemEntry with
  | none =>
    dsimp only
    rw [hitem]
    simpa using h
  | some it =>
    dsimp only
    rw [hitem]
    dsimp only
    by_cases hprice : it.m_price > db.getAccountCoins
    · rw [if_pos hprice]
      have hle : ¬ it.m_price ≤ db.getAccountCoins := UInt32.not_le.mpr hprice
      simpa [hle] using h
    · rw [if_neg hprice]
      have hle : it.m_price ≤ db.getAccountCoins := UInt32.not_lt.mp hprice
      cases couldAddItem with
      | false => simpa using h
      | true =>
        have hspend := coinsKept_spend_iff ((coinsKept_iterate_iff executed db).mpr h) it.m_price
        rw [settled_iterate] at hspend
        simpa [hle] using hspend

theorem settled_add {db db' : Databases} {coin : ℕ} (hqueue : db'.queue = db.queue)
    (hcoin : db'.coin = db.coin + coin) :
    db'.settled = if db.queue = [] then db.settled + coin else db.settled := by
  rcases List.eq_nil_or_concat' db.queue with hnil | ⟨queue, v, hconcat⟩
  · rw [if_pos hnil, settled_of_nil hnil, settled_of_nil (hqueue.trans hnil), hcoin]
  · have hne : db.queue ≠ [] := by simp [hconcat]
    rw [if_neg hne, settled_of_concat hconcat, settled_of_concat (hqueue.trans hconcat)]

theorem coinsKept_codes (h : CoinsKept initial db)
    (codes : List BonusCode) : CoinsKept initial { db with bonus_code := codes } := by
  have hsettled : ({ db with bonus_code := codes } : Databases).settled = db.settled := by
    rcases List.eq_nil_or_concat' db.queue with hnil | ⟨queue, v, hconcat⟩
    · rw [settled_of_nil hnil, settled_of_nil (by exact hnil)]
    · rw [settled_of_concat hconcat, settled_of_concat (by exact hconcat)]
  unfold CoinsKept
  rw [hsettled]
  exact h

theorem coinsKept_redeem_iff {db db' : Databases} (h : CoinsKept initial db)
    {coin : ℕ} (hpos : 0 < coin) (hqueue : db'.queue = db.queue)
    (hcoin : db'.coin = db.coin + coin) (hredeemed : db'.redeemed = db.redeemed + coin)
    (hspent : db'.spent = db.spent) (hwrapped : db'.wrapped = db.wrapped) :
    CoinsKept initial db' ↔ db.queue = [] := by
  obtain ⟨hsettled, hnever⟩ := h
  unfold CoinsKept
  rw [settled_add hqueue hcoin, hredeemed, hspent, hwrapped, and_iff_left hnever]
  by_cases hnil : db.queue = []
  · rw [if_pos hnil]
    refine iff_of_true ?_ hnil
    push_cast
    omega
  · rw [if_neg hnil]
    refine iff_of_false (fun heq => ?_) hnil
    push_cast at heq
    omega

theorem coinsKept_bonusCode_iff (h : CoinsKept initial db) (player_code : UInt32) :
    CoinsKept initial (step m_items db (.bonusCode player_code)) ↔
      Undisturbed m_items db (.bonusCode player_code) := by
  unfold step Databases.bonusCode Undisturbed Databases.bonus
  dsimp only
  cases hcodes : db.bonus_code with
  | nil => simpa using h
  | cons fields codes =>
    dsimp only
    by_cases hcode : fields.code = player_code
    · rw [if_pos hcode, if_pos hcode]
      by_cases hcoin : fields.coin > 0
      · have hpos : 0 < fields.coin.toNat := hcoin
        rw [if_pos hcoin]
        refine Iff.trans (coinsKept_redeem_iff h hpos ?_ ?_ ?_ ?_ ?_) (or_iff_left hpos.ne').symm
        all_goals rfl
      · have hzero : fields.coin.toNat = 0 := Nat.eq_zero_of_not_pos hcoin
        rw [if_neg hcoin]
        exact iff_of_true (coinsKept_codes h _) (Or.inr hzero)
    · rw [if_neg hcode, if_neg hcode]
      exact iff_of_true h (Or.inr rfl)

/-- **One step keeps the coins exactly if nothing in the queue interferes.** -/
theorem coinsKept_step_iff (h : CoinsKept initial db) (e : Event) :
    CoinsKept initial (step m_items db e) ↔ Undisturbed m_items db e := by
  cases e with
  | purchaseItem itemEntry couldAddItem executed =>
    exact coinsKept_purchaseItem_iff h itemEntry couldAddItem executed
  | bonusCode player_code => exact coinsKept_bonusCode_iff h player_code
  | execute => exact iff_of_true ((coinsKept_execute_iff db).mpr h) trivial
  | newCodes codes => exact iff_of_true (coinsKept_codes h codes) trivial

/-! ## 5. Every run -/

theorem coinsKept_start (coin : ℕ) (bonus_code : List BonusCode) :
    CoinsKept coin (Databases.start coin bonus_code) := by
  refine ⟨?_, rfl⟩
  rw [settled_of_nil rfl]
  simp [Databases.start]

/-- **When the coins are kept.**  In every state of a run the coins are, once all updates are
applied, what the account had with all bonuses and without all prices, if and only if no step of
the run is disturbed by an update that waits. -/
theorem coinsKept_iff (m_items : List StoreItem) (coin : ℕ) (bonus_code : List BonusCode)
    (events : List Event) :
    States (step m_items) (CoinsKept coin) (Databases.start coin bonus_code) events ↔
      Steps (step m_items) (Undisturbed m_items) (Databases.start coin bonus_code) events :=
  States.iff_steps (I := CoinsKept coin) (fun _ h => h)
    (fun _ e h hC => (coinsKept_step_iff h e).mpr hC)
    (fun _ e h hC hQ => hC ((coinsKept_step_iff h e).mp hQ)) (coinsKept_start coin bonus_code)
    events

/-- Two purchases for 60 coins by an account with 100, before the first update is executed: both
succeed, and 40 coins are left. -/
theorem twoPurchases_for_one :
    ¬ CoinsKept 100 (exec (step [⟨1, 60⟩]) (Databases.start 100 [])
      [.purchaseItem 1 true 0, .purchaseItem 1 true 0, .execute, .execute]) := by
  rintro ⟨hsettled, -⟩
  exact absurd hsettled (by decide +kernel)

end FunPvp.Store
