/-
# The two windows of a trade

Each of two players puts gold, items and a spell into his window, and accepts. `TradeData` takes
both acceptances back with everything that changes in a window, and `Item::SetCount` does it for a
stack that lies in one; so the windows that `HandleAcceptTradeOpcode` exchanges are those that both
players have accepted (`windows_agreed`), whatever they and others do in between.

The two `TradeData` are made and deleted together, and are one `Option` here. What an accepting
handler asks of the world comes with the request (`Asked`). Of the exchange only the gold is
modelled. `seen` and `done` are a record: what each player accepted last, and the trades made.
-/
import FunPvp.Auctions.Gold

namespace FunPvp.Trading

open FunPvp.Lib
open FunPvp.Guilds (MAX_MONEY_AMOUNT modifyMoney)

/-! ## 1. The windows -/

/-- 0 is `ObjectGuid::Empty`. -/
abbrev ObjectGuid := ℕ

inductive Side
  | player
  | trader
deriving DecidableEq

def Side.other : Side → Side
  | .player => .trader
  | .trader => .player

def TRADE_SLOT_NONTRADED : Fin 7 := 6

structure Window where
  _money : UInt32
  _spell : UInt32
  _spellCastItem : ObjectGuid
  _items : Fin 7 → ObjectGuid

structure TradeData extends Window where
  _accepted : Bool

abbrev Trade := Side → TradeData

def hasEnoughMoney (gold amount : UInt32) : Bool := amount ≤ gold

namespace Trade

variable (t : Trade) (p : Side)

def setAccepted (state : Bool) : Trade :=
  Function.update t p { t p with _accepted := state }

/-- A setter has stored something new. -/
def change (w : Window) : Trade := fun q =>
  { toWindow := if q = p then w else (t q).toWindow, _accepted := false }

def setSpell (spell_id : UInt32) (castItem : ObjectGuid) : Trade :=
  if (t p)._spell = spell_id ∧ (t p)._spellCastItem = castItem then t
  else t.change p { (t p).toWindow with _spell := spell_id, _spellCastItem := castItem }

def setMoney (gold money : UInt32) : Trade :=
  if (t p)._money = money then t
  else if hasEnoughMoney gold money = false then t
  else t.change p { (t p).toWindow with _money := money }

def setItem (slot : Fin 7) (item : ObjectGuid) (update : Bool) : Trade :=
  if (t p)._items slot = item ∧ update = false then t
  else
    let t := t.change p
      { (t p).toWindow with _items := Function.update (t p)._items slot item }
    let t := if slot = TRADE_SLOT_NONTRADED then t.setSpell p.other 0 0 else t
    t.setSpell p 0 0

def getTradeSlotForItem (itemGuid : ObjectGuid) : Option (Fin 7) :=
  (List.finRange 7).find? fun slot => (t p)._items slot = itemGuid

end Trade

/-! ## 2. The requests -/

/-- What both players see: the windows, with the stacks that lie in their slots. -/
abbrev Shown := Side → Window × (Fin 7 → UInt32)

structure Exchange where
  windows : Shown
  seen : Side → Option Shown
  before : Side → UInt32
  after : Side → UInt32

structure World where
  m_trade : Option Trade
  gold : Side → UInt32
  count : Side → ObjectGuid → UInt32
  seen : Side → Option Shown
  done : List Exchange

def World.shown (w : World) (t : Trade) : Shown := fun p =>
  ((t p).toWindow, fun slot => w.count p ((t p)._items slot))

/-- An item that is put into a window. -/
structure Offered where
  guid : ObjectGuid
  canBeTraded : Bool
  isBindedNotWith : Bool

structure Asked where
  isWithinDist : Bool
  /-- No item of the windows fails `CanBeTraded` or `IsBindedNotWith`. -/
  itemsPass : Bool
  /-- The spell exists, has its target and its item, and passes `CheckCast`. -/
  spellPasses : Side → Bool
  canStoreItems : Side → Bool

inductive Request
  | initiate
  | cancel
  | setGold (p : Side) (gold : UInt32)
  | setItem (p : Side) (tradeSlot : UInt8) (item : Option Offered)
  | clearItem (p : Side) (tradeSlot : UInt8)
  /-- A spell is cast at the last slot of the other window. -/
  | castSpell (p : Side) (spell : UInt32) (castItem : ObjectGuid)
  | accept (p : Side) (asked : Asked)
  | unaccept (p : Side)
  /-- `Item::SetCount` of an item of his. -/
  | setCount (p : Side) (guid : ObjectGuid) (value : UInt32)
  /-- His gold after something else than a trade. -/
  | elsewhere (p : Side) (gold : UInt32) (hmax : gold ≤ MAX_MONEY_AMOUNT)

namespace World

variable (w : World) (p : Side)

def update (f : Trade → Trade) : World := { w with m_trade := w.m_trade.map f }

def handleInitiateTrade : World :=
  if w.m_trade.isSome then w else { w with m_trade := some fun _ => ⟨⟨0, 0, 0, fun _ => 0⟩, false⟩ }

def handleSetTradeItem (tradeSlot : UInt8) (item : Option Offered) : World :=
  match item with
  | none => w
  | some item =>
    if h : tradeSlot.toNat < 7 then
      let slot : Fin 7 := ⟨tradeSlot.toNat, h⟩
      w.update fun t =>
        if slot ≠ TRADE_SLOT_NONTRADED ∧ item.canBeTraded = false then t
        else if (t.getTradeSlotForItem p item.guid).isSome then t
        else if slot ≠ TRADE_SLOT_NONTRADED ∧ item.isBindedNotWith then t
        else t.setItem p slot item.guid false
    else w

def handleClearTradeItem (tradeSlot : UInt8) : World :=
  if h : tradeSlot.toNat < 7 then w.update fun t => t.setItem p ⟨tradeSlot.toNat, h⟩ 0 false else w

def setCount (guid : ObjectGuid) (value : UInt32) : World :=
  { w with count := Function.update w.count p (Function.update (w.count p) guid value) }.update
    fun t => match t.getTradeSlotForItem p guid with
      | none => t
      | some slot => t.setItem p slot guid true

/-- What the exchange leaves each of them with. -/
def exchanged (t : Trade) (p : Side) : UInt32 :=
  (modifyMoney (modifyMoney (w.gold p) (-(t p)._money.toInt32)).2 (t p.other)._money.toInt32).2

def handleAcceptTrade (asked : Asked) : World :=
  match w.m_trade with
  | none => w
  | some t =>
    let q := p.other
    let w := { w with seen := Function.update w.seen p (some (w.shown t)) }
    let t := t.setAccepted p true
    let stay (t : Trade) := { w with m_trade := some t }
    if asked.isWithinDist = false then stay (t.setAccepted p false)
    else if hasEnoughMoney (w.gold p) (t p)._money = false then stay (t.setAccepted p false)
    else if hasEnoughMoney (w.gold q) (t q)._money = false then stay (t.setAccepted q false)
    else if MAX_MONEY_AMOUNT - (t q)._money ≤ w.gold p then stay (t.setAccepted p false)
    else if MAX_MONEY_AMOUNT - (t p)._money ≤ w.gold q then stay (t.setAccepted q false)
    else if asked.itemsPass = false then stay t
    else if (t q)._accepted = false then stay t
    else if (t p)._spell ≠ 0 ∧ asked.spellPasses p = false then stay (t.setSpell p 0 0)
    else if (t q)._spell ≠ 0 ∧ asked.spellPasses q = false then stay (t.setSpell q 0 0)
    else if asked.canStoreItems p = false ∨ asked.canStoreItems q = false then
      stay ((t.setAccepted p false).setAccepted q false)
    else
      { w with
        m_trade := none
        gold := w.exchanged t
        done := w.done ++ [⟨w.shown t, w.seen, w.gold, w.exchanged t⟩] }

end World

def step (w : World) : Request → World
  | .initiate => w.handleInitiateTrade
  | .cancel => { w with m_trade := none }
  | .setGold p gold => w.update fun t => t.setMoney p (w.gold p) gold
  | .setItem p tradeSlot item => w.handleSetTradeItem p tradeSlot item
  | .clearItem p tradeSlot => w.handleClearTradeItem p tradeSlot
  | .castSpell p spell castItem => w.update fun t => t.setSpell p spell castItem
  | .accept p asked => w.handleAcceptTrade p asked
  | .unaccept p => w.update fun t => t.setAccepted p false
  | .setCount p guid value => w.setCount p guid value
  | .elsewhere p gold _ => { w with gold := Function.update w.gold p gold }

def start (gold : Side → UInt32) (count : Side → ObjectGuid → UInt32) : World :=
  ⟨none, gold, count, fun _ => none, []⟩

/-! ## 3. What stands while somebody has accepted -/

variable {t t' t'' : Trade} {p q : Side} {w : World}

/-- Who has accepted afterwards had accepted before, and no window has changed. -/
def Kept (t t' : Trade) : Prop :=
  ∀ p, (t' p)._accepted = true → (t p)._accepted = true ∧ ∀ q, (t' q).toWindow = (t q).toWindow

namespace Kept

theorem refl : Kept t t := fun _ h => ⟨h, fun _ => rfl⟩

theorem trans (h : Kept t t') (h' : Kept t' t'') : Kept t t'' := by
  intro p hp
  obtain ⟨hmid, hsame'⟩ := h' p hp
  obtain ⟨hacc, hsame⟩ := h p hmid
  exact ⟨hacc, fun q => (hsame' q).trans (hsame q)⟩

theorem change (v : Window) : Kept t (t.change p v) := fun _ h => absurd h Bool.false_ne_true

theorem unaccept : Kept t (t.setAccepted p false) := by
  intro q h
  unfold Trade.setAccepted at h ⊢
  by_cases hq : q = p
  · rw [hq, Function.update_self] at h
    cases h
  · rw [Function.update_of_ne hq] at h
    refine ⟨h, fun r => ?_⟩
    by_cases hr : r = p
    · rw [hr, Function.update_self]
    · rw [Function.update_of_ne hr]

theorem setSpell {spell castItem} : Kept t (t.setSpell p spell castItem) := by
  unfold Trade.setSpell
  split
  · exact refl
  · exact change _

theorem setMoney {gold money} : Kept t (t.setMoney p gold money) := by
  unfold Trade.setMoney
  split
  · exact refl
  · split
    · exact refl
    · exact change _

variable {slot : Fin 7} {item : ObjectGuid} {update : Bool}

theorem setItem_of_new (h : ¬ ((t p)._items slot = item ∧ update = false)) :
    Kept (t.change p { (t p).toWindow with _items := Function.update (t p)._items slot item })
      (t.setItem p slot item update) := by
  unfold Trade.setItem
  rw [if_neg h]
  dsimp only
  split
  · exact setSpell.trans setSpell
  · exact setSpell

theorem setItem : Kept t (t.setItem p slot item update) := by
  by_cases h : (t p)._items slot = item ∧ update = false
  · rw [Trade.setItem, if_pos h]
    exact refl
  · exact (change _).trans (setItem_of_new h)

theorem setItem_update : ¬ (t.setItem p slot item true q)._accepted = true := fun h =>
  absurd (setItem_of_new (by simp) q h).1 Bool.false_ne_true

end Kept

/-! ## 4. The gold -/

theorem toNat_receive {money amount : UInt32} (hmax : amount ≤ MAX_MONEY_AMOUNT)
    (hroom : money < MAX_MONEY_AMOUNT - amount) :
    (modifyMoney money amount.toInt32).2.toNat = money.toNat + amount.toNat := by
  have hdone : (modifyMoney money amount.toInt32).1 = true := by
    unfold modifyMoney
    split
    · rfl
    · split
      · rfl
      · rw [if_pos (show money < MAX_MONEY_AMOUNT - amount.toInt32.toUInt32 from hroom)]
  have hlt := UInt32.lt_iff_toNat_lt.mp hroom
  rw [UInt32.toNat_sub_of_le _ _ hmax] at hlt
  have hval : MAX_MONEY_AMOUNT.toNat = 2 ^ 31 - 1 := rfl
  rcases Guilds.MoneyState.modifyMoney_pos hmax with hno | ⟨hyes, -⟩
  · rw [hno] at hdone
    cases hdone
  · rw [hyes, UInt32.toNat_add, Nat.mod_eq_of_lt (by omega)]

theorem toNat_exchanged (hmax : ∀ r, w.gold r ≤ MAX_MONEY_AMOUNT)
    (hown : ∀ r, (t r)._money ≤ w.gold r)
    (hroom : ∀ r, ¬ MAX_MONEY_AMOUNT - (t r.other)._money ≤ w.gold r) (r : Side) :
    (w.exchanged t r).toNat + (t r)._money.toNat =
        (w.gold r).toNat + (t r.other)._money.toNat ∧ w.exchanged t r ≤ MAX_MONEY_AMOUNT := by
  have hpay := Auctions.toNat_pay (hown r) (hmax r)
  have hother := UInt32.le_trans (hown r.other) (hmax r.other)
  have hlt := UInt32.lt_iff_toNat_lt.mp (UInt32.not_le.mp (hroom r))
  have hreceive := toNat_receive hother (UInt32.lt_iff_toNat_lt.mpr
    (show (modifyMoney (w.gold r) (-(t r)._money.toInt32)).2.toNat < _ by omega))
  rw [UInt32.toNat_sub_of_le _ _ hother] at hlt
  unfold World.exchanged
  rw [UInt32.le_iff_toNat_le]
  omega

/-! ## 5. The trades of a run -/

/-- What is exchanged is what both have accepted, and each has his gold less his own offer and with
the other's. -/
structure Agreed (x : Exchange) : Prop where
  seen : ∀ p, x.seen p = some x.windows
  gold : ∀ p, (x.after p).toNat + (x.windows p).1._money.toNat =
    (x.before p).toNat + (x.windows p.other).1._money.toNat

structure Inv (w : World) : Prop where
  gold : ∀ p, w.gold p ≤ MAX_MONEY_AMOUNT
  seen : ∀ t, w.m_trade = some t → ∀ p, (t p)._accepted = true → w.seen p = some (w.shown t)
  done : ∀ x ∈ w.done, Agreed x

theorem shown_congr (h : ∀ q, (t' q).toWindow = (t q).toWindow) : w.shown t' = w.shown t := by
  funext q
  unfold World.shown
  rw [h q]

namespace Inv

theorem update (h : Inv w) {f : Trade → Trade} (hf : ∀ t, w.m_trade = some t → Kept t (f t)) :
    Inv (w.update f) := by
  refine ⟨h.gold, fun t' ht' p hp => ?_, h.done⟩
  obtain ⟨t, ht, rfl⟩ := Option.map_eq_some_iff.mp ht'
  obtain ⟨hacc, hsame⟩ := hf t ht p hp
  exact (h.seen t ht p hacc).trans (congrArg some (shown_congr hsame).symm)

theorem stay (h : Inv w) (ht : w.m_trade = some t) (hk : Kept t t') :
    Inv { w with m_trade := some t' } := by
  have hsome := h.update (f := fun _ => t') fun s hs => by
    obtain rfl := Option.some.inj (ht.symm.trans hs)
    exact hk
  rwa [World.update, ht] at hsome

theorem setCount (h : Inv w) (guid : ObjectGuid) (value : UInt32) :
    Inv (w.setCount p guid value) := by
  refine ⟨h.gold, fun t' ht' q hq => ?_, h.done⟩
  obtain ⟨t, ht, rfl⟩ := Option.map_eq_some_iff.mp ht'
  cases hslot : t.getTradeSlotForItem p guid with
  | some slot =>
    rw [hslot] at hq
    exact absurd hq Kept.setItem_update
  | none =>
    rw [hslot] at hq
    refine (h.seen t ht q hq).trans
      (congrArg some (funext fun r => Prod.ext rfl (funext fun i => ?_)))
    have hne := List.find?_eq_none.mp hslot i (List.mem_finRange i)
    by_cases hr : r = p
    · subst hr
      simp_all [World.shown, World.update, World.setCount]
    · simp [World.shown, World.update, World.setCount, hr]

theorem setAccepted (h : Inv w) (ht : w.m_trade = some t) (p : Side) :
    Inv { w with
      seen := Function.update w.seen p (some (w.shown t))
      m_trade := some (t.setAccepted p true) } := by
  have hsame : ∀ q, (t.setAccepted p true q).toWindow = (t q).toWindow := fun q => by
    unfold Trade.setAccepted
    by_cases hq : q = p
    · rw [hq, Function.update_self]
    · rw [Function.update_of_ne hq]
  refine ⟨h.gold, fun t' ht' q hacc => ?_, h.done⟩
  obtain rfl := Option.some.inj ht'
  refine Eq.trans ?_ (congrArg some (shown_congr hsame).symm)
  by_cases hq : q = p
  · rw [hq]
    exact Function.update_self ..
  · refine (Function.update_of_ne hq ..).trans (h.seen t ht q ?_)
    rwa [Trade.setAccepted, Function.update_of_ne hq] at hacc

theorem handleAcceptTrade (h : Inv w) (p : Side) (asked : Asked) :
    Inv (w.handleAcceptTrade p asked) := by
  unfold World.handleAcceptTrade
  split
  · exact h
  · next t ht =>
    have h' := h.setAccepted ht p
    have hp : (t.setAccepted p true p)._accepted = true := by simp [Trade.setAccepted]
    generalize t.setAccepted p true = t' at h' hp ⊢
    dsimp only
    split_ifs with _ hgold hgold' hroom hroom' _ hq
    · exact h'.stay rfl .unaccept
    · exact h'.stay rfl .unaccept
    · exact h'.stay rfl .unaccept
    · exact h'.stay rfl .unaccept
    · exact h'.stay rfl .unaccept
    · exact h'
    · exact h'
    · exact h'.stay rfl .setSpell
    · exact h'.stay rfl .setSpell
    · exact h'.stay rfl (Kept.unaccept.trans .unaccept)
    · have hboth : ∀ P : Side → Prop, P p → P p.other → ∀ r, P r := by
        intro P hp hq r
        cases p <;> cases r <;> assumption
      have hx := toNat_exchanged (w := w) (t := t') h.gold
        (hboth _ (by simpa [hasEnoughMoney] using hgold)
          (by simpa [hasEnoughMoney] using hgold'))
        (hboth _ hroom (by cases p <;> exact hroom'))
      refine ⟨fun r => (hx r).2, nofun, fun x hmem => ?_⟩
      rcases List.mem_append.mp hmem with hold | hnew
      · exact h.done x hold
      · obtain rfl := List.mem_singleton.mp hnew
        exact ⟨hboth _ (h'.seen t' rfl p hp) (h'.seen t' rfl _ (by simpa using hq)),
          fun r => (hx r).1⟩

theorem step (h : Inv w) (r : Request) : Inv (step w r) := by
  cases r with
  | initiate =>
    change Inv w.handleInitiateTrade
    unfold World.handleInitiateTrade
    split
    · exact h
    · refine ⟨h.gold, fun t ht p hp => ?_, h.done⟩
      obtain rfl := Option.some.inj ht
      exact absurd hp Bool.false_ne_true
  | cancel => exact ⟨h.gold, nofun, h.done⟩
  | setGold p gold => exact h.update fun _ _ => .setMoney
  | setItem p tradeSlot item =>
    cases item with
    | none => exact h
    | some item =>
      change Inv (w.handleSetTradeItem p tradeSlot (some item))
      unfold World.handleSetTradeItem
      dsimp only
      split
      · refine h.update fun t _ => ?_
        split_ifs
        · exact .refl
        · exact .refl
        · exact .refl
        · exact .setItem
      · exact h
  | clearItem p tradeSlot =>
    change Inv (w.handleClearTradeItem p tradeSlot)
    unfold World.handleClearTradeItem
    split
    · exact h.update fun _ _ => .setItem
    · exact h
  | castSpell p spell castItem => exact h.update fun _ _ => .setSpell
  | accept p asked => exact h.handleAcceptTrade p asked
  | unaccept p => exact h.update fun _ _ => .unaccept
  | setCount p guid value => exact h.setCount guid value
  | elsewhere p gold hmax =>
    refine ⟨fun q => ?_, h.seen, h.done⟩
    change Function.update w.gold p gold q ≤ _
    by_cases hq : q = p
    · rwa [hq, Function.update_self]
    · rw [Function.update_of_ne hq]
      exact h.gold q

end Inv

theorem inv_start {gold : Side → UInt32} {count : Side → ObjectGuid → UInt32}
    (hmax : ∀ p, gold p ≤ MAX_MONEY_AMOUNT) : Inv (start gold count) where
  gold := hmax
  seen _ ht := by cases ht
  done _ hx := by cases hx

/-- **Both sides agree on what is traded.** Whatever is requested, in whatever order: the windows
that are exchanged, with the stacks in them, are those that each of the two saw when he accepted
last, and each ends with his gold less his own offer and with the other's. -/
theorem windows_agreed (gold : Side → UInt32) (count : Side → ObjectGuid → UInt32)
    (hmax : ∀ p, gold p ≤ MAX_MONEY_AMOUNT) (requests : List Request) :
    ∀ x ∈ (exec step (start gold count) requests).done, Agreed x :=
  (States.of_steps (I := Inv) (fun _ r h _ => h.step r) (inv_start hmax)
    (Steps.of_forall (fun _ _ => trivial) requests)).exec.done

def yes : Asked := ⟨true, true, fun _ => true, fun _ => true⟩

/-- An offer that is raised after it was accepted has to be accepted again. -/
theorem raisedOffer_agreed : ∃ x, Agreed x ∧ x.after .trader = 14 := by
  have hone : ∃ x, (exec step (start (fun _ => 10) fun _ _ => 1) [.initiate, .setGold .player 3,
      .accept .trader yes, .setGold .player 4, .accept .player yes, .accept .trader yes]).done =
      [x] ∧ x.after .trader = 14 := ⟨_, rfl, rfl⟩
  obtain ⟨x, hdone, hafter⟩ := hone
  exact ⟨x, windows_agreed _ _ (fun _ => by decide) _ x (hdone ▸ List.mem_singleton_self x), hafter⟩

end FunPvp.Trading
