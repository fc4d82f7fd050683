/-
# Reading the data of a chat link

The functions of `ChatLink.cpp` that read numbers and delimiters from the `std::istringstream` of a
message, with the extraction operators they use: leading white space is skipped, a number may have a
sign, and one in hexadecimal the prefix `0x`; `num_get` consumes the digits there are, and fails
where there are none or the number does not fit. A number that reaches to the end of the message is
refused by all callers, as `eof` is set then.

`ReadSkip` looks for a character with `peek`, which at the end gives the same value every time, and
never that character: `readSkipRound` is a round of its loop, and `gives_readSkipRound_iff` says
when the loop ends.
-/
import FunPvp.Lib.Lookahead
import FunPvp.Lib.While

namespace FunPvp.ChatLinks

open FunPvp.Lib

variable {α : Type}

/-! ## 1. Characters -/

abbrev Bytes := List UInt8

def chars (text : List Char) : Bytes := text.map Char.toUInt8

def PIPE_CHAR : UInt8 := '|'.toUInt8
def DELIMITER : UInt8 := ':'.toUInt8

/-- `isspace`: the blank, and the characters from tab to carriage return. -/
def isSpace (c : UInt8) : Bool := c = 32 || (9 ≤ c && c ≤ 13)

def digitValue (c : UInt8) : ℕ :=
  if 48 ≤ c ∧ c ≤ 57 then c.toNat - 48
  else if 97 ≤ c ∧ c ≤ 102 then c.toNat - 87
  else if 65 ≤ c ∧ c ≤ 70 then c.toNat - 55
  else 255

def isDigit (base : ℕ) (c : UInt8) : Bool := digitValue c < base

def ofDigits (base : ℕ) (digits : Bytes) : ℕ :=
  digits.foldl (fun value c => value * base + digitValue c) 0

/-! ## 2. Extraction of numbers -/

/-- What ends a reader, or the filter: a result, or the program does not come back. -/
inductive Exit
  | returns (valid : Bool)
  | stuck
deriving DecidableEq

abbrev Exit.rejected : Exit := .returns false

abbrev ByteReader := Reader UInt8 Exit

def skipSpaces : ByteReader Unit := fun s => .ok ((), s.dropWhile isSpace)

def readSign : ByteReader Bool := fun s =>
  match s with
  | [] => .ok (false, [])
  | c :: rest =>
    if c = '-'.toUInt8 then .ok (true, rest)
    else if c = '+'.toUInt8 then .ok (false, rest)
    else .ok (false, c :: rest)

/-- The digits of a number, which must not reach to the end. -/
def readDigits (base : ℕ) : ByteReader ℕ := fun s =>
  match s.takeWhile (isDigit base), s.dropWhile (isDigit base) with
  | [], _ => .error .rejected
  | _, [] => .error .rejected
  | digits, rest => .ok (ofDigits base digits, rest)

/-- The prefix of a hexadecimal number is consumed once its zero is read. -/
def skipPrefix (base : ℕ) (s : Bytes) : Bytes :=
  match s with
  | zero :: x :: rest =>
    if base = 16 ∧ zero = '0'.toUInt8 ∧ (x = 'x'.toUInt8 ∨ x = 'X'.toUInt8) then rest else s
  | _ => s

def readMagnitude (base : ℕ) : ByteReader ℕ := fun s => readDigits base (skipPrefix base s)

/-- `num_get`: the sign and the magnitude. -/
def numGet (base : ℕ) : ByteReader (Bool × ℕ) := do
  skipSpaces
  let negative ← readSign
  let magnitude ← readMagnitude base
  pure (negative, magnitude)

/-- `>>` for a `uint32`: a minus takes the number modulo `2 ^ 32`. -/
def extractUInt32 (base : ℕ) : ByteReader UInt32 := do
  let (negative, magnitude) ← numGet base
  if magnitude < 2 ^ 32 then
    pure (if negative then -UInt32.ofNat magnitude else UInt32.ofNat magnitude)
  else throw .rejected

/-! ## 3. The functions of the source -/

def readUInt32 : ByteReader UInt32 := extractUInt32 10

def readInt32 : ByteReader ℤ := do
  let (negative, magnitude) ← numGet 10
  let res : ℤ := if negative then -magnitude else magnitude
  if -2 ^ 31 ≤ res ∧ res < 2 ^ 31 then pure res else throw .rejected

def readHex (length : ℕ) : ByteReader UInt32 :=
  (extractUInt32 16).measured (fun n => length = 0 ∨ n = length) .rejected

def checkDelimiter (delimiter : UInt8) : ByteReader Unit := fun s =>
  match s with
  | c :: rest => if c = delimiter then .ok ((), rest) else .error .rejected
  | [] => .error .rejected

/-- What `peek` gives as a `char`: `EOF` has all bits set. -/
def peekChar (s : Bytes) : UInt8 := s.headD 255

def readSkipRound (term : UInt8) (p : Bytes × Bytes) : Except (Bytes × Bytes) (Bytes × Bytes) :=
  if peekChar p.2 ≠ term ∧ peekChar p.2 ≠ 0 then .ok (p.1 ++ [peekChar p.2], p.2.drop 1)
  else .error p

/-- `ReadSkip`, which only comes back where it finds the character, or a zero. -/
def readSkip (term : UInt8) : ByteReader Bytes := fun s =>
  if s.any (fun c => c = term ∨ c = 0) then
    .ok (s.takeWhile (fun c => ¬ (c = term ∨ c = 0)), s.dropWhile (fun c => ¬ (c = term ∨ c = 0)))
  else .error .stuck

/-! ## 4. What they take -/

def NotPipe (c : UInt8) : Prop := c ≠ PIPE_CHAR

theorem notPipe_of_isSpace {c : UInt8} (h : isSpace c) : NotPipe c := by
  rintro rfl
  exact absurd h (by decide)

variable {base : ℕ} {term : UInt8}

theorem notPipe_of_isDigit (hbase : base ≤ 16) {c : UInt8} (h : isDigit base c) :
    NotPipe c := by
  rintro rfl
  rw [isDigit, decide_eq_true_eq, show digitValue PIPE_CHAR = 255 by decide] at h
  omega

theorem looksAhead_skipSpaces : LooksAhead NotPipe skipSpaces := by
  intro s v rest h
  obtain rfl : s.dropWhile isSpace = rest := by
    simpa [skipSpaces] using h
  refine ⟨s.takeWhile isSpace, List.takeWhile_append_dropWhile.symm, ?_, ?_⟩
  · exact fun c hc => notPipe_of_isSpace (List.mem_takeWhile_imp hc)
  · intro rest' hhead
    have hdrop : (s.takeWhile isSpace ++ rest').dropWhile isSpace = rest' := by
      refine dropWhile_append_of_head (fun c hc => List.mem_takeWhile_imp hc) fun c hc => ?_
      rw [hhead] at hc
      exact of_mem_head?_dropWhile hc
    rw [skipSpaces, hdrop]

theorem looksAhead_readSign : LooksAhead NotPipe readSign := by
  intro s v rest h
  cases s with
  | nil =>
    obtain ⟨rfl, rfl⟩ : v = false ∧ rest = [] := by
      simpa [readSign, eq_comm] using h
    refine ⟨[], rfl, by simp, fun rest' hhead => ?_⟩
    obtain rfl : rest' = [] := by simpa using hhead
    rfl
  | cons c s =>
    rw [readSign] at h
    split_ifs at h with hminus hplus
    · obtain ⟨rfl, rfl⟩ : true = v ∧ s = rest := by simpa using h
      exact ⟨[c], rfl, by simp [hminus, NotPipe, PIPE_CHAR]; decide, fun rest' _ => by
        simp [readSign, hminus]⟩
    · obtain ⟨rfl, rfl⟩ : false = v ∧ s = rest := by simpa using h
      exact ⟨[c], rfl, by simp [hplus, NotPipe, PIPE_CHAR]; decide, fun rest' _ => by
        simp [readSign, hplus]; decide⟩
    · obtain ⟨rfl, rfl⟩ : false = v ∧ c :: s = rest := by simpa using h
      refine ⟨[], rfl, by simp, fun rest' hhead => ?_⟩
      obtain ⟨s', rfl⟩ : ∃ s', rest' = c :: s' := by
        cases rest' with
        | nil => simp at hhead
        | cons b s' => exact ⟨s', by rw [show b = c by simpa using hhead]⟩
      simp [readSign, hminus, hplus]

theorem readDigits_eq_ok {s rest : Bytes} {n : ℕ} :
    readDigits base s = .ok (n, rest) ↔ ∃ digits, digits ≠ [] ∧ rest ≠ [] ∧ s = digits ++ rest ∧
      (∀ c ∈ digits, isDigit base c) ∧ (∀ c ∈ rest.head?, isDigit base c = false) ∧
        n = ofDigits base digits := by
  constructor
  · intro h
    have hparts : s.takeWhile (isDigit base) ≠ [] ∧ s.dropWhile (isDigit base) ≠ [] ∧
        n = ofDigits base (s.takeWhile (isDigit base)) ∧ s.dropWhile (isDigit base) = rest := by
      rw [readDigits] at h
      split at h
      · simp at h
      · simp at h
      · next hdigits hrest =>
        obtain ⟨hn, hr⟩ := Prod.mk.inj (Except.ok.inj h)
        exact ⟨hdigits, hrest, hn.symm, hr⟩
    obtain ⟨hdigits, hrest, hn, rfl⟩ := hparts
    exact ⟨_, hdigits, hrest, List.takeWhile_append_dropWhile.symm,
      fun c hc => List.mem_takeWhile_imp hc, fun c hc => of_mem_head?_dropWhile hc, hn⟩
  · rintro ⟨digits, hdigits, hrest, rfl, hall, hhead, rfl⟩
    rw [readDigits, takeWhile_append_of_head hall hhead, dropWhile_append_of_head hall hhead]
    cases digits with
    | nil => exact absurd rfl hdigits
    | cons d digits =>
      cases rest with
      | nil => exact absurd rfl hrest
      | cons c rest => rfl

theorem skipPrefix_eq (base : ℕ) (s : Bytes) :
    (∃ x, (x = 'x'.toUInt8 ∨ x = 'X'.toUInt8) ∧
        s = '0'.toUInt8 :: x :: skipPrefix base s ∧
        ∀ s', skipPrefix base ('0'.toUInt8 :: x :: s') = s') ∨
      skipPrefix base s = s ∧ ∀ zero x rest, s = zero :: x :: rest → ∀ rest',
        skipPrefix base (zero :: x :: rest') = zero :: x :: rest' := by
  unfold skipPrefix
  split
  · next zero x rest =>
    split
    · next h =>
      obtain ⟨hbase, rfl, hx⟩ := h
      exact Or.inl ⟨x, hx, rfl, fun s' => if_pos ⟨hbase, rfl, hx⟩⟩
    · next h =>
      refine Or.inr ⟨rfl, ?_⟩
      rintro zero' x' rest'' heq rest'
      obtain ⟨rfl, rfl, rfl⟩ : zero = zero' ∧ x = x' ∧ rest = rest'' := by simpa using heq
      exact if_neg h
  · next h => exact Or.inr ⟨rfl, fun zero x rest heq => absurd heq (h zero x rest)⟩

theorem looksAhead_readMagnitude (hbase : base ≤ 16) :
    LooksAhead NotPipe (readMagnitude base) := by
  intro s n rest h
  obtain ⟨digits, hdigits, hrest, hs, hall, hhead, rfl⟩ := readDigits_eq_ok.1 h
  have hread : ∀ rest' : Bytes, rest'.head? = rest.head? →
      readDigits base (digits ++ rest') = .ok (ofDigits base digits, rest') := by
    intro rest' hsame
    refine readDigits_eq_ok.2 ⟨digits, hdigits, ?_, rfl, hall, fun c hc => ?_, rfl⟩
    · rintro rfl
      exact hrest (by simpa [eq_comm] using hsame)
    · exact hhead c (hsame ▸ hc)
  rcases skipPrefix_eq base s with ⟨x, hx, hprefix, hskip⟩ | ⟨hplain, hkeep⟩
  · refine ⟨'0'.toUInt8 :: x :: digits, ?_, ?_, fun rest' hsame => ?_⟩
    · rw [ hprefix, hs]
      rfl
    · intro c hc
      simp only [List.mem_cons] at hc
      rcases hc with rfl | rfl | hc
      · exact (by decide : '0'.toUInt8 ≠ PIPE_CHAR)
      · rcases hx with rfl | rfl
        · exact (by decide : 'x'.toUInt8 ≠ PIPE_CHAR)
        · exact (by decide : 'X'.toUInt8 ≠ PIPE_CHAR)
      · exact notPipe_of_isDigit hbase (hall c hc)
    · change readDigits base (skipPrefix base ('0'.toUInt8 :: x :: (digits ++ rest'))) = _
      rw [hskip]
      exact hread rest' hsame
  · rw [hplain] at hs
    refine ⟨digits, hs, fun c hc => notPipe_of_isDigit hbase (hall c hc), fun rest' hsame => ?_⟩
    have hnext : skipPrefix base (digits ++ rest') = digits ++ rest' := by
      -- The two characters that decide are both among the digits, or one is the next character.
      rcases digits with _ | ⟨d, _ | ⟨d', digits⟩⟩
      · exact absurd rfl hdigits
      · cases rest with
        | nil => exact absurd rfl hrest
        | cons c rest =>
          obtain ⟨rest', rfl⟩ := List.head?_eq_some_iff.mp hsame
          exact hkeep d c rest hs rest'
      · exact hkeep d d' _ hs _
    change readDigits base (skipPrefix base (digits ++ rest')) = _
    rw [hnext]
    exact hread rest' hsame

theorem looksAhead_numGet (hbase : base ≤ 16) : LooksAhead NotPipe (numGet base) :=
  looksAhead_skipSpaces.bind fun _ => looksAhead_readSign.bind fun _ =>
    (looksAhead_readMagnitude hbase).bind fun _ => .pure _

theorem looksAhead_extractUInt32 (hbase : base ≤ 16) :
    LooksAhead NotPipe (extractUInt32 base) :=
  (looksAhead_numGet hbase).bind fun _ => .ite (.pure _) (.throw _)

theorem looksAhead_readUInt32 : LooksAhead NotPipe readUInt32 :=
  looksAhead_extractUInt32 (by decide)

theorem looksAhead_readInt32 : LooksAhead NotPipe readInt32 :=
  (looksAhead_numGet (by decide)).bind fun _ => .ite (.pure _) (.throw _)

theorem looksAhead_readHex (length : ℕ) : LooksAhead NotPipe (readHex length) :=
  (looksAhead_extractUInt32 (by decide)).measured _ _

theorem looksAhead_checkDelimiter {delimiter : UInt8} (hpipe : delimiter ≠ PIPE_CHAR) :
    LooksAhead NotPipe (checkDelimiter delimiter) := by
  intro s v rest h
  cases s with
  | nil => simp [checkDelimiter] at h
  | cons c s =>
    rw [checkDelimiter] at h
    split_ifs at h with hc
    obtain rfl : s = rest := by simpa using h
    subst hc
    exact ⟨[c], rfl, by simpa [NotPipe] using hpipe, fun rest' _ => if_pos rfl⟩

theorem readSkip_eq_ok {s res rest : Bytes} :
    readSkip term s = .ok (res, rest) ↔ ∃ c rest', rest = c :: rest' ∧ (c = term ∨ c = 0) ∧
      s = res ++ c :: rest' ∧ ∀ b ∈ res, b ≠ term ∧ b ≠ 0 := by
  set p : UInt8 → Bool := fun c => ¬ (c = term ∨ c = 0) with hp
  have hp_true : ∀ c, p c ↔ c ≠ term ∧ c ≠ 0 := fun c => by simp [hp]
  have hp_false : ∀ c, p c = false ↔ c = term ∨ c = 0 := fun c => by
    simp [hp, or_iff_not_imp_left]
  rw [readSkip]
  constructor
  · intro h
    split_ifs at h with hany
    obtain ⟨rfl, rfl⟩ := Prod.mk.inj (Except.ok.inj h)
    have hrest : s.dropWhile p ≠ [] := by
      intro hnil
      obtain ⟨c, hc, hterm⟩ := List.any_eq_true.1 hany
      have hnot := (hp_true c).1 (List.dropWhile_eq_nil_iff.1 hnil c hc)
      have hterm : c = term ∨ c = 0 := by simpa using hterm
      exact hterm.elim hnot.1 hnot.2
    obtain ⟨c, rest', hcons⟩ := List.exists_cons_of_ne_nil hrest
    refine ⟨c, rest', hcons, (hp_false c).1 (of_mem_head?_dropWhile (s := s) ?_), ?_, ?_⟩
    · rw [hcons]
      rfl
    · rw [← hcons]
      exact List.takeWhile_append_dropWhile.symm
    · exact fun b hb => (hp_true b).1 (List.mem_takeWhile_imp hb)
  · rintro ⟨c, rest', rfl, hc, rfl, hres⟩
    have hany : (res ++ c :: rest').any (fun c => c = term ∨ c = 0) :=
      List.any_eq_true.2 ⟨c, by simp, by simpa using hc⟩
    have hall : ∀ b ∈ res, p b := fun b hb => (hp_true b).2 (hres b hb)
    have hhead : ∀ b ∈ (c :: rest').head?, p b = false := fun b hb => by
      obtain rfl : c = b := by simpa using hb
      exact (hp_false c).2 hc
    rw [if_pos hany, takeWhile_append_of_head hall hhead, dropWhile_append_of_head hall hhead]

theorem looksAhead_readSkip : LooksAhead NotPipe (readSkip PIPE_CHAR) := by
  intro s v rest h
  obtain ⟨c, rest, rfl, hc, rfl, hv⟩ := readSkip_eq_ok.1 h
  refine ⟨v, rfl, fun b hb => (hv b hb).1, fun rest' hhead => ?_⟩
  obtain ⟨rest', rfl⟩ : ∃ r, rest' = c :: r := by
    cases rest' with
    | nil => simp at hhead
    | cons b r => exact ⟨r, by rw [show b = c by simpa using hhead]⟩
  exact readSkip_eq_ok.2 ⟨c, rest', rfl, hc, rfl, hv⟩

/-! ## 5. How they stop -/

/-- All but `ReadSkip` come back. -/
def Rejects (f : ByteReader α) : Prop := StopsWith (· = .rejected) f

theorem rejects_numGet (base : ℕ) : Rejects (numGet base) := by
  refine .bind (fun s e h => ?_) fun _ => .bind (fun s e h => ?_) fun _ =>
    .bind (fun s e h => ?_) fun _ => .pure _
  · simp [skipSpaces] at h
  · unfold readSign at h
    split at h
    · simp at h
    · split_ifs at h
  · rw [readMagnitude, readDigits] at h
    split at h
    · simpa [eq_comm] using h
    · simpa [eq_comm] using h
    · simp at h

theorem rejects_extractUInt32 (base : ℕ) : Rejects (extractUInt32 base) :=
  .bind (rejects_numGet base) fun _ => .ite (.pure _) (.throw rfl)

theorem rejects_readUInt32 : Rejects readUInt32 := rejects_extractUInt32 10

theorem rejects_readInt32 : Rejects readInt32 :=
  .bind (rejects_numGet 10) fun _ => .ite (.pure _) (.throw rfl)

theorem rejects_readHex (length : ℕ) : Rejects (readHex length) :=
  .measured (rejects_extractUInt32 16) _ rfl

theorem rejects_checkDelimiter (delimiter : UInt8) : Rejects (checkDelimiter delimiter) := by
  intro s e h
  cases s with
  | nil => simpa [checkDelimiter, eq_comm] using h
  | cons c s =>
    rw [checkDelimiter] at h
    split_ifs at h
    simpa [eq_comm] using h

theorem readSkip_eq_error {s : Bytes} {e : Exit} :
    readSkip term s = .error e ↔ (∀ c ∈ s, c ≠ term ∧ c ≠ 0) ∧ e = .stuck := by
  rw [readSkip]
  split
  · next hany =>
    obtain ⟨c, hc, hterm⟩ := List.any_eq_true.1 hany
    have hterm : c = term ∨ c = 0 := by simpa using hterm
    simp only [reduceCtorEq, false_iff, not_and]
    intro hall
    rcases hterm with h | h
    · exact absurd h (hall c hc).1
    · exact absurd h (hall c hc).2
  · next hany =>
    have hall : ∀ c ∈ s, c ≠ term ∧ c ≠ 0 := by simpa using hany
    simp only [Except.error.injEq, eq_comm (a := e)]
    exact ⟨fun h => ⟨hall, h⟩, fun h => h.2⟩

theorem readSkipRound_cons {term c : UInt8} (hc : c ≠ term ∧ c ≠ 0) (res s : Bytes) :
    readSkipRound term (res, c :: s) = .ok (res ++ [c], s) := if_pos hc

theorem gives_readSkipRound {term c : UInt8} (hc : c = term ∨ c = 0) (rest : Bytes) :
    ∀ (used res : Bytes), (∀ b ∈ used, b ≠ term ∧ b ≠ 0) →
      Gives (readSkipRound term) (res, used ++ c :: rest) (res ++ used, c :: rest)
  | [], res, _ => by
    have hstop : ¬ (peekChar (c :: rest) ≠ term ∧ peekChar (c :: rest) ≠ 0) := fun h =>
      hc.elim h.1 h.2
    refine .leave ?_
    rw [List.append_nil]
    exact if_neg hstop
  | b :: used, res, hused => by
    have hrest := gives_readSkipRound hc rest used (res ++ [b]) fun b' hb' =>
      hused b' (List.mem_cons_of_mem b hb')
    rw [List.append_assoc, List.singleton_append] at hrest
    exact .next (readSkipRound_cons (hused b List.mem_cons_self) res _) hrest

theorem whileLoop_readSkipRound (hterm : term ≠ 255) :
    ∀ (fuel : ℕ) (res s : Bytes), (∀ c ∈ s, c ≠ term ∧ c ≠ 0) →
      whileLoop (readSkipRound term) fuel (res, s) = none
  | 0, _, _, _ => rfl
  | fuel + 1, res, [], hs => by
    have hround : readSkipRound term (res, []) = .ok (res ++ [255], []) :=
      if_pos ⟨hterm.symm, (by decide : (255 : UInt8) ≠ 0)⟩
    rw [whileLoop, hround]
    exact whileLoop_readSkipRound hterm fuel _ [] hs
  | fuel + 1, res, c :: s, hs => by
    rw [whileLoop, readSkipRound_cons (hs c List.mem_cons_self)]
    exact whileLoop_readSkipRound hterm fuel _ s fun b hb => hs b (List.mem_cons_of_mem c hb)

/-- **The loop of `ReadSkip`.**  It ends where `readSkip` comes back, and with its result; where
`readSkip` is stuck no number of rounds is enough. -/
theorem gives_readSkipRound_iff (hterm : term ≠ 255) (s res rest : Bytes) :
    Gives (readSkipRound term) ([], s) (res, rest) ↔ readSkip term s = .ok (res, rest) := by
  cases hs : readSkip term s with
  | error e =>
    obtain ⟨hall, -⟩ := readSkip_eq_error.1 hs
    simp only [reduceCtorEq, iff_false]
    rintro ⟨needed, hloop⟩
    have hnone := whileLoop_readSkipRound hterm needed [] s hall
    rw [hloop needed le_rfl] at hnone
    simp at hnone
  | ok q =>
    obtain ⟨res', rest'⟩ := q
    obtain ⟨c, rest', rfl, hc, hs', hall⟩ := readSkip_eq_ok.1 hs
    have hgives := gives_readSkipRound hc rest' res' [] hall
    rw [← hs', List.nil_append] at hgives
    rw [Except.ok.injEq]
    exact ⟨fun h => hgives.unique h, fun h => h ▸ hgives⟩

theorem gives_readSkipRound_colon : Gives (readSkipRound 58) ([], [97, 58]) ([97], [58]) :=
  (gives_readSkipRound_iff (by decide) _ _ _).mpr rfl

/-! ## 6. Eight digits -/

theorem ofDigits_lt (digits : Bytes)
    (hall : ∀ c ∈ digits, isDigit base c) : ofDigits base digits < base ^ digits.length := by
  induction digits using List.reverseRecOn with
  | nil => simp [ofDigits]
  | append_singleton digits c ih =>
    have hdigits := ih fun b hb => hall b (List.mem_append_left _ hb)
    have hc : digitValue c < base := by
      simpa [isDigit] using hall c (List.mem_append_right _ (List.mem_singleton_self c))
    have hstep : ofDigits base (digits ++ [c]) = ofDigits base digits * base + digitValue c := by
      simp [ofDigits]
    rw [hstep, List.length_append, List.length_singleton, pow_succ]
    calc ofDigits base digits * base + digitValue c
        < ofDigits base digits * base + base := by omega
      _ = (ofDigits base digits + 1) * base := by ring
      _ ≤ base ^ digits.length * base := Nat.mul_le_mul_right base hdigits

theorem not_isSpace_of_isDigit {c : UInt8} (h : isDigit 16 c) : isSpace c = false := by
  rw [isDigit, decide_eq_true_eq, digitValue] at h
  have hge : 48 ≤ c.toNat := by
    split_ifs at h with h₁ h₂ h₃
    · simpa [UInt8.le_iff_toNat_le] using h₁.1
    · have h₂ := UInt8.le_iff_toNat_le.1 h₂.1
      simp at h₂
      omega
    · have h₃ := UInt8.le_iff_toNat_le.1 h₃.1
      simp at h₃
      omega
    · omega
  have hne : c ≠ 32 := by
    rintro rfl
    simp at hge
  simp only [isSpace, hne, decide_false, Bool.false_or, Bool.and_eq_false_iff,
    decide_eq_false_iff_not, UInt8.le_iff_toNat_le]
  right
  simp
  omega

theorem ne_of_isDigit {c b : UInt8} (h : isDigit 16 c) (hb : isDigit 16 b = false) : c ≠ b := by
  rintro rfl
  rw [h] at hb
  exact absurd hb (by decide)

theorem readHex_digits {digits : Bytes} (hlength : digits.length = 8)
    (hall : ∀ c ∈ digits, isDigit 16 c) (rest : Bytes) :
    readHex 8 (digits ++ PIPE_CHAR :: rest) =
      .ok (UInt32.ofNat (ofDigits 16 digits), PIPE_CHAR :: rest) := by
  set s := digits ++ PIPE_CHAR :: rest with hs
  obtain ⟨c, d, digits', hcons⟩ : ∃ c d digits', digits = c :: d :: digits' := by
    match digits, hlength with
    | c :: d :: digits', _ => exact ⟨c, d, digits', rfl⟩
  have hc : isDigit 16 c := hall c (by simp [hcons])
  have hd : isDigit 16 d := hall d (by simp [hcons])
  have hscons : s = c :: d :: (digits' ++ PIPE_CHAR :: rest) := by
    rw [hs, hcons]
    rfl
  have hspaces : skipSpaces s = .ok ((), s) := by
    rw [skipSpaces, hscons, List.dropWhile_cons_of_neg (by simp [not_isSpace_of_isDigit hc])]
  have hsign : readSign s = .ok (false, s) := by
    rw [hscons]
    unfold readSign
    simp only [if_neg (ne_of_isDigit hc (b := '-'.toUInt8) (by decide)),
      if_neg (ne_of_isDigit hc (b := '+'.toUInt8) (by decide))]
  have hprefix : skipPrefix 16 s = s := by
    rw [hscons]
    refine if_neg ?_
    rintro ⟨-, -, hx | hx⟩
    · exact ne_of_isDigit hd (by decide) hx
    · exact ne_of_isDigit hd (by decide) hx
  have hdigits : readMagnitude 16 s = .ok (ofDigits 16 digits, PIPE_CHAR :: rest) := by
    rw [readMagnitude, hprefix]
    refine readDigits_eq_ok.2 ⟨digits, by simp [hcons], by simp, hs, hall, fun b hb => ?_, rfl⟩
    obtain rfl : PIPE_CHAR = b := by simpa using hb
    decide
  have hnumGet : numGet 16 s = .ok ((false, ofDigits 16 digits), PIPE_CHAR :: rest) := by
    rw [numGet, Reader.bind_ok hspaces, Reader.bind_ok hsign, Reader.bind_ok hdigits]
    rfl
  have hlt : ofDigits 16 digits < 2 ^ 32 := by
    have hlt := ofDigits_lt digits hall
    rw [hlength] at hlt
    exact lt_of_lt_of_eq hlt (by norm_num)
  have hextract : extractUInt32 16 s =
      .ok (UInt32.ofNat (ofDigits 16 digits), PIPE_CHAR :: rest) := by
    rw [extractUInt32, Reader.bind_ok hnumGet]
    simp only [if_pos hlt]
    rfl
  refine Reader.measured_ok.2 ⟨hextract, Or.inr ?_⟩
  rw [hs, List.length_append, hlength]
  omega

theorem length_of_readHex {s rest : Bytes} {color : UInt32}
    (h : readHex 8 s = .ok (color, rest)) : s = s.take 8 ++ rest ∧ (s.take 8).length = 8 := by
  obtain ⟨hextract, hcount⟩ := Reader.measured_ok.1 h
  obtain ⟨used, rfl, -, -⟩ := looksAhead_extractUInt32 (by decide) s color rest hextract
  have hused : used.length = 8 := by
    rcases hcount with h | h
    · exact absurd h (by decide)
    · simpa using h
  rw [List.take_append_of_le_length (by omega), List.take_of_length_le (by omega)]
  exact ⟨rfl, hused⟩

end FunPvp.ChatLinks
