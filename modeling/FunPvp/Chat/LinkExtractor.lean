/-
# The link filter

`LinkExtractor::IsValidMessage` goes through a chat message from pipe to pipe. Outside a link it
skips what is before the next pipe; inside one the commands must follow the sequence `cHhhr`, and
the letters read their data from the stream.

The stream is what is left of the message, and nothing once a read has met the end or failed, after
which no read gives anything. `commandChar` is not initialized, and keeps what is in its place when
it cannot be extracted: that is `garbage`.
-/
import FunPvp.Chat.ChatLink

namespace FunPvp.ChatLinks

open FunPvp.Lib

/-! ## 1. The stream -/

/-- `ignore`: up to `n` characters, or through the delimiter. -/
def ignore (n : ℕ) (delim : UInt8) (s : Bytes) : Option Bytes :=
  if n < (s.takeWhile (· ≠ delim)).length then some (s.drop n)
  else match s.dropWhile (· ≠ delim) with
    | [] => none
    | _ :: rest => some rest

/-- What `getline` ends with: the end of the stream, a full buffer, or the delimiter. -/
inductive Line
  | eof
  | full (buffer : Bytes)
  | found (buffer rest : Bytes)

def getline (n : ℕ) (delim : UInt8) (s : Bytes) : Line :=
  if n ≤ (s.takeWhile (· ≠ delim)).length then .full (s.take (n - 1))
  else match s.dropWhile (· ≠ delim) with
    | [] => .eof
    | _ :: rest => .found (s.takeWhile (· ≠ delim)) rest

def extractChar (garbage : UInt8) (s : Bytes) : UInt8 × Option Bytes :=
  match s.dropWhile isSpace with
  | [] => (garbage, none)
  | c :: rest => (c, some rest)

/-! ## 2. The loop -/

def validSequence : Bytes := chars ['c', 'H', 'h', 'h', 'r']

/-- The variables of the loop. `index` is `validSequenceIterator - validSequence`. -/
structure Scan where
  index : ℕ
  link : Option ChatLink
  color : UInt32
  stream : Option Bytes

def leave (index : ℕ) : Exit := .returns (index == 0)

section

variable (S : Stores)

/-- The case `'c'`. -/
def readColor (s : Scan) : Except Exit Scan :=
  match s.stream with
  | none => .error .rejected
  | some m =>
    match readHex 8 m with
    | .error e => .error e
    | .ok (color, rest) => .ok { s with color := color, stream := some rest }

/-- The case `'H'`. No type is as long as a full buffer. -/
def readData (s : Scan) : Except Exit Scan :=
  match s.stream with
  | none => .error .rejected
  | some m =>
    match getline 256 DELIMITER m with
    | .eof => .error .rejected
    | .full _ => .error .rejected
    | .found buffer rest =>
      match linkType buffer with
      | none => .error .rejected
      | some kind =>
        match kind.initializeFrom S s.color rest with
        | .error e => .error e
        | .ok (link, rest) => .ok { s with link := some link, stream := some rest }

def checkName (s : Scan) (buffer : Bytes) (stream : Option Bytes) : Except Exit Scan :=
  match s.link with
  | none => .error .rejected
  | some link =>
    match link.validateName S buffer with
    | .returns true => .ok { s with stream := stream }
    | e => .error e

/-- The case `'h'` before another `h`. -/
def readName (s : Scan) : Except Exit Scan :=
  match s.stream with
  | none => .error .rejected
  | some [] => .error .rejected
  | some (c :: m) =>
    if c = '['.toUInt8 then
      match getline 256 ']'.toUInt8 m with
      | .eof => .error .rejected
      | .full buffer => checkName S s buffer none
      | .found buffer rest => checkName S s buffer (some rest)
    else .error .rejected

/-- The `switch`. -/
def payload (s : Scan) (commandChar : UInt8) : Except Exit Scan :=
  if commandChar = 'c'.toUInt8 then readColor s
  else if commandChar = 'H'.toUInt8 then readData S s
  else if commandChar = 'h'.toUInt8 then
    if validSequence[s.index]? = some 'h'.toUInt8 then readName S s else .ok s
  else if commandChar = 'r'.toUInt8 then .ok s
  else if commandChar = PIPE_CHAR then .ok s
  else .error .rejected

/-- Where the sequence goes on behind the command, if it is allowed. -/
def advance (index : ℕ) (commandChar : UInt8) : Option ℕ :=
  if commandChar ≠ PIPE_CHAR then
    if validSequence[index]? = some commandChar then some (if index = 4 then 0 else index + 1)
    else none
  else if index ≠ 0 then none
  else some 0

def afterPipe (garbage : UInt8) (s : Scan) : Except Exit Scan :=
  match s.stream with
  | none => .error (leave s.index)
  | some [] => .error (leave s.index)
  | some (c :: m) =>
    if c = 0 then .error .rejected
    else
      match advance s.index (extractChar garbage (c :: m)).1 with
      | none => .error .rejected
      | some index =>
        payload S { s with index := index, stream := (extractChar garbage (c :: m)).2 }
          (extractChar garbage (c :: m)).1

def round (garbage : UInt8) (s : Scan) : Except Exit Scan :=
  match s.stream with
  | none => .error (leave s.index)
  | some m =>
    if s.index = 0 then
      afterPipe S garbage { s with link := none, stream := ignore 255 PIPE_CHAR m }
    else
      match m with
      | [] => .error .rejected
      | c :: rest =>
        if c = PIPE_CHAR then afterPipe S garbage { s with stream := some rest }
        else .error .rejected

def begin (msg : Bytes) : Scan where
  index := 0
  link := none
  color := 0
  stream := some msg

def isValidMessage (garbage : UInt8) (fuel : ℕ) (msg : Bytes) : Option Exit :=
  whileLoop (round S garbage) fuel (begin msg)

end

/-! ## 3. Reads -/

theorem ignore_cons {b : UInt8} {m : Bytes} (hb : b ≠ PIPE_CHAR) (hlength : (b :: m).length ≤ 255) :
    ignore 255 PIPE_CHAR (b :: m) = ignore 255 PIPE_CHAR m := by
  have hshort : ∀ s : Bytes, s.length ≤ 255 →
      ¬ 255 < (s.takeWhile (· ≠ PIPE_CHAR)).length := fun s hs =>
    not_lt.2 ((List.takeWhile_sublist _).length_le.trans hs)
  have hm : m.length ≤ 255 := by
    rw [List.length_cons] at hlength
    omega
  rw [ignore, ignore, if_neg (hshort _ hlength), if_neg (hshort _ hm),
    List.dropWhile_cons_of_pos (by simpa using hb)]

theorem ignore_pipe (m : Bytes) : ignore 255 PIPE_CHAR (PIPE_CHAR :: m) = some m := by
  simp [ignore]

theorem getline_found {delim : UInt8} {buffer rest : Bytes} (hbuffer : delim ∉ buffer)
    (hlength : (buffer ++ delim :: rest).length ≤ 255) :
    getline 256 delim (buffer ++ delim :: rest) = .found buffer rest := by
  have hall : ∀ c ∈ buffer, decide (c ≠ delim) = true := fun c hc => by
    rw [decide_eq_true_eq]
    rintro rfl
    exact hbuffer hc
  have hhead : ∀ c ∈ (delim :: rest).head?, decide (c ≠ delim) = false := fun c hc => by
    obtain rfl : delim = c := by simpa using hc
    simp
  rw [List.length_append] at hlength
  rw [getline, takeWhile_append_of_head hall hhead, dropWhile_append_of_head hall hhead,
    if_neg (by omega)]

theorem getline_cases (delim : UInt8) {s : Bytes} (hlength : s.length ≤ 255) :
    getline 256 delim s = .eof ∨ ∃ buffer rest, getline 256 delim s = .found buffer rest ∧
      s = buffer ++ delim :: rest ∧ delim ∉ buffer := by
  have hshort : ¬ 256 ≤ (s.takeWhile (· ≠ delim)).length := by
    have hle := (List.takeWhile_sublist (l := s) (· ≠ delim)).length_le
    omega
  cases hs : s.dropWhile (· ≠ delim) with
  | nil =>
    left
    rw [getline, if_neg hshort, hs]
  | cons c rest =>
    right
    have hc : c = delim := by
      have hhead := of_mem_head?_dropWhile (s := s) (p := (· ≠ delim)) (b := c) (by rw [hs]; rfl)
      simpa using hhead
    have hsplit : s.takeWhile (· ≠ delim) ++ c :: rest = s := by
      rw [← hs]
      exact List.takeWhile_append_dropWhile
    rw [hc] at hsplit
    refine ⟨s.takeWhile (· ≠ delim), rest, ?_, hsplit.symm, fun hmem => ?_⟩
    · rw [getline, if_neg hshort, hs]
    · have hne := List.mem_takeWhile_imp hmem
      simp at hne

/-! ## 4. Rounds -/

variable {S : Stores} {garbage : UInt8}

/-- The link of the round: outside a link it is `NULL`. -/
def Scan.linkOf (index : ℕ) (link : Option ChatLink) : Option ChatLink :=
  if index = 0 then none else link

theorem round_pipe (index : ℕ) (link : Option ChatLink) (color : UInt32) (m : Bytes) :
    round S garbage ⟨index, link, color, some (PIPE_CHAR :: m)⟩ =
      afterPipe S garbage ⟨index, Scan.linkOf index link, color, some m⟩ := by
  by_cases h : index = 0
  · simp only [round, Scan.linkOf, if_pos h, ignore_pipe]
  · simp only [round, Scan.linkOf, if_neg h, if_true]

theorem round_text {b : UInt8} {m : Bytes} (hb : b ≠ PIPE_CHAR) (hlength : (b :: m).length ≤ 255)
    (link : Option ChatLink) (color : UInt32) :
    round S garbage ⟨0, link, color, some (b :: m)⟩ =
      round S garbage ⟨0, link, color, some m⟩ := by
  simp only [round, ignore_cons hb hlength, if_true]

theorem round_lone (index : ℕ) (link : Option ChatLink) (color : UInt32) :
    round S garbage ⟨index, link, color, some [PIPE_CHAR]⟩ = .error (leave index) := by
  rw [round_pipe]
  rfl

def Gap (g : Bytes) : Prop := ∀ c ∈ g, isSpace c

def Command (c : UInt8) (gap m rest : Bytes) : Prop := Gap gap ∧ m = PIPE_CHAR :: (gap ++ c :: rest)

theorem ne_zero_of_isSpace {c : UInt8} (h : isSpace c) : c ≠ 0 := by
  rintro rfl
  exact absurd h (by decide)

theorem advance_zero (index : ℕ) : advance index 0 = none := by
  have hnot : validSequence[index]? ≠ some 0 := fun h =>
    absurd (List.mem_of_getElem? h) (by decide)
  rw [advance, if_pos (by decide), if_neg hnot]

theorem round_command {c : UInt8} {gap m rest : Bytes} (hcommand : Command c gap m rest)
    (hspace : isSpace c = false) (index : ℕ) (link : Option ChatLink) (color : UInt32) :
    round S garbage ⟨index, link, color, some m⟩ = match advance index c with
      | none => .error .rejected
      | some index' => payload S ⟨index', Scan.linkOf index link, color, some rest⟩ c := by
  obtain ⟨hgap, rfl⟩ := hcommand
  have hextract : extractChar garbage (gap ++ c :: rest) = (c, some rest) := by
    have hhead : ∀ b ∈ (c :: rest).head?, isSpace b = false := fun b hb => by
      obtain rfl : c = b := by simpa using hb
      exact hspace
    rw [extractChar, dropWhile_append_of_head hgap hhead]
  rw [round_pipe]
  cases gap with
  | nil =>
    rw [List.nil_append] at hextract ⊢
    by_cases hzero : c = 0
    · subst hzero
      simp only [afterPipe, if_true, advance_zero]
    · simp only [afterPipe, if_neg hzero, hextract]
  | cons b gap =>
    rw [List.cons_append] at hextract ⊢
    simp only [afterPipe, if_neg (ne_zero_of_isSpace (hgap b List.mem_cons_self)), hextract]

theorem round_gap {gap : Bytes} (hgap : Gap gap) (hne : gap ≠ []) (index : ℕ)
    (link : Option ChatLink) (color : UInt32) :
    round S garbage ⟨index, link, color, some (PIPE_CHAR :: gap)⟩ =
      match advance index garbage with
      | none => .error .rejected
      | some index' => payload S ⟨index', Scan.linkOf index link, color, none⟩ garbage := by
  have hextract : extractChar garbage gap = (garbage, none) := by
    rw [extractChar, List.dropWhile_eq_nil_iff.2 hgap]
  rw [round_pipe]
  cases gap with
  | nil => exact absurd rfl hne
  | cons b gap =>
    simp only [afterPipe, if_neg (ne_zero_of_isSpace (hgap b List.mem_cons_self)), hextract]

theorem gap_or_command (m : Bytes) :
    m = [] ∨ (m ≠ [] ∧ Gap m) ∨
      ∃ gap c rest, isSpace c = false ∧ Command c gap (PIPE_CHAR :: m) rest := by
  cases hm : m.dropWhile isSpace with
  | nil =>
    have hgap : Gap m := List.dropWhile_eq_nil_iff.1 hm
    by_cases hne : m = []
    · exact Or.inl hne
    · exact Or.inr (Or.inl ⟨hne, hgap⟩)
  | cons c rest =>
    refine Or.inr (Or.inr ⟨m.takeWhile isSpace, c, rest, ?_, fun b hb =>
      List.mem_takeWhile_imp hb, ?_⟩)
    · exact of_mem_head?_dropWhile (s := m) (by rw [hm]; rfl)
    · rw [← hm, List.takeWhile_append_dropWhile]

theorem advance_start {c : UInt8} (hpipe : c ≠ PIPE_CHAR) (hc : c ≠ 'c'.toUInt8) :
    advance 0 c = none := by
  have hnot : validSequence[0]? ≠ some c := fun h => hc (Option.some.inj h).symm
  rw [advance, if_pos hpipe, if_neg hnot]

theorem round_expect (S : Stores) (garbage : UInt8) {index : ℕ} {x : UInt8}
    (hx : validSequence[index]? = some x) (hindex : index ≠ 0) (link : Option ChatLink)
    (color : UInt32) (m : Bytes) :
    round S garbage ⟨index, link, color, some m⟩ = .error .rejected ∨
      (∃ gap rest, Command x gap m rest) ∨
        ∃ gap, Gap gap ∧ gap ≠ [] ∧ m = PIPE_CHAR :: gap ∧ garbage = x := by
  have hother : ∀ c, c ≠ x → advance index c = none := fun c hc => by
    rw [advance, hx, if_pos hindex, if_neg fun h => hc (Option.some.inj h).symm]
    split <;> rfl
  cases m with
  | nil => exact Or.inl (by simp only [round, if_neg hindex])
  | cons b m =>
    by_cases hb : b = PIPE_CHAR
    · subst hb
      rcases gap_or_command m with rfl | ⟨hne, hgap⟩ | ⟨gap, c, rest, hspace, hcommand⟩
      · left
        rw [round_lone, leave, beq_eq_false_iff_ne.2 hindex]
      · by_cases hgarbage : garbage = x
        · exact Or.inr (Or.inr ⟨m, hgap, hne, rfl, hgarbage⟩)
        · left
          rw [round_gap hgap hne, hother garbage hgarbage]
      · by_cases hc : c = x
        · exact Or.inr (Or.inl ⟨gap, rest, hc ▸ hcommand⟩)
        · left
          rw [round_command hcommand hspace, hother c hc]
    · exact Or.inl (by simp only [round, if_neg hindex, if_neg hb])

theorem Command.length_lt {c : UInt8} {gap m rest : Bytes} (h : Command c gap m rest) :
    rest.length < m.length := by
  rw [h.2]
  simp
  omega

theorem Command.unique {c c' : UInt8} {gap gap' m rest rest' : Bytes} (h : Command c gap m rest)
    (h' : Command c' gap' m rest') (hc : isSpace c = false) (hc' : isSpace c' = false) :
    c = c' ∧ gap = gap' ∧ rest = rest' := by
  obtain ⟨hgap, rfl⟩ := h
  obtain ⟨hgap', heq⟩ := h'
  have heq : gap ++ c :: rest = gap' ++ c' :: rest' := (List.cons.inj heq).2
  have hhead : ∀ b ∈ (c :: rest).head?, isSpace b = false := fun b hb => by
    obtain rfl : c = b := by simpa using hb
    exact hc
  have hhead' : ∀ b ∈ (c' :: rest').head?, isSpace b = false := fun b hb => by
    obtain rfl : c' = b := by simpa using hb
    exact hc'
  have htake := congrArg (List.takeWhile isSpace) heq
  have hdrop := congrArg (List.dropWhile isSpace) heq
  rw [takeWhile_append_of_head hgap hhead, takeWhile_append_of_head hgap' hhead'] at htake
  rw [dropWhile_append_of_head hgap hhead, dropWhile_append_of_head hgap' hhead'] at hdrop
  obtain ⟨h₁, h₂⟩ := List.cons.inj hdrop
  exact ⟨h₁, htake, h₂⟩

theorem line_unique {delim : UInt8} {line line' rest rest' : Bytes} (hline : delim ∉ line)
    (hline' : delim ∉ line') (h : line ++ delim :: rest = line' ++ delim :: rest') :
    line = line' ∧ rest = rest' := by
  have hall : ∀ line : Bytes, delim ∉ line → ∀ c ∈ line, decide (c ≠ delim) = true :=
    fun line hline c hc => by
      rw [decide_eq_true_eq]
      rintro rfl
      exact hline hc
  have hhead : ∀ rest : Bytes, ∀ c ∈ (delim :: rest).head?, decide (c ≠ delim) = false :=
    fun rest c hc => by
      obtain rfl : delim = c := by simpa using hc
      simp
  have htake := congrArg (List.takeWhile fun c => decide (c ≠ delim)) h
  rw [takeWhile_append_of_head (hall line hline) (hhead rest),
    takeWhile_append_of_head (hall line' hline') (hhead rest')] at htake
  subst htake
  exact ⟨rfl, (List.cons.inj (List.append_cancel_left h)).2⟩

theorem Command.not_gap {c : UInt8} {gap g rest : Bytes} (h : Command c gap (PIPE_CHAR :: g) rest)
    (hc : isSpace c = false) : ¬ Gap g := by
  intro hg
  have hspace := hg c (by rw [(List.cons.inj h.2).2]; simp)
  rw [hc] at hspace
  exact absurd hspace (by decide)

end FunPvp.ChatLinks
