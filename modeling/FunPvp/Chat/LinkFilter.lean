/-
# What the link filter lets through

A message is well formed if it is made of text without pipes, escaped pipes, and complete links,
`WellFormed`. The filter reads more loosely: `Loose` is what it accepts, with a flag that is set
where a message is read in a way that the form does not allow. `Stuck` is where the filter does not
come back: the data of a trade link that no pipe ends (`careful_initializeFrom`), and the name of a
spell of a profession that is the name of the profession.

`meets_iff` says that these are all the ways to go wrong.
-/
import FunPvp.Chat.LinkExtractor

namespace FunPvp.ChatLinks

open FunPvp.Lib

variable {S : Stores} {garbage : UInt8}

/-! ## 1. Well formed messages -/

structure CompleteLink (S : Stores) where
  digits : Bytes
  type : Bytes
  kind : LinkType
  data : Bytes
  link : ChatLink
  name : Bytes
  digits_length : digits.length = 8
  isDigit_of_mem : ∀ c ∈ digits, isDigit 16 c
  type_known : linkType type = some kind
  data_notPipe : ∀ c ∈ data, NotPipe c
  /-- All of the data is read where a pipe follows. -/
  data_read : kind.initializeFrom S (UInt32.ofNat (ofDigits 16 digits)) (data ++ [PIPE_CHAR]) =
    .ok (link, [PIPE_CHAR])
  name_notPipe : ∀ c ∈ name, NotPipe c
  name_notBracket : ']'.toUInt8 ∉ name
  name_accepted : link.validateName S name = .returns true

def CompleteLink.text (l : CompleteLink S) : Bytes :=
  chars ['|', 'c'] ++ l.digits ++ chars ['|', 'H'] ++ l.type ++ chars [':'] ++ l.data ++
    chars ['|', 'h', '['] ++ l.name ++ chars [']', '|', 'h', '|', 'r']

/-- **A well formed message.** -/
inductive WellFormed (S : Stores) : Bytes → Prop
  | empty : WellFormed S []
  | text {b : UInt8} {m : Bytes} (hb : b ≠ PIPE_CHAR) (h : WellFormed S m) : WellFormed S (b :: m)
  | escaped {m : Bytes} (h : WellFormed S m) : WellFormed S (PIPE_CHAR :: PIPE_CHAR :: m)
  | link (l : CompleteLink S) {m : Bytes} (h : WellFormed S m) : WellFormed S (l.text ++ m)

/-! ## 2. What is read -/

/-- A link is read up to its data. The flag is set if there are spaces behind a pipe, or the color
is not eight digits. -/
inductive DataAt : Bool → Bytes → LinkType → UInt32 → Bytes → Prop
  | mk {gap gap' m r r' type rest : Bytes} {color : UInt32} {kind : LinkType}
      (hc : Command 'c'.toUInt8 gap m r) (hcolor : readHex 8 r = .ok (color, r'))
      (hH : Command 'H'.toUInt8 gap' r' (type ++ DELIMITER :: rest))
      (hkind : linkType type = some kind) :
      DataAt (!gap.isEmpty || !(r.take 8).all (isDigit 16) || !gap'.isEmpty) m kind color rest

/-- A link is read up to behind its name. The flag is set too if there is a pipe in the name. -/
inductive NameAt (S : Stores) : Bool → Bytes → ChatLink → Bytes → Bytes → Prop
  | mk {k : Bool} {gap m r r' name rest : Bytes} {color : UInt32} {kind : LinkType}
      {link : ChatLink} (hdata : DataAt k m kind color r)
      (hread : kind.initializeFrom S color r = .ok (link, r'))
      (hh : Command 'h'.toUInt8 gap r' ('['.toUInt8 :: (name ++ ']'.toUInt8 :: rest)))
      (hname : ']'.toUInt8 ∉ name) :
      NameAt S (k || !gap.isEmpty || name.contains PIPE_CHAR) m link name rest

inductive LinkAt (S : Stores) : Bool → Bytes → Bytes → Prop
  | mk {k : Bool} {gap gap' m r r' name rest : Bytes} {link : ChatLink}
      (hname : NameAt S k m link name r) (hvalid : link.validateName S name = .returns true)
      (hh : Command 'h'.toUInt8 gap r r') (hr : Command 'r'.toUInt8 gap' r' rest) :
      LinkAt S (k || !gap.isEmpty || !gap'.isEmpty) m rest

/-- A link is read up to its last pipe, behind which there are only spaces. -/
inductive OpenLink (S : Stores) : Bytes → Prop
  | mk {k : Bool} {gap gap' m r name : Bytes} {link : ChatLink}
      (hname : NameAt S k m link name r) (hvalid : link.validateName S name = .returns true)
      (hh : Command 'h'.toUInt8 gap r (PIPE_CHAR :: gap')) (hgap : Gap gap') (hne : gap' ≠ []) :
      OpenLink S m

/-- **What the filter accepts.**  The flag says that the form does not allow it. -/
inductive Loose (S : Stores) : Bool → Bytes → Prop
  | empty : Loose S false []
  | text {k : Bool} {b : UInt8} {m : Bytes} (hb : b ≠ PIPE_CHAR) (h : Loose S k m) :
      Loose S k (b :: m)
  | escaped {k : Bool} {gap m rest : Bytes} (hp : Command PIPE_CHAR gap m rest)
      (h : Loose S k rest) : Loose S (k || !gap.isEmpty) m
  | link {k k' : Bool} {m rest : Bytes} (hl : LinkAt S k' m rest) (h : Loose S k rest) :
      Loose S (k || k') m
  | lonePipe {gap : Bytes} (hgap : Gap gap) : Loose S true (PIPE_CHAR :: gap)
  | openLink {m : Bytes} (ho : OpenLink S m) : Loose S true m

/-- **Where the filter does not come back.** -/
inductive Stuck (S : Stores) : Bytes → Prop
  | text {b : UInt8} {m : Bytes} (hb : b ≠ PIPE_CHAR) (h : Stuck S m) : Stuck S (b :: m)
  | escaped {gap m rest : Bytes} (hp : Command PIPE_CHAR gap m rest) (h : Stuck S rest) :
      Stuck S m
  | link {k : Bool} {m rest : Bytes} (hl : LinkAt S k m rest) (h : Stuck S rest) : Stuck S m
  | data {k : Bool} {m rest : Bytes} {color : UInt32} {kind : LinkType}
      (hdata : DataAt k m kind color rest)
      (hread : kind.initializeFrom S color rest = .error .stuck) : Stuck S m
  | name {k : Bool} {m name rest : Bytes} {link : ChatLink} (hname : NameAt S k m link name rest)
      (hvalid : link.validateName S name = .stuck) : Stuck S m

/-! ## 3. Lengths, and what ends a link -/

variable {kind : LinkType} {color : UInt32} {link : ChatLink}

theorem delimiter_notMem {type : Bytes} (h : linkType type = some kind) :
    DELIMITER ∉ type := by
  rw [linkType] at h
  split_ifs at h with h₁ h₂ h₃ h₄ h₅ h₆ h₇ h₈
  · exact h₁ ▸ by decide
  · exact h₂ ▸ by decide
  · exact h₃ ▸ by decide
  · exact h₄ ▸ by decide
  · exact h₅ ▸ by decide
  · exact h₆ ▸ by decide
  · exact h₇ ▸ by decide
  · exact h₈ ▸ by decide

theorem length_le_of_read {α : Type} {f : ByteReader α} (hf : LooksAhead NotPipe f) {s rest : Bytes}
    {v : α} (h : f s = .ok (v, rest)) : rest.length ≤ s.length := by
  obtain ⟨used, rfl, -, -⟩ := hf s v rest h
  simp

theorem DataAt.length_lt {k : Bool} {m rest : Bytes}
    (h : DataAt k m kind color rest) : rest.length < m.length := by
  obtain ⟨hc, hcolor, hH, -⟩ := h
  have h₁ := hc.length_lt
  have h₂ := length_le_of_read (looksAhead_readHex 8) hcolor
  have h₃ := hH.length_lt
  simp only [List.length_append, List.length_cons] at h₃
  omega

theorem NameAt.length_lt {k : Bool} {m name rest : Bytes}
    (h : NameAt S k m link name rest) : rest.length < m.length := by
  obtain ⟨hdata, hread, hh, -⟩ := h
  have h₁ := hdata.length_lt
  have h₂ := length_le_of_read (careful_initializeFrom S _ _).ahead hread
  have h₃ := hh.length_lt
  simp only [List.length_append, List.length_cons] at h₃
  omega

theorem LinkAt.length_lt {k : Bool} {m rest : Bytes} (h : LinkAt S k m rest) :
    rest.length < m.length := by
  obtain ⟨hname, -, hh, hr⟩ := h
  have h₁ := hname.length_lt
  have h₂ := hh.length_lt
  have h₃ := hr.length_lt
  omega

/-! ## 4. The rounds of a link -/

theorem round_c {gap m r rest : Bytes} (hc : Command 'c'.toUInt8 gap m r)
    (hcolor : readHex 8 r = .ok (color, rest)) (link : Option ChatLink) (color₀ : UInt32) :
    round S garbage ⟨0, link, color₀, some m⟩ = .ok ⟨1, none, color, some rest⟩ := by
  rw [round_command hc (by decide)]
  change readColor ⟨1, none, color₀, some r⟩ = _
  simp only [readColor, hcolor]

theorem round_H (S : Stores) (garbage : UInt8) {gap m type rest : Bytes} {kind : LinkType}
    (hH : Command 'H'.toUInt8 gap m (type ++ DELIMITER :: rest)) (hkind : linkType type = some kind)
    (hlength : m.length ≤ 255) (link : Option ChatLink) (color : UInt32) :
    round S garbage ⟨1, link, color, some m⟩ = match kind.initializeFrom S color rest with
      | .error e => .error e
      | .ok (link, rest) => .ok ⟨2, some link, color, some rest⟩ := by
  have hline : getline 256 DELIMITER (type ++ DELIMITER :: rest) = .found type rest :=
    getline_found (delimiter_notMem hkind) (hH.length_lt.le.trans hlength)
  rw [round_command hH (by decide)]
  change readData S ⟨2, link, color, some (type ++ DELIMITER :: rest)⟩ = _
  cases hread : kind.initializeFrom S color rest with
  | error e => simp only [readData, hline, hkind, hread]
  | ok q => simp only [readData, hline, hkind, hread]

theorem round_h (S : Stores) (garbage : UInt8) {gap m name rest : Bytes}
    (hh : Command 'h'.toUInt8 gap m ('['.toUInt8 :: (name ++ ']'.toUInt8 :: rest)))
    (hname : ']'.toUInt8 ∉ name) (hlength : m.length ≤ 255) (link : ChatLink) (color : UInt32) :
    round S garbage ⟨2, some link, color, some m⟩ = match link.validateName S name with
      | .returns true => .ok ⟨3, some link, color, some rest⟩
      | e => .error e := by
  have hline : getline 256 ']'.toUInt8 (name ++ ']'.toUInt8 :: rest) = .found name rest := by
    refine getline_found hname ?_
    have hshort := hh.length_lt
    rw [List.length_cons] at hshort
    omega
  rw [round_command hh (by decide)]
  change readName S ⟨3, some link, color, some ('['.toUInt8 :: (name ++ ']'.toUInt8 :: rest))⟩ = _
  match hvalid : link.validateName S name with
  | .returns true => simp only [readName, if_true, hline, checkName, hvalid]
  | .returns false => simp only [readName, if_true, hline, checkName, hvalid]
  | .stuck => simp only [readName, if_true, hline, checkName, hvalid]

theorem round_h' {gap m rest : Bytes} (hh : Command 'h'.toUInt8 gap m rest)
    (link : Option ChatLink) (color : UInt32) :
    round S garbage ⟨3, link, color, some m⟩ = .ok ⟨4, link, color, some rest⟩ := by
  rw [round_command hh (by decide)]
  rfl

theorem round_r {gap m rest : Bytes} (hr : Command 'r'.toUInt8 gap m rest)
    (link : Option ChatLink) (color : UInt32) :
    round S garbage ⟨4, link, color, some m⟩ = .ok ⟨0, link, color, some rest⟩ := by
  rw [round_command hr (by decide)]
  rfl

theorem round_escaped {gap m rest : Bytes} (hp : Command PIPE_CHAR gap m rest)
    (link : Option ChatLink) (color : UInt32) :
    round S garbage ⟨0, link, color, some m⟩ = .ok ⟨0, none, color, some rest⟩ := by
  rw [round_command hp (by decide)]
  rfl

theorem gives_empty (link : Option ChatLink) (color : UInt32) :
    Gives (round S garbage) ⟨0, link, color, some []⟩ (.returns true) :=
  .leave rfl

variable {k : Bool} {m rest : Bytes} {e : Exit}

theorem DataAt.gives (h : DataAt k m kind color rest)
    (hlength : m.length ≤ 255) (link₀ : Option ChatLink) (color₀ : UInt32) :
    (kind.initializeFrom S color rest = .error e →
      Gives (round S garbage) ⟨0, link₀, color₀, some m⟩ e) ∧
    ∀ link r, kind.initializeFrom S color rest = .ok (link, r) →
      Gives (round S garbage) ⟨2, some link, color, some r⟩ e →
        Gives (round S garbage) ⟨0, link₀, color₀, some m⟩ e := by
  obtain ⟨hc, hcolor, hH, hkind⟩ := h
  have hshort := length_le_of_read (looksAhead_readHex 8) hcolor
  have hround := round_H S garbage hH hkind
    (by have := hc.length_lt; omega) none color
  refine ⟨fun hread => ?_, fun link r hread hnext => ?_⟩
  · rw [hread] at hround
    exact .next (round_c hc hcolor link₀ color₀) (.leave hround)
  · rw [hread] at hround
    exact .next (round_c hc hcolor link₀ color₀) (.next hround hnext)

theorem NameAt.gives {name : Bytes} (h : NameAt S k m link name rest)
    (hlength : m.length ≤ 255) (link₀ : Option ChatLink) (color₀ : UInt32) :
    (link.validateName S name = e → e ≠ .returns true →
      Gives (round S garbage) ⟨0, link₀, color₀, some m⟩ e) ∧
    (link.validateName S name = .returns true →
      (∀ color, Gives (round S garbage) ⟨3, some link, color, some rest⟩ e) →
        Gives (round S garbage) ⟨0, link₀, color₀, some m⟩ e) := by
  obtain @⟨_, _, _, _, _, _, _, color, _, _, hdata, hread, hh, hname⟩ := h
  have h₁ := hdata.length_lt
  have h₂ := length_le_of_read (careful_initializeFrom S _ _).ahead hread
  have hround := fun color => round_h S garbage hh hname (by omega) link color
  refine ⟨fun hvalid hne => ?_, fun hvalid hnext => ?_⟩
  · refine (hdata.gives hlength link₀ color₀).2 _ _ hread (.leave ?_)
    rw [hround, hvalid]
    match e, hne with
    | .returns false, _ => rfl
    | .stuck, _ => rfl
  · refine (hdata.gives hlength link₀ color₀).2 _ _ hread (.next ?_ (hnext color))
    rw [hround, hvalid]

theorem LinkAt.gives (h : LinkAt S k m rest) (hlength : m.length ≤ 255) (link₀ : Option ChatLink)
    (color₀ : UInt32)
    (hnext : ∀ link color, Gives (round S garbage) ⟨0, link, color, some rest⟩ e) :
    Gives (round S garbage) ⟨0, link₀, color₀, some m⟩ e := by
  obtain ⟨hname, hvalid, hh, hr⟩ := h
  refine (hname.gives hlength link₀ color₀).2 hvalid fun color => ?_
  exact .next (round_h' hh _ color) (.next (round_r hr _ color) (hnext _ color))

/-! ## 5. What the filter accepts, and where it is stuck -/

theorem Loose.accepted (h : Loose S k m) (hlength : m.length ≤ 255) :
    ∃ garbage, ∀ link color,
      Gives (round S garbage) ⟨0, link, color, some m⟩ (.returns true) := by
  induction h with
  | empty => exact ⟨0, gives_empty⟩
  | text hb h ih =>
    obtain ⟨garbage, hgives⟩ := ih (by rw [List.length_cons] at hlength; omega)
    exact ⟨garbage, fun link color => .congr (round_text hb hlength link color) (hgives link color)⟩
  | escaped hp h ih =>
    obtain ⟨garbage, hgives⟩ := ih (hp.length_lt.le.trans hlength)
    exact ⟨garbage, fun link color => .next (round_escaped hp link color) (hgives none color)⟩
  | link hl h ih =>
    obtain ⟨garbage, hgives⟩ := ih (hl.length_lt.le.trans hlength)
    exact ⟨garbage, fun link color => hl.gives hlength link color hgives⟩
  | @lonePipe gap hgap =>
    by_cases hne : gap = []
    · subst hne
      exact ⟨0, fun link color => .leave (round_lone 0 link color)⟩
    · refine ⟨PIPE_CHAR, fun link color => ?_⟩
      have hround : round S PIPE_CHAR ⟨0, link, color, some (PIPE_CHAR :: gap)⟩ =
          .ok ⟨0, none, color, none⟩ := by
        rw [round_gap hgap hne]
        rfl
      exact .next hround (.leave rfl)
  | openLink ho =>
    obtain ⟨hname, hvalid, hh, hgap, hne⟩ := ho
    refine ⟨'r'.toUInt8, fun link₀ color₀ =>
      (hname.gives hlength link₀ color₀).2 hvalid fun color => ?_⟩
    have hround : ∀ link, round S 'r'.toUInt8 ⟨4, link, color, some (PIPE_CHAR :: _)⟩ =
        .ok ⟨0, link, color, none⟩ := fun link => by
      rw [round_gap hgap hne]
      rfl
    exact .next (round_h' hh _ color) (.next (hround _) (.leave rfl))

theorem Stuck.gives (h : Stuck S m) (hlength : m.length ≤ 255) (link : Option ChatLink)
    (color : UInt32) : Gives (round S garbage) ⟨0, link, color, some m⟩ .stuck := by
  induction h generalizing link color with
  | text hb h ih =>
    refine .congr (round_text hb hlength link color) (ih ?_ link color)
    rw [List.length_cons] at hlength
    omega
  | escaped hp h ih =>
    exact .next (round_escaped hp link color) (ih (hp.length_lt.le.trans hlength) none color)
  | link hl h ih =>
    exact hl.gives hlength link color (ih (hl.length_lt.le.trans hlength))
  | data hdata hread => exact (hdata.gives hlength link color).1 hread
  | name hname hvalid => exact (hname.gives hlength link color).1 hvalid (by simp)

/-! ## 6. Every message is judged -/

/-- From here the filter comes to a result, and `Stuck` or `Loose` says how. -/
def Judged (S : Stores) (garbage : UInt8) (s : Scan) (m : Bytes) : Prop :=
  ∃ e, Gives (round S garbage) s e ∧ (e = .stuck → Stuck S m) ∧
    (e = .returns true → ∃ k, Loose S k m)

namespace Judged

theorem next {s s' : Scan} (h : round S garbage s = .ok s') (hs' : Judged S garbage s' m) :
    Judged S garbage s m := by
  obtain ⟨e, hgives, hjudged⟩ := hs'
  exact ⟨e, .next h hgives, hjudged⟩

theorem reject {s : Scan} (h : round S garbage s = .error .rejected) : Judged S garbage s m :=
  ⟨.rejected, .leave h, by simp, by simp⟩

theorem ended {index : ℕ} {link : Option ChatLink} {color : UInt32} (hindex : index ≠ 0) :
    Judged S garbage ⟨index, link, color, none⟩ m := by
  refine reject ?_
  change Except.error (leave index) = _
  rw [leave, beq_eq_false_iff_ne.2 hindex]

/-- What follows is judged, whatever the link and the color of the last. -/
def Next (S : Stores) (garbage : UInt8) (m : Bytes) : Prop :=
  ∀ m', m'.length < m.length → ∀ link color, Judged S garbage ⟨0, link, color, some m'⟩ m'

variable {gap r r' name : Bytes} {link : ChatLink} {color : UInt32} {kind : LinkType}

theorem of_r (hnext : Next S garbage m) (hname : NameAt S k m link name r)
    (hvalid : link.validateName S name = .returns true) (hh : Command 'h'.toUInt8 gap r r')
    (link' : Option ChatLink) : Judged S garbage ⟨4, link', color, some r'⟩ m := by
  rcases round_expect S garbage (rfl : validSequence[4]? = some 'r'.toUInt8) (by decide)
      link' color r' with
    hreject | ⟨gap', rest, hr⟩ | ⟨gap', hgap, hne, rfl, rfl⟩
  · exact reject hreject
  · have hl : LinkAt S _ m rest := ⟨hname, hvalid, hh, hr⟩
    obtain ⟨e, hgives, hstuck, haccepted⟩ := hnext rest hl.length_lt link' color
    refine ⟨e, .next (round_r hr link' color) hgives, fun he => .link hl (hstuck he), fun he => ?_⟩
    obtain ⟨k, hk⟩ := haccepted he
    exact ⟨_, .link hl hk⟩
  · have hround : round S 'r'.toUInt8 ⟨4, link', color, some (PIPE_CHAR :: gap')⟩ =
        .ok ⟨0, link', color, none⟩ := by
      rw [round_gap hgap hne]
      rfl
    exact ⟨.returns true, .next hround (.leave rfl), by simp, fun _ =>
      ⟨true, .openLink ⟨hname, hvalid, hh, hgap, hne⟩⟩⟩

theorem of_h' (hnext : Next S garbage m) (hname : NameAt S k m link name r)
    (hvalid : link.validateName S name = .returns true) (link' : Option ChatLink) :
    Judged S garbage ⟨3, link', color, some r⟩ m := by
  rcases round_expect S garbage (rfl : validSequence[3]? = some 'h'.toUInt8) (by decide)
      link' color r with
    hreject | ⟨gap, rest, hh⟩ | ⟨gap, hgap, hne, rfl, rfl⟩
  · exact reject hreject
  · exact next (round_h' hh link' color) (of_r hnext hname hvalid hh link')
  · have hround : round S 'h'.toUInt8 ⟨3, link', color, some (PIPE_CHAR :: gap)⟩ =
        .ok ⟨4, link', color, none⟩ := by
      rw [round_gap hgap hne]
      rfl
    exact next hround (ended (by decide))

theorem of_h (hnext : Next S garbage m) (hlength : r'.length ≤ 255)
    (hdata : DataAt k m kind color r) (hread : kind.initializeFrom S color r = .ok (link, r')) :
    Judged S garbage ⟨2, some link, color, some r'⟩ m := by
  rcases round_expect S garbage (rfl : validSequence[2]? = some 'h'.toUInt8) (by decide)
      (some link) color r' with
    hreject | ⟨gap, rest, hh⟩ | ⟨gap, hgap, hne, rfl, rfl⟩
  · exact reject hreject
  · have hround : round S garbage ⟨2, some link, color, some r'⟩ =
        readName S ⟨3, some link, color, some rest⟩ := by
      rw [round_command hh (by decide)]
      rfl
    match rest, hh, hround with
    | [], _, hround => exact reject hround
    | c :: rest, hh, hround =>
      by_cases hc : c = '['.toUInt8
      · subst hc
        have hshort := hh.length_lt
        rw [List.length_cons] at hshort
        rcases getline_cases ']'.toUInt8 (s := rest) (by omega) with
          hline | ⟨name, rest, hline, rfl, hname⟩
        · refine reject (hround.trans ?_)
          simp only [readName, if_true, hline]
        · have hn : NameAt S _ m link name rest := ⟨hdata, hread, hh, hname⟩
          have hround := round_h S garbage hh hname hlength link color
          match hvalid : link.validateName S name with
          | .returns true =>
            rw [hvalid] at hround
            exact next hround (of_h' hnext hn hvalid (some link))
          | .returns false =>
            rw [hvalid] at hround
            exact reject hround
          | .stuck =>
            rw [hvalid] at hround
            exact ⟨.stuck, .leave hround, fun _ => .name hn hvalid, by simp⟩
      · refine reject (hround.trans ?_)
        simp only [readName, if_neg hc]
  · refine reject ?_
    rw [round_gap hgap hne]
    rfl

theorem of_H (hnext : Next S garbage m) (hlength : r'.length ≤ 255)
    (hc : Command 'c'.toUInt8 gap m r) (hcolor : readHex 8 r = .ok (color, r'))
    (link' : Option ChatLink) : Judged S garbage ⟨1, link', color, some r'⟩ m := by
  rcases round_expect S garbage (rfl : validSequence[1]? = some 'H'.toUInt8) (by decide)
      link' color r' with
    hreject | ⟨gap', rest, hH⟩ | ⟨gap', hgap, hne, rfl, rfl⟩
  · exact reject hreject
  · have hround : round S garbage ⟨1, link', color, some r'⟩ =
        readData S ⟨2, link', color, some rest⟩ := by
      rw [round_command hH (by decide)]
      rfl
    have hshort := hH.length_lt
    rcases getline_cases DELIMITER (s := rest) (by omega) with
      hline | ⟨type, rest, hline, rfl, -⟩
    · refine reject (hround.trans ?_)
      simp only [readData, hline]
    · cases hkind : linkType type with
      | none =>
        refine reject (hround.trans ?_)
        simp only [readData, hline, hkind]
      | some kind =>
        have hdata : DataAt _ m kind color rest := ⟨hc, hcolor, hH, hkind⟩
        have hround := round_H S garbage hH hkind hlength link' color
        cases hread : kind.initializeFrom S color rest with
        | error e =>
          rw [hread] at hround
          refine ⟨e, .leave hround, fun he => .data hdata (he ▸ hread), fun he => ?_⟩
          exact absurd he ((careful_initializeFrom S color kind).stops rest e hread)
        | ok q =>
          rw [hread] at hround
          have hle := length_le_of_read (careful_initializeFrom S color kind).ahead hread
          rw [List.length_append, List.length_cons] at hshort
          exact next hround (of_h hnext (by omega) hdata hread)
  · refine reject ?_
    rw [round_gap hgap hne]
    rfl

theorem of_gap (hgap : Gap gap) (hne : gap ≠ []) (link' : Option ChatLink) (color : UInt32) :
    Judged S garbage ⟨0, link', color, some (PIPE_CHAR :: gap)⟩ (PIPE_CHAR :: gap) := by
  have hround := @round_gap S garbage gap hgap hne 0 link' color
  by_cases hpipe : garbage = PIPE_CHAR
  · subst hpipe
    exact ⟨.returns true, .next hround (.leave rfl), by simp, fun _ => ⟨true, .lonePipe hgap⟩⟩
  · by_cases hc : garbage = 'c'.toUInt8
    · subst hc
      exact reject hround
    · rw [advance_start hpipe hc] at hround
      exact reject hround

end Judged

theorem judged {m : Bytes} (hlength : m.length ≤ 255) (link : Option ChatLink) (color : UInt32) :
    Judged S garbage ⟨0, link, color, some m⟩ m := by
  induction hm : m.length using Nat.strong_induction_on generalizing m link color with
  | _ n ih =>
    subst hm
    have hnext : Judged.Next S garbage m := fun m' hlt link color =>
      ih m'.length hlt (hlt.le.trans hlength) link color rfl
    cases m with
    | nil => exact ⟨.returns true, gives_empty link color, by simp, fun _ => ⟨false, .empty⟩⟩
    | cons b m =>
      by_cases hb : b = PIPE_CHAR
      · subst hb
        rcases gap_or_command m with rfl | ⟨hne, hgap⟩ | ⟨gap, c, rest, hspace, hcommand⟩
        · exact ⟨.returns true, .leave (round_lone 0 link color), by simp, fun _ =>
            ⟨true, .lonePipe (by simp [Gap])⟩⟩
        · exact .of_gap hgap hne link color
        · by_cases hpipe : c = PIPE_CHAR
          · subst hpipe
            obtain ⟨e, hgives, hstuck, haccepted⟩ := hnext rest hcommand.length_lt none color
            refine ⟨e, .next (round_escaped hcommand link color) hgives,
              fun he => .escaped hcommand (hstuck he), fun he => ?_⟩
            obtain ⟨k, hk⟩ := haccepted he
            exact ⟨_, .escaped hcommand hk⟩
          · by_cases hc : c = 'c'.toUInt8
            · subst hc
              cases hcolor : readHex 8 rest with
              | error e =>
                obtain rfl := rejects_readHex 8 rest e hcolor
                refine .reject ?_
                rw [round_command hcommand hspace]
                change readColor ⟨1, none, color, some rest⟩ = _
                simp only [readColor, hcolor]
              | ok q =>
                have hle := length_le_of_read (looksAhead_readHex 8) hcolor
                have hlt := hcommand.length_lt
                exact .next (round_c hcommand hcolor link color)
                  (.of_H hnext (by omega) hcommand hcolor none)
            · refine .reject ?_
              rw [round_command hcommand hspace, advance_start hpipe hc]
      · obtain ⟨e, hgives, hstuck, haccepted⟩ := hnext m (by simp) link color
        refine ⟨e, .congr (round_text hb hlength link color) hgives,
          fun he => .text hb (hstuck he), fun he => ?_⟩
        obtain ⟨k, hk⟩ := haccepted he
        exact ⟨k, .text hb hk⟩

/-! ## 7. What is loose, and what is well formed -/

theorem CompleteLink.text_append (l : CompleteLink S) (m : Bytes) :
    l.text ++ m = PIPE_CHAR :: 'c'.toUInt8 :: (l.digits ++ PIPE_CHAR :: 'H'.toUInt8 ::
      (l.type ++ DELIMITER :: (l.data ++ PIPE_CHAR :: 'h'.toUInt8 :: '['.toUInt8 ::
        (l.name ++ ']'.toUInt8 :: PIPE_CHAR :: 'h'.toUInt8 :: PIPE_CHAR :: 'r'.toUInt8 ::
          m)))) := by
  simp [CompleteLink.text, chars, PIPE_CHAR, DELIMITER]

theorem gap_nil : Gap [] := by simp [Gap]

theorem DataAt.plain {digits type rest : Bytes} (hlength : digits.length = 8)
    (hall : ∀ c ∈ digits, isDigit 16 c) (hkind : linkType type = some kind) :
    DataAt false (PIPE_CHAR :: 'c'.toUInt8 :: (digits ++ PIPE_CHAR :: 'H'.toUInt8 ::
      (type ++ DELIMITER :: rest))) kind (UInt32.ofNat (ofDigits 16 digits)) rest := by
  have htail : Command 'H'.toUInt8 [] (PIPE_CHAR :: 'H'.toUInt8 :: (type ++ DELIMITER :: rest))
      (type ++ DELIMITER :: rest) := ⟨gap_nil, rfl⟩
  have hdata : DataAt _ _ kind _ rest :=
    .mk ⟨gap_nil, rfl⟩ (readHex_digits hlength hall _) htail hkind
  have hdigits : ((digits ++ PIPE_CHAR :: 'H'.toUInt8 :: (type ++ DELIMITER :: rest)).take 8).all
      (isDigit 16) = true := by
    rw [← hlength, List.take_left, List.all_eq_true]
    exact hall
  rw [hdigits] at hdata
  exact hdata

theorem NameAt.plain {m data name rest : Bytes} (hdata : DataAt false m kind color
      (data ++ PIPE_CHAR :: 'h'.toUInt8 :: '['.toUInt8 :: (name ++ ']'.toUInt8 :: rest)))
    (hread : ∀ rest, kind.initializeFrom S color (data ++ PIPE_CHAR :: rest) =
      .ok (link, PIPE_CHAR :: rest))
    (hbracket : ']'.toUInt8 ∉ name) (hpipe : ∀ c ∈ name, NotPipe c) :
    NameAt S false m link name rest := by
  have hname : NameAt S _ m link name rest :=
    .mk hdata (hread _) ⟨gap_nil, rfl⟩ hbracket
  have hnot : name.contains PIPE_CHAR = false := by
    rw [← Bool.not_eq_true, List.contains_iff_mem]
    exact fun hmem => hpipe PIPE_CHAR hmem rfl
  rw [hnot] at hname
  exact hname

theorem CompleteLink.linkAt (l : CompleteLink S) (m : Bytes) : LinkAt S false (l.text ++ m) m := by
  obtain ⟨used, hused, -, hread⟩ := (careful_initializeFrom S (UInt32.ofNat
    (ofDigits 16 l.digits)) l.kind).ahead _ _ _ l.data_read
  obtain rfl : l.data = used := List.append_cancel_right hused
  rw [l.text_append]
  have hname : ∀ rest, NameAt S false _ l.link l.name rest := fun rest =>
    .plain (.plain l.digits_length l.isDigit_of_mem l.type_known)
      (fun rest => hread (PIPE_CHAR :: rest) rfl) l.name_notBracket l.name_notPipe
  exact .mk (hname _) l.name_accepted ⟨gap_nil, rfl⟩ ⟨gap_nil, rfl⟩

theorem LinkAt.complete {k : Bool} {m rest : Bytes} (h : LinkAt S k m rest) (hk : k = false) :
    ∃ l : CompleteLink S, m = l.text ++ rest := by
  obtain @⟨_, gap₃, gap₄, _, _, r₃, name, _, link, hname, hvalid, hh', hr⟩ := h
  obtain @⟨_, gap₂, _, r, r₂, _, _, color, kind, _, hdata, hread, hh, hbracket⟩ := hname
  obtain @⟨gap, gap₁, _, r₀, r₁, type, _, _, _, hc, hcolor, hH, hkind⟩ := hdata
  simp only [Bool.or_eq_false_iff, Bool.not_eq_false', List.isEmpty_iff] at hk
  obtain ⟨⟨⟨⟨⟨⟨rfl, hdigits⟩, rfl⟩, rfl⟩, hpipe⟩, rfl⟩, rfl⟩ := hk
  obtain ⟨hr₀, hlength⟩ := length_of_readHex hcolor
  obtain ⟨data, hr', hdata, hahead⟩ := (careful_initializeFrom S color kind).ahead _ _ _ hread
  generalize r₀.take 8 = digits at hr₀ hlength hdigits
  have hall : ∀ c ∈ digits, isDigit 16 c := List.all_eq_true.1 hdigits
  have hvalue : UInt32.ofNat (ofDigits 16 digits) = color := by
    rw [hr₀, hH.2, readHex_digits hlength hall] at hcolor
    exact (Prod.mk.inj (Except.ok.inj hcolor)).1
  subst hvalue
  have hread' : kind.initializeFrom S (UInt32.ofNat (ofDigits 16 digits)) (data ++ [PIPE_CHAR]) =
      .ok (link, [PIPE_CHAR]) := by
    refine hahead [PIPE_CHAR] ?_
    rw [hh.2]
    rfl
  have hnotPipe : ∀ c ∈ name, NotPipe c := by
    rintro c hmem rfl
    rw [← Bool.not_eq_true, List.contains_iff_mem] at hpipe
    exact hpipe hmem
  refine ⟨⟨digits, type, kind, data, link, name, hlength, hall, hkind, hdata, hread', hnotPipe,
    hbracket, hvalid⟩, ?_⟩
  rw [CompleteLink.text_append, hc.2, hr₀, hH.2, hr', hh.2, hh'.2, hr.2]
  rfl

theorem DataAt.unique {k k' : Bool} {m rest rest' : Bytes} {kind kind' : LinkType}
    {color color' : UInt32} (h : DataAt k m kind color rest) (h' : DataAt k' m kind' color' rest') :
    k = k' ∧ kind = kind' ∧ color = color' ∧ rest = rest' := by
  obtain ⟨hc, hcolor, hH, hkind⟩ := h
  obtain ⟨hc', hcolor', hH', hkind'⟩ := h'
  obtain ⟨-, rfl, rfl⟩ := hc.unique hc' (by decide) (by decide)
  rw [hcolor] at hcolor'
  obtain ⟨rfl, rfl⟩ := Prod.mk.inj (Except.ok.inj hcolor')
  obtain ⟨-, rfl, hrest⟩ := hH.unique hH' (by decide) (by decide)
  obtain ⟨rfl, rfl⟩ := line_unique (delimiter_notMem hkind) (delimiter_notMem hkind') hrest
  rw [hkind] at hkind'
  exact ⟨rfl, Option.some.inj hkind', rfl, rfl⟩

theorem NameAt.unique {k k' : Bool} {m name name' rest rest' : Bytes} {link link' : ChatLink}
    (h : NameAt S k m link name rest) (h' : NameAt S k' m link' name' rest') :
    k = k' ∧ link = link' ∧ name = name' ∧ rest = rest' := by
  obtain ⟨hdata, hread, hh, hname⟩ := h
  obtain ⟨hdata', hread', hh', hname'⟩ := h'
  obtain ⟨rfl, rfl, rfl, rfl⟩ := hdata.unique hdata'
  rw [hread] at hread'
  obtain ⟨rfl, rfl⟩ := Prod.mk.inj (Except.ok.inj hread')
  obtain ⟨-, rfl, hrest⟩ := hh.unique hh' (by decide) (by decide)
  obtain ⟨rfl, rfl⟩ := line_unique hname hname' (List.cons.inj hrest).2
  exact ⟨rfl, rfl, rfl, rfl⟩

theorem LinkAt.unique {k k' : Bool} {m rest rest' : Bytes} (h : LinkAt S k m rest)
    (h' : LinkAt S k' m rest') : k = k' ∧ rest = rest' := by
  obtain ⟨hname, hvalid, hh, hr⟩ := h
  obtain ⟨hname', hvalid', hh', hr'⟩ := h'
  obtain ⟨rfl, rfl, rfl, rfl⟩ := hname.unique hname'
  obtain ⟨-, rfl, rfl⟩ := hh.unique hh' (by decide) (by decide)
  obtain ⟨-, rfl, rfl⟩ := hr.unique hr' (by decide) (by decide)
  exact ⟨rfl, rfl⟩

theorem LinkAt.not_openLink {k : Bool} {m rest : Bytes} (h : LinkAt S k m rest) :
    ¬ OpenLink S m := by
  rintro ⟨hname', -, hh', hgap, -⟩
  obtain ⟨hname, hvalid, hh, hr⟩ := h
  obtain ⟨rfl, rfl, rfl, rfl⟩ := hname.unique hname'
  obtain ⟨-, rfl, rfl⟩ := hh.unique hh' (by decide) (by decide)
  exact hr.not_gap (by decide) hgap

theorem NameAt.exists_c {k : Bool} {m name rest : Bytes}
    (h : NameAt S k m link name rest) : ∃ gap r, Command 'c'.toUInt8 gap m r := by
  obtain ⟨⟨hc, -, -, -⟩, -, -, -⟩ := h
  exact ⟨_, _, hc⟩

theorem LinkAt.exists_c {k : Bool} {m rest : Bytes} (h : LinkAt S k m rest) :
    ∃ gap r, Command 'c'.toUInt8 gap m r := by
  obtain ⟨hname, -, -, -⟩ := h
  exact hname.exists_c

theorem OpenLink.exists_c {m : Bytes} (h : OpenLink S m) :
    ∃ gap r, Command 'c'.toUInt8 gap m r := by
  obtain ⟨hname, -, -, -, -⟩ := h
  exact hname.exists_c

theorem Loose.wellFormed {k : Bool} {m : Bytes} (h : Loose S k m) (hk : k = false) :
    WellFormed S m := by
  induction h with
  | empty => exact .empty
  | text hb h ih => exact .text hb (ih hk)
  | @escaped _ gap _ _ hp h ih =>
    obtain ⟨hk', hgap⟩ := Bool.or_eq_false_iff.1 hk
    obtain rfl : gap = [] := by simpa using hgap
    obtain ⟨-, rfl⟩ := hp
    exact .escaped (ih hk')
  | link hl h ih =>
    obtain ⟨hk, hk'⟩ := Bool.or_eq_false_iff.1 hk
    obtain ⟨l, rfl⟩ := hl.complete hk'
    exact .link l (ih hk)
  | lonePipe hgap => exact absurd hk (by decide)
  | openLink ho => exact absurd hk (by decide)

theorem Loose.of_text {k : Bool} {b : UInt8} {m : Bytes} (hb : b ≠ PIPE_CHAR)
    (h : Loose S k (b :: m)) : Loose S k m := by
  have hnot : ∀ {c gap r}, ¬ Command c gap (b :: m) r := fun hc => hb (List.cons.inj hc.2).1
  cases h with
  | text _ h => exact h
  | escaped hp _ => exact absurd hp hnot
  | link hl _ =>
    obtain ⟨gap, r, hc⟩ := hl.exists_c
    exact absurd hc hnot
  | lonePipe _ => exact absurd rfl hb
  | openLink ho =>
    obtain ⟨gap, r, hc⟩ := ho.exists_c
    exact absurd hc hnot

theorem Loose.of_escaped {k : Bool} {m : Bytes} (h : Loose S k (PIPE_CHAR :: PIPE_CHAR :: m)) :
    Loose S k m := by
  have hpipe : Command PIPE_CHAR [] (PIPE_CHAR :: PIPE_CHAR :: m) m := ⟨gap_nil, rfl⟩
  have hnot : ∀ {gap r}, ¬ Command 'c'.toUInt8 gap (PIPE_CHAR :: PIPE_CHAR :: m) r := fun hc =>
    absurd (hc.unique hpipe (by decide) (by decide)).1 (by decide)
  generalize hm : PIPE_CHAR :: PIPE_CHAR :: m = m' at h hpipe hnot
  cases h with
  | empty => exact absurd hm (by simp)
  | text hb _ => exact absurd (List.cons.inj hm).1.symm hb
  | escaped hp h =>
    obtain ⟨-, rfl, rfl⟩ := hp.unique hpipe (by decide) (by decide)
    simpa using h
  | link hl _ =>
    obtain ⟨gap, r, hc⟩ := hl.exists_c
    exact absurd hc hnot
  | lonePipe hgap => exact absurd hgap (hpipe.not_gap (by decide))
  | openLink ho =>
    obtain ⟨gap, r, hc⟩ := ho.exists_c
    exact absurd hc hnot

theorem Loose.of_link {k : Bool} (l : CompleteLink S) {m : Bytes} (h : Loose S k (l.text ++ m)) :
    Loose S k m := by
  have hlink := l.linkAt m
  obtain ⟨gap, r, hc⟩ := hlink.exists_c
  generalize l.text ++ m = m' at h hlink hc
  cases h with
  | empty => exact absurd hc.2 (by simp)
  | text hb _ => exact absurd (List.cons.inj hc.2).1 hb
  | escaped hp _ => exact absurd (hc.unique hp (by decide) (by decide)).1 (by decide)
  | link hl h =>
    obtain ⟨rfl, rfl⟩ := hlink.unique hl
    simpa using h
  | lonePipe hgap => exact absurd hgap (hc.not_gap (by decide))
  | openLink ho => exact absurd ho hlink.not_openLink

theorem WellFormed.strict {m : Bytes} (h : WellFormed S m) {k : Bool} (hloose : Loose S k m) :
    k = false := by
  induction h generalizing k with
  | empty =>
    generalize hm : ([] : Bytes) = m at hloose
    cases hloose with
    | empty => rfl
    | text _ _ => exact absurd hm (by simp)
    | escaped hp _ => exact absurd hp.2 (by simp [← hm])
    | link hl _ =>
      obtain ⟨gap, r, hc⟩ := hl.exists_c
      exact absurd hc.2 (by simp [← hm])
    | lonePipe _ => exact absurd hm (by simp)
    | openLink ho =>
      obtain ⟨gap, r, hc⟩ := ho.exists_c
      exact absurd hc.2 (by simp [← hm])
  | text hb h ih => exact ih (hloose.of_text hb)
  | escaped h ih => exact ih hloose.of_escaped
  | link l h ih => exact ih (hloose.of_link l)

theorem WellFormed.gives {m : Bytes} (h : WellFormed S m) (hlength : m.length ≤ 255)
    (link : Option ChatLink) (color : UInt32) :
    Gives (round S garbage) ⟨0, link, color, some m⟩ (.returns true) := by
  induction h generalizing link color with
  | empty => exact gives_empty link color
  | text hb h ih =>
    refine .congr (round_text hb hlength link color) (ih ?_ link color)
    rw [List.length_cons] at hlength
    omega
  | @escaped m h ih =>
    have hpipe : Command PIPE_CHAR [] (PIPE_CHAR :: PIPE_CHAR :: m) m := ⟨gap_nil, rfl⟩
    exact .next (round_escaped hpipe link color) (ih (hpipe.length_lt.le.trans hlength) none color)
  | @link l m h ih =>
    have hl := l.linkAt m
    exact hl.gives hlength link color (ih (hl.length_lt.le.trans hlength))

theorem WellFormed.not_stuck {m : Bytes} (h : WellFormed S m) (hlength : m.length ≤ 255) :
    ¬ Stuck S m := fun hstuck => by
  have hsame := (@WellFormed.gives S 0 m h hlength none 0).unique (hstuck.gives hlength none 0)
  simp at hsame

/-! ## 8. The filter -/

/-- From some fuel on, this is what `IsValidMessage` ends with. -/
def Returns (S : Stores) (garbage : UInt8) (msg : Bytes) (e : Exit) : Prop :=
  ∃ needed, ∀ fuel, needed ≤ fuel → isValidMessage S garbage fuel msg = some e

/-- **The filter does its work** on a message: it comes back, and what it accepts is well formed. -/
def Meets (S : Stores) (msg : Bytes) : Prop :=
  ∀ garbage, ∃ valid, Returns S garbage msg (.returns valid) ∧ (valid = true → WellFormed S msg)

/-- **When the filter does its work.** -/
theorem meets_iff (msg : Bytes) (hlength : msg.length ≤ 255) :
    Meets S msg ↔ ¬ Stuck S msg ∧ ¬ Loose S true msg := by
  constructor
  · intro h
    refine ⟨fun hstuck => ?_, fun hloose => ?_⟩
    · obtain ⟨valid, hreturns, -⟩ := h 0
      have hsame := Gives.unique hreturns (hstuck.gives hlength none 0)
      simp at hsame
    · obtain ⟨garbage, hgives⟩ := hloose.accepted hlength
      obtain ⟨valid, hreturns, hwell⟩ := h garbage
      have hsame := Gives.unique hreturns (hgives none 0)
      have hvalid : valid = true := by simpa using hsame
      exact absurd ((hwell hvalid).strict hloose) (by decide)
  · rintro ⟨hstuck, hloose⟩ garbage
    obtain ⟨e, hgives, hjudged, haccepted⟩ := @judged S garbage msg hlength none 0
    cases e with
    | stuck => exact absurd (hjudged rfl) hstuck
    | returns valid =>
      refine ⟨valid, hgives, fun hvalid => ?_⟩
      subst hvalid
      obtain ⟨k, hk⟩ := haccepted rfl
      cases k with
      | true => exact absurd hk hloose
      | false => exact hk.wellFormed rfl

def noStores : Stores where
  getItemTemplate _ := none
  getItemLocale _ := none
  itemRandomProperties _ := none
  itemRandomSuffix _ := none
  getQuestTemplate _ := none
  getQuestLocale _ := none
  getSpellInfo _ := none
  getSkillLineAbilityMapBounds _ := []
  skillLine _ := none
  getAchievement _ := none
  talent _ := none
  glyphProperties _ := none

/-- An escaped pipe passes. -/
theorem meets_iff_escaped : Meets noStores (chars ['a', '|', '|']) := by
  have hwell : WellFormed noStores (chars ['a', '|', '|']) :=
    .text (by decide) (.escaped .empty)
  exact (meets_iff _ (by decide)).2
    ⟨hwell.not_stuck (by decide), fun hloose => absurd (hwell.strict hloose) (by decide)⟩

/-- **A last pipe with nothing behind it** passes, and the message is not well formed. -/
theorem lastPipe_passes :
    (∀ garbage, Returns noStores garbage (chars ['a', 'b', 'c', '|']) (.returns true)) ∧
      ¬ WellFormed noStores (chars ['a', 'b', 'c', '|']) ∧
        ¬ Meets noStores (chars ['a', 'b', 'c', '|']) := by
  have hreturns : ∀ garbage,
      Returns noStores garbage (chars ['a', 'b', 'c', '|']) (.returns true) := fun garbage =>
    Gives.leave rfl
  have hloose : Loose noStores true (chars ['a', 'b', 'c', '|']) :=
    .text (by decide) (.text (by decide) (.text (by decide) (.lonePipe gap_nil)))
  have hnot : ¬ WellFormed noStores (chars ['a', 'b', 'c', '|']) := fun hwell =>
    absurd (hwell.strict hloose) (by decide)
  refine ⟨hreturns, hnot, fun hmeets => ?_⟩
  obtain ⟨valid, hvalid, hwell⟩ := hmeets 0
  have hsame := Gives.unique hvalid (hreturns 0)
  exact hnot (hwell (by simpa using hsame))

end FunPvp.ChatLinks
