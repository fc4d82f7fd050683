/-
# The next victim

`selectNextVictim` goes through the threat list from the top and takes the first target it can
attack, but leaves the current victim only for one that has clearly more threat. Targets that are
immune or under crowd control are a second choice: if the scan comes to one of them at the end of
the list, it starts again and takes them like the others.

`exists_scan` says that the scan ends. It can end with nobody although there is somebody to attack;
`selectNextVictim_iff` says when it does not.
-/
import FunPvp.Combat.ThreatLists
import FunPvp.Lib.While

namespace FunPvp.Combat

open FunPvp.Lib

namespace ThreatManager

variable {F : Type} [ThreatNumber F]

open ThreatNumber

/-! ## 1. The loop -/

/-- The variables of the loop: what `iter` still has to go through, `currentVictim` and
`noPriorityTargetFound`. -/
structure Scan where
  iter : List RefId
  currentVictim : Option RefId
  noPriorityTargetFound : Bool

/-- The body of the loop; it leaves with what the function returns. -/
def scanBody (w : World F) (m : ThreatManager F) (s : Scan) :
    Except (Result (Option RefId)) Scan :=
  match s.iter with
  | [] => .error (.ok none)
  | currentRef :: rest =>
    match m.deref currentRef with
    | .error fault => .error (.error fault)
    | .ok ref =>
      if ¬ref.isValid then .error (.error .assertion)
      else if ¬s.noPriorityTargetFound ∧ w.isSecondChoice ref.iUnitGuid then
        match rest with
        | [] => .ok { s with iter := m.iThreatContainer, noPriorityTargetFound := true }
        | _ :: _ =>
          .ok { s with
            iter := rest
            currentVictim := if s.currentVictim = some currentRef then none else s.currentVictim }
      else if w.canCreatureAttack ref.iUnitGuid then
        match s.currentVictim with
        | some victim =>
          match m.deref victim with
          | .error fault => .error (.error fault)
          | .ok victimRef =>
            if victim = currentRef ∨ le ref.iThreat (scale (11 / 10) victimRef.iThreat) then
              if victim ≠ currentRef ∧ w.canCreatureAttack victimRef.iUnitGuid then
                .error (.ok (some victim))
              else .error (.ok (some currentRef))
            else if lt (scale (13 / 10) victimRef.iThreat) ref.iThreat ∨
                (lt (scale (11 / 10) victimRef.iThreat) ref.iThreat ∧
                  w.isWithinMeleeRange ref.iUnitGuid) then
              .error (.ok (some currentRef))
            else .ok { s with iter := rest }
        | none => .error (.ok (some currentRef))
      else .ok { s with iter := rest }

/-- The loop of `selectNextVictim`, with so many rounds at most. -/
def scan (w : World F) (m : ThreatManager F) (rounds : ℕ) (currentVictim : Option RefId) :
    Option (Result (Option RefId)) :=
  whileLoop (scanBody w m) rounds ⟨m.iThreatContainer, currentVictim, false⟩

section Loop

variable {w : World F} {m : ThreatManager F}

/-- What a loop with enough rounds returns. -/
def Returns (w : World F) (m : ThreatManager F) (s : Scan) (r : Result (Option RefId)) : Prop :=
  ∃ needed, ∀ rounds, needed ≤ rounds → whileLoop (scanBody w m) rounds s = some r

theorem Returns.leave {s : Scan} {r : Result (Option RefId)} (h : scanBody w m s = .error r) :
    Returns w m s r := by
  refine ⟨1, fun rounds hrounds => ?_⟩
  obtain ⟨n, rfl⟩ : ∃ n, rounds = n + 1 := ⟨rounds - 1, by omega⟩
  rw [whileLoop, h]

theorem Returns.next {s s' : Scan} {r : Result (Option RefId)} (h : scanBody w m s = .ok s')
    (hs : Returns w m s' r) : Returns w m s r := by
  obtain ⟨needed, hneeded⟩ := hs
  refine ⟨needed + 1, fun rounds hrounds => ?_⟩
  obtain ⟨n, rfl⟩ : ∃ n, rounds = n + 1 := ⟨rounds - 1, by omega⟩
  rw [whileLoop, h]
  exact hneeded n (by omega)

theorem returns_selectPass {noPriority : Bool} {restart : Option RefId → Result (Option RefId)}
    (hrestart : ∀ c, noPriority = false → Returns w m ⟨m.iThreatContainer, c, true⟩ (restart c))
    (l : List RefId) (c : Option RefId) :
    Returns w m ⟨l, c, noPriority⟩ (m.selectPass w noPriority restart l c) := by
  induction l generalizing c with
  | nil => exact .leave rfl
  | cons currentRef rest ih =>
    unfold ThreatManager.selectPass
    cases hderef : m.deref currentRef with
    | error fault => exact .leave (by simp only [scanBody, hderef]; rfl)
    | ok ref =>
      dsimp only [bind, Except.bind]
      split
      · next hvalid => exact .leave (by simp only [scanBody, hderef, if_pos hvalid])
      · next hvalid =>
        split
        · next hsecond =>
          split
          · refine .next ?_ (hrestart c (by simpa using hsecond.1))
            simp only [scanBody, hderef, if_neg hvalid, if_pos hsecond]
          · next rest _ _ =>
            refine .next ?_ (ih _)
            simp only [scanBody, hderef, if_neg hvalid, if_pos hsecond]
        · next hsecond =>
          split
          · next hattack =>
            split
            · next victim =>
              cases hvictim : m.deref victim with
              | error fault =>
                refine .leave ?_
                simp only [scanBody, hderef, if_neg hvalid, if_neg hsecond, if_pos hattack, hvictim]
              | ok victimRef =>
                dsimp only
                split
                · next hclose =>
                  split
                  · next hstay =>
                    refine .leave ?_
                    simp only [scanBody, hderef, if_neg hvalid, if_neg hsecond, if_pos hattack,
                      hvictim, if_pos hclose, if_pos hstay]
                  · next hstay =>
                    refine .leave ?_
                    simp only [scanBody, hderef, if_neg hvalid, if_neg hsecond, if_pos hattack,
                      hvictim, if_pos hclose, if_neg hstay]
                · next hclose =>
                  split
                  · next hbetter =>
                    refine .leave ?_
                    simp only [scanBody, hderef, if_neg hvalid, if_neg hsecond, if_pos hattack,
                      hvictim, if_neg hclose, if_pos hbetter]
                  · next hbetter =>
                    refine .next ?_ (ih _)
                    simp only [scanBody, hderef, if_neg hvalid, if_neg hsecond, if_pos hattack,
                      hvictim, if_neg hclose, if_neg hbetter]
            · refine .leave ?_
              simp only [scanBody, hderef, if_neg hvalid, if_neg hsecond, if_pos hattack]
          · next hattack =>
            refine .next ?_ (ih _)
            simp only [scanBody, hderef, if_neg hvalid, if_neg hsecond, if_neg hattack]

theorem exists_scan (w : World F) (m : ThreatManager F) (currentVictim : Option RefId) :
    ∃ needed, ∀ rounds, needed ≤ rounds →
      m.scan w rounds currentVictim = some (m.selectNextVictim w currentVictim) := by
  refine returns_selectPass (fun c _ => ?_) m.iThreatContainer currentVictim
  exact returns_selectPass (fun _ h => by cases h) m.iThreatContainer c

end Loop

/-! ## 2. Targets -/

section Targets

variable (w : World F) (m : ThreatManager F)

/-- Whether the target of a reference is immune or under crowd control. -/
def isSecondChoice (p : RefId) : Bool := (m.refs p).any fun ref => w.isSecondChoice ref.iUnitGuid

/-- Whether the creature can attack the target of a reference. -/
def attackable (p : RefId) : Bool := (m.refs p).any fun ref => w.canCreatureAttack ref.iUnitGuid

/-- Whether the target of a reference is in melee range. -/
def inMelee (p : RefId) : Bool := (m.refs p).any fun ref => w.isWithinMeleeRange ref.iUnitGuid

def threatOf (p : RefId) : F := (m.refs p).elim zero (·.iThreat)

/-- One reference has at most 110% of the threat of another. -/
def AtMost110 (p victim : RefId) : Prop :=
  le (m.threatOf p) (scale (11 / 10) (m.threatOf victim)) = true

/-- One reference has more than 130% of the threat of another, or more than 110% and its target is
in melee range. -/
def Beats (p victim : RefId) : Prop :=
  lt (scale (13 / 10) (m.threatOf victim)) (m.threatOf p) = true ∨
    lt (scale (11 / 10) (m.threatOf victim)) (m.threatOf p) = true ∧ m.inMelee w p = true

/-- The scan ends at an attackable target: there is no victim to compare it with, it is the victim,
or its threat is low enough to keep the victim or high enough to leave it. -/
def Settles (c : Option RefId) (p : RefId) : Prop :=
  ∀ victim, c = some victim → victim = p ∨ m.AtMost110 p victim ∨ m.Beats w p victim

/-- The victim to compare with after part of the list: one of second choice is dropped where the
scan passes over it. -/
def victimAfter (c : Option RefId) (pre : List RefId) : Option RefId :=
  match c with
  | some victim => if m.isSecondChoice w victim ∧ victim ∈ pre then none else some victim
  | none => none

/-- What the scan finds where it ends at a target: the victim again, if the target has not enough
threat and the victim can be attacked, else the target. -/
def chosen (c : Option RefId) (p : RefId) : RefId :=
  match c with
  | some victim =>
    if (victim = p ∨ le (m.threatOf p) (scale (11 / 10) (m.threatOf victim))) ∧
      victim ≠ p ∧ m.attackable w victim then victim else p
  | none => p

/-- What the scan needs of a list: every reference is there, and linked to its target. -/
def Linked (l : List RefId) : Prop := ∀ p ∈ l, ∃ ref, m.refs p = some ref ∧ ref.isValid = true

end Targets

/-! ## 3. One round -/

section Round

variable {w : World F} {m : ThreatManager F} {noPriority : Bool}
  {restart : Option RefId → Result (Option RefId)} {p : RefId} {rest : List RefId}
  {c : Option RefId}

omit [ThreatNumber F] in
theorem Linked.head (h : m.Linked (p :: rest)) : ∃ ref, m.refs p = some ref ∧ ref.isValid = true :=
  h p List.mem_cons_self

omit [ThreatNumber F] in
theorem Linked.tail (h : m.Linked (p :: rest)) : m.Linked rest := fun q hq =>
  h q (List.mem_cons_of_mem p hq)

omit [ThreatNumber F] in
theorem deref_eq {ref : HostileReference F} (h : m.refs p = some ref) : m.deref p = .ok ref := by
  rw [deref, h]

theorem selectPass_over (h : m.Linked (p :: rest)) (hfirst : noPriority = false)
    (hsecond : m.isSecondChoice w p = true) (hrest : rest ≠ []) :
    m.selectPass w noPriority restart (p :: rest) c =
      m.selectPass w noPriority restart rest (if c = some p then none else c) := by
  obtain ⟨ref, href, hvalid⟩ := h.head
  obtain ⟨q, rest, rfl⟩ := List.exists_cons_of_ne_nil hrest
  have hsecond' : w.isSecondChoice ref.iUnitGuid = true := by
    simpa [isSecondChoice, href] using hsecond
  rw [ThreatManager.selectPass, deref_eq href]
  simp [bind, Except.bind, hvalid, hfirst, hsecond']

theorem selectPass_again (h : m.Linked [p]) (hfirst : noPriority = false)
    (hsecond : m.isSecondChoice w p = true) :
    m.selectPass w noPriority restart [p] c = restart c := by
  obtain ⟨ref, href, hvalid⟩ := h.head
  have hsecond' : w.isSecondChoice ref.iUnitGuid = true := by
    simpa [isSecondChoice, href] using hsecond
  rw [ThreatManager.selectPass, deref_eq href]
  simp [bind, Except.bind, hvalid, hfirst, hsecond']

theorem selectPass_found (h : m.Linked (p :: rest))
    (hfirst : noPriority = true ∨ m.isSecondChoice w p = false) (hattack : m.attackable w p = true)
    (hc : ∀ victim, c = some victim → ∃ ref, m.refs victim = some ref)
    (hsettles : m.Settles w c p) :
    m.selectPass w noPriority restart (p :: rest) c = .ok (some (m.chosen w c p)) := by
  obtain ⟨ref, href, hvalid⟩ := h.head
  have hnot : ¬(¬noPriority = true ∧ w.isSecondChoice ref.iUnitGuid = true) := by
    rcases hfirst with h | h
    · exact fun h' => h'.1 h
    · exact fun h' => by simp [isSecondChoice, href, h'.2] at h
  have hcan : w.canCreatureAttack ref.iUnitGuid = true := by
    simpa [attackable, href] using hattack
  unfold ThreatManager.selectPass
  rw [deref_eq href]
  dsimp only [bind, Except.bind]
  rw [if_neg (by simp [hvalid]), if_neg hnot, if_pos hcan]
  cases c with
  | none => rfl
  | some victim =>
    obtain ⟨victimRef, hvictim⟩ := hc victim rfl
    have hsettled := hsettles victim rfl
    simp only [AtMost110, Beats, inMelee, threatOf, href, hvictim, Option.elim_some,
      Option.any_some] at hsettled
    dsimp only
    rw [deref_eq hvictim]
    simp only [chosen, attackable, threatOf, href, hvictim, Option.elim_some, Option.any_some]
    by_cases hclose : victim = p ∨ le ref.iThreat (scale (11 / 10) victimRef.iThreat) = true
    · rw [if_pos hclose]
      by_cases hstay : victim ≠ p ∧ w.canCreatureAttack victimRef.iUnitGuid = true
      · rw [if_pos hstay, if_pos ⟨hclose, hstay⟩]
      · rw [if_neg hstay, if_neg fun h => hstay h.2]
    · have hbeats := (hsettled.resolve_left fun h => hclose (.inl h)).resolve_left
        fun h => hclose (.inr h)
      rw [if_neg hclose, if_pos hbeats, if_neg fun h => hclose h.1]

theorem selectPass_skip (h : m.Linked (p :: rest))
    (hfirst : noPriority = true ∨ m.isSecondChoice w p = false)
    (hc : ∀ victim, c = some victim → ∃ ref, m.refs victim = some ref)
    (hskip : m.attackable w p = true → ¬m.Settles w c p) :
    m.selectPass w noPriority restart (p :: rest) c =
      m.selectPass w noPriority restart rest c := by
  obtain ⟨ref, href, hvalid⟩ := h.head
  have hnot : ¬(¬noPriority = true ∧ w.isSecondChoice ref.iUnitGuid = true) := by
    rcases hfirst with h | h
    · exact fun h' => h'.1 h
    · exact fun h' => by simp [isSecondChoice, href, h'.2] at h
  conv_lhs => unfold ThreatManager.selectPass
  rw [deref_eq href]
  dsimp only [bind, Except.bind]
  rw [if_neg (by simp [hvalid]), if_neg hnot]
  split
  · next hcan =>
    have hopen := hskip (by simpa [attackable, href] using hcan)
    cases c with
    | none => exact absurd (fun _ h => by cases h) hopen
    | some victim =>
      obtain ⟨victimRef, hvictim⟩ := hc victim rfl
      have hopen' : ¬(victim = p ∨ le ref.iThreat (scale (11 / 10) victimRef.iThreat) = true) ∧
          ¬(lt (scale (13 / 10) victimRef.iThreat) ref.iThreat = true ∨
            lt (scale (11 / 10) victimRef.iThreat) ref.iThreat = true ∧
              w.isWithinMeleeRange ref.iUnitGuid = true) := by
        simpa [Settles, AtMost110, Beats, inMelee, threatOf, href, hvictim, not_or, and_assoc]
          using hopen
      dsimp only
      rw [deref_eq hvictim]
      dsimp only
      rw [if_neg hopen'.1, if_neg hopen'.2]
  · rfl

end Round

/-! ## 4. Passes -/

section Passes

variable {w : World F} {m : ThreatManager F} {restart : Option RefId → Result (Option RefId)}
  {p : RefId} {c : Option RefId}

omit [ThreatNumber F] in
theorem victimAfter_nil : m.victimAfter w c [] = c := by
  cases c <;> simp [victimAfter]

omit [ThreatNumber F] in
theorem victimAfter_second (pre : List RefId) (hsecond : m.isSecondChoice w p = true) :
    m.victimAfter w (if c = some p then none else c) pre = m.victimAfter w c (p :: pre) := by
  cases c with
  | none => rfl
  | some victim =>
    by_cases h : victim = p
    · subst h
      simp [victimAfter, hsecond]
    · simp [victimAfter, h]

omit [ThreatNumber F] in
theorem victimAfter_first (pre : List RefId) (hfirst : m.isSecondChoice w p = false) :
    m.victimAfter w c (p :: pre) = m.victimAfter w c pre := by
  cases c with
  | none => rfl
  | some victim =>
    by_cases h : victim = p
    · subst h
      simp [victimAfter, hfirst]
    · simp [victimAfter, h]

/-- The first pass over a list ends at a target that is no second choice. -/
def Stops (w : World F) (m : ThreatManager F) (c : Option RefId) (l : List RefId) : Prop :=
  ∃ pre p post, l = pre ++ p :: post ∧ m.isSecondChoice w p = false ∧ m.attackable w p = true ∧
    m.Settles w (m.victimAfter w c pre) p

theorem stops_nil : ¬m.Stops w c [] := by
  rintro ⟨pre, p, post, h, -⟩
  simp at h

theorem stops_cons {rest : List RefId} :
    m.Stops w c (p :: rest) ↔
      (m.isSecondChoice w p = false ∧ m.attackable w p = true ∧ m.Settles w c p) ∨
        m.Stops w (if m.isSecondChoice w p = true ∧ c = some p then none else c) rest := by
  have hafter : ∀ pre, m.victimAfter w
      (if m.isSecondChoice w p = true ∧ c = some p then none else c) pre =
        m.victimAfter w c (p :: pre) := by
    intro pre
    cases hsecond : m.isSecondChoice w p with
    | true => simpa using victimAfter_second pre hsecond
    | false => simpa using (victimAfter_first pre hsecond).symm
  constructor
  · rintro ⟨pre, q, post, hl, hfirst, hattack, hsettles⟩
    cases pre with
    | nil =>
      obtain ⟨rfl, -⟩ := List.cons.inj hl
      exact .inl ⟨hfirst, hattack, victimAfter_nil (w := w) (m := m) (c := c) ▸ hsettles⟩
    | cons p' pre =>
      obtain ⟨rfl, hrest⟩ := List.cons.inj hl
      exact .inr ⟨pre, q, post, hrest, hfirst, hattack, by rwa [hafter pre]⟩
  · rintro (⟨hfirst, hattack, hsettles⟩ | ⟨pre, q, post, hl, hfirst, hattack, hsettles⟩)
    · exact ⟨[], p, rest, rfl, hfirst, hattack, by rwa [victimAfter_nil]⟩
    · exact ⟨p :: pre, q, post, by rw [hl]; rfl, hfirst, hattack, by rwa [← hafter pre]⟩

theorem selectPass_any {l : List RefId} (hl : m.Linked l)
    (hc : ∀ victim, c = some victim → ∃ ref, m.refs victim = some ref) :
    (∃ found, m.selectPass w true restart l c = .ok (some found)) ∧
        (∃ p ∈ l, m.attackable w p = true ∧ m.Settles w c p) ∨
      m.selectPass w true restart l c = .ok none ∧
        ∀ p ∈ l, m.attackable w p = true → ¬m.Settles w c p := by
  induction l with
  | nil => exact .inr ⟨rfl, fun p hp => absurd hp List.not_mem_nil⟩
  | cons p rest ih =>
    by_cases hp : m.attackable w p = true ∧ m.Settles w c p
    · exact .inl ⟨⟨_, selectPass_found hl (.inl rfl) hp.1 hc hp.2⟩, p, List.mem_cons_self, hp⟩
    · have hskip : m.attackable w p = true → ¬m.Settles w c p := fun h h' => hp ⟨h, h'⟩
      rw [selectPass_skip hl (.inl rfl) hc hskip]
      refine (ih hl.tail).imp (fun h => ⟨h.1, ?_⟩) fun h => ⟨h.1, ?_⟩
      · obtain ⟨q, hq, hsettles⟩ := h.2
        exact ⟨q, List.mem_cons_of_mem p hq, hsettles⟩
      · exact List.forall_mem_cons.mpr ⟨hskip, h.2⟩

/-- **The first pass** finds somebody where it stops, and else starts again if the last target is a
second choice. -/
theorem selectPass_first {l : List RefId} (hl : m.Linked l)
    (hc : ∀ victim, c = some victim → ∃ ref, m.refs victim = some ref) :
    (∃ found, m.selectPass w false restart l c = .ok (some found)) ∧ m.Stops w c l ∨
      ¬m.Stops w c l ∧ m.selectPass w false restart l c =
        if l.getLast?.any (m.isSecondChoice w) then restart (m.victimAfter w c l.dropLast)
        else .ok none := by
  induction l generalizing c with
  | nil => exact .inr ⟨stops_nil, rfl⟩
  | cons p rest ih =>
    rw [stops_cons]
    cases hsecond : m.isSecondChoice w p with
    | true =>
      by_cases hrest : rest = []
      · subst hrest
        refine .inr ⟨by simp [stops_nil], ?_⟩
        rw [selectPass_again hl rfl hsecond, List.dropLast_singleton, victimAfter_nil]
        simp [hsecond]
      · have hc' : ∀ victim, (if c = some p then none else c) = some victim →
            ∃ ref, m.refs victim = some ref := by
          intro victim h
          split at h
          · cases h
          · exact hc victim h
        rw [selectPass_over hl rfl hsecond hrest, List.dropLast_cons_of_ne_nil hrest,
          ← victimAfter_second _ hsecond, List.getLast?_cons_of_ne_nil hrest]
        simpa using ih hl.tail hc'
    | false =>
      by_cases hp : m.attackable w p = true ∧ m.Settles w c p
      · exact .inl ⟨⟨_, selectPass_found hl (.inr hsecond) hp.1 hc hp.2⟩, .inl ⟨rfl, hp⟩⟩
      · have hskip : m.attackable w p = true → ¬m.Settles w c p := fun h h' => hp ⟨h, h'⟩
        rw [selectPass_skip hl (.inr hsecond) hc hskip]
        by_cases hrest : rest = []
        · subst hrest
          refine .inr ⟨by simpa [stops_nil] using hskip, ?_⟩
          simp [ThreatManager.selectPass, hsecond]
        · rw [List.dropLast_cons_of_ne_nil hrest, victimAfter_first _ hsecond,
            List.getLast?_cons_of_ne_nil hrest]
          simpa [hp] using ih hl.tail hc

/-- **A victim that can be attacked and is no second choice is left** only for an attackable target
with clearly more threat. -/
theorem selectPass_leaves {noPriority : Bool} {l : List RefId} {victim found : RefId}
    (hl : m.Linked l) (hvictim : ∃ ref, m.refs victim = some ref)
    (hfirst : noPriority = true ∨ m.isSecondChoice w victim = false)
    (hattack : m.attackable w victim = true)
    (hrestart : restart (some victim) = .ok (some found) → found ≠ victim →
      m.attackable w found = true ∧ ¬m.AtMost110 found victim ∧ m.Beats w found victim)
    (hfound : m.selectPass w noPriority restart l (some victim) = .ok (some found))
    (hne : found ≠ victim) :
    m.attackable w found = true ∧ ¬m.AtMost110 found victim ∧ m.Beats w found victim := by
  have hc : ∀ v, some victim = some v → ∃ ref, m.refs v = some ref := fun v h => by
    obtain rfl := Option.some.inj h
    exact hvictim
  induction l with
  | nil => cases hfound
  | cons p rest ih =>
    by_cases hp : noPriority = true ∨ m.isSecondChoice w p = false
    · by_cases hends : m.attackable w p = true ∧ m.Settles w (some victim) p
      · rw [selectPass_found hl hp hends.1 hc hends.2] at hfound
        obtain rfl := Option.some.inj (Except.ok.inj hfound)
        have hp' : m.chosen w (some victim) p = p := by
          refine if_neg fun h => hne ?_
          exact if_pos h
        rw [hp'] at hne ⊢
        have hmore : ¬m.AtMost110 p victim := fun h => hne (by
          rw [← hp']
          exact if_pos ⟨.inr h, Ne.symm hne, hattack⟩)
        refine ⟨hends.1, hmore, ?_⟩
        exact ((hends.2 victim rfl).resolve_left (Ne.symm hne)).resolve_left hmore
      · rw [selectPass_skip hl hp hc fun h h' => hends ⟨h, h'⟩] at hfound
        exact ih hl.tail hfound
    · obtain ⟨hpass, hsecond⟩ := not_or.mp hp
      have hpass' : noPriority = false := by simpa using hpass
      have hsecond' : m.isSecondChoice w p = true := by simpa using hsecond
      have hvp : victim ≠ p := fun h => by
        rw [h, hsecond', hpass'] at hfirst
        simp at hfirst
      by_cases hrest : rest = []
      · subst hrest
        rw [selectPass_again hl hpass' hsecond'] at hfound
        exact hrestart hfound hne
      · rw [selectPass_over hl hpass' hsecond' hrest, if_neg (by simpa using hvp)] at hfound
        exact ih hl.tail hfound

end Passes

/-! ## 5. The victim -/

/-- What is asked of `selectNextVictim`: the loop ends with a result, it is nobody only if nobody
can be attacked, and a victim of first choice that can be attacked is left only for an attackable
target with clearly more threat. -/
def ChoosesWell (w : World F) (m : ThreatManager F) (c : Option RefId) : Prop :=
  ∃ r, (∃ needed, ∀ rounds, needed ≤ rounds → m.scan w rounds c = some (.ok r)) ∧
    (r = none → ∀ p ∈ m.iThreatContainer, m.attackable w p = false) ∧
    ∀ victim found, c = some victim → m.isSecondChoice w victim = false →
      m.attackable w victim = true → r = some found → found ≠ victim →
        m.attackable w found = true ∧ ¬m.AtMost110 found victim ∧ m.Beats w found victim

/-- Nobody can be attacked; or the first pass stops; or the last target is a second choice, and an
attackable target settles the second pass, which does not know a victim that the first one
dropped. -/
def CanChoose (w : World F) (m : ThreatManager F) (c : Option RefId) : Prop :=
  (∀ p ∈ m.iThreatContainer, m.attackable w p = false) ∨ m.Stops w c m.iThreatContainer ∨
    m.iThreatContainer.getLast?.any (m.isSecondChoice w) = true ∧
      ∃ p ∈ m.iThreatContainer, m.attackable w p = true ∧
        m.Settles w (m.victimAfter w c m.iThreatContainer.dropLast) p

section Victim

variable {w : World F} {m : ThreatManager F} {c : Option RefId}

theorem exists_selectNextVictim (hl : m.Linked m.iThreatContainer)
    (hc : ∀ victim, c = some victim → victim ∈ m.iThreatContainer) :
    ∃ r, m.selectNextVictim w c = .ok r ∧
      (r ≠ none ↔ m.Stops w c m.iThreatContainer ∨
        m.iThreatContainer.getLast?.any (m.isSecondChoice w) = true ∧
          ∃ p ∈ m.iThreatContainer, m.attackable w p = true ∧
            m.Settles w (m.victimAfter w c m.iThreatContainer.dropLast) p) := by
  have hrefs : ∀ victim, c = some victim → ∃ ref, m.refs victim = some ref := fun victim h =>
    (hl victim (hc victim h)).imp fun _ h => h.1
  have hafter : ∀ victim, m.victimAfter w c m.iThreatContainer.dropLast = some victim →
      ∃ ref, m.refs victim = some ref := by
    intro victim h
    unfold victimAfter at h
    split at h
    · next v =>
      split at h
      · cases h
      · exact hrefs victim h
    · cases h
  unfold selectNextVictim
  rcases selectPass_first (w := w) hl hrefs with ⟨⟨found, hfound⟩, hstops⟩ | ⟨hstops, hpass⟩
  · exact ⟨some found, hfound, by simp [hstops]⟩
  · rw [hpass]
    by_cases hlast : m.iThreatContainer.getLast?.any (m.isSecondChoice w) = true
    · rw [if_pos hlast]
      rcases selectPass_any (w := w) hl hafter with ⟨⟨found, hfound⟩, hsettles⟩ | ⟨hnone, hopen⟩
      · exact ⟨some found, hfound, by simp [hstops, hlast, hsettles]⟩
      · refine ⟨none, hnone, iff_of_false (by simp) ?_⟩
        rintro (h | ⟨-, p, hp, hattack, hsettles⟩)
        · exact hstops h
        · exact hopen p hp hattack hsettles
    · rw [if_neg hlast]
      exact ⟨none, rfl, by simp [hstops, hlast]⟩

theorem selectNextVictim_leaves (hl : m.Linked m.iThreatContainer) {victim found : RefId}
    (hin : victim ∈ m.iThreatContainer) (hfirst : m.isSecondChoice w victim = false)
    (hattack : m.attackable w victim = true)
    (hfound : m.selectNextVictim w (some victim) = .ok (some found)) (hne : found ≠ victim) :
    m.attackable w found = true ∧ ¬m.AtMost110 found victim ∧ m.Beats w found victim := by
  have href := (hl victim hin).imp fun _ h => h.1
  refine selectPass_leaves hl href (.inr hfirst) hattack (fun h => ?_) hfound hne
  exact selectPass_leaves hl href (.inl rfl) hattack (fun h => by cases h) h

end Victim

/-- **`selectNextVictim`** ends and keeps the 110% and 130% rules always, and finds somebody to
attack exactly if one of its passes stops. -/
theorem selectNextVictim_iff (w : World F) (m : ThreatManager F) (c : Option RefId)
    (hl : m.Linked m.iThreatContainer)
    (hc : ∀ victim, c = some victim → victim ∈ m.iThreatContainer) :
    m.ChoosesWell w c ↔ m.CanChoose w c := by
  obtain ⟨r, hr, hfinds⟩ := exists_selectNextVictim (w := w) hl hc
  obtain ⟨needed, hscan⟩ := exists_scan w m c
  rw [hr] at hscan
  constructor
  · rintro ⟨r', ⟨needed', hscan'⟩, hnone, -⟩
    have hr' : some (Except.ok r) = some (Except.ok r' : Result (Option RefId)) := by
      rw [← hscan (max needed needed') (le_max_left ..), hscan' _ (le_max_right ..)]
    obtain rfl := Except.ok.inj (Option.some.inj hr')
    by_cases h : r = none
    · exact .inl (hnone h)
    · exact .inr (hfinds.mp h)
  · intro hcan
    refine ⟨r, ⟨needed, hscan⟩, fun h => ?_, fun victim found hv hfirst hattack hf hne => ?_⟩
    · exact hcan.resolve_right fun hstop => hfinds.mpr hstop h
    · subst hv hf
      exact selectNextVictim_leaves hl (hc victim rfl) hfirst hattack hr hne

/-- A world in which 2 is under crowd control, and 3 cannot be attacked. -/
def controlWorld : World ℚ :=
  { petWorld with isSecondChoice := (· = 2), canCreatureAttack := (· = 2) }

def twoTargets : ThreatManager ℚ where
  iOwner := 1
  refs p := if p = 0 then some ⟨100, 0, 2, true, true, true⟩ else
    if p = 1 then some ⟨50, 0, 3, true, true, true⟩ else none
  nextRef := 2
  iThreatContainer := [0, 1]
  iDirty := false
  iThreatOfflineContainer := []
  iCurrentVictim := none

theorem twoTargets_linked : twoTargets.Linked twoTargets.iThreatContainer := by
  refine List.forall_mem_cons.mpr ⟨⟨_, rfl, rfl⟩, ?_⟩
  exact List.forall_mem_singleton.mpr ⟨_, rfl, rfl⟩

/-- **The only target that can be attacked is forgotten**, because it is under crowd control and the
last one is not. -/
theorem not_choosesWell : ¬∀ (w : World ℚ) (m : ThreatManager ℚ) (c : Option RefId),
    m.iThreatContainer ≠ [] →
      m.iThreatContainer.Pairwise (fun p q => lt (m.threatOf p) (m.threatOf q) = false) →
      m.Linked m.iThreatContainer →
      (∀ victim, c = some victim → victim ∈ m.iThreatContainer) → m.ChoosesWell w c := by
  intro h
  obtain ⟨r, ⟨needed, hscan⟩, hnone, -⟩ := h controlWorld twoTargets none (by decide)
    (by decide +kernel) twoTargets_linked (fun _ h => by cases h)
  obtain ⟨needed', hscan'⟩ := exists_scan controlWorld twoTargets none
  have hselect : twoTargets.selectNextVictim controlWorld none = .ok none := by decide +kernel
  have hr : some (Except.ok r) = some (Except.ok none : Result (Option RefId)) := by
    rw [← hscan (max needed needed') (le_max_left ..), hscan' _ (le_max_right ..), hselect]
  obtain rfl := Except.ok.inj (Option.some.inj hr)
  exact absurd (hnone rfl 0 List.mem_cons_self) (by decide)

/-- With the two targets the other way round the scan starts again, and finds the one under crowd
control. -/
theorem choosesWell_turned :
    ({ twoTargets with iThreatContainer := [1, 0] } : ThreatManager ℚ).ChoosesWell controlWorld
      none := by
  refine (selectNextVictim_iff controlWorld _ none ?_ fun _ h => by cases h).mpr ?_
  · refine List.forall_mem_cons.mpr ⟨⟨_, rfl, rfl⟩, ?_⟩
    exact List.forall_mem_singleton.mpr ⟨_, rfl, rfl⟩
  · refine .inr (.inr ⟨by decide, 0, by simp, by decide, fun _ h => ?_⟩)
    cases h

end ThreatManager

end FunPvp.Combat
