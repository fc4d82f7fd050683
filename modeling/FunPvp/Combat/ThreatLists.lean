/-
# The threat lists of a creature

After any sequence of operations on a creature's threat manager (`sound_of_run`):

* a unit has at most one reference in the two lists together, and no reference is in them twice;
* a reference of the two lists is in the online one exactly when its flag says so;
* the current victim is a reference of the online list, or there is none.

Nor does the process end by a pointer to a reference that is gone, or by the assertion of
`selectNextVictim`: what can end it is only a chain of owners that is too deep.
-/
import FunPvp.Combat.ThreatManager
import FunPvp.Lib.Loop
import FunPvp.Lib.Run

namespace FunPvp.Combat

open Lib

/-- The one way in which the process can end. -/
def Overflow (fault : Fault) : Prop := fault = .stackOverflow

namespace ThreatManager

variable {F : Type}

/-! ## 1. The invariant -/

/-- **What is claimed of the lists.** -/
structure Sound (m : ThreatManager F) : Prop where
  nodup : (m.iThreatContainer ++ m.iThreatOfflineContainer).Nodup
  unique : ∀ p ∈ m.iThreatContainer ++ m.iThreatOfflineContainer,
    ∀ q ∈ m.iThreatContainer ++ m.iThreatOfflineContainer, ∀ r r', m.refs p = some r →
      m.refs q = some r' → r.iUnitGuid = r'.iUnitGuid → p = q
  online : ∀ p ∈ m.iThreatContainer ++ m.iThreatOfflineContainer,
    ∃ r, m.refs p = some r ∧ (p ∈ m.iThreatContainer ↔ r.iOnline = true)
  victim : ∀ p, m.iCurrentVictim = some p → p ∈ m.iThreatContainer

/-- What every operation keeps. Every reference is in a list, and those online are linked to their
units. -/
structure Inv (m : ThreatManager F) : Prop where
  nodup : (m.iThreatContainer ++ m.iThreatOfflineContainer).Nodup
  online : ∀ p ∈ m.iThreatContainer, ∃ r, m.refs p = some r ∧ r.iOnline = true ∧ r.isValid = true
  offline : ∀ p ∈ m.iThreatOfflineContainer, ∃ r, m.refs p = some r ∧ r.iOnline = false
  listed : ∀ p r, m.refs p = some r →
    p < m.nextRef ∧ (p ∈ m.iThreatContainer ∨ p ∈ m.iThreatOfflineContainer)
  unique : ∀ p q r r', m.refs p = some r → m.refs q = some r' → r.iUnitGuid = r'.iUnitGuid → p = q
  victim : ∀ p, m.iCurrentVictim = some p → p ∈ m.iThreatContainer

variable {m m' m'' : ThreatManager F} {p : RefId} {r : HostileReference F}

theorem Inv.mem_online (h : m.Inv) (hp : m.refs p = some r) (hon : r.iOnline = true) :
    p ∈ m.iThreatContainer := by
  rcases (h.listed p r hp).2 with hin | hin
  · exact hin
  · obtain ⟨r', hr', hoff⟩ := h.offline p hin
    rw [hp, Option.some.injEq] at hr'
    rw [← hr', hon] at hoff
    cases hoff

theorem Inv.mem_offline (h : m.Inv) (hp : m.refs p = some r) (hoff : r.iOnline = false) :
    p ∈ m.iThreatOfflineContainer := by
  rcases (h.listed p r hp).2 with hin | hin
  · obtain ⟨r', hr', hon, -⟩ := h.online p hin
    rw [hp, Option.some.injEq] at hr'
    rw [← hr', hoff] at hon
    cases hon
  · exact hin

theorem Inv.valid_of_online (h : m.Inv) (hp : m.refs p = some r) (hon : r.iOnline = true) :
    r.isValid = true := by
  obtain ⟨r', hr', -, hvalid⟩ := h.online p (h.mem_online hp hon)
  rw [hp, Option.some.injEq] at hr'
  rw [hr']
  exact hvalid

theorem Inv.sound (h : m.Inv) : m.Sound := by
  refine ⟨h.nodup, fun p _ q _ r r' => h.unique p q r r', fun p hp => ?_, h.victim⟩
  rcases List.mem_append.mp hp with hin | hin
  · obtain ⟨r, hr, hon, -⟩ := h.online p hin
    exact ⟨r, hr, iff_of_true hin hon⟩
  · obtain ⟨r, hr, hoff⟩ := h.offline p hin
    refine ⟨r, hr, iff_of_false ?_ (by simp [hoff])⟩
    exact fun hon => (List.nodup_append.mp h.nodup).2.2 p hon p hin rfl

theorem new_inv (owner : Guid) : (new owner : ThreatManager F).Inv :=
  ⟨List.nodup_nil, by simp [new], by simp [new], by simp [new], by simp [new], by simp [new]⟩

/-- No reference goes, and none goes offline. -/
def Grows (m m' : ThreatManager F) : Prop :=
  ∀ p r, m.refs p = some r →
    ∃ r', m'.refs p = some r' ∧ r'.iUnitGuid = r.iUnitGuid ∧ (r.iOnline = true → r'.iOnline = true)

theorem Grows.refl (m : ThreatManager F) : m.Grows m := fun _ r hr => ⟨r, hr, rfl, id⟩

theorem Grows.trans (h : m.Grows m') (h' : m'.Grows m'') : m.Grows m'' := by
  intro p r hr
  obtain ⟨r', hr', hguid, hon⟩ := h p r hr
  obtain ⟨r'', hr'', hguid', hon'⟩ := h' p r' hr'
  exact ⟨r'', hr'', hguid'.trans hguid, hon' ∘ hon⟩

abbrev Kept (m : ThreatManager F) (m' : ThreatManager F) : Prop := m'.Inv ∧ m.Grows m'

theorem Kept.trans (h : m.Kept m') (h' : m'.Kept m'') : m.Kept m'' := ⟨h'.1, h.2.trans h'.2⟩

/-! ## 2. Reads and writes -/

theorem Outcome.deref {α : Type} {Q : α → Prop} {E : Fault → Prop}
    {k : HostileReference F → Result α} (hp : m.refs p = some r) (hk : Outcome Q E (k r)) :
    Outcome Q E (m.deref p >>= k) := by
  unfold ThreatManager.deref
  rw [hp]
  exact hk

@[simp] theorem setRef_refs (m : ThreatManager F) (p q : RefId) (r : HostileReference F) :
    (m.setRef p r).refs q = if q = p then some r else m.refs q := by
  simp [setRef, Function.update_apply]

@[simp] theorem free_refs (m : ThreatManager F) (p q : RefId) :
    (m.free p).refs q = if q = p then none else m.refs q := by
  simp [free, Function.update_apply]

theorem setRef_self (hp : m.refs p = some r) : m.setRef p r = m := by
  unfold setRef
  rw [← hp, Function.update_eq_self]

theorem exists_of_write {q : RefId} {s r' : HostileReference F} (hp : m.refs p = some r)
    (hguid : r'.iUnitGuid = r.iUnitGuid) (hq : (m.setRef p r').refs q = some s) :
    ∃ s', m.refs q = some s' ∧ s.iUnitGuid = s'.iUnitGuid := by
  rw [setRef_refs] at hq
  split at hq
  · subst q
    obtain rfl := Option.some.inj hq
    exact ⟨r, hp, hguid⟩
  · exact ⟨s, hq, rfl⟩

theorem Inv.unique_write {r' : HostileReference F} (h : m.Inv) (hp : m.refs p = some r)
    (hguid : r'.iUnitGuid = r.iUnitGuid) (q q' : RefId) (s s' : HostileReference F)
    (hq : (m.setRef p r').refs q = some s) (hq' : (m.setRef p r').refs q' = some s')
    (heq : s.iUnitGuid = s'.iUnitGuid) : q = q' := by
  obtain ⟨t, ht, hst⟩ := exists_of_write hp hguid hq
  obtain ⟨t', ht', hst'⟩ := exists_of_write hp hguid hq'
  exact h.unique q q' t t' ht ht' (hst.symm.trans (heq.trans hst'))

theorem Inv.setRef (h : m.Inv) (hp : m.refs p = some r) {r' : HostileReference F}
    (hguid : r'.iUnitGuid = r.iUnitGuid) (hon : r'.iOnline = r.iOnline)
    (hvalid : r.iOnline = true → r'.isValid = true) : m.Kept (m.setRef p r') := by
  refine ⟨⟨h.nodup, fun q hq => ?_, fun q hq => ?_, fun q s hq => ?_, ?_, h.victim⟩,
    fun q s hq => ?_⟩
  · obtain ⟨s, hs, hson, hsvalid⟩ := h.online q hq
    rw [setRef_refs]
    split
    · subst q
      obtain rfl := Option.some.inj (hp.symm.trans hs)
      exact ⟨r', rfl, hon.trans hson, hvalid hson⟩
    · exact ⟨s, hs, hson, hsvalid⟩
  · obtain ⟨s, hs, hsoff⟩ := h.offline q hq
    rw [setRef_refs]
    split
    · subst q
      obtain rfl := Option.some.inj (hp.symm.trans hs)
      exact ⟨r', rfl, hon.trans hsoff⟩
    · exact ⟨s, hs, hsoff⟩
  · obtain ⟨s', hs', -⟩ := exists_of_write hp hguid hq
    exact h.listed q s' hs'
  · exact h.unique_write hp hguid
  · rw [setRef_refs]
    split
    · subst q
      obtain rfl := Option.some.inj (hp.symm.trans hq)
      exact ⟨r', rfl, hguid, fun hson => hon.trans hson⟩
    · exact ⟨s, hq, rfl, id⟩

theorem Inv.setDirty (h : m.Inv) (b : Bool) : (m.setDirty b).Inv :=
  ⟨h.nodup, h.online, h.offline, h.listed, h.unique, h.victim⟩

theorem Inv.setCurrentVictim (h : m.Inv) {v : Option RefId}
    (hv : ∀ p, v = some p → p ∈ m.iThreatContainer) : (m.setCurrentVictim v).Inv :=
  ⟨h.nodup, h.online, h.offline, h.listed, h.unique, hv⟩

/-! ## 3. Moving between the lists -/

theorem dropVictim_refs (m : ThreatManager F) (p : RefId) : (m.dropVictim p).refs = m.refs := by
  unfold dropVictim
  split <;> rfl

theorem dropVictim_online (m : ThreatManager F) (p : RefId) :
    (m.dropVictim p).iThreatContainer = m.iThreatContainer := by
  unfold dropVictim
  split <;> rfl

theorem dropVictim_offline (m : ThreatManager F) (p : RefId) :
    (m.dropVictim p).iThreatOfflineContainer = m.iThreatOfflineContainer := by
  unfold dropVictim
  split <;> rfl

theorem dropVictim_nextRef (m : ThreatManager F) (p : RefId) :
    (m.dropVictim p).nextRef = m.nextRef := by
  unfold dropVictim
  split <;> rfl

theorem dropVictim_victim {q : RefId} (h : (m.dropVictim p).iCurrentVictim = some q) :
    q ≠ p ∧ m.iCurrentVictim = some q := by
  unfold dropVictim at h
  split at h
  · cases h
  · rename_i hne
    refine ⟨?_, h⟩
    rintro rfl
    exact hne h

theorem Inv.goOffline (h : m.Inv) (hp : m.refs p = some r) (hon : r.iOnline = true)
    (r' : HostileReference F) (hguid : r'.iUnitGuid = r.iUnitGuid) (hoff : r'.iOnline = false) :
    ((((m.setRef p r').dropVictim p).removeOnline p).addOffline p).Inv := by
  have hin := h.mem_online hp hon
  have hnodup := List.nodup_append.mp h.nodup
  have hout : p ∉ m.iThreatOfflineContainer := fun hmem => hnodup.2.2 p hin p hmem rfl
  have hrefs : ∀ q, ((((m.setRef p r').dropVictim p).removeOnline p).addOffline p).refs q =
      (m.setRef p r').refs q := by
    intro q
    simp only [addOffline, removeOnline, dropVictim_refs]
  have honline : ((((m.setRef p r').dropVictim p).removeOnline p).addOffline p).iThreatContainer =
      m.iThreatContainer.filter (· ≠ p) := by
    simp only [addOffline, removeOnline, dropVictim_online, ThreatManager.setRef]
  have hoffline :
      ((((m.setRef p r').dropVictim p).removeOnline p).addOffline p).iThreatOfflineContainer =
        m.iThreatOfflineContainer ++ [p] := by
    simp only [addOffline, removeOnline, dropVictim_offline, ThreatManager.setRef]
  constructor
  · rw [honline, hoffline, ← List.append_assoc, List.nodup_append]
    refine ⟨?_, List.nodup_singleton p, ?_⟩
    · exact h.nodup.sublist (List.filter_sublist.append_right _)
    · intro a ha b hb heq
      rw [List.mem_singleton] at hb
      rw [hb] at heq
      subst heq
      rcases List.mem_append.mp ha with ha | ha
      · simp at ha
      · exact hout ha
  · intro q hq
    rw [honline, List.mem_filter, decide_eq_true_eq] at hq
    rw [hrefs, setRef_refs, if_neg hq.2]
    exact h.online q hq.1
  · intro q hq
    rw [hoffline, List.mem_append, List.mem_singleton] at hq
    rw [hrefs, setRef_refs]
    split
    · exact ⟨r', rfl, hoff⟩
    · rename_i hne
      exact h.offline q (hq.resolve_right hne)
  · intro q s hq
    rw [hrefs] at hq
    obtain ⟨s', hs', -⟩ := exists_of_write hp hguid hq
    obtain ⟨hlt, hlist⟩ := h.listed q s' hs'
    refine ⟨?_, ?_⟩
    · simpa only [addOffline, removeOnline, dropVictim_nextRef, ThreatManager.setRef] using hlt
    · rw [honline, hoffline]
      by_cases heq : q = p
      · simp [heq]
      · simpa [heq] using hlist
  · intro q q' s s' hq hq'
    rw [hrefs] at hq hq'
    exact h.unique_write hp hguid q q' s s' hq hq'
  · intro q hq
    obtain ⟨hne, hvictim⟩ := dropVictim_victim (m := m.setRef p r') hq
    rw [honline, List.mem_filter, decide_eq_true_eq]
    exact ⟨h.victim q hvictim, hne⟩

theorem Inv.goOnline (h : m.Inv) (hp : m.refs p = some r) (hoff : r.iOnline = false)
    (r' : HostileReference F) (hguid : r'.iUnitGuid = r.iUnitGuid) (hon : r'.iOnline = true)
    (hvalid : r'.isValid = true) : (((m.setRef p r').addOnline p).removeOffline p).Inv := by
  have hin := h.mem_offline hp hoff
  have hnodup := List.nodup_append.mp h.nodup
  have hout : p ∉ m.iThreatContainer := fun hmem => hnodup.2.2 p hmem p hin rfl
  constructor
  · simp only [removeOffline, addOnline, ThreatManager.setRef]
    rw [List.nodup_append]
    refine ⟨?_, hnodup.2.1.filter _, ?_⟩
    · rw [List.nodup_append]
      refine ⟨hnodup.1, List.nodup_singleton p, ?_⟩
      intro a ha b hb heq
      rw [List.mem_singleton] at hb
      exact hout (hb ▸ heq ▸ ha)
    · intro a ha b hb heq
      rw [List.mem_filter, decide_eq_true_eq] at hb
      rw [List.mem_append, List.mem_singleton] at ha
      subst heq
      exact hnodup.2.2 a (ha.resolve_right hb.2) a hb.1 rfl
  · intro q hq
    simp only [removeOffline, addOnline, ThreatManager.setRef, List.mem_append,
      List.mem_singleton] at hq
    change ∃ s, (m.setRef p r').refs q = some s ∧ _
    rw [setRef_refs]
    split
    · exact ⟨r', rfl, hon, hvalid⟩
    · rename_i hne
      exact h.online q (hq.resolve_right hne)
  · intro q hq
    simp only [removeOffline, addOnline, ThreatManager.setRef, List.mem_filter,
      decide_eq_true_eq] at hq
    change ∃ s, (m.setRef p r').refs q = some s ∧ _
    rw [setRef_refs, if_neg hq.2]
    exact h.offline q hq.1
  · intro q s hq
    obtain ⟨s', hs', -⟩ := exists_of_write hp hguid hq
    obtain ⟨hlt, hlist⟩ := h.listed q s' hs'
    refine ⟨hlt, ?_⟩
    simp only [removeOffline, addOnline, ThreatManager.setRef]
    by_cases heq : q = p
    · simp [heq]
    · simpa [heq] using hlist
  · exact h.unique_write hp hguid
  · intro q hq
    simp only [removeOffline, addOnline, ThreatManager.setRef, List.mem_append]
    exact .inl (h.victim q hq)

/-! ## 4. Status changes -/

variable [ThreatNumber F]

theorem setAccessibleState_eq (hp : m.refs p = some r) (b : Bool) :
    m.setAccessibleState p b = .ok (m.setRef p { r with iAccessible := b }) := by
  unfold setAccessibleState ThreatManager.deref
  rw [hp]
  by_cases hb : r.iAccessible = b
  · subst hb
    have hsame : m.setRef p { r with iAccessible := r.iAccessible } = m := setRef_self hp
    rw [hsame]
    simp [bind, Except.bind]
  · simp [bind, Except.bind, hb, processThreatEvent]

/-- What is left of the other references, and of this one, by a status change of this one. -/
structure Moved (m m' : ThreatManager F) (p : RefId) (r : HostileReference F) (isOnline : Bool) :
    Prop where
  self : ∃ r', m'.refs p = some r' ∧ r'.iUnitGuid = r.iUnitGuid ∧ r'.iOnline = isOnline ∧
    r'.isValid = r.isValid
  others : ∀ q, q ≠ p → m'.refs q = m.refs q

omit [ThreatNumber F] in
theorem Moved.grows {isOnline : Bool} (h : Moved m m' p r isOnline) (hp : m.refs p = some r)
    (hon : r.iOnline = true → isOnline = true) : m.Grows m' := by
  intro q s hq
  by_cases heq : q = p
  · subst q
    obtain rfl := Option.some.inj (hp.symm.trans hq)
    obtain ⟨r', hr', hguid, hson, -⟩ := h.self
    exact ⟨r', hr', hguid, fun hr => hson.trans (hon hr)⟩
  · exact ⟨s, (h.others q heq).trans hq, rfl, id⟩

theorem Inv.setOnlineOfflineState (h : m.Inv) (hp : m.refs p = some r) {isOnline : Bool}
    (hvalid : isOnline = true → r.isValid = true) :
    Outcome (fun m' => m'.Inv ∧ Moved m m' p r isOnline) Overflow
      (m.setOnlineOfflineState p isOnline) := by
  unfold ThreatManager.setOnlineOfflineState
  refine Outcome.deref hp ?_
  split
  · rename_i hne
    cases isOnline with
    | true =>
      have hoff : r.iOnline = false := by simpa using hne
      have hset : (m.setRef p { r with iOnline := true }).refs p =
          some { r with iOnline := true } := by simp
      have hdone : ∀ b, Moved m
          (((((m.setRef p { r with iOnline := true }).setDirty b).addOnline p).removeOffline p)) p r
          true := by
        intro b
        refine ⟨⟨{ r with iOnline := true }, ?_, rfl, rfl, rfl⟩, fun q hq => ?_⟩
        · exact hset
        · change (m.setRef p { r with iOnline := true }).refs q = m.refs q
          rw [setRef_refs, if_neg hq]
      have hinv : ∀ b, (((((m.setRef p { r with iOnline := true }).setDirty b).addOnline
          p).removeOffline p)).Inv := by
        intro b
        exact (h.goOnline hp hoff { r with iOnline := true } rfl rfl (hvalid rfl)).setDirty b
      simp only [if_true, processThreatEvent]
      change Outcome _ _ ((m.setRef p { r with iOnline := true }).deref p >>= _)
      refine Outcome.deref hset ?_
      simp only [if_true]
      split
      · rename_i victim hvictim
        -- the victim is online, so its pointer is good
        obtain ⟨v, hv, -⟩ := h.online victim (h.victim victim hvictim)
        obtain ⟨v', hv'⟩ : ∃ v', (m.setRef p { r with iOnline := true }).refs victim = some v' := by
          rw [setRef_refs]
          split
          · exact ⟨_, rfl⟩
          · exact ⟨v, hv⟩
        refine Outcome.deref hv' ?_
        split
        · exact ⟨hinv true, hdone true⟩
        · exact ⟨hinv _, hdone (m.setRef p { r with iOnline := true }).iDirty⟩
      · exact ⟨hinv _, hdone (m.setRef p { r with iOnline := true }).iDirty⟩
    | false =>
      have hon : r.iOnline = true := by simpa using hne
      have hset : (m.setRef p { r with iOnline := false }).refs p =
          some { r with iOnline := false } := by simp
      simp only [Bool.false_eq_true, if_false]
      rw [setAccessibleState_eq hset]
      refine Outcome.ok_bind ?_
      have htwice : (m.setRef p { r with iOnline := false }).setRef p
          { r with iOnline := false, iAccessible := false } =
            m.setRef p { r with iOnline := false, iAccessible := false } := by
        simp [ThreatManager.setRef]
      rw [htwice]
      unfold processThreatEvent
      refine Outcome.deref (r := { r with iOnline := false, iAccessible := false }) (by simp) ?_
      simp only [Bool.false_eq_true, if_false]
      refine ⟨h.goOffline hp hon { r with iOnline := false, iAccessible := false } rfl rfl,
        ⟨{ r with iOnline := false, iAccessible := false }, ?_, rfl, rfl, rfl⟩, fun q hq => ?_⟩
      · simp [addOffline, removeOnline, dropVictim_refs]
      · simp [addOffline, removeOnline, dropVictim_refs, hq]
  · rename_i heq
    exact ⟨h, ⟨r, hp, rfl, by simpa using heq, rfl⟩, fun _ _ => rfl⟩

theorem Inv.updateOnlineStatus (h : m.Inv) (w : World F) (hp : m.refs p = some r) :
    Outcome (fun m' => m'.Inv ∧ (r.iOnline = false → m.Grows m')) Overflow
      (m.updateOnlineStatus w p) := by
  unfold ThreatManager.updateOnlineStatus
  refine Outcome.deref hp ?_
  dsimp only
  generalize hlinked : (if ¬ r.isValid = true ∧ w.getUnit r.iUnitGuid = true then
    { r with isValid := true } else r) = linked
  have hguid : linked.iUnitGuid = r.iUnitGuid := by
    rw [← hlinked]
    split <;> rfl
  have hon : linked.iOnline = r.iOnline := by
    rw [← hlinked]
    split <;> rfl
  have hvalid : r.isValid = true → linked.isValid = true := by
    rw [← hlinked]
    split
    · exact fun _ => rfl
    · exact id
  obtain ⟨hinv, hgrows⟩ := h.setRef hp hguid hon fun hr => hvalid (h.valid_of_online hp hr)
  have hset : (m.setRef p linked).refs p = some linked := by simp
  rw [setAccessibleState_eq hset]
  refine Outcome.ok_bind ?_
  have hlink : linked.iOnline = true → linked.isValid = true := hinv.valid_of_online hset
  have hkept : ∀ b, (m.setRef p linked).Kept
      ((m.setRef p linked).setRef p { linked with iAccessible := b }) :=
    fun b => hinv.setRef hset rfl rfl hlink
  have hset' : ∀ b, ((m.setRef p linked).setRef p { linked with iAccessible := b }).refs p =
      some { linked with iAccessible := b } := by simp
  refine ((hkept _).1.setOnlineOfflineState (hset' _) ?_).imp ?_
  · intro hreach
    simp only [Bool.and_eq_true] at hreach
    exact hreach.1.1.1.1.1
  · rintro m' ⟨hm', hmoved⟩
    refine ⟨hm', fun hoff => (hgrows.trans (hkept _).2).trans (hmoved.grows (hset' _) ?_)⟩
    intro hl
    rw [show linked.iOnline = false from hon.trans hoff] at hl
    cases hl

/-! ## 5. Adding threat -/

theorem Inv.threatChange (h : m.Inv) (p : RefId) (value : F) :
    Outcome m.Kept Overflow (m.processThreatEvent (.UEV_THREAT_REF_THREAT_CHANGE value) p) := by
  unfold processThreatEvent
  dsimp only
  split
  · exact ⟨h.setDirty true, fun q s hq => ⟨s, hq, rfl, id⟩⟩
  · exact ⟨h, Grows.refl m⟩

abbrev KeepsLists (addOwner : ThreatManager F → Guid → Result (ThreatManager F)) : Prop :=
  ∀ m u, m.Inv → Outcome m.Kept Overflow (addOwner m u)

variable {w : World F} {nested : ThreatManager F → Guid → Result (ThreatManager F)}

theorem Inv.refAddThreat (h : m.Inv) (hnested : KeepsLists nested) (hp : m.refs p = some r)
    (modThreat : F) : Outcome m.Kept Overflow (m.refAddThreat w nested p modThreat) := by
  unfold ThreatManager.refAddThreat
  refine Outcome.deref hp ?_
  dsimp only
  have hlink : r.iOnline = true → r.isValid = true := h.valid_of_online hp
  have hwrite : m.Kept (m.setRef p { r with iThreat := ThreatNumber.add r.iThreat modThreat }) :=
    h.setRef hp rfl rfl hlink
  have hset : (m.setRef p { r with iThreat := ThreatNumber.add r.iThreat modThreat }).refs p =
      some { r with iThreat := ThreatNumber.add r.iThreat modThreat } := by simp
  have hstatus : Outcome m.Kept Overflow
      (if r.iOnline = true then
        .ok (m.setRef p { r with iThreat := ThreatNumber.add r.iThreat modThreat })
      else (m.setRef p { r with iThreat := ThreatNumber.add r.iThreat modThreat }).updateOnlineStatus
        w p) := by
    split
    · exact hwrite
    · rename_i hoff
      refine (hwrite.1.updateOnlineStatus w hset).imp fun m' hm' => ?_
      exact hwrite.trans ⟨hm'.1, hm'.2 (by simpa using hoff)⟩
  refine Outcome.bind hstatus fun m₁ h₁ => ?_
  have hchange : Outcome m.Kept Overflow
      (if ThreatNumber.eq modThreat ThreatNumber.zero = true then .ok m₁
      else m₁.processThreatEvent (.UEV_THREAT_REF_THREAT_CHANGE modThreat) p) := by
    split
    · exact h₁
    · exact (h₁.1.threatChange p modThreat).imp fun m' hm' => h₁.trans hm'
  refine Outcome.bind hchange fun m₂ h₂ => ?_
  obtain ⟨r₂, hr₂, -⟩ := h₂.2 p r hp
  refine Outcome.deref hr₂ ?_
  split
  · split
    · split
      · exact (hnested m₂ _ h₂.1).imp fun m' hm' => h₂.trans hm'
      · exact h₂
    · exact h₂
  · exact h₂

omit [ThreatNumber F] in
theorem getReferenceByTarget_spec (victim : Guid) {l : List RefId}
    (hl : ∀ p ∈ l, ∃ r, m.refs p = some r) :
    Outcome (fun found => (∀ p, found = some p → p ∈ l ∧ ∃ r, m.refs p = some r) ∧
      (found = none → ∀ p ∈ l, ∀ r, m.refs p = some r → r.iUnitGuid ≠ victim)) Overflow
      (m.getReferenceByTarget victim l) := by
  induction l with
  | nil => exact ⟨by simp, by simp⟩
  | cons p rest ih =>
    obtain ⟨r, hr⟩ := hl p List.mem_cons_self
    unfold getReferenceByTarget
    refine Outcome.deref hr ?_
    split
    · refine ⟨fun q hq => ?_, fun hnone => by cases hnone⟩
      obtain rfl := Option.some.inj hq
      exact ⟨List.mem_cons_self, r, hr⟩
    · rename_i hne
      refine (ih fun q hq => hl q (List.mem_cons_of_mem p hq)).imp fun found hfound => ?_
      refine ⟨fun q hq => ⟨List.mem_cons_of_mem p (hfound.1 q hq).1, (hfound.1 q hq).2⟩, ?_⟩
      intro hnone q hq s hs
      rcases List.mem_cons.mp hq with rfl | hq
      · obtain rfl := Option.some.inj (hr.symm.trans hs)
        exact hne
      · exact hfound.2 hnone q hq s hs

omit [ThreatNumber F] in
theorem Inv.refs_online (h : m.Inv) : ∀ p ∈ m.iThreatContainer, ∃ r, m.refs p = some r := by
  intro p hp
  obtain ⟨r, hr, -⟩ := h.online p hp
  exact ⟨r, hr⟩

omit [ThreatNumber F] in
theorem Inv.refs_offline (h : m.Inv) :
    ∀ p ∈ m.iThreatOfflineContainer, ∃ r, m.refs p = some r := by
  intro p hp
  obtain ⟨r, hr, -⟩ := h.offline p hp
  exact ⟨r, hr⟩

/-- A manager with a new reference at the end of its online list. -/
def allocated (m : ThreatManager F) (r : HostileReference F) : ThreatManager F :=
  addOnline { m.setRef m.nextRef r with nextRef := m.nextRef + 1 } m.nextRef

omit [ThreatNumber F] in
theorem Inv.allocated (h : m.Inv) (hon : r.iOnline = true) (hvalid : r.isValid = true)
    (hnew : ∀ p s, m.refs p = some s → s.iUnitGuid ≠ r.iUnitGuid) : m.Kept (m.allocated r) := by
  have hfree : ∀ p s, m.refs p = some s → p ≠ m.nextRef := by
    intro p s hp
    exact (h.listed p s hp).1.ne
  have hrefs : ∀ q, (m.allocated r).refs q = if q = m.nextRef then some r else m.refs q :=
    fun q => setRef_refs m m.nextRef q r
  have hold : ∀ q s, m.refs q = some s → (m.allocated r).refs q = some s := by
    intro q s hq
    rw [hrefs, if_neg (hfree q s hq)]
    exact hq
  have hout : m.nextRef ∉ m.iThreatContainer ++ m.iThreatOfflineContainer := by
    intro hin
    obtain ⟨s, hs⟩ : ∃ s, m.refs m.nextRef = some s := by
      rcases List.mem_append.mp hin with hin | hin
      · exact h.refs_online _ hin
      · exact h.refs_offline _ hin
    exact hfree _ s hs rfl
  have honline : (m.allocated r).iThreatContainer = m.iThreatContainer ++ [m.nextRef] := rfl
  have hoffline : (m.allocated r).iThreatOfflineContainer = m.iThreatOfflineContainer := rfl
  constructor
  · constructor
    · rw [honline, hoffline, List.append_assoc]
      refine List.nodup_middle.mpr ?_
      exact List.nodup_cons.mpr ⟨hout, h.nodup⟩
    · intro q hq
      rw [honline, List.mem_append, List.mem_singleton] at hq
      rcases hq with hq | rfl
      · obtain ⟨s, hs, hs'⟩ := h.online q hq
        exact ⟨s, hold q s hs, hs'⟩
      · exact ⟨r, by rw [hrefs, if_pos rfl], hon, hvalid⟩
    · intro q hq
      obtain ⟨s, hs, hs'⟩ := h.offline q hq
      exact ⟨s, hold q s hs, hs'⟩
    · intro q s hq
      rw [hrefs] at hq
      change q < m.nextRef + 1 ∧ (q ∈ m.iThreatContainer ++ [m.nextRef] ∨ _)
      split at hq
      · subst q
        exact ⟨Nat.lt_succ_self _, .inl (by simp)⟩
      · obtain ⟨hlt, hlist⟩ := h.listed q s hq
        exact ⟨Nat.lt_succ_of_lt hlt, hlist.imp (List.mem_append_left _) id⟩
    · intro q q' s s' hq hq' heq
      rw [hrefs] at hq hq'
      split at hq <;> split at hq'
      · rename_i h₁ h₂
        rw [h₁, h₂]
      · obtain rfl := Option.some.inj hq
        exact absurd heq.symm (hnew q' s' hq')
      · obtain rfl := Option.some.inj hq'
        exact absurd heq (hnew q s hq)
      · exact h.unique q q' s s' hq hq' heq
    · intro q hq
      exact List.mem_append_left _ (h.victim q hq)
  · intro q s hq
    exact ⟨s, hold q s hq, rfl, id⟩

theorem Inv.newReference (h : m.Inv) (hnested : KeepsLists nested) (victim : Guid) (threat : F)
    (hnew : ∀ p s, m.refs p = some s → s.iUnitGuid ≠ victim) :
    Outcome m.Kept Overflow (m.newReference w nested victim threat) := by
  unfold ThreatManager.newReference
  obtain ⟨hinv, hgrows⟩ := h.allocated
    (r := ⟨ThreatNumber.zero, ThreatNumber.zero, victim, true, true, true⟩) rfl rfl hnew
  have hset : (m.allocated ⟨ThreatNumber.zero, ThreatNumber.zero, victim, true, true, true⟩).refs
      m.nextRef = some ⟨ThreatNumber.zero, ThreatNumber.zero, victim, true, true, true⟩ := by
    simp [ThreatManager.allocated, addOnline]
  refine Outcome.bind (hinv.refAddThreat hnested hset threat) fun m' hm' => ?_
  -- the nested call has not taken the new reference offline
  obtain ⟨r', hr', -, hon⟩ := hm'.2 _ _ hset
  have hkept : m.Kept m' := ⟨hm'.1, hgrows.trans hm'.2⟩
  split
  · refine (hm'.1.setOnlineOfflineState hr' (by simp)).imp fun m'' hm'' => ⟨hm''.1, ?_⟩
    intro q s hq
    obtain ⟨s', hs', hguid, hson⟩ := hkept.2 q s hq
    have hne : q ≠ m.nextRef := (h.listed q s hq).1.ne
    exact ⟨s', by rw [hm''.2.others q hne]; exact hs', hguid, hson⟩
  · split
    · refine ⟨hm'.1.setCurrentVictim fun p hp => ?_, hkept.2⟩
      obtain rfl := Option.some.inj hp
      exact hm'.1.mem_online hr' (hon rfl)
    · exact hkept

theorem Inv.addThreatTo (h : m.Inv) (hnested : KeepsLists nested) (victim : Guid) (threat : F) :
    Outcome m.Kept Overflow (m.addThreatTo w nested victim threat) := by
  unfold ThreatManager.addThreatTo
  refine Outcome.bind (getReferenceByTarget_spec victim h.refs_online) fun found hfound => ?_
  cases found with
  | some p =>
    obtain ⟨-, r, hr⟩ := hfound.1 p rfl
    exact h.refAddThreat hnested hr threat
  | none =>
    refine Outcome.bind (getReferenceByTarget_spec victim h.refs_offline) fun found' hfound' => ?_
    cases found' with
    | some p =>
      obtain ⟨-, r, hr⟩ := hfound'.1 p rfl
      exact h.refAddThreat hnested hr threat
    | none =>
      refine h.newReference hnested victim threat fun p s hs => ?_
      rcases (h.listed p s hs).2 with hin | hin
      · exact hfound.2 rfl p hin s hs
      · exact hfound'.2 rfl p hin s hs

theorem Inv.doAddThreatWith (h : m.Inv) (hnested : KeepsLists nested) (victim : Guid)
    (threat : F) : Outcome m.Kept Overflow (m.doAddThreatWith w nested victim threat) := by
  unfold ThreatManager.doAddThreatWith
  dsimp only
  split
  · split
    · refine Outcome.bind (h.addThreatTo hnested _ _) fun m' hm' => ?_
      exact (hm'.1.addThreatTo hnested _ _).imp fun m'' hm'' => hm'.trans hm''
    · exact h.addThreatTo hnested victim threat
  · exact h.addThreatTo hnested victim threat

theorem Inv.addThreatWith (h : m.Inv) (hnested : KeepsLists nested) (victim : Guid) (threat : F)
    (schoolMask : ℕ) (threatSpell : Option ℕ) :
    Outcome m.Kept Overflow (m.addThreatWith w nested victim threat schoolMask threatSpell) := by
  unfold ThreatManager.addThreatWith
  split
  · exact h.doAddThreatWith hnested victim _
  · exact ⟨h, Grows.refl m⟩

theorem addOwner_keeps (w : World F) (depth : ℕ) : KeepsLists (addOwner w depth) := by
  induction depth with
  | zero => exact fun m u h => rfl
  | succ depth ih => exact fun m u h => h.addThreatWith ih u _ _ _

theorem Inv.addThreatRef (h : m.Inv) (hp : m.refs p = some r) (modThreat : F) :
    Outcome m.Kept Overflow (m.addThreatRef w p modThreat) :=
  h.refAddThreat (addOwner_keeps w w.stack) hp modThreat

/-! ## 6. The other operations -/

theorem Inv.addThreatPercentRef (h : m.Inv) (hp : m.refs p = some r) (percent : ℤ) :
    Outcome m.Kept Overflow (m.addThreatPercentRef w percent p) := by
  unfold ThreatManager.addThreatPercentRef
  exact Outcome.deref hp (h.addThreatRef hp _)

theorem Inv.addTempThreatRef (h : m.Inv) (hp : m.refs p = some r) (threat : F) :
    Outcome m.Kept Overflow (m.addTempThreatRef w threat p) := by
  unfold ThreatManager.addTempThreatRef
  refine Outcome.deref hp ?_
  have hlink : r.iOnline = true → r.isValid = true := h.valid_of_online hp
  have hwrite : m.Kept (m.setRef p { r with iTempThreatModifier := threat }) :=
    h.setRef hp rfl rfl hlink
  dsimp only
  split
  · exact hwrite
  · have hset : (m.setRef p { r with iTempThreatModifier := threat }).refs p =
        some { r with iTempThreatModifier := threat } := by simp
    exact (hwrite.1.addThreatRef hset threat).imp fun m' hm' => hwrite.trans hm'

theorem Inv.resetTempThreatRef (h : m.Inv) (hp : m.refs p = some r) :
    Outcome m.Kept Overflow (m.resetTempThreatRef w p) := by
  unfold ThreatManager.resetTempThreatRef
  refine Outcome.deref hp ?_
  split
  · exact ⟨h, Grows.refl m⟩
  · refine Outcome.bind (h.addThreatRef hp _) fun m' hm' => ?_
    obtain ⟨r', hr', -⟩ := hm'.2 p r hp
    refine Outcome.deref hr' ?_
    have hlink : r'.iOnline = true → r'.isValid = true := hm'.1.valid_of_online hr'
    exact hm'.trans (hm'.1.setRef hr' rfl rfl hlink)

theorem Inv.getThreat (h : m.Inv) (victim : Guid) :
    Outcome (fun _ => True) Overflow (m.getThreat victim) := by
  unfold ThreatManager.getThreat
  refine Outcome.bind (getReferenceByTarget_spec victim h.refs_online) fun found hfound => ?_
  cases found with
  | some p =>
    obtain ⟨-, r, hr⟩ := hfound.1 p rfl
    exact Outcome.deref hr trivial
  | none => trivial

theorem Inv.modifyThreatPercent (h : m.Inv) (victim : Guid) (percent : ℤ) :
    Outcome Inv Overflow (m.modifyThreatPercent w victim percent) := by
  unfold ThreatManager.modifyThreatPercent
  refine Outcome.bind (getReferenceByTarget_spec victim h.refs_online) fun found hfound => ?_
  cases found with
  | some p =>
    obtain ⟨-, r, hr⟩ := hfound.1 p rfl
    exact (h.addThreatPercentRef hr percent).imp fun _ hm' => hm'.1
  | none => exact h

theorem Inv.tauntApply (h : m.Inv) (taunter : Guid) :
    Outcome Inv Overflow (m.tauntApply w taunter) := by
  unfold ThreatManager.tauntApply
  refine Outcome.bind (getReferenceByTarget_spec taunter h.refs_online) fun found hfound => ?_
  split
  · rename_i victim p hvictim
    obtain ⟨-, r, hr⟩ := hfound.1 p rfl
    obtain ⟨v, hv⟩ := h.refs_online victim (h.victim victim hvictim)
    refine Outcome.deref hr (Outcome.deref hv ?_)
    split
    · exact (h.addTempThreatRef hr _).imp fun _ hm' => hm'.1
    · exact h
  · exact h

theorem Inv.tauntFadeOut (h : m.Inv) (taunter : Guid) :
    Outcome Inv Overflow (m.tauntFadeOut w taunter) := by
  unfold ThreatManager.tauntFadeOut
  refine Outcome.bind (getReferenceByTarget_spec taunter h.refs_online) fun found hfound => ?_
  cases found with
  | some p =>
    obtain ⟨-, r, hr⟩ := hfound.1 p rfl
    exact (h.resetTempThreatRef hr).imp fun _ hm' => hm'.1
  | none => exact h

theorem Inv.effectTaunt (h : m.Inv) (caster : Guid) :
    Outcome Inv Overflow (m.effectTaunt w caster) := by
  unfold ThreatManager.effectTaunt
  split
  · exact h
  · rename_i mostHated rest hlist
    refine Outcome.bind (h.getThreat caster) fun myThreat _ => ?_
    obtain ⟨top, htop⟩ := h.refs_online mostHated (by simp [hlist])
    refine Outcome.deref htop ?_
    have hadd : Outcome Inv Overflow (if ThreatNumber.lt myThreat top.iThreat = true then
        m.doAddThreat w caster (ThreatNumber.sub top.iThreat myThreat) else .ok m) := by
      split
      · exact (h.doAddThreatWith (addOwner_keeps w w.stack) _ _).imp fun _ hm' => hm'.1
      · exact h
    refine Outcome.bind hadd fun m' hm' => ?_
    refine Outcome.bind (getReferenceByTarget_spec caster hm'.refs_online) fun found hfound => ?_
    cases found with
    | some p =>
      refine hm'.setCurrentVictim fun q hq => ?_
      obtain rfl := Option.some.inj hq
      exact (hfound.1 p rfl).1
    | none => exact hm'

/-! ## 7. Removals -/

theorem Inv.removeReference (h : m.Inv) (hp : m.refs p = some r) :
    Outcome Inv Overflow (m.removeReference p) := by
  unfold ThreatManager.removeReference
  refine Outcome.bind (h.setOnlineOfflineState hp (by simp)) fun m₁ h₁ => ?_
  obtain ⟨hinv, ⟨r₁, hr₁, -, hoff, -⟩, -⟩ := h₁
  refine Outcome.deref hr₁ ?_
  -- it is offline now, so neither the link nor the victim matters
  have hcut : m₁.Kept (m₁.setRef p { r₁ with isValid := false }) :=
    hinv.setRef hr₁ rfl rfl fun hon => by
      rw [hoff] at hon
      cases hon
  set m₂ := m₁.setRef p { r₁ with isValid := false } with hm₂
  have hr₂ : m₂.refs p = some { r₁ with isValid := false } := by simp [hm₂]
  have hout : p ∉ m₂.iThreatContainer := by
    intro hin
    obtain ⟨s, hs, hon, -⟩ := hcut.1.online p hin
    obtain rfl := Option.some.inj (hr₂.symm.trans hs)
    rw [show ({ r₁ with isValid := false } : HostileReference F).iOnline = false from hoff] at hon
    cases hon
  have hvictim : m₂.iCurrentVictim ≠ some p := fun hv => hout (hcut.1.victim p hv)
  have hevent : m₂.processThreatEvent .UEV_THREAT_REF_REMOVE_FROM_LIST p =
      .ok (m₂.removeOffline p) := by
    unfold processThreatEvent ThreatManager.deref
    simp only [hr₂, bind, Except.bind, hoff, dropVictim, hvictim, if_false, Bool.false_eq_true]
  dsimp only
  rw [hevent]
  refine Outcome.ok_bind ?_
  have hrefs : ∀ q s, ((m₂.removeOffline p).free p).refs q = some s → q ≠ p ∧ m₂.refs q = some s := by
    intro q s hq
    rw [free_refs] at hq
    split at hq
    · cases hq
    · rename_i hne
      exact ⟨hne, hq⟩
  refine ⟨?_, fun q hq => ?_, fun q hq => ?_, fun q s hq => ?_, ?_, hcut.1.victim⟩
  · exact hcut.1.nodup.sublist (List.filter_sublist.append_left _)
  · obtain ⟨s, hs, hs'⟩ := hcut.1.online q hq
    refine ⟨s, ?_, hs'⟩
    rw [free_refs, if_neg (by rintro rfl; exact hout hq)]
    exact hs
  · obtain ⟨hq, hne⟩ := List.mem_filter.mp hq
    obtain ⟨s, hs, hs'⟩ := hcut.1.offline q hq
    refine ⟨s, ?_, hs'⟩
    rw [free_refs, if_neg (by simpa using hne)]
    exact hs
  · obtain ⟨hne, hq⟩ := hrefs q s hq
    obtain ⟨hlt, hlist⟩ := hcut.1.listed q s hq
    refine ⟨hlt, hlist.imp id fun hin => ?_⟩
    exact List.mem_filter.mpr ⟨hin, by simpa using hne⟩
  · intro q q' s s' hq hq' heq
    exact hcut.1.unique q q' s s' (hrefs q s hq).2 (hrefs q' s' hq').2 heq

omit [ThreatNumber F] in
theorem Inv.linksOf_cases (h : m.Inv) (unit : Guid) :
    m.linksOf unit = [] ∨
      ∃ p r, m.linksOf unit = [p] ∧ m.refs p = some r ∧ r.isValid = true := by
  have hmem : ∀ p ∈ m.linksOf unit, ∃ r, m.refs p = some r ∧ r.isValid = true ∧
      r.iUnitGuid = unit := by
    intro p hp
    have hlink := (List.mem_filter.mp hp).2
    cases hr : m.refs p with
    | none => simp [hr] at hlink
    | some r =>
      simp only [hr, Option.any_some, Bool.and_eq_true, beq_iff_eq] at hlink
      exact ⟨r, rfl, hlink⟩
  have hnodup : (m.linksOf unit).Nodup := List.nodup_range.filter _
  cases hlinks : m.linksOf unit with
  | nil => exact .inl rfl
  | cons p rest =>
    rw [hlinks] at hmem hnodup
    obtain ⟨r, hr, hvalid, hguid⟩ := hmem p List.mem_cons_self
    cases rest with
    | nil => exact .inr ⟨p, r, rfl, hr, hvalid⟩
    | cons q rest =>
      obtain ⟨r', hr', -, hguid'⟩ := hmem q (List.mem_cons_of_mem p List.mem_cons_self)
      have heq := h.unique p q r r' hr hr' (hguid.trans hguid'.symm)
      simp [heq] at hnodup

omit [ThreatNumber F] in
theorem Inv.foldlM_linksOf (h : m.Inv) (unit : Guid)
    {f : ThreatManager F → RefId → Result (ThreatManager F)}
    (hf : ∀ p r, m.refs p = some r → r.isValid = true → Outcome Inv Overflow (f m p)) :
    Outcome Inv Overflow ((m.linksOf unit).foldlM f m) := by
  rcases h.linksOf_cases unit with hnil | ⟨p, r, hone, hr, hvalid⟩
  · rw [hnil]
    exact h
  · rw [hone, List.foldlM_cons]
    exact Outcome.bind (hf p r hr hvalid) fun m' hm' => hm'

/-- The first `i` references of a list are deleted, and nothing else. -/
structure Dropped (m s : ThreatManager F) (done : List RefId) : Prop where
  refs : ∀ q, s.refs q = if q ∈ done then none else m.refs q
  online : s.iThreatContainer = m.iThreatContainer
  offline : s.iThreatOfflineContainer = m.iThreatOfflineContainer
  nextRef : s.nextRef = m.nextRef

omit [ThreatNumber F] in
theorem foldlM_drop (m : ThreatManager F) {l : List RefId} (hnodup : l.Nodup)
    (hl : ∀ p ∈ l, ∃ r, m.refs p = some r) :
    Outcome (Dropped m · l) Overflow
      (l.foldlM (fun m p => do
        let _ ← m.deref p
        Except.ok (m.free p)) m) := by
  refine Outcome.foldlM (I := fun done s => Dropped m s done) ⟨by simp, rfl, rfl, rfl⟩ ?_
  intro done p rest s hsplit hs
  have hout : p ∉ done := by
    rw [hsplit, List.nodup_append] at hnodup
    exact fun hin => hnodup.2.2 p hin p List.mem_cons_self rfl
  obtain ⟨r, hr⟩ := hl p (by simp [hsplit])
  have hread : s.refs p = some r := by rw [hs.refs, if_neg hout, hr]
  refine Outcome.deref hread ⟨fun q => ?_, hs.online, hs.offline, hs.nextRef⟩
  rw [free_refs, hs.refs]
  by_cases heq : q = p
  · simp [heq]
  · simp [heq]

omit [ThreatNumber F] in
theorem Inv.clearReferences (h : m.Inv) : Outcome Inv Overflow m.clearReferences := by
  unfold ThreatManager.clearReferences
  have hnodup := List.nodup_append.mp h.nodup
  refine Outcome.bind (foldlM_drop m hnodup.1 h.refs_online) fun m₁ h₁ => ?_
  have hoffline : ∀ p ∈ m₁.iThreatOfflineContainer,
      ∃ r, ({ m₁ with iThreatContainer := [] } : ThreatManager F).refs p = some r := by
    intro p hp
    rw [h₁.offline] at hp
    obtain ⟨r, hr⟩ := h.refs_offline p hp
    refine ⟨r, ?_⟩
    change m₁.refs p = some r
    rw [h₁.refs, if_neg fun hin => hnodup.2.2 p hin p hp rfl]
    exact hr
  have hnodup' : m₁.iThreatOfflineContainer.Nodup := by
    rw [h₁.offline]
    exact hnodup.2.1
  refine Outcome.bind (foldlM_drop { m₁ with iThreatContainer := [] } hnodup' hoffline)
    fun m₂ h₂ => ?_
  have hnone : ∀ q s, m₂.refs q ≠ some s := by
    intro q s hq
    rw [h₂.refs] at hq
    split at hq
    · cases hq
    · rename_i hout
      change m₁.refs q = some s at hq
      rw [h₁.refs] at hq
      split at hq
      · cases hq
      · rename_i hout'
        rw [h₁.offline] at hout
        rcases (h.listed q s hq).2 with hin | hin
        · exact hout' hin
        · exact hout hin
  have honline : m₂.iThreatContainer = [] := h₂.online
  refine ⟨by simp [honline], by simp [honline], by simp, fun q s hq => absurd hq (hnone q s),
    fun q q' s s' hq => absurd hq (hnone q s), by simp⟩

/-! ## 8. The victim -/

omit [ThreatNumber F] in
theorem mapM_deref {l : List RefId} (hl : ∀ p ∈ l, ∃ r, m.refs p = some r) :
    Outcome (fun _ => True) Overflow (l.mapM m.deref) := by
  induction l with
  | nil => trivial
  | cons p rest ih =>
    obtain ⟨r, hr⟩ := hl p List.mem_cons_self
    rw [List.mapM_cons]
    refine Outcome.deref hr ?_
    exact Outcome.bind (ih fun q hq => hl q (List.mem_cons_of_mem p hq)) fun _ _ => trivial

theorem Inv.update (h : m.Inv) : Outcome Inv Overflow m.update := by
  unfold ThreatManager.update
  split
  · refine Outcome.bind (mapM_deref h.refs_online) fun _ _ => ?_
    set sorted := m.iThreatContainer.insertionSort fun a b =>
      ¬ ThreatNumber.lt ((m.refs a).elim ThreatNumber.zero (·.iThreat))
        ((m.refs b).elim ThreatNumber.zero (·.iThreat)) = true with hsorted
    have hperm : sorted.Perm m.iThreatContainer := List.perm_insertionSort _ _
    refine ⟨?_, fun p hp => h.online p (hperm.mem_iff.mp hp), h.offline, fun q s hq => ?_, h.unique,
      fun p hp => hperm.mem_iff.mpr (h.victim p hp)⟩
    · exact ((hperm.append_right _).nodup_iff).mpr h.nodup
    · obtain ⟨hlt, hlist⟩ := h.listed q s hq
      exact ⟨hlt, hlist.imp hperm.mem_iff.mpr id⟩
  · exact ⟨h.nodup, h.online, h.offline, h.listed, h.unique, h.victim⟩

theorem Inv.selectPass (h : m.Inv) (w : World F) (noPriority : Bool)
    {restart : Option RefId → Result (Option RefId)}
    (hrestart : ∀ v, (∀ p, v = some p → p ∈ m.iThreatContainer) →
      Outcome (fun found => ∀ p, found = some p → p ∈ m.iThreatContainer) Overflow (restart v))
    {l : List RefId} (hl : ∀ p ∈ l, p ∈ m.iThreatContainer) {v : Option RefId}
    (hv : ∀ p, v = some p → p ∈ m.iThreatContainer) :
    Outcome (fun found => ∀ p, found = some p → p ∈ m.iThreatContainer) Overflow
      (m.selectPass w noPriority restart l v) := by
  induction l generalizing v with
  | nil => exact fun p hp => by cases hp
  | cons currentRef rest ih =>
    have hin := hl currentRef List.mem_cons_self
    have hrest := fun q hq => hl q (List.mem_cons_of_mem currentRef hq)
    obtain ⟨r, hr, -, hvalid⟩ := h.online currentRef hin
    have hself : ∀ p, some currentRef = some p → p ∈ m.iThreatContainer := by
      intro p hp
      obtain rfl := Option.some.inj hp
      exact hin
    unfold ThreatManager.selectPass
    refine Outcome.deref hr ?_
    rw [if_neg (by simp [hvalid])]
    dsimp only
    split
    · split
      · exact hrestart v hv
      · refine ih hrest ?_
        split
        · exact fun p hp => by cases hp
        · exact hv
    · split
      · split
        · rename_i victim
          obtain ⟨s, hs⟩ := h.refs_online victim (hv victim rfl)
          refine Outcome.deref hs ?_
          split
          · split
            · exact hv
            · exact hself
          · split
            · exact hself
            · exact ih hrest hv
        · exact hself
      · exact ih hrest hv

theorem Inv.getHostilTarget (h : m.Inv) (w : World F) :
    Outcome Inv Overflow (m.getHostilTarget w) := by
  unfold ThreatManager.getHostilTarget
  refine Outcome.bind h.update fun m' hm' => ?_
  have hnobody : ∀ v : Option RefId, (∀ p, v = some p → p ∈ m'.iThreatContainer) →
      Outcome (fun found => ∀ p, found = some p → p ∈ m'.iThreatContainer) Overflow
        ((fun _ => .ok none : Option RefId → Result (Option RefId)) v) :=
    fun _ _ p hp => by cases hp
  have hselect : Outcome (fun found => ∀ p, found = some p → p ∈ m'.iThreatContainer) Overflow
      (m'.selectNextVictim w m'.iCurrentVictim) :=
    hm'.selectPass w false
      (fun v hv => hm'.selectPass w true hnobody (fun _ hp => hp) hv)
      (fun _ hp => hp) hm'.victim
  exact Outcome.bind hselect fun found hfound => hm'.setCurrentVictim hfound

/-! ## 9. Every run -/

theorem Inv.run (h : m.Inv) (w : World F) (op : Operation F) :
    Outcome Inv Overflow (m.run w op) := by
  cases op with
  | addThreat victim threat schoolMask threatSpell =>
    exact (h.addThreatWith (addOwner_keeps w w.stack) _ _ _ _).imp fun _ hm' => hm'.1
  | doAddThreat victim threat =>
    exact (h.doAddThreatWith (addOwner_keeps w w.stack) _ _).imp fun _ hm' => hm'.1
  | modifyThreatPercent victim percent => exact h.modifyThreatPercent victim percent
  | addThreatPercent unit percent =>
    exact h.foldlM_linksOf unit fun p r hr _ =>
      (h.addThreatPercentRef hr percent).imp fun _ hm' => hm'.1
  | tauntApply taunter => exact h.tauntApply taunter
  | tauntFadeOut taunter => exact h.tauntFadeOut taunter
  | effectTaunt caster => exact h.effectTaunt caster
  | addTempThreat unit threat apply =>
    refine h.foldlM_linksOf unit fun p r hr _ => ?_
    split
    · refine Outcome.deref hr ?_
      split
      · exact (h.addTempThreatRef hr threat).imp fun _ hm' => hm'.1
      · exact h
    · exact (h.resetTempThreatRef hr).imp fun _ hm' => hm'.1
  | setOnlineOfflineState unit isOnline =>
    exact h.foldlM_linksOf unit fun p r hr hvalid =>
      (h.setOnlineOfflineState hr fun _ => hvalid).imp fun _ hm' => hm'.1
  | updateThreatTables unit =>
    exact h.foldlM_linksOf unit fun p r hr _ =>
      (h.updateOnlineStatus w hr).imp fun _ hm' => hm'.1
  | deleteReference unit =>
    exact h.foldlM_linksOf unit fun p r hr _ => h.removeReference hr
  | clearReferences => exact h.clearReferences
  | getHostilTarget => exact h.getHostilTarget w

/-- **The threat lists of a creature are sound in every state of every run**, and the process does
not end but by a chain of owners that is too deep. -/
theorem sound_of_run (owner : Guid) (events : List (World F × Operation F)) :
    States step (Outcome Sound Overflow) (.ok (new owner)) events := by
  have hinv : States step (Outcome Inv Overflow) (.ok (new owner : ThreatManager F)) events := by
    refine States.of_steps (C := fun _ _ => True) (fun r e hr _ => ?_) (new_inv owner)
      (Steps.of_forall (fun _ _ => trivial) events)
    exact Outcome.bind hr fun m hm => hm.run e.1 e.2
  exact hinv.imp fun r hr => hr.imp fun m hm => hm.sound

/-- Exact numbers for the threat of the test below. -/
instance : ThreatNumber ℚ where
  zero := 0
  neg x := -x
  add x y := x + y
  sub x y := x - y
  scale c x := c * x
  calculatePct x percent := x * percent / 100
  eq x y := x = y
  lt x y := x < y
  le x y := x ≤ y

/-- A world in which 3 is the pet of the player 2, and everybody is near and alive. -/
def petWorld : World ℚ where
  isPlayer := (· = 2)
  isGameMaster := fun _ => false
  isAlive := fun _ => true
  isInFlight := fun _ => false
  isInMap := fun _ => true
  inSamePhase := fun _ => true
  isInAccessiblePlaceFor := fun _ => true
  isWithinCombatRange := fun _ => true
  isWithinMeleeRange := fun _ => true
  isSecondChoice := fun _ => false
  canCreatureAttack := fun _ => true
  getUnit := fun _ => true
  getCharmerOrOwner := fun unit => if unit = 3 then some 2 else none
  getRedirectThreatPercent := fun _ => 0
  getRedirectThreatTarget := fun _ => none
  noThreat := fun _ => false
  calcThreat := fun _ threat _ _ => threat
  stack := 2

/-- A pet attacks: its owner is hated as well, and the pet is the victim. -/
example : ((step (.ok (new 1)) (petWorld, .addThreat 3 10 1 none)).toOption.map fun m =>
    (m.iThreatContainer, m.iCurrentVictim)) = some ([0, 1], some 0) := by
  decide +kernel

end ThreatManager

end FunPvp.Combat
