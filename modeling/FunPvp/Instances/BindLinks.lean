/-
# Instance binds are links in both directions

A holder is in the list of a save exactly when its bind points to that save. Between the two halves
of an operation that is not so, and the pointers that are meant are a function of their own beside
the state: a save forgets its holder first and the bind goes afterwards, or the other way round.
While the manager resets a save (`lock_instLists`), no save deletes itself.
-/
import FunPvp.Instances.Binds
import FunPvp.Lib.Loop
import FunPvp.Lib.Run

namespace FunPvp.Instances

open FunPvp.Lib

/-! ## 1. The lists of a save -/

namespace InstanceSave

variable (save : InstanceSave) (h h' : Holder)

theorem count_remove : (save.remove h).count h' = if h' = h then 0 else save.count h' := by
  cases h with
  | player guid =>
    cases h' with
    | player guid' =>
      unfold remove count
      by_cases heq : guid' = guid
      · rw [if_pos (congrArg Holder.player heq), heq]
        exact List.count_eq_zero.mpr fun hmem => by simpa using (List.mem_filter.mp hmem).2
      · rw [if_neg fun hsame => heq (Holder.player.inj hsame)]
        exact List.count_filter (by simpa using heq)
    | group id => rfl
  | group id =>
    cases h' with
    | player guid => rfl
    | group id' =>
      unfold remove count
      by_cases heq : id' = id
      · rw [if_pos (congrArg Holder.group heq), heq]
        exact List.count_eq_zero.mpr fun hmem => by simpa using (List.mem_filter.mp hmem).2
      · rw [if_neg fun hsame => heq (Holder.group.inj hsame)]
        exact List.count_filter (by simpa using heq)

theorem count_add : (save.add h).count h' = save.count h' + if h' = h then 1 else 0 := by
  cases h with
  | player guid =>
    cases h' with
    | player guid' =>
      by_cases heq : guid' = guid
      · subst heq
        simp [add, count]
      · simp [add, count, heq, Ne.symm heq]
    | group id => rfl
  | group id =>
    cases h' with
    | player guid => rfl
    | group id' =>
      by_cases heq : id' = id
      · subst heq
        simp [add, count]
      · simp [add, count, heq, Ne.symm heq]

@[simp] theorem key_remove : (save.remove h).key = save.key := by cases h <;> rfl

@[simp] theorem key_add : (save.add h).key = save.key := by cases h <;> rfl

@[simp] theorem remove_m_instanceid : (save.remove h).m_instanceid = save.m_instanceid := by
  cases h <;> rfl

@[simp] theorem add_m_instanceid : (save.add h).m_instanceid = save.m_instanceid := by
  cases h <;> rfl

@[simp] theorem remove_m_toDelete : (save.remove h).m_toDelete = save.m_toDelete := by
  cases h <;> rfl

@[simp] theorem add_m_toDelete : (save.add h).m_toDelete = save.m_toDelete := by
  cases h <;> rfl

theorem isEmpty_iff : save.isEmpty = true ↔ ∀ h, save.count h = 0 := by
  unfold isEmpty
  rw [Bool.and_eq_true, List.isEmpty_iff, List.isEmpty_iff]
  constructor
  · rintro ⟨hplayers, hgroups⟩ (guid | id)
    · exact (congrArg (List.count guid) hplayers).trans List.count_nil
    · exact (congrArg (List.count id) hgroups).trans List.count_nil
  · intro hcount
    constructor
    · exact List.eq_nil_iff_forall_not_mem.mpr fun guid =>
        List.count_eq_zero.mp (hcount (.player guid))
    · exact List.eq_nil_iff_forall_not_mem.mpr fun id =>
        List.count_eq_zero.mp (hcount (.group id))

end InstanceSave

/-! ## 2. The links -/

/-- Which save each holder is meant to point to, for each map and difficulty. -/
abbrev Pointers := Holder → MapDiff → Option SaveId

def Pointers.set (B : Pointers) (h : Holder) (k : MapDiff) (p : Option SaveId) : Pointers :=
  fun h' k' => if h' = h ∧ k' = k then p else B h' k'

namespace Pointers

variable {B : Pointers} {h h' : Holder} {k k' : MapDiff} {p : Option SaveId}

@[simp] theorem set_self : B.set h k p h k = p := if_pos ⟨rfl, rfl⟩

theorem set_of_ne (hne : ¬ (h' = h ∧ k' = k)) : B.set h k p h' k' = B h' k' := if_neg hne

theorem set_eq_self (hp : B h k = p) : B.set h k p = B := by
  funext h' k'
  by_cases heq : h' = h ∧ k' = k
  · obtain ⟨rfl, rfl⟩ := heq
    rw [set_self, hp]
  · exact set_of_ne heq

theorem set_set (q : Option SaveId) : (B.set h k p).set h k q = B.set h k q := by
  funext h' k'
  by_cases heq : h' = h ∧ k' = k
  · obtain ⟨rfl, rfl⟩ := heq
    rw [set_self, set_self]
  · rw [set_of_ne heq, set_of_ne heq, set_of_ne heq]

theorem set_others {a b : SaveId} (hB : B h k = none ∨ B h k = some a)
    (hp : p = none ∨ p = some a) (hne : b ≠ a) (h' : Holder) (k' : MapDiff) :
    B.set h k p h' k' = some b ↔ B h' k' = some b := by
  have hnot : ∀ {q : Option SaveId}, q = none ∨ q = some a → q ≠ some b := by
    rintro q (rfl | rfl)
    · exact nofun
    · exact fun hsame => hne (Option.some.inj hsame).symm
  by_cases heq : h' = h ∧ k' = k
  · obtain ⟨rfl, rfl⟩ := heq
    rw [set_self]
    exact iff_of_false (hnot hp) (hnot hB)
  · rw [set_of_ne heq]

end Pointers

namespace BindState

def pointers (s : BindState) : Pointers := fun h k => (s.findBind h k).map InstanceBind.save

theorem pointers_setBind (s : BindState) (h : Holder) (k : MapDiff) (bind : InstanceBind) :
    (s.setBind h k bind).pointers = s.pointers.set h k (some bind.save) := by
  funext h' k'
  unfold pointers findBind setBind setBinds
  by_cases hh : h' = h
  · subst hh
    dsimp only
    rw [Function.update_self]
    by_cases hk : k' = k
    · subst hk
      rw [AList.lookup_insert, Pointers.set_self]
      rfl
    · rw [AList.lookup_insert_ne hk, Pointers.set_of_ne fun hboth => hk hboth.2]
  · dsimp only
    rw [Function.update_of_ne hh, Pointers.set_of_ne fun hboth => hh hboth.1]

theorem pointers_erase (s : BindState) (h : Holder) (k : MapDiff) :
    (s.setBinds h ((s.m_boundInstances h).erase k)).pointers = s.pointers.set h k none := by
  funext h' k'
  unfold pointers findBind setBinds
  by_cases hh : h' = h
  · subst hh
    dsimp only
    rw [Function.update_self]
    by_cases hk : k' = k
    · subst hk
      rw [AList.lookup_erase, Pointers.set_self]
      rfl
    · rw [AList.lookup_erase_ne hk, Pointers.set_of_ne fun hboth => hk hboth.2]
  · dsimp only
    rw [Function.update_of_ne hh, Pointers.set_of_ne fun hboth => hh hboth.1]

theorem pointers_congr {s s' : BindState} (h : s'.m_boundInstances = s.m_boundInstances) :
    s'.pointers = s.pointers := by
  unfold pointers findBind
  rw [h]

end BindState

/-- **The invariant.**  The lists of the saves agree with the pointers `B`, and the saves with the
manager's table. -/
structure Links (lock : Bool) (s : BindState) (B : Pointers) : Prop where
  lock_eq : s.lock_instLists = lock
  count : ∀ a save, s.saves a = some save → ∀ h,
    save.count h = if B h save.key = some a then 1 else 0
  live : ∀ h k a, B h k = some a → ∃ save, s.saves a = some save ∧ save.key = k
  kept : ∀ a save, s.saves a = some save → save.m_toDelete = false
  byId : ∀ a save, s.saves a = some save → s.m_instanceSaveById save.m_instanceid = some a
  found : ∀ i a, s.m_instanceSaveById i = some a →
    ∃ save, s.saves a = some save ∧ save.m_instanceid = i
  fresh : ∀ a, s.nextSave ≤ a → s.saves a = none

namespace Links

open BindState

variable {lock : Bool} {s s' : BindState} {B : Pointers} {a : SaveId} {save : InstanceSave}
  {h : Holder} {k : MapDiff}

theorem congr (hl : Links lock s B) (hlock : s'.lock_instLists = s.lock_instLists)
    (hsaves : s'.saves = s.saves) (hbyId : s'.m_instanceSaveById = s.m_instanceSaveById)
    (hnext : s'.nextSave = s.nextSave) : Links lock s' B := by
  refine ⟨hlock.trans hl.lock_eq, ?_, ?_, ?_, ?_, ?_, ?_⟩
  · rw [hsaves]
    exact hl.count
  · rw [hsaves]
    exact hl.live
  · rw [hsaves]
    exact hl.kept
  · rw [hsaves, hbyId]
    exact hl.byId
  · rw [hsaves, hbyId]
    exact hl.found
  · rw [hsaves, hnext]
    exact hl.fresh

theorem deref (ha : s.saves a = some save) : s.deref a = .ok save := by
  unfold BindState.deref
  rw [ha]

theorem setSave_saves (b : SaveId) :
    (s.setSave a save).saves b = if b = a then some save else s.saves b :=
  Function.update_apply ..

theorem setSave (hl : Links lock s B) (ha : s.saves a = some save) (save' : InstanceSave)
    (hkey : save'.key = save.key) (hid : save'.m_instanceid = save.m_instanceid)
    (hkept : save'.m_toDelete = save.m_toDelete) {B' : Pointers}
    (hothers : ∀ b, b ≠ a → ∀ h k, B' h k = some b ↔ B h k = some b)
    (hto : ∀ h k, B' h k = some a → k = save.key)
    (hcount : ∀ h, save'.count h = if B' h save.key = some a then 1 else 0) :
    Links lock (s.setSave a save') B' := by
  refine ⟨hl.lock_eq, fun b save₁ hb h' => ?_, fun h' k' b hb => ?_, fun b save₁ hb => ?_,
    fun b save₁ hb => ?_, fun i b hb => ?_, fun b hb => ?_⟩
  · rw [setSave_saves] at hb
    split at hb
    · next heq =>
      obtain rfl := Option.some.inj hb
      rw [heq, hkey]
      exact hcount h'
    · next hne =>
      rw [hl.count b save₁ hb h']
      exact if_congr (hothers b hne h' save₁.key).symm rfl rfl
  · rw [setSave_saves]
    by_cases heq : b = a
    · rw [if_pos heq]
      exact ⟨save', rfl, hkey.trans (hto h' k' (heq ▸ hb)).symm⟩
    · rw [if_neg heq]
      exact hl.live h' k' b ((hothers b heq h' k').mp hb)
  · rw [setSave_saves] at hb
    split at hb
    · obtain rfl := Option.some.inj hb
      exact hkept.trans (hl.kept a save ha)
    · exact hl.kept b save₁ hb
  · rw [setSave_saves] at hb
    split at hb
    · next heq =>
      obtain rfl := Option.some.inj hb
      rw [heq, hid]
      exact hl.byId a save ha
    · exact hl.byId b save₁ hb
  · obtain ⟨save₁, hsave₁, hi⟩ := hl.found i b hb
    rw [setSave_saves]
    split
    · next heq =>
      subst heq
      obtain rfl := Option.some.inj (ha.symm.trans hsave₁)
      exact ⟨save', rfl, hid.trans hi⟩
    · exact ⟨save₁, hsave₁, hi⟩
  · rw [setSave_saves]
    split
    · next heq =>
      subst heq
      exact absurd ((hl.fresh b hb).symm.trans ha) nofun
    · exact hl.fresh b hb

theorem key_eq (hl : Links lock s B) (ha : s.saves a = some save) {h' : Holder} {k' : MapDiff}
    (hB : B h' k' = some a) : k' = save.key := by
  obtain ⟨save₁, hsave₁, rfl⟩ := hl.live h' k' a hB
  rw [Option.some.inj (hsave₁.symm.trans ha)]

theorem set_key_eq (hl : Links lock s B) (ha : s.saves a = some save) (p : Option SaveId)
    (h' : Holder) (k' : MapDiff) (hB : B.set h save.key p h' k' = some a) : k' = save.key := by
  by_cases heq : h' = h ∧ k' = save.key
  · exact heq.2
  · exact hl.key_eq ha ((Pointers.set_of_ne heq).symm.trans hB)

theorem delete (hl : Links lock s B) (ha : s.saves a = some save) (hempty : save.isEmpty = true)
    (hlock : s'.lock_instLists = lock) (hsaves : s'.saves = Function.update s.saves a none)
    (hbyId : s'.m_instanceSaveById =
      Function.update s.m_instanceSaveById save.m_instanceid none)
    (hnext : s'.nextSave = s.nextSave) : Links lock s' B := by
  have hold : ∀ b save₁, s'.saves b = some save₁ → b ≠ a ∧ s.saves b = some save₁ := by
    intro b save₁ hb
    rw [hsaves] at hb
    have hne : b ≠ a := by
      rintro rfl
      exact absurd ((Function.update_self ..).symm.trans hb) nofun
    exact ⟨hne, (Function.update_of_ne hne ..).symm.trans hb⟩
  refine ⟨hlock, fun b save₁ hb => hl.count b save₁ (hold b save₁ hb).2, fun h' k' b hb => ?_,
    fun b save₁ hb => hl.kept b save₁ (hold b save₁ hb).2, fun b save₁ hb => ?_,
    fun i b hb => ?_, fun b hb => ?_⟩
  · obtain ⟨save₁, hsave₁, hk⟩ := hl.live h' k' b hb
    have hne : b ≠ a := by
      rintro rfl
      obtain rfl := Option.some.inj (ha.symm.trans hsave₁)
      have hcount := hl.count b save ha h'
      rw [hk, if_pos hb, save.isEmpty_iff.mp hempty h'] at hcount
      exact absurd hcount (by decide)
    rw [hsaves]
    exact ⟨save₁, (Function.update_of_ne hne ..).trans hsave₁, hk⟩
  · obtain ⟨hne, hsave₁⟩ := hold b save₁ hb
    have hid := hl.byId b save₁ hsave₁
    have hother : save₁.m_instanceid ≠ save.m_instanceid := by
      intro heq
      rw [heq] at hid
      exact hne (Option.some.inj (hid.symm.trans (hl.byId a save ha)))
    rw [hbyId]
    exact (Function.update_of_ne hother ..).trans hid
  · rw [hbyId] at hb
    have hother : i ≠ save.m_instanceid := by
      rintro rfl
      exact absurd ((Function.update_self ..).symm.trans hb) nofun
    have hb' := (Function.update_of_ne hother ..).symm.trans hb
    obtain ⟨save₁, hsave₁, hi⟩ := hl.found i b hb'
    have hne : b ≠ a := by
      rintro rfl
      obtain rfl := Option.some.inj (ha.symm.trans hsave₁)
      exact hother hi.symm
    rw [hsaves]
    exact ⟨save₁, (Function.update_of_ne hne ..).trans hsave₁, hi⟩
  · rw [hnext] at hb
    have hne : b ≠ a := by
      rintro rfl
      exact absurd ((hl.fresh b hb).symm.trans ha) nofun
    rw [hsaves]
    exact (Function.update_of_ne hne ..).trans (hl.fresh b hb)

theorem unload (hl : Links lock s B) (ha : s.saves a = some save) (maps : Maps) :
    ∃ s', (s.unloadIfEmpty maps a >>= fun s => s.deleteIfFlagged a) = .ok s' ∧ Links lock s' B ∧
      s'.m_boundInstances = s.m_boundInstances ∧ (∀ b, b ≠ a → s'.saves b = s.saves b) ∧
      (lock = true → s' = s) := by
  have hkeep : s.unloadIfEmpty maps a = .ok s →
      ∃ s', (s.unloadIfEmpty maps a >>= fun s => s.deleteIfFlagged a) = .ok s' ∧
        Links lock s' B ∧ s'.m_boundInstances = s.m_boundInstances ∧
        (∀ b, b ≠ a → s'.saves b = s.saves b) ∧ (lock = true → s' = s) := by
    intro hok
    refine ⟨s, ?_, hl, rfl, fun _ _ => rfl, fun _ => rfl⟩
    rw [hok]
    change s.deleteIfFlagged a = _
    unfold deleteIfFlagged
    rw [deref ha]
    exact if_neg (by rw [hl.kept a save ha]; exact nofun)
  by_cases hempty : save.isEmpty = true
  · by_cases hmaps : maps save.m_mapid save.m_instanceid = some true
    · refine hkeep ?_
      unfold unloadIfEmpty
      rw [deref ha]
      exact (if_pos hempty).trans (if_pos hmaps)
    · by_cases hlock : s.lock_instLists = true
      · refine hkeep ?_
        unfold unloadIfEmpty
        rw [deref ha]
        exact (if_pos hempty).trans ((if_neg hmaps).trans (if_pos hlock))
      · have hunload : s.unloadIfEmpty maps a = .ok (s.removeInstanceSave save.m_instanceid) := by
          unfold unloadIfEmpty
          rw [deref ha]
          exact (if_pos hempty).trans ((if_neg hmaps).trans (if_neg hlock))
        have hremove : s.removeInstanceSave save.m_instanceid =
            { s with
              saves := Function.update s.saves a (some { save with m_toDelete := true })
              m_instanceSaveById :=
                Function.update s.m_instanceSaveById save.m_instanceid none } := by
          unfold removeInstanceSave
          rw [hl.byId a save ha]
          dsimp only
          rw [ha]
          rfl
        have hflagged : (s.removeInstanceSave save.m_instanceid).saves a =
            some { save with m_toDelete := true } := by
          rw [hremove]
          exact Function.update_self ..
        have hdelete : (s.removeInstanceSave save.m_instanceid).deleteIfFlagged a =
            .ok { s.removeInstanceSave save.m_instanceid with
              saves := Function.update (s.removeInstanceSave save.m_instanceid).saves a none } := by
          unfold deleteIfFlagged deleteSave
          rw [deref hflagged]
          exact if_pos hempty
        rw [hunload]
        refine ⟨_, hdelete, hl.delete ha hempty ?_ ?_ ?_ ?_, ?_, fun b hne => ?_, fun hon => ?_⟩
        · rw [hremove]
          exact hl.lock_eq
        · rw [hremove]
          exact Function.update_idem ..
        · rw [hremove]
        · rw [hremove]
        · rw [hremove]
        · rw [hremove]
          exact (Function.update_of_ne hne ..).trans (Function.update_of_ne hne ..)
        · exact absurd (hl.lock_eq.trans hon) hlock
  · refine hkeep ?_
    unfold unloadIfEmpty
    rw [deref ha]
    exact if_neg hempty

theorem removeHolder (hl : Links lock s B) (ha : s.saves a = some save)
    (hB : B h save.key = some a) (maps : Maps) :
    ∃ s', s.removeHolder maps a h = .ok s' ∧ Links lock s' (B.set h save.key none) ∧
      s'.m_boundInstances = s.m_boundInstances ∧ (∀ b, b ≠ a → s'.saves b = s.saves b) ∧
      (lock = true → s' = s.setSave a (save.remove h)) := by
  have hlinks : Links lock (s.setSave a (save.remove h)) (B.set h save.key none) := by
    refine hl.setSave ha _ (by simp) (by simp) (by simp)
      (fun b hne => Pointers.set_others (Or.inr hB) (Or.inl rfl) hne) (hl.set_key_eq ha none)
      fun h' => ?_
    rw [save.count_remove]
    by_cases heq : h' = h
    · rw [if_pos heq, heq, Pointers.set_self]
      rfl
    · rw [if_neg heq, Pointers.set_of_ne fun hboth => heq hboth.1]
      exact hl.count a save ha h'
  obtain ⟨s', hok, hlinks', hbinds, hothers, hlock⟩ :=
    hlinks.unload ((setSave_saves a).trans (if_pos rfl)) maps
  refine ⟨s', ?_, hlinks', hbinds, fun b hne => (hothers b hne).trans ?_, hlock⟩
  · unfold BindState.removeHolder
    rw [deref ha]
    exact hok
  · exact (setSave_saves b).trans (if_neg hne)

theorem addHolder (hl : Links lock s B) (ha : s.saves a = some save)
    (hB : B h save.key = none) :
    ∃ s', s.addHolder a h = .ok s' ∧ Links lock s' (B.set h save.key (some a)) ∧
      s'.m_boundInstances = s.m_boundInstances ∧ s'.saves a = some (save.add h) := by
  refine ⟨s.setSave a (save.add h), ?_, ?_, rfl, (setSave_saves a).trans (if_pos rfl)⟩
  · unfold BindState.addHolder
    rw [deref ha]
    rfl
  · refine hl.setSave ha _ (by simp) (by simp) (by simp)
      (fun b hne => Pointers.set_others (Or.inl hB) (Or.inr rfl) hne) (hl.set_key_eq ha (some a))
      fun h' => ?_
    rw [save.count_add, hl.count a save ha h']
    by_cases heq : h' = h
    · rw [if_pos heq, heq, Pointers.set_self, hB, if_neg nofun, if_pos rfl]
    · rw [if_neg heq, Pointers.set_of_ne fun hboth => heq hboth.1]
      rfl

/-! ## 3. Binding and unbinding -/

theorem setBinds (hl : Links lock s B) (h : Holder) (binds : AList fun _ : MapDiff => InstanceBind) :
    Links lock (s.setBinds h binds) B :=
  hl.congr rfl rfl rfl rfl

theorem unbindHolder (hl : Links lock s s.pointers) (maps : Maps) (h : Holder) (k : MapDiff) :
    ∃ s', s.unbindHolder maps h k = .ok s' ∧ Links lock s' s'.pointers ∧
      s'.pointers = s.pointers.set h k none ∧
      (lock = true → s'.m_instanceSaveById = s.m_instanceSaveById ∧
        ∀ b save, s.saves b = some save →
          s'.saves b = some (if s.pointers h k = some b then save.remove h else save)) := by
  unfold BindState.unbindHolder
  cases hfind : s.findBind h k with
  | none =>
    have hnone : s.pointers h k = none := by
      unfold pointers
      rw [hfind]
      rfl
    refine ⟨s, rfl, hl, (Pointers.set_eq_self hnone).symm, fun _ => ⟨rfl, fun b save hb => ?_⟩⟩
    rw [hnone, if_neg nofun]
    exact hb
  | some bind =>
    have hsome : s.pointers h k = some bind.save := by
      unfold pointers
      rw [hfind]
      rfl
    obtain ⟨save, ha, rfl⟩ := hl.live h k bind.save hsome
    obtain ⟨s₁, hok, hl₁, hbinds, hothers, hlock⟩ := hl.removeHolder ha hsome maps
    have hpointers : (s₁.setBinds h ((s₁.m_boundInstances h).erase save.key)).pointers =
        s.pointers.set h save.key none := by
      rw [pointers_erase, pointers_congr hbinds]
    refine ⟨_, ?_, ?_, hpointers, fun hon => ?_⟩
    · dsimp only
      rw [hok]
      rfl
    · rw [hpointers]
      exact hl₁.setBinds h _
    · have hs₁ := hlock hon
      refine ⟨?_, fun b save₁ hb => ?_⟩
      · change s₁.m_instanceSaveById = _
        rw [hs₁]
        rfl
      change s₁.saves b = _
      rw [hs₁, hsome, setSave_saves]
      by_cases heq : b = bind.save
      · rw [heq] at hb ⊢
        rw [if_pos rfl, if_pos rfl, Option.some.inj (ha.symm.trans hb)]
      · rw [if_neg heq, if_neg fun hsame => heq (Option.some.inj hsame).symm]
        exact hb

theorem moveHolder (hl : Links lock s s.pointers) (ha : s.saves a = some save) (maps : Maps)
    (h : Holder) :
    ∃ s', s.moveHolder maps h (s.findBind h save.key) a = .ok s' ∧
      Links lock s' (s.pointers.set h save.key (some a)) ∧
      s'.m_boundInstances = s.m_boundInstances ∧ ∃ save', s'.saves a = some save' := by
  unfold BindState.moveHolder
  cases hfind : s.findBind h save.key with
  | none =>
    have hnone : s.pointers h save.key = none := by
      unfold pointers
      rw [hfind]
      rfl
    obtain ⟨s', hok, hl', hbinds, ha'⟩ := hl.addHolder ha hnone
    exact ⟨s', hok, hl', hbinds, _, ha'⟩
  | some bind =>
    have hsome : s.pointers h save.key = some bind.save := by
      unfold pointers
      rw [hfind]
      rfl
    dsimp only
    by_cases hsame : bind.save = a
    · rw [if_pos hsame, Pointers.set_eq_self (hsome.trans (congrArg some hsame))]
      exact ⟨s, rfl, hl, rfl, save, ha⟩
    · rw [if_neg hsame]
      obtain ⟨old, hold, hkey⟩ := hl.live h save.key bind.save hsome
      obtain ⟨s₁, hok₁, hl₁, hbinds₁, hothers₁, -⟩ :=
        hl.removeHolder hold (by rw [hkey]; exact hsome) maps
      rw [hkey] at hl₁
      have ha₁ := (hothers₁ a (Ne.symm hsame)).trans ha
      obtain ⟨s', hok, hl', hbinds, ha'⟩ := hl₁.addHolder ha₁ Pointers.set_self
      rw [Pointers.set_set] at hl'
      refine ⟨s', ?_, hl', hbinds.trans hbinds₁, _, ha'⟩
      rw [hok₁]
      exact hok

theorem setCanReset (hl : Links lock s B) (ha : s.saves a = some save) (canReset : Bool) :
    ∃ s', s.setCanReset a canReset = .ok s' ∧ Links lock s' B ∧
      s'.m_boundInstances = s.m_boundInstances := by
  refine ⟨s.setSave a { save with m_canReset := canReset }, ?_, ?_, rfl⟩
  · unfold BindState.setCanReset
    rw [deref ha]
    rfl
  · refine hl.setSave ha { save with m_canReset := canReset } rfl rfl rfl (fun _ _ _ _ => Iff.rfl) (fun h' k' => hl.key_eq ha)
      fun h' => ?_
    have hsame : InstanceSave.count { save with m_canReset := canReset } h' = save.count h' := by
      cases h' <;> rfl
    exact hsame.trans (hl.count a save ha h')

theorem setBind (hl : Links lock s' (s.pointers.set h k (some a)))
    (hbinds : s'.m_boundInstances = s.m_boundInstances) (bind : InstanceBind)
    (hsave : bind.save = a) : Links lock (s'.setBind h k bind) (s'.setBind h k bind).pointers := by
  rw [pointers_setBind, pointers_congr hbinds, hsave]
  exact hl.setBinds h _

theorem playerBindToInstance (hl : Links lock s s.pointers) (maps : Maps) (player : PlayerGuid)
    {p : Option SaveId} (hp : ∀ a, p = some a → ∃ save, s.saves a = some save) (permanent : Bool)
    (extendState : BindExtensionState) :
    ∃ s', s.playerBindToInstance maps player p permanent extendState = .ok s' ∧
      Links lock s' s'.pointers := by
  cases p with
  | none => exact ⟨s, rfl, hl⟩
  | some a =>
    obtain ⟨save, ha⟩ := hp a rfl
    obtain ⟨s₁, hok₁, hl₁, hbinds₁, save₁, ha₁⟩ := hl.moveHolder ha maps (.player player)
    obtain ⟨s₂, hok₂, hl₂, hbinds₂⟩ : ∃ s₂,
        (if permanent then s₁.setCanReset a false else .ok s₁) = Except.ok (ε := Fault) s₂ ∧
        Links lock s₂ (s.pointers.set (.player player) save.key (some a)) ∧
        s₂.m_boundInstances = s₁.m_boundInstances := by
      cases permanent with
      | true => exact hl₁.setCanReset ha₁ false
      | false => exact ⟨s₁, rfl, hl₁, rfl⟩
    refine ⟨_, ?_, hl₂.setBind (hbinds₂.trans hbinds₁) ⟨a, permanent,
      newExtendState (s.findBind (.player player) save.key) a extendState⟩ rfl⟩
    unfold BindState.playerBindToInstance
    dsimp only
    rw [deref ha]
    change (s.moveHolder maps (.player player) _ a >>= fun s' =>
      (if permanent then s'.setCanReset a false else .ok s') >>= fun s' => _) = _
    rw [hok₁]
    change ((if permanent then s₁.setCanReset a false else .ok s₁) >>= fun s' => _) = _
    rw [hok₂]
    rfl

theorem groupBindToInstance (hl : Links lock s s.pointers) (env : BindEnv) (maps : Maps)
    (group : GroupId) {p : Option SaveId} (hp : ∀ a, p = some a → ∃ save, s.saves a = some save)
    (permanent : Bool) :
    ∃ s', s.groupBindToInstance env maps group p permanent = .ok s' ∧
      Links lock s' s'.pointers := by
  cases p with
  | none => exact ⟨s, rfl, hl⟩
  | some a =>
    obtain ⟨save, ha⟩ := hp a rfl
    by_cases hbg : env.isBGGroup group = true
    · exact ⟨s, if_pos hbg, hl⟩
    · obtain ⟨s₁, hok₁, hl₁, hbinds₁, -⟩ := hl.moveHolder ha maps (.group group)
      refine ⟨_, ?_, hl₁.setBind hbinds₁ ⟨a, permanent, .normal⟩ rfl⟩
      refine (if_neg hbg).trans ?_
      rw [deref ha]
      change (s.moveHolder maps (.group group) _ a >>= fun s' => _) = _
      rw [hok₁]
      rfl

theorem resetGroupBind (hl : Links lock s s.pointers) (env : BindEnv) (maps : Maps)
    (group : GroupId) (method : ResetMethod) (isRaid : Bool) (diff : UInt8) (mapId : UInt16) :
    ∃ s', BindState.resetGroupBind env maps group method isRaid diff s mapId = .ok s' ∧
      Links lock s' s'.pointers := by
  unfold BindState.resetGroupBind
  split
  · exact ⟨s, rfl, hl⟩
  · next stored hfind =>
    split
    · exact ⟨s, rfl, hl⟩
    · next entry _ =>
      split
      · exact ⟨s, rfl, hl⟩
      · have hsome : s.pointers (.group group) (mapId, diff) = some stored.save := by
          unfold pointers
          rw [hfind]
          rfl
        obtain ⟨save, ha, hkey⟩ := hl.live _ _ _ hsome
        have hremove : ∀ (c : Prop) [Decidable c], ∃ s', (if c then (s.setBinds (.group group)
            ((s.m_boundInstances (.group group)).erase (mapId, diff))).removeGroup maps stored.save
              group else .ok s) = .ok s' ∧ Links lock s' s'.pointers := by
          intro c _
          split
          · obtain ⟨s', hok, hl', hbinds, -⟩ := (hl.setBinds (.group group)
              ((s.m_boundInstances (.group group)).erase (mapId, diff))).removeHolder ha
                (by rw [hkey]; exact hsome) maps
            refine ⟨s', hok, ?_⟩
            rw [pointers_congr hbinds, pointers_erase, ← hkey]
            exact hl'
          · exact ⟨s, rfl, hl⟩
        rw [deref ha]
        dsimp only [bind, Except.bind]
        split
        · exact ⟨s, rfl, hl⟩
        · split
          · exact ⟨s, rfl, hl⟩
          · exact hremove _

theorem groupResetInstances (hl : Links lock s s.pointers) (env : BindEnv) (maps : Maps)
    (group : GroupId) (method : ResetMethod) (isRaid : Bool) (diff : UInt8) :
    ∃ s', s.groupResetInstances env maps group method isRaid diff = .ok s' ∧
      Links lock s' s'.pointers := by
  unfold BindState.groupResetInstances
  split
  · exact ⟨s, rfl, hl⟩
  · generalize (s.m_boundInstances (.group group)).keys.filter _ = l
    induction l generalizing s with
    | nil => exact ⟨s, rfl, hl⟩
    | cons k l ih =>
      obtain ⟨s₁, hok₁, hl₁⟩ := hl.resetGroupBind env maps group method isRaid diff k.1
      obtain ⟨s', hok, hl'⟩ := ih hl₁
      refine ⟨s', ?_, hl'⟩
      rw [List.foldlM_cons, hok₁]
      exact hok

/-! ## 4. The reset of a save -/

theorem resetPlayerBind {loop : ResetLoop} (hl : Links lock loop.state loop.state.pointers)
    (env : BindEnv) (a : SaveId) (mapid : UInt16) (difficulty : UInt8) (player : PlayerGuid) :
    Outcome (fun loop' : ResetLoop => Links lock loop'.state loop'.state.pointers ∧
        loop'.state.saves = loop.state.saves ∧
        loop'.state.m_instanceSaveById = loop.state.m_instanceSaveById ∧
        (loop'.shouldDelete = true →
          loop.shouldDelete = true ∧ loop'.temp = loop.temp ++ [player]))
      (· = Fault.otherSave)
      (BindState.resetPlayerBind env a mapid difficulty loop player) := by
  unfold BindState.resetPlayerBind
  split
  · next k stored hbound =>
    split
    · exact rfl
    · split
      · refine ⟨?_, rfl, rfl, nofun⟩
        have hfind : loop.state.findBind (.player player) k = some stored := by
          unfold getBoundInstance at hbound
          split at hbound
          · exact absurd hbound nofun
          · split at hbound
            · next hfind =>
              split at hbound
              · obtain ⟨rfl, rfl⟩ := Prod.mk.inj (Option.some.inj hbound)
                exact hfind
              · exact absurd hbound nofun
            · exact absurd hbound nofun
        have hsome : loop.state.pointers (.player player) k = some stored.save := by
          unfold pointers
          rw [hfind]
          rfl
        dsimp only
        rw [pointers_setBind, Pointers.set_eq_self hsome]
        exact hl.setBinds (.player player) _
      · exact ⟨hl, rfl, rfl, fun hdelete => ⟨hdelete, rfl⟩⟩
  · exact ⟨hl, rfl, rfl, fun hdelete => ⟨hdelete, rfl⟩⟩

theorem pointers_of_mem (hl : Links lock s B) (ha : s.saves a = some save)
    (hcount : 0 < save.count h) : B h save.key = some a := by
  have hlinked := hl.count a save ha h
  by_contra hnot
  rw [if_neg hnot] at hlinked
  omega

theorem unbindPlayers (hl : Links true s s.pointers) (ha : s.saves a = some save) (maps : Maps)
    (temp : List PlayerGuid) :
    ∃ s', temp.foldlM (fun s player =>
        s.playerUnbindInstance maps player save.m_mapid save.m_difficulty) s = .ok s' ∧
      Links true s' s'.pointers ∧ s'.m_instanceSaveById = s.m_instanceSaveById ∧
      ∃ save', s'.saves a = some save' ∧ save'.key = save.key ∧
        save'.m_instanceid = save.m_instanceid ∧ save'.m_groupList = save.m_groupList ∧
        ∀ player ∈ save'.m_playerList, player ∈ save.m_playerList ∧ player ∉ temp := by
  induction temp generalizing s save with
  | nil => exact ⟨s, rfl, hl, rfl, save, ha, rfl, rfl, rfl, fun _ hmem => ⟨hmem, List.not_mem_nil⟩⟩
  | cons player temp ih =>
    obtain ⟨s₁, hok₁, hl₁, -, hlock₁⟩ := hl.unbindHolder maps (.player player) save.key
    obtain ⟨hbyId₁, hsaves₁⟩ := hlock₁ rfl
    obtain ⟨save₁, ha₁, hkey₁, hid₁, hgroups₁, hplayers₁⟩ : ∃ save₁, s₁.saves a = some save₁ ∧
        save₁.key = save.key ∧ save₁.m_instanceid = save.m_instanceid ∧
        save₁.m_groupList = save.m_groupList ∧
        ∀ p ∈ save₁.m_playerList, p ∈ save.m_playerList ∧ p ≠ player := by
      refine ⟨_, hsaves₁ a save ha, ?_⟩
      split
      · refine ⟨save.key_remove _, save.remove_m_instanceid _, rfl, fun p hp => ?_⟩
        obtain ⟨hmem, hne⟩ := List.mem_filter.mp hp
        exact ⟨hmem, by simpa using hne⟩
      · next hnot =>
        refine ⟨rfl, rfl, rfl, fun p hp => ⟨hp, ?_⟩⟩
        rintro rfl
        exact hnot (hl.pointers_of_mem ha (List.count_pos_iff.mpr hp))
    obtain ⟨hmap₁, hdifficulty₁⟩ := Prod.mk.inj hkey₁
    obtain ⟨s', hok, hl', hbyId, save', ha', hkey', hid', hgroups', hplayers'⟩ := ih hl₁ ha₁
    rw [hmap₁, hdifficulty₁] at hok
    refine ⟨s', ?_, hl', hbyId.trans hbyId₁, save', ha', hkey'.trans hkey₁, hid'.trans hid₁,
      hgroups'.trans hgroups₁, fun p hp => ?_⟩
    · rw [List.foldlM_cons]
      change (s.unbindHolder maps (.player player) save.key >>= fun s' => _) = _
      rw [hok₁]
      exact hok
    · obtain ⟨hp₁, hnot⟩ := hplayers' p hp
      obtain ⟨hold, hne⟩ := hplayers₁ p hp₁
      exact ⟨hold, List.not_mem_cons_of_ne_of_not_mem hne hnot⟩

theorem unbindGroups (maps : Maps) (a : SaveId) (fuel : ℕ) (hl : Links true s s.pointers)
    (ha : s.saves a = some save) (hfuel : save.m_groupList.length < fuel) :
    ∃ s', BindState.unbindGroups maps a fuel s = .ok s' ∧ Links true s' s'.pointers ∧
      s'.m_instanceSaveById = s.m_instanceSaveById ∧
      ∃ save', s'.saves a = some save' ∧ save'.m_instanceid = save.m_instanceid ∧
        save'.m_groupList = [] ∧ save'.m_playerList = save.m_playerList := by
  induction fuel generalizing s save with
  | zero => exact absurd hfuel (Nat.not_lt_zero _)
  | succ fuel ih =>
    unfold BindState.unbindGroups
    rw [deref ha]
    dsimp only [bind, Except.bind]
    cases hgroups : save.m_groupList with
    | nil => exact ⟨s, rfl, hl, rfl, save, ha, rfl, hgroups, rfl⟩
    | cons group rest =>
      have hmem : group ∈ save.m_groupList := by rw [hgroups]; exact List.mem_cons_self
      have hpoint : s.pointers (.group group) save.key = some a :=
        hl.pointers_of_mem ha (List.count_pos_iff.mpr hmem)
      obtain ⟨s₁, hok₁, hl₁, -, hlock₁⟩ := hl.unbindHolder maps (.group group) save.key
      obtain ⟨hbyId₁, hsaves₁⟩ := hlock₁ rfl
      have ha₁ := hsaves₁ a save ha
      rw [if_pos hpoint] at ha₁
      have hshorter : (save.remove (.group group)).m_groupList.length < fuel := by
        have hlt : (save.m_groupList.filter (· ≠ group)).length < save.m_groupList.length :=
          List.length_filter_lt_length_iff_exists.mpr ⟨group, hmem, by simp⟩
        change (save.m_groupList.filter (· ≠ group)).length < fuel
        omega
      obtain ⟨s', hok, hl', hbyId, save', ha', hid', hnone', hplayers'⟩ := ih hl₁ ha₁ hshorter
      refine ⟨s', ?_, hl', hbyId.trans hbyId₁, save', ha',
        hid'.trans (save.remove_m_instanceid _), hnone', hplayers'⟩
      change (s.unbindHolder maps (.group group) save.key >>= _) = _
      rw [hok₁]
      exact hok

theorem unlock (hl : Links lock s B) : Links false { s with lock_instLists := false } B :=
  ⟨rfl, hl.count, hl.live, hl.kept, hl.byId, hl.found, hl.fresh⟩

theorem resetSave (hl : Links false s s.pointers) (env : BindEnv) (maps : Maps)
    (instanceId : UInt32) :
    Outcome (fun s' => Links false s' s'.pointers) (· = Fault.otherSave)
      (s.resetSave env maps instanceId) := by
  unfold BindState.resetSave
  split
  · exact hl
  · next a hget =>
    obtain ⟨save, ha, hid⟩ := hl.found instanceId a hget
    rw [deref ha]
    have hlocked : Links true { s with lock_instLists := true } s.pointers :=
      ⟨rfl, hl.count, hl.live, hl.kept, hl.byId, hl.found, hl.fresh⟩
    have hfirst : Outcome (fun loop : ResetLoop => Links true loop.state loop.state.pointers ∧
        loop.state.saves = s.saves ∧ loop.state.m_instanceSaveById = s.m_instanceSaveById ∧
        (loop.shouldDelete = true → loop.temp = save.m_playerList)) (· = Fault.otherSave)
        (save.m_playerList.foldlM
          (BindState.resetPlayerBind env a save.m_mapid save.m_difficulty)
          ⟨{ s with lock_instLists := true }, [], true⟩) := by
      refine Outcome.foldlM (I := fun done (loop : ResetLoop) => Links true loop.state loop.state.pointers ∧
        loop.state.saves = s.saves ∧ loop.state.m_instanceSaveById = s.m_instanceSaveById ∧
        (loop.shouldDelete = true → loop.temp = done)) ?_ ?_
      · exact ⟨hlocked, rfl, rfl, fun _ => rfl⟩
      · rintro done player rest loop - ⟨hloop, hsaves, hbyId, htemp⟩
        refine (hloop.resetPlayerBind env a save.m_mapid save.m_difficulty player).imp ?_
        rintro loop' ⟨hloop', hsaves', hbyId', htemp'⟩
        refine ⟨hloop', hsaves'.trans hsaves, hbyId'.trans hbyId, fun hdelete => ?_⟩
        obtain ⟨hdelete', hmore⟩ := htemp' hdelete
        rw [hmore, htemp hdelete']
    refine Outcome.ok_bind (hfirst.bind ?_)
    rintro loop ⟨hloop, hsaves, hbyId, htemp⟩
    have ha₁ : loop.state.saves a = some save := by rw [hsaves]; exact ha
    obtain ⟨s₂, hok₂, hl₂, hbyId₂, save₂, ha₂, hkey₂, hid₂, hgroups₂, hplayers₂⟩ :=
      hloop.unbindPlayers ha₁ maps loop.temp
    rw [hok₂]
    refine Outcome.ok_bind ?_
    obtain ⟨s₃, hok₃, hl₃, hbyId₃, save₃, ha₃, hid₃, hgroups₃, hplayers₃⟩ :=
      hl₂.unbindGroups maps a (save.m_groupList.length + 1) ha₂ (by rw [hgroups₂]; omega)
    rw [hok₃]
    refine Outcome.ok_bind ?_
    by_cases hdelete : loop.shouldDelete = true
    · -- every player was unbound, and so was every group
      have hempty : save₃.isEmpty = true := by
        have hnone : save₃.m_playerList = [] := by
          refine List.eq_nil_iff_forall_not_mem.mpr fun p hp => ?_
          rw [hplayers₃] at hp
          obtain ⟨hold, hnot⟩ := hplayers₂ p hp
          exact hnot (htemp hdelete ▸ hold)
        unfold InstanceSave.isEmpty
        rw [hnone, hgroups₃]
        rfl
      have hkill : s₃.deleteSave a = .ok { s₃ with saves := Function.update s₃.saves a none } := by
        unfold deleteSave
        rw [deref ha₃]
        exact if_pos hempty
      rw [if_pos hdelete, hkill]
      refine Outcome.ok_bind ?_
      have hlast : Links true { s₃ with
          saves := Function.update s₃.saves a none
          m_instanceSaveById := Function.update s₃.m_instanceSaveById instanceId none }
          s₃.pointers := by
        refine hl₃.delete ha₃ hempty hl₃.lock_eq rfl ?_ rfl
        rw [hid₃, hid₂, hid]
      exact hlast.unlock
    · rw [if_neg hdelete]
      exact Outcome.ok_bind hl₃.unlock

end Links

/-! ## 5. Runs -/

open BindState

theorem Links.newSave {s : BindState} (hl : Links false s s.pointers) {instanceId : UInt32}
    (hnone : s.m_instanceSaveById instanceId = none) (mapId : UInt16) (difficulty : UInt8)
    (canReset : Bool) :
    Links false { s with
      saves := Function.update s.saves s.nextSave
        (some ⟨instanceId, mapId, difficulty, canReset, false, [], []⟩)
      nextSave := s.nextSave + 1
      m_instanceSaveById := Function.update s.m_instanceSaveById instanceId (some s.nextSave) }
      s.pointers := by
  have hold : ∀ a save, s.saves a = some save → a ≠ s.nextSave := by
    rintro a save ha rfl
    exact absurd ((hl.fresh _ le_rfl).symm.trans ha) nofun
  have hnopointer : ∀ h k, s.pointers h k ≠ some s.nextSave := by
    intro h k hB
    obtain ⟨save, ha, -⟩ := hl.live h k _ hB
    exact hold _ save ha rfl
  have hsaves : ∀ a save, Function.update s.saves s.nextSave
      (some ⟨instanceId, mapId, difficulty, canReset, false, [], []⟩) a = some save →
      (a = s.nextSave ∧ save = ⟨instanceId, mapId, difficulty, canReset, false, [], []⟩) ∨
        s.saves a = some save := by
    intro a save ha
    rw [Function.update_apply] at ha
    split at ha
    · next heq => exact Or.inl ⟨heq, (Option.some.inj ha).symm⟩
    · exact Or.inr ha
  refine ⟨hl.lock_eq, fun a save ha h => ?_, fun h k a hB => ?_, fun a save ha => ?_,
    fun a save ha => ?_, fun i a hi => ?_, fun a hle => ?_⟩
  · rcases hsaves a save ha with ⟨rfl, rfl⟩ | ha
    · rw [if_neg (hnopointer h _)]
      cases h <;> rfl
    · exact hl.count a save ha h
  · obtain ⟨save, ha, hk⟩ := hl.live h k a hB
    exact ⟨save, (Function.update_of_ne (hold a save ha) ..).trans ha, hk⟩
  · rcases hsaves a save ha with ⟨-, rfl⟩ | ha
    · rfl
    · exact hl.kept a save ha
  · rcases hsaves a save ha with ⟨rfl, rfl⟩ | ha
    · exact Function.update_self ..
    · have hid := hl.byId a save ha
      have hne : save.m_instanceid ≠ instanceId := by
        intro heq
        rw [heq, hnone] at hid
        exact absurd hid nofun
      exact (Function.update_of_ne hne ..).trans hid
  · dsimp only at hi
    rw [Function.update_apply] at hi
    split at hi
    · next heq =>
      obtain rfl := Option.some.inj hi
      exact ⟨_, Function.update_self .., heq.symm⟩
    · obtain ⟨save, ha, hid⟩ := hl.found i a hi
      exact ⟨save, (Function.update_of_ne (hold a save ha) ..).trans ha, hid⟩
  · have hlt : s.nextSave < a := hle
    exact (Function.update_of_ne hlt.ne' ..).trans (hl.fresh a hlt.le)

theorem Links.addInstanceSave {s : BindState} (hl : Links false s s.pointers) (env : BindEnv)
    (mapId : UInt16) (instanceId : UInt32) (difficulty : UInt8) (canReset : Bool) :
    Links false (s.addInstanceSave env mapId instanceId difficulty canReset)
      (s.addInstanceSave env mapId instanceId difficulty canReset).pointers := by
  unfold BindState.addInstanceSave
  split
  · exact hl
  · exact hl
  · next entry hnone _ =>
    by_cases hzero : instanceId = 0
    · rw [if_pos hzero]
      exact hl
    · rw [if_neg hzero]
      by_cases hmax : difficulty ≥ (if entry.isRaid then 4 else 3)
      · rw [if_pos hmax]
        exact hl
      · rw [if_neg hmax]
        exact hl.newSave hnone mapId difficulty canReset

/-- **What the binds promise**, in one state. -/
structure TwoWay (s : BindState) : Prop where
  players : ∀ a save player, s.saves a = some save →
    (player ∈ save.m_playerList ↔
      ∃ stored, s.findBind (.player player) save.key = some stored ∧ stored.save = a)
  groups : ∀ a save group, s.saves a = some save →
    (group ∈ save.m_groupList ↔
      ∃ stored, s.findBind (.group group) save.key = some stored ∧ stored.save = a)
  once : ∀ a save, s.saves a = some save → save.m_playerList.Nodup ∧ save.m_groupList.Nodup
  live : ∀ h k stored, s.findBind h k = some stored →
    ∃ save, s.saves stored.save = some save ∧ save.key = k

theorem Links.twoWay {s : BindState} (hl : Links false s s.pointers) : TwoWay s := by
  have hpointers : ∀ h k a, s.pointers h k = some a ↔
      ∃ stored, s.findBind h k = some stored ∧ stored.save = a :=
    fun h k a => Option.map_eq_some_iff
  have hmem : ∀ a save h, s.saves a = some save →
      (0 < save.count h ↔ ∃ stored, s.findBind h save.key = some stored ∧ stored.save = a) := by
    intro a save h ha
    rw [← hpointers]
    refine ⟨hl.pointers_of_mem ha, fun hB => ?_⟩
    rw [hl.count a save ha h, if_pos hB]
    exact Nat.one_pos
  have honce : ∀ a save h, s.saves a = some save → save.count h ≤ 1 := by
    intro a save h ha
    rw [hl.count a save ha h]
    split <;> omega
  refine ⟨fun a save player ha => ?_, fun a save group ha => ?_, fun a save ha => ⟨?_, ?_⟩,
    fun h k stored hfind => ?_⟩
  · exact List.count_pos_iff.symm.trans (hmem a save (.player player) ha)
  · exact List.count_pos_iff.symm.trans (hmem a save (.group group) ha)
  · exact List.nodup_iff_count_le_one.mpr fun player => honce a save (.player player) ha
  · exact List.nodup_iff_count_le_one.mpr fun group => honce a save (.group group) ha
  · exact hl.live h k stored.save ((hpointers h k stored.save).mpr ⟨stored, hfind, rfl⟩)

theorem empty_links : Links false BindState.empty BindState.empty.pointers :=
  ⟨rfl, nofun, nofun, nofun, nofun, nofun, fun _ _ => rfl⟩

theorem Links.run {s : BindState} (hl : Links false s s.pointers) (env : BindEnv) (maps : Maps)
    (e : BindEvent) :
    Outcome (fun s' => Links false s' s'.pointers) (· = Fault.otherSave) (s.run env maps e) := by
  have hget : ∀ instanceId a, s.getInstanceSave instanceId = some a →
      ∃ save, s.saves a = some save := by
    intro instanceId a hfound
    obtain ⟨save, ha, -⟩ := hl.found instanceId a hfound
    exact ⟨save, ha⟩
  have hok : ∀ {r : Result BindState}, (∃ s', r = .ok s' ∧ Links false s' s'.pointers) →
      Outcome (fun s' => Links false s' s'.pointers) (· = Fault.otherSave) r := by
    rintro _ ⟨s', rfl, hl'⟩
    exact hl'
  cases e with
  | addInstanceSave mapId instanceId difficulty canReset =>
    exact hl.addInstanceSave env mapId instanceId difficulty canReset
  | playerBind player instanceId permanent extendState =>
    exact hok (hl.playerBindToInstance maps player (hget instanceId) permanent extendState)
  | playerUnbind player mapid difficulty =>
    obtain ⟨s', hunbind, hl', -⟩ := hl.unbindHolder maps (.player player) (mapid, difficulty)
    exact hok ⟨s', hunbind, hl'⟩
  | groupBind group instanceId permanent =>
    exact hok (hl.groupBindToInstance env maps group (hget instanceId) permanent)
  | groupUnbind group mapid difficulty =>
    obtain ⟨s', hunbind, hl', -⟩ := hl.unbindHolder maps (.group group) (mapid, difficulty)
    exact hok ⟨s', hunbind, hl'⟩
  | groupResetInstances group method isRaid diff =>
    exact hok (hl.groupResetInstances env maps group method isRaid diff)
  | resetSave instanceId => exact hl.resetSave env maps instanceId
  | unloadInstanceSave instanceId =>
    refine hok ?_
    change ∃ s', s.unloadInstanceSave maps instanceId = .ok s' ∧ _
    unfold BindState.unloadInstanceSave
    split
    · exact ⟨s, rfl, hl⟩
    · next a hfound =>
      obtain ⟨save, ha⟩ := hget instanceId a hfound
      obtain ⟨s', hunload, hl', hbinds, -, -⟩ := hl.unload ha maps
      refine ⟨s', hunload, ?_⟩
      rw [pointers_congr hbinds]
      exact hl'

/-- **Instance binds are links in both directions**, in every state of every run; no pointer leads
to a save that is gone, no save is deleted that anybody is bound to, and the loops end. Only the
assertion of `_ResetSave` can stop a run. -/
theorem binds_twoWay (env : BindEnv) (events : List (Maps × BindEvent)) :
    States (step env) (Outcome TwoWay (· = Fault.otherSave)) (.ok BindState.empty) events := by
  refine States.imp (I := Outcome (fun s => Links false s s.pointers) (· = Fault.otherSave))
    (fun r hr => hr.imp fun s hl => hl.twoWay) ?_
  refine States.of_steps (C := fun _ _ => True) (fun r e hr _ => ?_) empty_links
    (Steps.of_forall (fun _ _ => trivial) events)
  exact hr.bind fun s hl => hl.run env e.1 e.2

end FunPvp.Instances
