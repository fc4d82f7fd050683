/-
# What an update leaves to the next one

An update with redundancy checks should record every file under its name and hash, apply no file
whose content is recorded under its own name or under that of a file that is gone, and leave nothing
to apply to an update that follows at once.

The cache from hashes to names is filled once and has one name for each hash, so of two new files
with the content of one that is gone only the first gets its row; a file that has a row with another
hash is not looked up at all; and an archived file is not read. `update_good_iff` says that an
update is as it should be exactly if nothing of the kind occurs.
-/
import FunPvp.Database.UpdateFetcher

namespace FunPvp.Database

/-! ## 1. The tables -/

section Tables

variable {table rows : AppliedFileStorage} {name source target : FileName}

theorem perm_lookup_eq (h : rows.entries.Perm table.entries) (name : FileName) :
    rows.lookup name = table.lookup name :=
  AList.perm_lookup h

theorem updateState_lookup_of_ne {other : FileName} (hne : other ≠ name) (state : FileState) :
    (table.updateState name state).lookup other = table.lookup other := by
  unfold AppliedFileStorage.updateState
  split
  · rfl
  · exact AList.lookup_insert_ne hne

theorem updateState_lookup_self {entry : AppliedFileEntry} (state : FileState)
    (hentry : table.lookup name = some entry) :
    (table.updateState name state).lookup name = some { entry with state := state } := by
  rw [AppliedFileStorage.updateState, hentry]
  exact AList.lookup_insert _

theorem renameEntry_lookup_of_ne {other : FileName} (hsource : other ≠ source)
    (htarget : other ≠ target) :
    (table.renameEntry source target).lookup other = table.lookup other := by
  unfold AppliedFileStorage.renameEntry
  dsimp only
  split
  · exact AList.lookup_erase_ne htarget
  · rw [AList.lookup_insert_ne htarget, AList.lookup_erase_ne hsource,
      AList.lookup_erase_ne htarget]

theorem renameEntry_lookup_target (hne : source ≠ target) :
    (table.renameEntry source target).lookup target = table.lookup source := by
  unfold AppliedFileStorage.renameEntry
  dsimp only
  rw [AList.lookup_erase_ne hne]
  cases hsource : table.lookup source with
  | none => exact AList.lookup_erase _ _
  | some entry => exact AList.lookup_insert _

theorem renameEntry_lookup_source (hne : source ≠ target) :
    (table.renameEntry source target).lookup source = none := by
  unfold AppliedFileStorage.renameEntry
  dsimp only
  rw [AList.lookup_erase_ne hne]
  cases hsource : table.lookup source with
  | none =>
    dsimp only
    rw [AList.lookup_erase_ne hne, hsource]
  | some entry =>
    dsimp only
    rw [AList.lookup_insert_ne hne, AList.lookup_erase]

theorem cleanUp_lookup {storage : AppliedFileStorage} (hname : storage.lookup name = none) :
    (table.cleanUp storage).lookup name = table.lookup name := by
  have hkeys : name ∉ storage.keys := fun hmem =>
    AList.lookup_eq_none.mp hname (AList.mem_keys.mpr hmem)
  unfold AppliedFileStorage.cleanUp
  generalize storage.keys = keys at hkeys
  induction keys generalizing table with
  | nil => rfl
  | cons key keys ih =>
    rw [List.mem_cons, not_or] at hkeys
    rw [List.foldl_cons, ih hkeys.2, AList.lookup_erase_ne hkeys.1]

end Tables

/-! ## 2. The cache -/

section Cache

variable {cache : HashToFileNameStorage} {hash : Hash} {name : FileName}
  {x : Sigma fun _ : FileName => AppliedFileEntry}

theorem insertHash_of_some (hsome : (cache.lookup x.2.hash).isSome) : insertHash cache x = cache :=
  if_pos hsome

theorem insertHash_of_none (hnone : ¬ (cache.lookup x.2.hash).isSome) :
    insertHash cache x = cache.insert x.2.hash x.1 :=
  if_neg hnone

theorem insertHash_lookup (hcache : cache.lookup hash = some name) :
    (insertHash cache x).lookup hash = some name := by
  by_cases hsome : (cache.lookup x.2.hash).isSome
  · rw [insertHash_of_some hsome]
    exact hcache
  · have hne : hash ≠ x.2.hash := by
      rintro rfl
      exact hsome (by rw [hcache]; rfl)
    rw [insertHash_of_none hsome, AList.lookup_insert_ne hne]
    exact hcache

theorem exists_insertHash_lookup (cache : HashToFileNameStorage)
    (x : Sigma fun _ : FileName => AppliedFileEntry) :
    ∃ first, (insertHash cache x).lookup x.2.hash = some first := by
  by_cases hsome : (cache.lookup x.2.hash).isSome
  · rw [insertHash_of_some hsome]
    exact Option.isSome_iff_exists.mp hsome
  · rw [insertHash_of_none hsome]
    exact ⟨x.1, AList.lookup_insert _⟩

theorem of_insertHash_lookup (hlookup : (insertHash cache x).lookup hash = some name) :
    cache.lookup hash = some name ∨ (name = x.1 ∧ x.2.hash = hash) := by
  by_cases hsome : (cache.lookup x.2.hash).isSome
  · rw [insertHash_of_some hsome] at hlookup
    exact Or.inl hlookup
  · rw [insertHash_of_none hsome] at hlookup
    by_cases hhash : hash = x.2.hash
    · subst hhash
      have heq := (AList.lookup_insert cache).symm.trans hlookup
      exact Or.inr ⟨(Option.some.inj heq).symm, rfl⟩
    · rw [AList.lookup_insert_ne hhash] at hlookup
      exact Or.inl hlookup

theorem foldl_insertHash_lookup (entries : List (Sigma fun _ : FileName => AppliedFileEntry))
    (hcache : cache.lookup hash = some name) :
    (entries.foldl insertHash cache).lookup hash = some name := by
  induction entries generalizing cache with
  | nil => exact hcache
  | cons x entries ih => exact ih (insertHash_lookup hcache)

theorem exists_foldl_insertHash_lookup
    {entries : List (Sigma fun _ : FileName => AppliedFileEntry)} (hx : x ∈ entries) :
    ∃ first, (entries.foldl insertHash cache).lookup x.2.hash = some first := by
  induction entries generalizing cache with
  | nil => exact absurd hx List.not_mem_nil
  | cons y entries ih =>
    rcases List.mem_cons.mp hx with rfl | hx
    · obtain ⟨first, hfirst⟩ := exists_insertHash_lookup cache x
      exact ⟨first, foldl_insertHash_lookup entries hfirst⟩
    · exact ih hx

theorem of_foldl_insertHash_lookup (entries : List (Sigma fun _ : FileName => AppliedFileEntry))
    (hlookup : (entries.foldl insertHash cache).lookup hash = some name) :
    cache.lookup hash = some name ∨
      ∃ entry : AppliedFileEntry, ⟨name, entry⟩ ∈ entries ∧ entry.hash = hash := by
  induction entries generalizing cache with
  | nil => exact Or.inl hlookup
  | cons x entries ih =>
    rcases ih hlookup with hcache | ⟨entry, hmem, hhash⟩
    · rcases of_insertHash_lookup hcache with hcache | ⟨rfl, hhash⟩
      · exact Or.inl hcache
      · exact Or.inr ⟨x.2, List.mem_cons_self, hhash⟩
    · exact Or.inr ⟨entry, List.mem_cons_of_mem x hmem, hhash⟩

theorem of_fillHashToName {rows : AppliedFileStorage}
    (h : (fillHashToName rows).lookup hash = some name) :
    ∃ entry, rows.lookup name = some entry ∧ entry.hash = hash := by
  rcases of_foldl_insertHash_lookup rows.entries h with hempty | ⟨entry, hmem, hhash⟩
  · exact absurd ((AList.lookup_empty hash).symm.trans hempty) nofun
  · exact ⟨entry, AList.mem_lookup_iff.mpr hmem, hhash⟩

theorem exists_fillHashToName {rows : AppliedFileStorage} {entry : AppliedFileEntry}
    (hentry : rows.lookup name = some entry) :
    ∃ first, (fillHashToName rows).lookup entry.hash = some first :=
  exists_foldl_insertHash_lookup (AList.mem_lookup_iff.mp hentry)

end Cache

/-! ## 3. What happens to a file -/

/-- The file can be read, and has the hash. -/
def UpdateEnv.HasHash (env : UpdateEnv) (file : LocaleFile) (hash : Hash) : Prop :=
  ∃ content, file.content = some content ∧ env.calculateSHA1Hash content = hash

/-- There is no file of the name any more. -/
def Vanished (available : List LocaleFile) (name : FileName) : Prop :=
  ∀ file ∈ available, file.name ≠ name

/-- The file has a row, and its content is not looked at. -/
def Skipped (env : UpdateEnv) (rows : AppliedFileStorage) (file : LocaleFile) : Prop :=
  ∃ entry, rows.lookup file.name = some entry ∧ env.skips file entry = true

def TakenFor (env : UpdateEnv) (available : List LocaleFile) (rows : AppliedFileStorage)
    (file : LocaleFile) (name : FileName) : Prop :=
  ∃ hash, env.HasHash file hash ∧ rows.lookup file.name = none ∧
    (fillHashToName rows).lookup hash = some name ∧ Vanished available name

/-- The file is applied: its row has another hash, or it has none and is not taken for another. -/
def Imports (env : UpdateEnv) (available : List LocaleFile) (rows : AppliedFileStorage)
    (file : LocaleFile) : Prop :=
  ∃ hash, env.HasHash file hash ∧
    match rows.lookup file.name with
    | some entry => env.skips file entry = false ∧ ¬ (env.allowRehash = true ∧ entry.hash = "") ∧
        entry.hash ≠ hash
    | none => ∀ name, (fillHashToName rows).lookup hash = some name → ¬ Vanished available name

section Files

variable {env : UpdateEnv} {available : List LocaleFile} {rows : AppliedFileStorage}
  {file other : LocaleFile} {hash : Hash} {s s' : UpdateRun} {name : FileName}

theorem UpdateEnv.HasHash.eq {hash' : Hash} (h : env.HasHash file hash)
    (h' : env.HasHash file hash') : hash = hash' := by
  obtain ⟨content, hcontent, rfl⟩ := h
  obtain ⟨content', hcontent', rfl⟩ := h'
  rw [Option.some.inj (hcontent.symm.trans hcontent')]

theorem readSQLUpdate_eq_ok {content : String} (h : file.readSQLUpdate = .ok content) :
    file.content = some content := by
  unfold LocaleFile.readSQLUpdate at h
  split at h
  · next hcontent => rw [hcontent, Except.ok.inj h]
  · exact absurd h nofun

/-- What a round does that replaces or confirms the row of the file. -/
structure Written (env : UpdateEnv) (available : List LocaleFile) (rows : AppliedFileStorage)
    (file : LocaleFile) (hash : Hash) (s s' : UpdateRun) : Prop where
  others : ∀ name ≠ file.name, s'.table.lookup name = s.table.lookup name
  row : ∃ entry, s'.table.lookup file.name = some entry ∧ entry.hash = hash
  erased : s'.applied.lookup file.name = none
  applied : ∀ name ≠ file.name, s'.applied.lookup name = s.applied.lookup name
  imported : (Imports env available rows file ∧ s'.imported = s.imported ++ [file.name]) ∨
    (¬ Imports env available rows file ∧ s'.imported = s.imported)

inductive Round (env : UpdateEnv) (available : List LocaleFile) (rows : AppliedFileStorage)
    (file : LocaleFile) (s : UpdateRun) : UpdateRun → Prop
  | skipped (h : Skipped env rows file) : Round env available rows file s (s.eraseApplied file.name)
  | written {s' : UpdateRun} {hash : Hash} (hhash : env.HasHash file hash)
      (hskip : ¬ Skipped env rows file) (htaken : ∀ name, ¬ TakenFor env available rows file name)
      (h : Written env available rows file hash s s') : Round env available rows file s s'
  | renamed {name : FileName} (h : TakenFor env available rows file name) :
      Round env available rows file s
        ({ s with table := s.table.renameEntry name file.name }.eraseApplied name)

theorem not_imports_of_skipped (h : Skipped env rows file) : ¬ Imports env available rows file := by
  rintro ⟨hash, -, himports⟩
  obtain ⟨entry, hentry, hskip⟩ := h
  rw [hentry] at himports
  exact absurd (hskip.symm.trans himports.1) (by decide)

theorem not_imports_of_takenFor (h : TakenFor env available rows file name) :
    ¬ Imports env available rows file := by
  rintro ⟨hash', hhash', himports⟩
  obtain ⟨hash, hhash, hnone, hcache, hvanished⟩ := h
  rw [hnone] at himports
  obtain rfl := hhash.eq hhash'
  exact himports name hcache hvanished

theorem Written.of_table {table : AppliedFileStorage}
    (hothers : ∀ name ≠ file.name, table.lookup name = s.table.lookup name)
    (hrow : ∃ entry, table.lookup file.name = some entry ∧ entry.hash = hash)
    (hno : ¬ Imports env available rows file) :
    Written env available rows file hash s
      ({ s with table := table }.eraseApplied file.name) where
  others := hothers
  row := hrow
  erased := AList.lookup_erase _ _
  applied := fun _ hne => AList.lookup_erase_ne hne
  imported := Or.inr ⟨hno, rfl⟩

theorem apply_eq_ok (h : s.apply file hash = .ok s') :
    s' = { s with
      table := s.table.updateEntry file.name ⟨hash, file.state⟩
      imported := s.imported ++ [file.name] } := by
  unfold UpdateRun.apply at h
  split at h
  · exact (Except.ok.inj h).symm
  · exact absurd h nofun

theorem updateEntry_lookup_self (table : AppliedFileStorage) (entry : AppliedFileEntry) :
    (table.updateEntry name entry).lookup name = some entry :=
  AList.lookup_insert _

theorem updateEntry_lookup_of_ne {table : AppliedFileStorage} {entry : AppliedFileEntry}
    {name' : FileName} (hne : name' ≠ name) :
    (table.updateEntry name entry).lookup name' = table.lookup name' :=
  AList.lookup_insert_ne hne

theorem checkApplied_round {entry : AppliedFileEntry} (hentry : rows.lookup file.name = some entry)
    (htable : s.table.lookup file.name = rows.lookup file.name)
    (h : checkApplied env s file entry = .ok s') : Round env available rows file s s' := by
  unfold checkApplied at h
  split at h
  · next hskip =>
    rw [← Except.ok.inj h]
    exact .skipped ⟨entry, hentry, hskip⟩
  · next hskip =>
    have hskipped : ¬ Skipped env rows file := by
      rintro ⟨entry', hentry', hskip'⟩
      obtain rfl := Option.some.inj (hentry.symm.trans hentry')
      exact hskip hskip'
    have htaken : ∀ name, ¬ TakenFor env available rows file name := by
      rintro name ⟨-, -, hnone, -⟩
      exact absurd (hnone.symm.trans hentry) nofun
    cases hread : file.readSQLUpdate with
    | error e =>
      rw [hread] at h
      exact absurd h nofun
    | ok content =>
      have hcontent : env.HasHash file (env.calculateSHA1Hash content) :=
        ⟨content, readSQLUpdate_eq_ok hread, rfl⟩
      have himports : Imports env available rows file ↔
          ¬ (env.allowRehash = true ∧ entry.hash = "") ∧
            entry.hash ≠ env.calculateSHA1Hash content := by
        constructor
        · rintro ⟨hash, hhash, hmatch⟩
          rw [hentry] at hmatch
          rw [hcontent.eq hhash]
          exact hmatch.2
        · intro hno
          refine ⟨_, hcontent, ?_⟩
          rw [hentry]
          exact ⟨Bool.eq_false_iff.mpr hskip, hno⟩
      rw [hread] at h
      change (if _ then _ else _) = _ at h
      split at h
      · next hrehash =>
        rw [Bool.and_eq_true_iff, decide_eq_true_eq] at hrehash
        rw [← Except.ok.inj h]
        refine .written hcontent hskipped htaken (Written.of_table
          (fun _ hne => updateEntry_lookup_of_ne hne)
          ⟨_, updateEntry_lookup_self _ _, rfl⟩ fun hi => (himports.mp hi).1 hrehash)
      · next hrehash =>
        rw [Bool.and_eq_true_iff, decide_eq_true_eq] at hrehash
        split at h
        · next hne =>
          cases happly : s.apply file (env.calculateSHA1Hash content) with
          | error e =>
            rw [happly] at h
            exact absurd h nofun
          | ok s₁ =>
            rw [happly] at h
            rw [← Except.ok.inj h, apply_eq_ok happly]
            exact .written hcontent hskipped htaken
              { others := fun _ hne => updateEntry_lookup_of_ne hne
                row := ⟨_, updateEntry_lookup_self _ _, rfl⟩
                erased := AList.lookup_erase _ _
                applied := fun _ hne => AList.lookup_erase_ne hne
                imported := Or.inl ⟨himports.mpr ⟨hrehash, hne⟩, rfl⟩ }
        · next heq =>
          have hno : ¬ Imports env available rows file := fun hi => heq (himports.mp hi).2
          have hrow := htable.trans hentry
          split at h
          · rw [← Except.ok.inj h]
            exact .written hcontent hskipped htaken (Written.of_table
              (fun _ hne => updateState_lookup_of_ne hne _)
              ⟨_, updateState_lookup_self _ hrow, not_not.mp heq⟩ hno)
          · rw [← Except.ok.inj h]
            exact .written hcontent hskipped htaken (Written.of_table (fun _ _ => rfl)
              ⟨entry, hrow, not_not.mp heq⟩ hno)

theorem checkNew_round (hnone : rows.lookup file.name = none)
    (happlied : s.applied.lookup file.name = none)
    (h : checkNew env available (fillHashToName rows) s file = .ok s') :
    Round env available rows file s s' := by
  have hskipped : ¬ Skipped env rows file := by
    rintro ⟨entry, hentry, -⟩
    cases hnone.symm.trans hentry
  cases hread : file.readSQLUpdate with
  | error e =>
    unfold checkNew at h
    rw [hread] at h
    cases h
  | ok content =>
    have hcontent : env.HasHash file (env.calculateSHA1Hash content) :=
      ⟨content, readSQLUpdate_eq_ok hread, rfl⟩
    have happly : s.apply file (env.calculateSHA1Hash content) = .ok s' →
        (∀ name, (fillHashToName rows).lookup (env.calculateSHA1Hash content) = some name →
          ¬ Vanished available name) → Round env available rows file s s' := by
      intro hs' hcache
      rw [apply_eq_ok hs']
      refine .written hcontent hskipped ?_
        { others := fun _ hne => updateEntry_lookup_of_ne hne
          row := ⟨_, updateEntry_lookup_self _ _, rfl⟩
          erased := happlied
          applied := fun _ _ => rfl
          imported := Or.inl ⟨⟨_, hcontent, ?_⟩, rfl⟩ }
      · rintro name ⟨hash, hhash, -, hname, hvanished⟩
        rw [← hcontent.eq hhash] at hname
        exact hcache name hname hvanished
      · rw [hnone]
        exact hcache
    unfold checkNew at h
    rw [hread] at h
    dsimp only [bind, Except.bind] at h
    split at h
    · next hcache =>
      exact happly h fun name hname => absurd (hcache.symm.trans hname) (by simp)
    · next original hcache =>
      split at h
      · next hstill =>
        refine happly h fun name hname hvanished => ?_
        obtain rfl := Option.some.inj (hcache.symm.trans hname)
        obtain ⟨x, hx, heq⟩ := List.any_eq_true.mp hstill
        exact hvanished x hx (of_decide_eq_true heq)
      · next hgone =>
        rw [← Except.ok.inj h]
        refine .renamed ⟨_, hcontent, hnone, hcache, fun x hx heq => hgone ?_⟩
        exact List.any_eq_true.mpr ⟨x, hx, decide_eq_true heq⟩

theorem checkFile_round (htable : s.table.lookup file.name = rows.lookup file.name)
    (happlied : s.applied.lookup file.name = rows.lookup file.name)
    (h : checkFile env available (fillHashToName rows) s file = .ok s') :
    Round env available rows file s s' := by
  unfold checkFile at h
  cases hentry : rows.lookup file.name with
  | some entry =>
    rw [happlied, hentry] at h
    exact checkApplied_round hentry htable h
  | none =>
    rw [happlied, hentry] at h
    exact checkNew_round hentry (happlied.trans hentry) h

end Files

/-! ## 4. The loop -/

structure Progress (env : UpdateEnv) (available : List LocaleFile) (rows : AppliedFileStorage)
    (done : List LocaleFile) (s : UpdateRun) : Prop where
  /-- The other files are as they were. -/
  pending : ∀ file ∈ available, file ∉ done →
    s.table.lookup file.name = rows.lookup file.name ∧
      s.applied.lookup file.name = rows.lookup file.name
  erased : ∀ file ∈ done, s.applied.lookup file.name = none
  skipped : ∀ file ∈ done, Skipped env rows file →
    s.table.lookup file.name = rows.lookup file.name
  readable : ∀ file ∈ done, ¬ Skipped env rows file → ∃ hash, env.HasHash file hash
  row : ∀ file ∈ done, ¬ Skipped env rows file →
    (∀ name, ¬ TakenFor env available rows file name) → ∀ hash, env.HasHash file hash →
    ∃ entry, s.table.lookup file.name = some entry ∧ entry.hash = hash
  /-- The row of a name that is gone is there until a file is taken for it, -/
  kept : ∀ name, Vanished available name →
    (∀ file ∈ done, ¬ TakenFor env available rows file name) →
    s.table.lookup name = rows.lookup name
  /-- and afterwards it is not. -/
  moved : ∀ file ∈ done, ∀ name, TakenFor env available rows file name →
    s.table.lookup name = none
  /-- A file that is the only one taken for a name has its row, -/
  only : ∀ file ∈ done, ∀ name, TakenFor env available rows file name →
    (∀ other ∈ done, TakenFor env available rows other name → other = file) →
    ∀ hash, env.HasHash file hash →
    ∃ entry, s.table.lookup file.name = some entry ∧ entry.hash = hash
  /-- and of two files one has none. -/
  second : ∀ file ∈ done, ∀ other ∈ done, ∀ name, TakenFor env available rows file name →
    TakenFor env available rows other name → file ≠ other →
    s.table.lookup file.name = none ∨ s.table.lookup other.name = none
  imported : ∀ file ∈ available, file.name ∈ s.imported ↔
    file ∈ done ∧ Imports env available rows file

section Loop

variable {env : UpdateEnv} {available : List LocaleFile} {table rows : AppliedFileStorage}
  {done : List LocaleFile} {file : LocaleFile} {s s' : UpdateRun}

theorem Progress.start (htable : ∀ name, table.lookup name = rows.lookup name) :
    Progress env available rows [] ⟨table, rows, []⟩ where
  pending := fun _ _ _ => ⟨htable _, rfl⟩
  erased := fun _ h => absurd h List.not_mem_nil
  skipped := fun _ h => absurd h List.not_mem_nil
  readable := fun _ h => absurd h List.not_mem_nil
  row := fun _ h => absurd h List.not_mem_nil
  kept := fun _ _ _ => htable _
  moved := fun _ h => absurd h List.not_mem_nil
  only := fun _ h => absurd h List.not_mem_nil
  second := fun _ h => absurd h List.not_mem_nil
  imported := fun _ _ => ⟨fun h => absurd h List.not_mem_nil,
    fun h => absurd h.1 List.not_mem_nil⟩

theorem Progress.step (h : Progress env available rows done s)
    (hnames : (available.map LocaleFile.name).Nodup) (hfile : file ∈ available)
    (hdone : done ⊆ available) (hnew : file ∉ done)
    (htaken : ∀ name, ¬ TakenFor env available rows file name)
    (hothers : ∀ name ≠ file.name, s'.table.lookup name = s.table.lookup name)
    (herased : s'.applied.lookup file.name = none)
    (happlied : ∀ name ≠ file.name, s'.applied.lookup name = s.applied.lookup name)
    (hskipped : Skipped env rows file → s'.table.lookup file.name = rows.lookup file.name)
    (hrow : ¬ Skipped env rows file → ∃ hash, env.HasHash file hash ∧
      ∃ entry, s'.table.lookup file.name = some entry ∧ entry.hash = hash)
    (himported : (Imports env available rows file ∧ s'.imported = s.imported ++ [file.name]) ∨
      (¬ Imports env available rows file ∧ s'.imported = s.imported)) :
    Progress env available rows (done ++ [file]) s' := by
  have hne : ∀ other ∈ available, other ≠ file → other.name ≠ file.name :=
    fun other hother hne heq => hne (List.inj_on_of_nodup_map hnames hother hfile heq)
  have hold : ∀ other ∈ done, other.name ≠ file.name := fun other hother =>
    hne other (hdone hother) fun heq => hnew (heq ▸ hother)
  have hgone : ∀ name, Vanished available name → name ≠ file.name := fun name hv heq =>
    hv file hfile heq.symm
  have hcases : ∀ {other : LocaleFile}, other ∈ done ++ [file] → other ∈ done ∨ other = file :=
    fun hother => (List.mem_append.mp hother).imp_right List.mem_singleton.mp
  refine ⟨?_, ?_, ?_, ?_, ?_, ?_, ?_, ?_, ?_, ?_⟩
  · intro other hother hmem
    rw [List.mem_append, not_or, List.mem_singleton] at hmem
    rw [hothers _ (hne other hother hmem.2), happlied _ (hne other hother hmem.2)]
    exact h.pending other hother hmem.1
  · intro other hother
    rcases hcases hother with hother | rfl
    · rw [happlied _ (hold other hother)]
      exact h.erased other hother
    · exact herased
  · intro other hother hskip
    rcases hcases hother with hother | rfl
    · rw [hothers _ (hold other hother)]
      exact h.skipped other hother hskip
    · exact hskipped hskip
  · intro other hother hskip
    rcases hcases hother with hother | rfl
    · exact h.readable other hother hskip
    · obtain ⟨hash, hhash, -⟩ := hrow hskip
      exact ⟨hash, hhash⟩
  · intro other hother hskip hno hash hhash
    rcases hcases hother with hother | rfl
    · rw [hothers _ (hold other hother)]
      exact h.row other hother hskip hno hash hhash
    · obtain ⟨hash', hhash', hentry⟩ := hrow hskip
      obtain rfl := hhash'.eq hhash
      exact hentry
  · intro name hv hno
    rw [hothers _ (hgone name hv)]
    exact h.kept name hv fun other hother => hno other (List.mem_append_left _ hother)
  · intro other hother name ht
    rcases hcases hother with hother | rfl
    · obtain ⟨-, -, -, -, hv⟩ := id ht
      rw [hothers _ (hgone name hv)]
      exact h.moved other hother name ht
    · exact absurd ht (htaken name)
  · intro other hother name ht honly hash hhash
    rcases hcases hother with hother | rfl
    · rw [hothers _ (hold other hother)]
      exact h.only other hother name ht
        (fun x hx => honly x (List.mem_append_left _ hx)) hash hhash
    · exact absurd ht (htaken name)
  · intro x hx y hy name htx hty hxy
    rcases hcases hx with hx | rfl
    · rcases hcases hy with hy | rfl
      · rw [hothers _ (hold x hx), hothers _ (hold y hy)]
        exact h.second x hx y hy name htx hty hxy
      · exact absurd hty (htaken name)
    · exact absurd htx (htaken name)
  · intro other hother
    have hmem : other ∈ done ++ [file] ↔ other ∈ done ∨ other = file := by
      rw [List.mem_append, List.mem_singleton]
    rcases himported with ⟨hyes, heq⟩ | ⟨hno, heq⟩
    · rw [heq, List.mem_append, List.mem_singleton, h.imported other hother, hmem]
      constructor
      · rintro (⟨hd, hi⟩ | hname)
        · exact ⟨Or.inl hd, hi⟩
        · obtain rfl := List.inj_on_of_nodup_map hnames hother hfile hname
          exact ⟨Or.inr rfl, hyes⟩
      · rintro ⟨hd | rfl, hi⟩
        · exact Or.inl ⟨hd, hi⟩
        · exact Or.inr rfl
    · rw [heq, h.imported other hother, hmem]
      constructor
      · exact fun ⟨hd, hi⟩ => ⟨Or.inl hd, hi⟩
      · rintro ⟨hd | rfl, hi⟩
        · exact ⟨hd, hi⟩
        · exact absurd hi hno

theorem Progress.rename (h : Progress env available rows done s)
    (hnames : (available.map LocaleFile.name).Nodup) (hfile : file ∈ available)
    (hdone : done ⊆ available) (hnew : file ∉ done) {gone : FileName}
    (htaken : TakenFor env available rows file gone) :
    Progress env available rows (done ++ [file])
      ({ s with table := s.table.renameEntry gone file.name }.eraseApplied gone) := by
  obtain ⟨hash, hhash, hnone, hcache, hv⟩ := id htaken
  have hgone : gone ≠ file.name := fun heq => hv file hfile heq.symm
  have hne : ∀ other ∈ available, other ≠ file → other.name ≠ file.name :=
    fun other hother hne heq => hne (List.inj_on_of_nodup_map hnames hother hfile heq)
  have hold : ∀ other ∈ done, other.name ≠ file.name := fun other hother =>
    hne other (hdone hother) fun heq => hnew (heq ▸ hother)
  have hnotskip : ¬ Skipped env rows file := by
    rintro ⟨entry, hentry, -⟩
    exact absurd (hnone.symm.trans hentry) nofun
  have hno := not_imports_of_takenFor htaken
  have hthis : ∀ {name}, TakenFor env available rows file name → name = gone := by
    rintro name ⟨hash', hhash', -, hcache', -⟩
    rw [← hhash.eq hhash'] at hcache'
    exact Option.some.inj (hcache'.symm.trans hcache)
  have hcases : ∀ {other : LocaleFile}, other ∈ done ++ [file] → other ∈ done ∨ other = file :=
    fun hother => (List.mem_append.mp hother).imp_right List.mem_singleton.mp
  -- the rows of other files
  have hothers : ∀ other ∈ available, other ≠ file →
      (s.table.renameEntry gone file.name).lookup other.name = s.table.lookup other.name :=
    fun other hother hof => renameEntry_lookup_of_ne (hv other hother) (hne other hother hof)
  have hdoneOthers : ∀ other ∈ done,
      (s.table.renameEntry gone file.name).lookup other.name = s.table.lookup other.name :=
    fun other hother => hothers other (hdone hother) fun heq => hnew (heq ▸ hother)
  have hthisRow : (s.table.renameEntry gone file.name).lookup file.name = s.table.lookup gone :=
    renameEntry_lookup_target hgone
  refine ⟨?_, ?_, ?_, ?_, ?_, ?_, ?_, ?_, ?_, ?_⟩
  · intro other hother hmem
    rw [List.mem_append, not_or, List.mem_singleton] at hmem
    refine ⟨(hothers other hother hmem.2).trans (h.pending other hother hmem.1).1, ?_⟩
    exact (AList.lookup_erase_ne (hv other hother)).trans (h.pending other hother hmem.1).2
  · intro other hother
    refine (AList.lookup_erase_ne (hv other ?_)).trans ?_
    · rcases hcases hother with hother | rfl
      · exact hdone hother
      · exact hfile
    · rcases hcases hother with hother | rfl
      · exact h.erased other hother
      · exact (h.pending other hfile hnew).2.trans hnone
  · intro other hother hskip
    rcases hcases hother with hother | rfl
    · exact (hdoneOthers other hother).trans (h.skipped other hother hskip)
    · exact absurd hskip hnotskip
  · intro other hother hskip
    rcases hcases hother with hother | rfl
    · exact h.readable other hother hskip
    · exact ⟨hash, hhash⟩
  · intro other hother hskip hnot hash' hhash'
    rcases hcases hother with hother | rfl
    · obtain ⟨entry, hentry, heq⟩ := h.row other hother hskip hnot hash' hhash'
      exact ⟨entry, (hdoneOthers other hother).trans hentry, heq⟩
    · exact absurd htaken (hnot gone)
  · intro name hvname hnot
    have hnameGone : name ≠ gone := by
      rintro rfl
      exact hnot file (List.mem_append_right _ (List.mem_singleton_self _)) htaken
    refine (renameEntry_lookup_of_ne hnameGone fun heq => hvname file hfile heq.symm).trans ?_
    exact h.kept name hvname fun other hother => hnot other (List.mem_append_left _ hother)
  · intro other hother name ht
    by_cases hnameGone : name = gone
    · subst hnameGone
      exact renameEntry_lookup_source hgone
    · rcases hcases hother with hother | rfl
      · obtain ⟨-, -, -, -, hvname⟩ := id ht
        refine (renameEntry_lookup_of_ne hnameGone fun heq => hvname file hfile heq.symm).trans ?_
        exact h.moved other hother name ht
      · exact absurd (hthis ht) hnameGone
  · intro other hother name ht honly hash' hhash'
    rcases hcases hother with hother | rfl
    · obtain ⟨entry, hentry, heq⟩ := h.only other hother name ht
        (fun x hx => honly x (List.mem_append_left _ hx)) hash' hhash'
      exact ⟨entry, (hdoneOthers other hother).trans hentry, heq⟩
    · obtain rfl := hthis ht
      obtain rfl := hhash.eq hhash'
      obtain ⟨entry, hentry, heq⟩ := of_fillHashToName hcache
      refine ⟨entry, ?_, heq⟩
      -- nobody was taken for the name before, so its row is still there
      have hrow := h.kept name hv fun x hx htx => hnew
        (honly x (List.mem_append_left _ hx) htx ▸ hx)
      exact hthisRow.trans (hrow.trans hentry)
  · intro x hx y hy name htx hty hxy
    rcases hcases hx with hxd | rfl
    · rcases hcases hy with hyd | rfl
      · refine (h.second x hxd y hyd name htx hty hxy).imp ?_ ?_
        · exact (hdoneOthers x hxd).trans
        · exact (hdoneOthers y hyd).trans
      · -- the row went to an earlier file
        obtain rfl := hthis hty
        exact Or.inr (hthisRow.trans (h.moved x hxd name htx))
    · rcases hcases hy with hyd | rfl
      · obtain rfl := hthis htx
        exact Or.inl (hthisRow.trans (h.moved y hyd name hty))
      · exact absurd rfl hxy
  · intro other hother
    refine (h.imported other hother).trans (and_congr_left fun hi => ?_)
    rw [List.mem_append, List.mem_singleton]
    refine ⟨Or.inl, ?_⟩
    rintro (hd | rfl)
    · exact hd
    · exact absurd hi hno

theorem Progress.round (h : Progress env available rows done s)
    (hnames : (available.map LocaleFile.name).Nodup) (hfile : file ∈ available)
    (hdone : done ⊆ available) (hnew : file ∉ done) (hround : Round env available rows file s s') :
    Progress env available rows (done ++ [file]) s' := by
  cases hround with
  | skipped hskip =>
    refine h.step hnames hfile hdone hnew ?_ (fun _ _ => rfl) (AList.lookup_erase _ _)
      (fun _ hne => AList.lookup_erase_ne hne) (fun _ => (h.pending file hfile hnew).1)
      (fun hno => absurd hskip hno) (Or.inr ⟨not_imports_of_skipped hskip, rfl⟩)
    rintro name ⟨-, -, hnone, -⟩
    obtain ⟨entry, hentry, -⟩ := hskip
    exact absurd (hnone.symm.trans hentry) nofun
  | written hhash hskip htaken hw =>
    exact h.step hnames hfile hdone hnew htaken hw.others hw.erased hw.applied
      (fun hyes => absurd hyes hskip) (fun _ => ⟨_, hhash, hw.row⟩) hw.imported
  | renamed htaken => exact h.rename hnames hfile hdone hnew htaken

theorem Progress.loop (hnames : (available.map LocaleFile.name).Nodup) (rest : List LocaleFile) :
    ∀ {done : List LocaleFile} {s : UpdateRun}, available = done ++ rest →
      Progress env available rows done s →
      rest.foldlM (checkFile env available (fillHashToName rows)) s = .ok s' →
      Progress env available rows available s' := by
  induction rest with
  | nil =>
    intro done s heq h hloop
    rw [List.append_nil] at heq
    rw [heq, ← Except.ok.inj hloop]
    rw [heq] at h
    exact h
  | cons file rest ih =>
    intro done s heq h hloop
    have hfile : file ∈ available := by
      rw [heq]
      exact List.mem_append_right _ List.mem_cons_self
    have hnd : (done ++ file :: rest).Nodup := heq ▸ hnames.of_map
    have hnew : file ∉ done := fun hmem =>
      (List.nodup_append'.mp hnd).2.2 hmem List.mem_cons_self
    rw [List.foldlM_cons] at hloop
    cases hround : checkFile env available (fillHashToName rows) s file with
    | error e =>
      rw [hround] at hloop
      exact absurd hloop nofun
    | ok s₁ =>
      rw [hround] at hloop
      obtain ⟨htable, happlied⟩ := h.pending file hfile hnew
      refine ih (by rw [heq, List.append_cons]) (h.round hnames hfile ?_ hnew
        (checkFile_round htable happlied hround)) hloop
      rw [heq]
      exact List.subset_append_left _ _

theorem update_eq_ok {r : UpdateResult} (hnames : (available.map LocaleFile.name).Nodup)
    (htable : ∀ name, table.lookup name = rows.lookup name)
    (h : update env available table rows = .ok r) :
    ∃ s, Progress env available rows available s ∧ r.imported = s.imported ∧
      ∀ file ∈ available, r.table.lookup file.name = s.table.lookup file.name := by
  unfold update at h
  cases hloop : available.foldlM (checkFile env available (fillHashToName rows))
      ⟨table, rows, []⟩ with
  | error e =>
    dsimp only at h
    rw [hloop] at h
    exact absurd h nofun
  | ok s =>
    dsimp only at h
    rw [hloop] at h
    have hprogress := Progress.loop hnames available (List.nil_append _).symm
      (Progress.start htable) hloop
    rw [← Except.ok.inj h]
    refine ⟨s, hprogress, ?_, fun file hfile => ?_⟩
    · dsimp only
      unfold UpdateRun.cleanUpOrphans
      split
      · rfl
      · rfl
    · dsimp only
      unfold UpdateRun.cleanUpOrphans
      split
      · exact cleanUp_lookup (hprogress.erased file hfile)
      · rfl

end Loop

/-! ## 5. What an update should be -/

/-- **What an update should leave**, the table before it and the result. -/
structure GoodUpdate (env : UpdateEnv) (available : List LocaleFile) (table : AppliedFileStorage)
    (r : UpdateResult) : Prop where
  /-- Every file has a row with its name and its hash. -/
  recorded : ∀ file ∈ available, ∀ hash, env.HasHash file hash →
    ∃ entry, r.table.lookup file.name = some entry ∧ entry.hash = hash
  /-- Nothing is applied whose hash is recorded under the same name, or one that is gone. -/
  once : ∀ file ∈ available, file.name ∈ r.imported → ∀ hash, env.HasHash file hash →
    ∀ name entry, table.lookup name = some entry → entry.hash = hash →
    name ≠ file.name ∧ ¬ Vanished available name
  /-- An update that follows at once applies nothing. -/
  again : ∀ rows : AppliedFileStorage, rows.entries.Perm r.table.entries →
    ∃ r', update env available r.table rows = .ok r' ∧ r'.imported = []

/-- **When it does**, said of the files and the table before. -/
structure Distinguishable (env : UpdateEnv) (available : List LocaleFile)
    (rows : AppliedFileStorage) : Prop where
  /-- A file that is not read has not changed. -/
  unread : ∀ file ∈ available, ∀ entry hash, rows.lookup file.name = some entry →
    env.skips file entry = true → env.HasHash file hash → entry.hash = hash
  /-- No two files are taken for one that is gone. -/
  renamed : ∀ file ∈ available, ∀ other ∈ available, ∀ name,
    TakenFor env available rows file name → TakenFor env available rows other name → file = other
  /-- A file with the hash of one that is gone has a row with the hash as well, or an empty one to
  be filled in; or it has no row, and the cache has the hash under a name that is gone. -/
  found : ∀ file ∈ available, ∀ hash, env.HasHash file hash → ∀ name entry,
    Vanished available name → rows.lookup name = some entry → entry.hash = hash →
    match rows.lookup file.name with
    | some own => env.skips file own = true ∨ (env.allowRehash = true ∧ own.hash = "") ∨
        own.hash = hash
    | none => ∃ first, (fillHashToName rows).lookup hash = some first ∧ Vanished available first

section Good

variable {env : UpdateEnv} {available : List LocaleFile} {table rows : AppliedFileStorage}
  {file : LocaleFile} {r : UpdateResult}

theorem Distinguishable.not_imports (h : Distinguishable env available rows)
    (hfile : file ∈ available) {hash : Hash} (hhash : env.HasHash file hash) {name : FileName}
    {entry : AppliedFileEntry} (hv : Vanished available name)
    (hentry : rows.lookup name = some entry) (heq : entry.hash = hash) :
    ¬ Imports env available rows file := by
  rintro ⟨hash', hhash', himports⟩
  obtain rfl := hhash.eq hhash'
  have hfound := h.found file hfile hash hhash name entry hv hentry heq
  cases hown : rows.lookup file.name with
  | some own =>
    rw [hown] at himports hfound
    obtain ⟨hskip, hrehash, hne⟩ := himports
    rcases hfound with hskip' | hrehash' | heq'
    · exact absurd (hskip'.symm.trans hskip) (by decide)
    · exact hrehash hrehash'
    · exact hne heq'
  | none =>
    rw [hown] at himports hfound
    obtain ⟨first, hfirst, hgone⟩ := hfound
    exact himports first hfirst hgone

theorem found_of_not_imports {hash : Hash} (hhash : env.HasHash file hash)
    (hsome : ∃ first, (fillHashToName rows).lookup hash = some first)
    (hno : ¬ Imports env available rows file) :
    match rows.lookup file.name with
    | some own => env.skips file own = true ∨ (env.allowRehash = true ∧ own.hash = "") ∨
        own.hash = hash
    | none => ∃ first, (fillHashToName rows).lookup hash = some first ∧
        Vanished available first := by
  cases hown : rows.lookup file.name with
  | some own =>
    by_contra hcon
    rw [not_or, not_or] at hcon
    refine hno ⟨hash, hhash, ?_⟩
    rw [hown]
    exact ⟨Bool.eq_false_iff.mpr hcon.1, hcon.2.1, hcon.2.2⟩
  | none =>
    obtain ⟨first, hfirst⟩ := hsome
    refine ⟨first, hfirst, ?_⟩
    by_contra hstill
    refine hno ⟨hash, hhash, ?_⟩
    rw [hown]
    intro name hname
    rw [← Option.some.inj (hfirst.symm.trans hname)]
    exact hstill

theorem loop_imports_nothing (available : List LocaleFile)
    (hashToName : HashToFileNameStorage) {before : AppliedFileStorage} (files : List LocaleFile) (hnames : (files.map LocaleFile.name).Nodup)
    (hrow : ∀ file ∈ files, ∃ entry, before.lookup file.name = some entry ∧
      (env.skips file entry = true ∨ env.HasHash file entry.hash)) :
    ∀ {s : UpdateRun}, (∀ file ∈ files, s.applied.lookup file.name = before.lookup file.name) →
      ∃ s', files.foldlM (checkFile env available hashToName) s = .ok s' ∧
        s'.imported = s.imported := by
  induction files with
  | nil => exact fun {s} _ => ⟨s, rfl, rfl⟩
  | cons file files ih =>
    intro s happlied
    obtain ⟨hnew, hnames⟩ := List.nodup_cons.mp hnames
    obtain ⟨entry, hentry, hcurrent⟩ := hrow file List.mem_cons_self
    have hround : ∃ s₁, checkFile env available hashToName s file = .ok s₁ ∧
        s₁.imported = s.imported ∧ s₁.applied = s.applied.erase file.name := by
      unfold checkFile
      rw [happlied file List.mem_cons_self, hentry]
      dsimp only
      unfold checkApplied
      split
      · exact ⟨_, rfl, rfl, rfl⟩
      · next hskip =>
        obtain ⟨content, hcontent, hhash⟩ := hcurrent.resolve_left hskip
        have hread : file.readSQLUpdate = .ok content := by
          rw [LocaleFile.readSQLUpdate, hcontent]
        rw [hread]
        dsimp only [bind, Except.bind]
        split
        · exact ⟨_, rfl, rfl, rfl⟩
        · split
          · next hne => exact absurd hhash.symm hne
          · split
            · exact ⟨_, rfl, rfl, rfl⟩
            · exact ⟨_, rfl, rfl, rfl⟩
    obtain ⟨s₁, hs₁, himported, herase⟩ := hround
    obtain ⟨s', hs', himported'⟩ := ih hnames (fun x hx => hrow x (List.mem_cons_of_mem _ hx))
      (s := s₁) fun x hx => by
        have hne : x.name ≠ file.name := fun heq => hnew (heq ▸ List.mem_map_of_mem hx)
        rw [herase, AList.lookup_erase_ne hne]
        exact happlied x (List.mem_cons_of_mem _ hx)
    rw [List.foldlM_cons, hs₁]
    exact ⟨s', hs', himported'.trans himported⟩

theorem update_imports_nothing (hnames : (available.map LocaleFile.name).Nodup)
    (hrow : ∀ file ∈ available, ∃ entry, rows.lookup file.name = some entry ∧
      (env.skips file entry = true ∨ env.HasHash file entry.hash)) :
    ∃ r, update env available table rows = .ok r ∧ r.imported = [] := by
  obtain ⟨s, hs, himported⟩ := loop_imports_nothing available (fillHashToName rows) available
    hnames hrow (s := ⟨table, rows, []⟩) fun _ _ => rfl
  have hclean : (s.cleanUpOrphans env).imported = s.imported := by
    unfold UpdateRun.cleanUpOrphans
    split
    · rfl
    · rfl
  refine ⟨⟨(s.cleanUpOrphans env).table, (s.cleanUpOrphans env).imported,
    rows.entries.countP fun entry => decide (entry.2.state = .RELEASED),
    rows.entries.countP fun entry => decide (entry.2.state ≠ .RELEASED)⟩, ?_, ?_⟩
  · unfold update
    dsimp only
    rw [hs]
    rfl
  · exact hclean.trans himported

/-- **An update is as it should be exactly if the files can be told apart.** -/
theorem update_good_iff (env : UpdateEnv) (available : List LocaleFile)
    (hnames : (available.map LocaleFile.name).Nodup) (table rows : AppliedFileStorage)
    (hrows : rows.entries.Perm table.entries) (r : UpdateResult)
    (hok : update env available table rows = .ok r) :
    GoodUpdate env available table r ↔ Distinguishable env available rows := by
  have hsame : ∀ name, table.lookup name = rows.lookup name := fun name =>
    (perm_lookup_eq hrows name).symm
  obtain ⟨s, hs, himported, htable⟩ := update_eq_ok hnames hsame hok
  constructor
  · intro hgood
    refine ⟨fun file hfile entry hash hentry hskip hhash => ?_,
      fun file hfile other hother name ht ht' => ?_,
      fun file hfile hash hhash name entry hv hentry heq => ?_⟩
    · obtain ⟨entry', hentry', heq⟩ := hgood.recorded file hfile hash hhash
      rw [htable file hfile, hs.skipped file hfile ⟨entry, hentry, hskip⟩, hentry] at hentry'
      rw [Option.some.inj hentry']
      exact heq
    · by_contra hne
      obtain ⟨hash, hhash, -⟩ := id ht
      obtain ⟨hash', hhash', -⟩ := id ht'
      obtain ⟨entry, hentry, -⟩ := hgood.recorded file hfile hash hhash
      obtain ⟨entry', hentry', -⟩ := hgood.recorded other hother hash' hhash'
      rw [htable file hfile] at hentry
      rw [htable other hother] at hentry'
      rcases hs.second file hfile other hother name ht ht' hne with hnone | hnone
      · exact absurd (hnone.symm.trans hentry) nofun
      · exact absurd (hnone.symm.trans hentry') nofun
    · have hsome := exists_fillHashToName hentry
      rw [heq] at hsome
      refine found_of_not_imports hhash hsome fun himports => ?_
      have hmem : file.name ∈ r.imported := by
        rw [himported]
        exact (hs.imported file hfile).mpr ⟨hfile, himports⟩
      exact (hgood.once file hfile hmem hash hhash name entry ((hsame name).trans hentry) heq).2 hv
  · intro hdist
    have hrecorded : ∀ file ∈ available, ∀ hash, env.HasHash file hash →
        ∃ entry, r.table.lookup file.name = some entry ∧ entry.hash = hash := by
      intro file hfile hash hhash
      rw [htable file hfile]
      by_cases hskip : Skipped env rows file
      · rw [hs.skipped file hfile hskip]
        obtain ⟨entry, hentry, hyes⟩ := hskip
        exact ⟨entry, hentry, hdist.unread file hfile entry hash hentry hyes hhash⟩
      · by_cases htaken : ∃ name, TakenFor env available rows file name
        · obtain ⟨name, ht⟩ := htaken
          exact hs.only file hfile name ht
            (fun other hother ht' => hdist.renamed other hother file hfile name ht' ht) hash hhash
        · exact hs.row file hfile hskip (not_exists.mp htaken) hash hhash
    refine ⟨hrecorded, fun file hfile hmem hash hhash name entry hentry heq => ?_,
      fun rows' hrows' => update_imports_nothing hnames fun file hfile => ?_⟩
    · rw [himported] at hmem
      have himports := ((hs.imported file hfile).mp hmem).2
      rw [hsame name] at hentry
      refine ⟨?_, fun hv => hdist.not_imports hfile hhash hv hentry heq himports⟩
      rintro rfl
      obtain ⟨hash', hhash', hmatch⟩ := himports
      rw [hentry] at hmatch
      exact hmatch.2.2 (heq.trans (hhash.eq hhash'))
    · rw [perm_lookup_eq hrows']
      by_cases hskip : Skipped env rows file
      · obtain ⟨entry, hentry, hyes⟩ := id hskip
        refine ⟨entry, ?_, Or.inl hyes⟩
        rw [htable file hfile, hs.skipped file hfile hskip]
        exact hentry
      · obtain ⟨hash, hhash⟩ := hs.readable file hfile hskip
        obtain ⟨entry, hentry, rfl⟩ := hrecorded file hfile hash hhash
        exact ⟨entry, hentry, Or.inr hhash⟩

end Good

/-! ## 6. Two examples -/

/-- The options of a new installation, with a hash that tells all contents apart. -/
def plainEnv : UpdateEnv := { calculateSHA1Hash := id }

def releasedFile (name : FileName) (content : String) : LocaleFile :=
  { name := name, state := .RELEASED, content := some content }

def oldTable (content : String) : AppliedFileStorage :=
  AList.singleton "old.sql" ⟨content, .RELEASED⟩

/-- What an update leaves of that table if it renames the row. -/
def renamedResult (name : FileName) (content : String) : UpdateResult :=
  ⟨AList.singleton name ⟨content, .RELEASED⟩, [], 1, 0⟩

/-- A file that was renamed keeps its row, and is not applied again. -/
theorem renamed_file_good :
    GoodUpdate plainEnv [releasedFile "new.sql" "x"] (oldTable "x")
        (renamedResult "new.sql" "x") ↔
      Distinguishable plainEnv [releasedFile "new.sql" "x"] (oldTable "x") :=
  update_good_iff plainEnv [releasedFile "new.sql" "x"] (List.nodup_singleton _) (oldTable "x")
    (oldTable "x") (List.Perm.refl _) (renamedResult "new.sql" "x") rfl

/-- **A file that was renamed and copied leaves the copy without a row**, and the next update
applies it, whose hash was recorded. -/
theorem renamed_copy_lost :
    update plainEnv [releasedFile "a.sql" "x", releasedFile "b.sql" "x"] (oldTable "x")
        (oldTable "x") = .ok (renamedResult "a.sql" "x") ∧
      (∃ r, update plainEnv [releasedFile "a.sql" "x", releasedFile "b.sql" "x"]
        (renamedResult "a.sql" "x").table (renamedResult "a.sql" "x").table = .ok r ∧
        r.imported = ["b.sql"]) ∧
      ¬ GoodUpdate plainEnv [releasedFile "a.sql" "x", releasedFile "b.sql" "x"] (oldTable "x")
        (renamedResult "a.sql" "x") := by
  refine ⟨rfl, ⟨_, rfl, rfl⟩, fun hgood => ?_⟩
  obtain ⟨entry, hentry, -⟩ := hgood.recorded (releasedFile "b.sql" "x") (by simp) "x"
    ⟨"x", rfl, rfl⟩
  have hnone : (renamedResult "a.sql" "x").table.lookup "b.sql" = none := rfl
  exact absurd (hnone.symm.trans hentry) nofun

end FunPvp.Database
