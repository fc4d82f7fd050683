/-
# The database updater

`UpdateFetcher::Update` brings a database up to date with the update files on the disk. The table
`updates` has a row for every file that was applied, with the hash of its content. `Update` works
with three views of it: the table itself, which it changes by statements; `applied`, a copy of its
rows that loses a row with every file it checks; and `hashToName`, which says under which name a
hash is recorded, and is filled once.

The copy and the cache are `unordered_map`s. The order in which the rows of the copy are visited
decides which name the cache has for a hash that several rows have, so the copy is an argument
here; it has the rows of the table, in any order.
-/
import Mathlib

namespace FunPvp.Database

/-! ## 1. Files and rows -/

abbrev FileName := String

/-- A SHA1 hash as it is printed; empty in a row of an old table. -/
abbrev Hash := String

/-- `UpdateFetcher::State`. -/
inductive FileState
  | RELEASED
  | ARCHIVED
deriving DecidableEq

/-- `AppliedFileEntry`, but for its name, which is the key, and for its timestamp. -/
structure AppliedFileEntry where
  hash : Hash
  state : FileState
deriving DecidableEq

abbrev AppliedFileStorage := AList fun _ : FileName => AppliedFileEntry

abbrev HashToFileNameStorage := AList fun _ : Hash => FileName

/-- A file of the update directories: its content, if it can be opened, and whether the database
accepts it. -/
structure LocaleFile where
  name : FileName
  state : FileState
  content : Option String
  applies : Bool := true
deriving DecidableEq

/-- The arguments of `Update`, and the hash function. -/
structure UpdateEnv where
  redundancyChecks : Bool := true
  allowRehash : Bool := true
  archivedRedundancy : Bool := false
  cleanDeadReferencesMaxCount : ℤ := 3
  calculateSHA1Hash : String → Hash

/-- Why `UpdateException` is thrown. -/
inductive UpdateException
  | openingFailed (file : FileName)
  | applyingFailed (file : FileName)
deriving DecidableEq

def LocaleFile.readSQLUpdate (file : LocaleFile) : Except UpdateException String :=
  match file.content with
  | some content => .ok content
  | none => .error (.openingFailed file.name)

/-! ## 2. Statements -/

namespace AppliedFileStorage

/-- `UpdateEntry`: `REPLACE INTO`. -/
def updateEntry (table : AppliedFileStorage) (name : FileName) (entry : AppliedFileEntry) :
    AppliedFileStorage :=
  table.insert name entry

/-- `UPDATE .. SET .. WHERE name = ..`, for a row that stays where it is. -/
def updateState (table : AppliedFileStorage) (name : FileName) (state : FileState) :
    AppliedFileStorage :=
  match table.lookup name with
  | none => table
  | some entry => table.insert name { entry with state := state }

def renameEntry (table : AppliedFileStorage) (source target : FileName) : AppliedFileStorage :=
  let table : AppliedFileStorage := table.erase target
  match table.lookup source with
  | none => table
  | some entry => AList.insert target entry (table.erase source)

def cleanUp (table storage : AppliedFileStorage) : AppliedFileStorage :=
  storage.keys.foldl (fun table name => table.erase name) table

end AppliedFileStorage

/-! ## 3. `Update` -/

def insertHash (hashToName : HashToFileNameStorage)
    (entry : Sigma fun _ : FileName => AppliedFileEntry) : HashToFileNameStorage :=
  if (hashToName.lookup entry.2.hash).isSome then hashToName
  else hashToName.insert entry.2.hash entry.1

def fillHashToName (applied : AppliedFileStorage) : HashToFileNameStorage :=
  applied.entries.foldl insertHash ∅

/-- What the loop changes: the table, the copy, and the files that were applied, in order. -/
structure UpdateRun where
  table : AppliedFileStorage
  applied : AppliedFileStorage
  imported : List FileName

def UpdateRun.eraseApplied (s : UpdateRun) (name : FileName) : UpdateRun :=
  { s with applied := s.applied.erase name }

/-- The switch over the mode, in `MODE_APPLY`: the file is applied, and its entry replaced. -/
def UpdateRun.apply (s : UpdateRun) (file : LocaleFile) (hash : Hash) :
    Except UpdateException UpdateRun :=
  if file.applies then
    .ok { s with
      table := s.table.updateEntry file.name ⟨hash, file.state⟩
      imported := s.imported ++ [file.name] }
  else .error (.applyingFailed file.name)

/-- Whether the redundancy checks are skipped for a file with a row. -/
def UpdateEnv.skips (env : UpdateEnv) (file : LocaleFile) (entry : AppliedFileEntry) : Bool :=
  !env.redundancyChecks ||
    (!env.archivedRedundancy && decide (entry.state = .ARCHIVED) &&
      decide (file.state = .ARCHIVED))

/-- The body of the loop for a file that is in the copy. -/
def checkApplied (env : UpdateEnv) (s : UpdateRun) (file : LocaleFile)
    (entry : AppliedFileEntry) : Except UpdateException UpdateRun :=
  if env.skips file entry then .ok (s.eraseApplied file.name)
  else do
    let content ← file.readSQLUpdate
    let hash := env.calculateSHA1Hash content
    if env.allowRehash && decide (entry.hash = "") then
      .ok ({ s with table := s.table.updateEntry file.name ⟨hash, file.state⟩ }.eraseApplied
        file.name)
    else if entry.hash ≠ hash then do
      let s ← s.apply file hash
      .ok (s.eraseApplied file.name)
    else if entry.state ≠ file.state then
      .ok ({ s with table := s.table.updateState file.name file.state }.eraseApplied file.name)
    else .ok (s.eraseApplied file.name)

def checkNew (env : UpdateEnv) (available : List LocaleFile) (hashToName : HashToFileNameStorage)
    (s : UpdateRun) (file : LocaleFile) : Except UpdateException UpdateRun := do
  let content ← file.readSQLUpdate
  let hash := env.calculateSHA1Hash content
  match hashToName.lookup hash with
  | none => s.apply file hash
  | some original =>
    -- "renamed, but the old file is still there"
    if available.any fun other => decide (other.name = original) then s.apply file hash
    else
      .ok ({ s with table := s.table.renameEntry original file.name }.eraseApplied original)

def checkFile (env : UpdateEnv) (available : List LocaleFile) (hashToName : HashToFileNameStorage)
    (s : UpdateRun) (file : LocaleFile) : Except UpdateException UpdateRun :=
  match s.applied.lookup file.name with
  | some entry => checkApplied env s file entry
  | none => checkNew env available hashToName s file

def UpdateRun.cleanUpOrphans (s : UpdateRun) (env : UpdateEnv) : UpdateRun :=
  if env.cleanDeadReferencesMaxCount < 0 ∨
      (s.applied.entries.length : ℤ) ≤ env.cleanDeadReferencesMaxCount then
    { s with table := s.table.cleanUp s.applied }
  else s

/-- `UpdateResult`, with the table it leaves and the files it applied. -/
structure UpdateResult where
  table : AppliedFileStorage
  imported : List FileName
  recent : ℕ
  archived : ℕ

/-- `Update`. The files are in the order of their names. -/
def update (env : UpdateEnv) (available : List LocaleFile) (table applied : AppliedFileStorage) :
    Except UpdateException UpdateResult := do
  let hashToName := fillHashToName applied
  let s ← available.foldlM (checkFile env available hashToName) ⟨table, applied, []⟩
  let s := s.cleanUpOrphans env
  .ok
    { table := s.table
      imported := s.imported
      recent := applied.entries.countP fun entry => decide (entry.2.state = .RELEASED)
      archived := applied.entries.countP fun entry => decide (entry.2.state ≠ .RELEASED) }

end FunPvp.Database
