import WalletLedger.Database.Disk
import WalletLedger.Proofs.Database.Locations
import WalletLedger.Proofs.Database.Queries

/-!
# Files that are opened

Where a path is read as a file, that file is opened, or made if it is not there
(`open?_of_file`). A path that `IsPlain` is read as itself, so the file that it
names is opened, and of two names in a directory each reaches a file of its own
(`plain_names_are_opened`).

The path is not escaped when it is written into the URL, so this does not hold of
every path. A name with an escape in it reaches the file of another name, and one
with a question mark reaches none (`escaped_name_reaches_another_file`).
-/

namespace WalletLedger.Database

/-- A path that is read back from its URL, and that the engine does not take for a URI of
its own. -/
structure IsPlain (path : String) : Prop extends ReadsBack path where
  noUri : ¬ "file:".toList <+: path.toList

namespace Disk

variable {d : Disk} {s : Settings} {file : List String} {dir name : String}

/-- A name in a directory that is there names a file. -/
structure Names (d : Disk) (dir name : String) (file : List String) : Prop where
  isDirectory : dir = "" ∨ ∃ above, dir = above ++ "/"
  noSlash : '/' ∉ name.toList
  noNul : '\x00' ∉ (dir ++ name).toList
  onDisk : dir ++ name ≠ ":memory:"
  path : d.filePath? (dir ++ name) = some file

/-! ## Names -/

/-- The last part of a path is the name in a directory. -/
theorem exists_splitOn (isDirectory : dir = "" ∨ ∃ above, dir = above ++ "/")
    (noSlash : '/' ∉ name.toList) :
    ∃ above, (dir ++ name).toList.splitOn '/' = above ++ [name.toList] := by
  have whole := List.splitOn_eq_singleton noSlash
  rcases isDirectory with rfl | ⟨above, rfl⟩
  · exact ⟨[], by simpa using whole⟩
  · refine ⟨above.toList.splitOn '/', ?_⟩
    have parts : (above ++ "/" ++ name).toList = above.toList ++ '/' :: name.toList := by simp
    rw [parts, List.splitOn_eq_splitOnP, List.splitOnP_append_cons _ _ (by simp),
      ← List.splitOn_eq_splitOnP, ← List.splitOn_eq_splitOnP, whole]

/-- The names of a path end with the name in a directory, unless it names a directory. -/
theorem exists_names (isDirectory : dir = "" ∨ ∃ above, dir = above ++ "/")
    (noSlash : '/' ∉ name.toList) (isFile : Text.Path.endsInDirectory (dir ++ name) = false) :
    ∃ above, (Text.Path.ofString (dir ++ name)).names = above ++ [name] := by
  obtain ⟨above, parts⟩ := exists_splitOn isDirectory noSlash
  have kept : name.toList ≠ [] ∧ name.toList ≠ ['.'] := by
    simp only [Text.Path.endsInDirectory, parts, List.getLastD_concat, Bool.or_eq_false_iff,
      beq_eq_false_iff_ne] at isFile
    exact isFile.1
  refine ⟨(above.filter fun part => part ≠ [] && part ≠ ['.']).map String.ofList, ?_⟩
  unfold Text.Path.ofString
  rw [parts]
  simp [kept]

/-- A path names a file where the directories on its way are there. -/
theorem filePath?_eq_some_iff {path : String} : d.filePath? path = some file ↔
    ∃ last directory, (Text.Path.ofString path).names.getLast? = some last ∧
      d.descend? (if (Text.Path.ofString path).isAbsolute then [] else d.directory)
        (Text.Path.ofString path).names.dropLast = some directory ∧
      file = directory ++ [last] ∧ Text.Path.endsInDirectory path = false ∧
      file.isPrefixOf d.directory = false ∧ last.utf8ByteSize ≤ maxNameLength := by
  unfold filePath?
  simp only [Option.bind_eq_bind, Option.bind_eq_some_iff]
  refine exists_congr fun last => ⟨?_, ?_⟩
  · rintro ⟨named, directory, reached, file⟩
    split at file
    · cases file
    · next sound =>
      obtain rfl := Option.some.inj file
      simp only [Bool.or_eq_true, decide_eq_true_eq, not_or, Bool.not_eq_true, Nat.not_lt] at sound
      exact ⟨directory, named, reached, rfl, sound.1.1, sound.1.2, sound.2⟩
  · rintro ⟨directory, named, reached, rfl, isFile, other, short⟩
    refine ⟨named, directory, reached, if_neg ?_⟩
    simp [isFile, other, Nat.not_lt.mpr short]

/-- A name in a directory is the last name of its file. -/
theorem Names.getLast? (h : d.Names dir name file) : file.getLast? = some name := by
  obtain ⟨last, directory, named, -, rfl, isFile, -⟩ := filePath?_eq_some_iff.mp h.path
  obtain ⟨above, names⟩ := exists_names h.isDirectory h.noSlash isFile
  rw [names, List.getLast?_concat] at named
  rw [List.getLast?_concat, named]

/-- A name that is not too long names a file in the working directory. -/
theorem names_of_short (named : name ≠ "") (noSlash : '/' ∉ name.toList)
    (noNul : '\x00' ∉ name.toList) (noDots : name ≠ "." ∧ name ≠ "..") (onDisk : name ≠ ":memory:")
    (short : name.utf8ByteSize ≤ maxNameLength) : d.Names "" name (d.directory ++ [name]) := by
  have whole : name.toList.splitOn '/' = [name.toList] := List.splitOn_eq_singleton noSlash
  have notEmpty : name.toList ≠ [] := fun empty => named (String.toList_inj.mp empty)
  have notDot : name.toList ≠ ['.'] := fun dot => noDots.1 (String.toList_inj.mp dot)
  have notDots : name.toList ≠ ['.', '.'] := fun dots => noDots.2 (String.toList_inj.mp dots)
  have relative : name.toList.head? ≠ some '/' := fun first => noSlash (List.mem_of_head? first)
  have isFile : Text.Path.endsInDirectory name = false := by
    simp [Text.Path.endsInDirectory, whole, notEmpty, notDot, notDots]
  have longer : (d.directory ++ [name]).isPrefixOf d.directory = false := by
    rw [Bool.eq_false_iff, ne_eq, List.isPrefixOf_iff_prefix]
    intro start
    have := start.length_le
    rw [List.length_append, List.length_singleton] at this
    omega
  refine ⟨.inl rfl, noSlash, by simpa using noNul, by simpa using onDisk, ?_⟩
  rw [String.empty_append, filePath?_eq_some_iff]
  refine ⟨name, d.directory, ?_, ?_, rfl, isFile, longer, short⟩
  · simp [Text.Path.ofString, whole, notEmpty, notDot]
  · simp [Text.Path.ofString, whole, notEmpty, notDot, relative, descend?]

/-- The database of a file: the one that the file holds, or one without tables if it is not
there, under a pool of its own and with its schema brought up to date if the settings say so. -/
def opened (d : Disk) (s : Settings) (file : List String) : Database :=
  let db : Database :=
    { (d.find? file).getD (blank d.supply default) with supply := d.supply, pool := s.pool }
  if s.runMigrations then db.migrated else db

theorem isFree_pool (connections : 0 < s.maxConnections) : s.pool.IsFree := by
  refine ⟨?_, rfl⟩
  simp [Pool.acquire, Pool.isExhausted, Settings.pool, Nat.pos_iff_ne_zero.mp connections]

/-- The file that a path is read as is opened. -/
theorem open?_of_file {path : String} (connections : 0 < s.maxConnections)
    (read : Location.ofPath s.path = .ok (.file path)) (there : d.filePath? path = some file) :
    d.open? s = .ok (some file, d.opened s file) := by
  have located : d.locate (.file path) =
      .ok (some file, (d.find? file).getD (blank d.supply default)) := by
    simp [locate, there]
  have connected : d.connect s = .ok (some file,
      { (d.find? file).getD (blank d.supply default) with
        supply := d.supply, pool := s.pool }) := by
    simp [connect, read, located, bind, Except.bind, Nat.pos_iff_ne_zero.mp connections]
  unfold open? opened
  rw [connected]
  simp only
  split
  · rw [migrate_eq (isFree_pool connections)]
  · rfl

/-- A database that was used is found again. -/
theorem find?_keep (d : Disk) (file : List String) (db : Database) :
    (d.keep (some file) db).find? file = some db := by
  have others : (d.files.filter fun f => f.1 ≠ file).lookup file = none := by
    refine List.lookup_eq_none_iff.mpr fun f mem => ?_
    have other : f.1 ≠ file := by simpa using (List.mem_filter.mp mem).2
    simpa using other.symm
  show (d.files.filter (fun f => f.1 ≠ file) ++ [(file, db)]).lookup file = some db
  rw [List.lookup_append, others]
  simp

/-- What a path names depends on the directories only. -/
theorem filePath?_congr {d' : Disk} (same : d'.directory = d.directory) (path : String) :
    d'.filePath? path = d.filePath? path := by
  have descends (here names : List String) : d'.descend? here names = d.descend? here names := by
    induction names generalizing here with
    | nil => rfl
    | cons name rest ih => simp only [descend?, same, ih]
  simp only [filePath?, descends, same]

/-- Nothing is opened where the path cannot be read. -/
theorem open?_of_error {e : EngineError} (unread : Location.ofPath s.path = .error e) :
    d.open? s = .error (.connectionFailed e.message) := by
  simp [open?, connect, unread, bind, Except.bind]

theorem Names.ofPath_iff (h : d.Names dir name file) :
    Location.ofPath (dir ++ name) = .ok (.file (dir ++ name)) ↔ ReadsBack (dir ++ name) := by
  refine Location.ofPath_eq_file_iff (fun empty => ?_) h.onDisk h.noNul
  obtain ⟨-, -, -, -, -, isFile, -⟩ := filePath?_eq_some_iff.mp h.path
  rw [empty] at isFile
  exact absurd isFile (by decide)

/-- The file of a plain name is opened. -/
theorem Names.open?_eq (h : d.Names dir name file) (connections : 0 < s.maxConnections)
    (plain : IsPlain (dir ++ name)) :
    d.open? { s with path := dir ++ name } = .ok (some file, d.opened s file) :=
  open?_of_file (s := { s with path := dir ++ name }) connections
    (h.ofPath_iff.mpr plain.toReadsBack) h.path

/-- Whatever directories and files there are, a plain name in a directory is that of the file
that is opened, or made if it is not there, so different names reach different files. The path
is read as itself exactly if it reads back from the URL, and with a question mark in it
nothing is opened. -/
theorem plain_names_are_opened (d : Disk) (s : Settings) (connections : 0 < s.maxConnections) :
    (∀ dir name file, d.Names dir name file → IsPlain (dir ++ name) →
      file.getLast? = some name ∧
      d.open? { s with path := dir ++ name } = .ok (some file, d.opened s file)) ∧
    (∀ dir name name' f f' file db db', d.Names dir name f → d.Names dir name' f' →
      IsPlain (dir ++ name) → IsPlain (dir ++ name') →
      d.open? { s with path := dir ++ name } = .ok (file, db) →
      d.open? { s with path := dir ++ name' } = .ok (file, db') → name = name') ∧
    (∀ dir name file, d.Names dir name file →
      (Location.ofPath (dir ++ name) = .ok (.file (dir ++ name)) ↔ ReadsBack (dir ++ name))) ∧
    ∀ dir name file, d.Names dir name file → '?' ∈ (dir ++ name).toList →
      ∃ text, d.open? { s with path := dir ++ name } = .error (.connectionFailed text) := by
  refine ⟨fun dir name file names plain => ⟨names.getLast?, names.open?_eq connections plain⟩,
    ?_, fun dir name file names => names.ofPath_iff, fun dir name file _ mark => ?_⟩
  · intro dir name name' f f' file db db' names names' plain plain' opened opened'
    rw [names.open?_eq connections plain] at opened
    rw [names'.open?_eq connections plain'] at opened'
    cases opened
    cases opened'
    exact Option.some.inj (names.getLast?.symm.trans names'.getLast?)
  · obtain ⟨e, unread⟩ := Location.ofPath_of_mem mark
    exact ⟨_, open?_of_error (s := { s with path := dir ++ name }) unread⟩

/-- A name with blanks, a letter beyond ASCII and a percent sign is opened under itself, and
one with a question mark is not opened. -/
theorem odd_name_is_opened :
    0 < (Settings.ofPath "50 % é.db").maxConnections ∧
    (Disk.empty ["data"]).Names "" "50 % é.db" ["data", "50 % é.db"] ∧ IsPlain "50 % é.db" ∧
    (∃ db, (Disk.empty ["data"]).open? (.ofPath "50 % é.db") =
      .ok (some ["data", "50 % é.db"], db)) ∧
    (Disk.empty ["data"]).Names "" "a?b.db" ["data", "a?b.db"] ∧
    ∃ text, (Disk.empty ["data"]).open? (.ofPath "a?b.db") = .error (.connectionFailed text) := by
  have names : (Disk.empty ["data"]).Names "" "50 % é.db" ["data", "50 % é.db"] :=
    names_of_short (by decide) (by decide) (by decide) (by decide) (by decide) (by decide)
  have marked : (Disk.empty ["data"]).Names "" "a?b.db" ["data", "a?b.db"] :=
    names_of_short (by decide) (by decide) (by decide) (by decide) (by decide) (by decide)
  have plain : IsPlain "50 % é.db" :=
    ⟨⟨by decide, Text.Percent.decode_eq_self_iff.mp rfl, by decide⟩, by decide⟩
  obtain ⟨opened, -, -, refused⟩ :=
    plain_names_are_opened (.empty ["data"]) (.ofPath "50 % é.db") (by decide)
  exact ⟨by decide, names, plain, ⟨_, (opened "" _ _ names plain).2⟩, marked,
    refused "" "a?b.db" _ marked (by decide)⟩

/-- Two names reach one file, which is not that of the first name. -/
theorem escaped_name_reaches_another_file :
    (Disk.empty ["data"]).Names "" "a%20b.db" ["data", "a%20b.db"] ∧
    (Disk.empty ["data"]).Names "" "a b.db" ["data", "a b.db"] ∧
    (∃ db, (Disk.empty ["data"]).open? (.ofPath "a%20b.db") =
      .ok (some ["data", "a b.db"], db)) ∧
    ∃ db, (Disk.empty ["data"]).open? (.ofPath "a b.db") = .ok (some ["data", "a b.db"], db) := by
  have names : (Disk.empty ["data"]).Names "" "a b.db" ["data", "a b.db"] :=
    names_of_short (by decide) (by decide) (by decide) (by decide) (by decide) (by decide)
  have escaped : Location.ofPath "a%20b.db" = .ok (.file "a b.db") :=
    Location.ofPath_of_decode (by decide) (by decide) (by decide) rfl (by decide) (by decide)
  have literal : Location.ofPath "a b.db" = .ok (.file "a b.db") :=
    Location.ofPath_of_decode (by decide) (by decide) (by decide) rfl (by decide) (by decide)
  exact ⟨names_of_short (by decide) (by decide) (by decide) (by decide) (by decide) (by decide),
    names, ⟨_, open?_of_file (by decide) escaped names.path⟩,
    ⟨_, open?_of_file (by decide) literal names.path⟩⟩

end Disk

end WalletLedger.Database
