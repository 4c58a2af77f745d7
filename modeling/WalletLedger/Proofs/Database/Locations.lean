import WalletLedger.Database.Location

/-!
# Paths that are read back

A path is written into a URL as it stands, and the URL is read again. The path
`ReadsBack` when the reader finds in it no question mark, nothing that stands for
an octet, and no scheme at its start; then its own file is opened, and otherwise
never (`ofPath_eq_file_iff`). With a question mark nothing is opened at all,
because what follows it is no query that is known (`ofPath_of_mem`).
-/

namespace WalletLedger.Database

/-- The reader of a URL finds nothing to change in a path. -/
structure ReadsBack (path : String) : Prop where
  noQuery : '?' ∉ path.toList
  noEscape : ¬ Text.Percent.HasEscape path.toList
  noScheme : ¬ "sqlite:".toList <+: path.toList

namespace Location

variable {path : String}

/-! ## The parts of the URL -/

theorem dropStarts_schemes (cs rest : List Char) :
    dropScheme ("sqlite://".toList ++ (cs ++ '?' :: rest)) = dropScheme cs ++ '?' :: rest := by
  unfold dropScheme
  rw [Text.dropStarts_append (by decide), Text.dropStarts_append_cons (by decide) (by decide),
    Text.dropStarts_append_cons (by decide) (by decide)]

theorem dropScheme_suffix (cs : List Char) : dropScheme cs <:+ cs :=
  (Text.dropStarts_suffix _ _).trans (Text.dropStarts_suffix _ _)

theorem dropScheme_eq_self_iff {cs : List Char} :
    dropScheme cs = cs ↔ ¬ "sqlite:".toList <+: cs := by
  constructor
  · intro same
    have first : Text.dropStarts "sqlite://".toList cs = cs := by
      refine (Text.dropStarts_suffix _ cs).eq_of_length_le ?_
      calc cs.length = (dropScheme cs).length := by rw [same]
        _ ≤ (Text.dropStarts "sqlite://".toList cs).length :=
          (Text.dropStarts_suffix _ _).length_le
    unfold dropScheme at same
    rw [first] at same
    exact (Text.dropStarts_eq_self_iff (by decide)).mp same
  · intro other
    have longer : ¬ "sqlite://".toList <+: cs := fun start =>
      other (List.IsPrefix.trans (by decide) start)
    unfold dropScheme
    rw [Text.dropStarts_of_not_prefix longer, Text.dropStarts_of_not_prefix other]

theorem url_eq (path : String) :
    url path = "sqlite://".toList ++ (path.toList ++ '?' :: "mode=rwc".toList) :=
  List.append_assoc ..

/-- What stands before the first question mark of a URL, and what stands after it. -/
theorem splitAtFirst_url {before after : List Char} (first : '?' ∉ before)
    (eq : path.toList ++ '?' :: "mode=rwc".toList = before ++ '?' :: after) :
    Text.splitAtFirst '?' (dropScheme (url path)) = (dropScheme before, after) := by
  have kept : '?' ∉ dropScheme before := fun mem => first ((dropScheme_suffix _).subset mem)
  rw [url_eq, eq, dropStarts_schemes, Text.splitAtFirst_append kept]

/-! ## Paths without a question mark -/

theorem queryParameters_mode : Text.queryParameters "mode=rwc".toList = [("mode", "rwc")] := by
  decide +kernel

/-- Without a question mark in the path, the query is the one that was written. -/
theorem ofPath_of_not_mem (h : '?' ∉ path.toList) : ofPath path =
    (ofDatabase (dropScheme path.toList)).bind fun place => open? place [("mode", "rwc")] := by
  unfold ofPath
  rw [splitAtFirst_url h rfl]
  simp only [queryParameters_mode]
  rfl

/-- A place that can be opened in the mode that was written is that of its path. -/
theorem open?_eq_file_iff {place : Location} : open? place [("mode", "rwc")] = .ok (.file path) ↔
    place = .file path ∧ path ≠ "" ∧ '\x00' ∉ path.toList := by
  have noVfs : [("mode", "rwc")].reverse.lookup "vfs" = none := by decide +kernel
  unfold open?
  rw [noVfs]
  rcases place with _ | p
  · simp
  · simp only [String.isEmpty_iff, List.contains_eq_mem, decide_eq_true_eq]
    split
    · next empty => simpa using fun same unnamed => absurd (same ▸ empty) unnamed
    split
    · next nul => simpa using fun same _ => same ▸ nul
    · next named clean =>
      simp only [Except.ok.injEq, file.injEq]
      exact ⟨fun same => ⟨same, same ▸ named, same ▸ clean⟩, And.left⟩

theorem ofDatabase_eq_file_iff {cs : List Char} : ofDatabase cs = .ok (.file path) ↔
    cs ≠ ":memory:".toList ∧ Text.Percent.decode (String.ofList cs) = .ok path := by
  unfold ofDatabase
  split
  · next memory => simp [memory]
  · next other =>
    rcases Text.Percent.decode (String.ofList cs) with fault | p
    · simp
    · simp only [Except.ok.injEq, file.injEq, ne_eq, other, not_false_eq_true, true_and]

/-! ## Paths with a question mark -/

theorem unmarked_of_known {key : String} {values : List String}
    (known : knownValues? key = some (some values)) :
    '?' ∉ key.toList ∧ ∀ value ∈ values, '?' ∉ value.toList := by
  unfold knownValues? at known
  split at known <;> simp only [Option.some.injEq, reduceCtorEq] at known <;> subst known <;> decide

/-- Only the name of a file system may have a question mark. -/
theorem checkParameter_of_mark {key value : String} (mark : '?' ∈ key.toList ∨ '?' ∈ value.toList)
    (passed : checkParameter (key, value) = .ok ()) : key = "vfs" := by
  unfold checkParameter at passed
  rcases known : knownValues? key with _ | _ | values <;> simp only [known] at passed
  · cases passed
  · unfold knownValues? at known
    split at known <;> simp at known
    rfl
  · obtain ⟨unmarked, all⟩ := unmarked_of_known known
    split at passed
    · next among => exact absurd mark (not_or.mpr ⟨unmarked, all value (by simpa using among)⟩)
    · cases passed

theorem checked_of_forM {parameters : List (String × String)}
    (passed : parameters.forM checkParameter = .ok ()) :
    ∀ parameter ∈ parameters, checkParameter parameter = .ok () := by
  induction parameters with
  | nil => simp
  | cons first rest ih =>
    replace passed : ((checkParameter first).bind fun _ => rest.forM checkParameter) = .ok () :=
      passed
    rcases checked : checkParameter first with e | _ <;> rw [checked] at passed
    · cases passed
    · exact List.forall_mem_cons.mpr ⟨checked, ih passed⟩

theorem exists_error_of_vfs {parameters : List (String × String)} {value : String}
    (among : ("vfs", value) ∈ parameters) (place : Location) :
    ∃ e, open? place parameters = .error e := by
  unfold open?
  rcases found : parameters.reverse.lookup "vfs" with _ | name
  · have := List.lookup_eq_none_iff.mp found _ (List.mem_reverse.mpr among)
    simp at this
  · exact ⟨_, rfl⟩

/-- With a question mark in the path nothing is opened: what follows it is no parameter that is
known, or it is the name of a file system, and none is known. -/
theorem ofPath_of_mem (h : '?' ∈ path.toList) : ∃ e, ofPath path = .error e := by
  obtain ⟨before, after, eq, first⟩ := List.eq_append_cons_of_mem h
  have divided : path.toList ++ '?' :: "mode=rwc".toList =
      before ++ '?' :: (after ++ '?' :: "mode=rwc".toList) := by simp [eq]
  unfold ofPath
  rw [splitAtFirst_url first divided]
  have mark : '?' ∈ after ++ '?' :: "mode=rwc".toList := by simp
  obtain ⟨⟨key, value⟩, among, marked⟩ := Text.mem_queryParameters mark (by decide) (by decide)
  simp only [bind, Except.bind]
  generalize Text.queryParameters (after ++ '?' :: "mode=rwc".toList) = parameters at among
  rcases ofDatabase (dropScheme before) with e | place
  · exact ⟨e, rfl⟩
  rcases passed : parameters.forM checkParameter with e | _
  · exact ⟨e, rfl⟩
  obtain rfl := checkParameter_of_mark marked (checked_of_forM passed _ among)
  exact exists_error_of_vfs among place

/-! ## All paths -/

/-- Without a question mark and a scheme, the file is opened that the decoding of a path names. -/
theorem ofPath_of_decode {file : String} (noQuery : '?' ∉ path.toList)
    (noScheme : ¬ "sqlite:".toList <+: path.toList) (onDisk : path ≠ ":memory:")
    (decoded : Text.Percent.decode path = .ok file) (named : file ≠ "")
    (noNul : '\x00' ∉ file.toList) : ofPath path = .ok (.file file) := by
  have database : ofDatabase path.toList = .ok (.file file) := by
    refine ofDatabase_eq_file_iff.mpr ⟨fun same => onDisk (String.toList_inj.mp same), ?_⟩
    rwa [String.ofList_toList]
  rw [ofPath_of_not_mem noQuery, dropScheme_eq_self_iff.mpr noScheme, database]
  exact open?_eq_file_iff.mpr ⟨rfl, named, noNul⟩

/-- The file of a path is opened exactly if the path reads back. -/
theorem ofPath_eq_file_iff (named : path ≠ "") (onDisk : path ≠ ":memory:")
    (noNul : '\x00' ∉ path.toList) : ofPath path = .ok (.file path) ↔ ReadsBack path := by
  by_cases noQuery : '?' ∈ path.toList
  · obtain ⟨e, refused⟩ := ofPath_of_mem noQuery
    rw [refused]
    exact iff_of_false (by simp) fun reads => reads.noQuery noQuery
  constructor
  · intro opened
    rw [ofPath_of_not_mem noQuery] at opened
    rcases database : ofDatabase (dropScheme path.toList) with e | place <;>
      rw [database] at opened
    · cases opened
    obtain ⟨rfl, -, -⟩ := open?_eq_file_iff.mp opened
    obtain ⟨-, decoded⟩ := ofDatabase_eq_file_iff.mp database
    -- A decoding is no longer than its text, so neither the schemes nor the decoding took
    -- anything away.
    have long := (Text.Percent.length_of_decode decoded).1
    rw [String.toList_ofList] at long
    have kept := (dropScheme_suffix path.toList).eq_of_length_le long
    rw [kept, String.ofList_toList] at decoded
    exact ⟨noQuery, Text.Percent.decode_eq_self_iff.mp decoded, dropScheme_eq_self_iff.mp kept⟩
  · rintro ⟨-, noEscape, noScheme⟩
    have decoded := Text.Percent.decode_eq_self_iff.mpr noEscape
    exact ofPath_of_decode noQuery noScheme onDisk decoded named noNul

end Location

end WalletLedger.Database
