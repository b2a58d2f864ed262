import LogSieve.Proofs.Files
import LogSieve.Proofs.Splitting
import LogSieve.Store.Persistence

/-!
# The file beside its place

New rules are written to a file beside their place.  Its path differs from the
path of the rules in the last part only, so that both lead through the same
directories, and its last part is a name of its own.  Hence nothing that happens
to the file beside is seen at the place, and the file is found at the place once
it was renamed.
-/

namespace LogSieve

open LogSieve.Session

/-! ## Parts of a path -/

namespace Text

/-- What is added to a text without a divider is added to its last part, which
is empty if the text ends in a divider. -/
theorem exists_splitAt_append (divider : Char) (chars : List Char) :
    ∃ fronts last, divider ∉ last ∧
      (∀ addition, divider ∉ addition →
        splitAt divider (chars ++ addition) = fronts ++ [last ++ addition]) ∧
      (last = [] ↔ chars = [] ∨ chars.getLast? = some divider) := by
  by_cases divided : divider ∈ chars
  · obtain ⟨after, before, turned, undivided⟩ :=
      List.eq_append_cons_of_mem (List.mem_reverse.mpr divided)
    have whole : chars = before.reverse ++ divider :: after.reverse := by
      rw [← List.reverse_reverse chars, turned]
      simp
    subst whole
    refine ⟨splitAt divider before.reverse, after.reverse, by simpa using undivided, ?_, ?_⟩
    · intro addition clean
      have tail : splitAt divider (after.reverse ++ addition) = [after.reverse ++ addition] :=
        splitAt_of_not_mem (by simpa using ⟨undivided, clean⟩)
      rw [List.append_assoc, List.cons_append, splitAt_append_cons, tail]
    · cases after with
      | nil => simp
      | cons char rest =>
          simp only [List.mem_cons, not_or] at undivided
          simp [List.getLast?_cons, Ne.symm undivided.1]
  · refine ⟨[], chars, divided, ?_, ?_⟩
    · intro addition clean
      rw [splitAt_of_not_mem (by simpa using ⟨divided, clean⟩)]
      rfl
    · constructor
      · exact Or.inl
      · rintro (empty | ends)
        · exact empty
        · exact absurd (List.mem_of_getLast? ends) divided

end Text

namespace Files

open LogSieve.Text

/-- The last part of a path, where nothing after a slash stands for the
directory before it. -/
def lastPart (last : String) : String := if last = "" then "." else last

theorem temporaryPath_toList (path : String) :
    (temporaryPath path).toList = path.toList ++ ['.', 't', 'm', 'p'] := by
  simp [temporaryPath]

/-- How a path and the one beside it divide into parts. -/
structure Divides (path : String) (front : List String) (last : String) : Prop where
  proper : last ≠ "/"
  names : pathNames path = front ++ (if last = "" then [] else [last])
  parts : pathParts path = front ++ [lastPart last]
  besideParts : pathParts (temporaryPath path) = front ++ [last ++ ".tmp"]

/-- A path and the one beside it have all parts but the last in common. -/
theorem exists_divides {path : String} (given : path ≠ "") :
    ∃ front last, Divides path front last := by
  obtain ⟨fronts, last, undivided, split, ends⟩ := exists_splitAt_append '/' path.toList
  -- One split serves both paths: they differ only behind the last slash.
  have own := split [] (by simp)
  have beside := split ['.', 't', 'm', 'p'] (by decide)
  rw [List.append_nil, List.append_nil] at own
  rw [← temporaryPath_toList] at beside
  have asks : asksForDirectory path = true ↔ String.ofList last = "" := by
    have chars : path.toList ≠ [] := by simpa using given
    simp [asksForDirectory, given, ends, chars]
  have asksBeside : asksForDirectory (temporaryPath path) = false := by
    simp [asksForDirectory, temporaryPath]
  have names : pathNames path = (fronts.map String.ofList).filter (· != "") ++
      (if String.ofList last = "" then [] else [String.ofList last]) := by
    rw [pathNames, own]
    by_cases empty : String.ofList last = "" <;> simp [empty]
  refine ⟨(fronts.map String.ofList).filter (· != ""), String.ofList last, ?_, names, ?_, ?_⟩
  · intro slash
    have chars : last = ['/'] := by simpa using congrArg String.toList slash
    simp [chars] at undivided
  · rw [pathParts, names, lastPart]
    by_cases empty : String.ofList last = "" <;> simp [asks, empty]
  · rw [pathParts, asksBeside, pathNames, beside]
    simp

/-! ## The two locations -/

/-- The directory from which a path is followed. -/
def startOf (path : String) : Location := if path.toList.head? = some '/' then [top] else []

/-- Paths that can be followed at all. -/
structure Admissible (path : String) : Prop where
  noZero : path.toList.any (· == '\x00') = false
  inLimit : path.utf8ByteSize ≤ pathLimit

theorem locate_of_admissible (files : Files) {path : String} (given : path ≠ "")
    (admissible : Admissible path) :
    files.locate path = files.walk (startOf path) (pathParts path) := by
  simp [locate, startOf, given, admissible.noZero, Nat.not_lt.mpr admissible.inLimit]

theorem admissible_of_locate {files : Files} {path : String} {location : Location}
    (found : files.locate path = .ok location) : Admissible path := by
  rw [locate] at found
  by_cases empty : path.isEmpty = true
  · rw [if_pos empty] at found
    cases found
  rw [if_neg empty] at found
  by_cases zero : path.toList.any (· == '\x00') = true
  · rw [if_pos zero] at found
    cases found
  rw [if_neg zero] at found
  by_cases long : pathLimit < path.utf8ByteSize
  · rw [if_pos long] at found
    cases found
  exact ⟨Bool.not_eq_true _ ▸ zero, Nat.not_lt.mp long⟩

theorem admissible_of_temporaryPath {path : String} (admissible : Admissible (temporaryPath path)) :
    Admissible path := by
  obtain ⟨noZero, inLimit⟩ := admissible
  rw [temporaryPath_toList, List.any_append, Bool.or_eq_false_iff] at noZero
  rw [temporaryPath, String.utf8ByteSize_append] at inLimit
  exact ⟨noZero.1, by omega⟩

theorem startOf_temporaryPath {path : String} (given : path ≠ "") :
    startOf (temporaryPath path) = startOf path := by
  have chars : path.toList ≠ [] := by simpa using given
  rw [startOf, startOf, temporaryPath_toList, List.head?_append_of_ne_nil _ chars]

theorem temporaryPath_ne_empty (path : String) : temporaryPath path ≠ "" := by
  simp [temporaryPath]

namespace Divides

variable {path : String} {front : List String} {last : String}

theorem locate_eq (divides : Divides path front last) (given : path ≠ "")
    (admissible : Admissible path) (files : Files) :
    files.locate path =
      (files.descend (startOf path) front).bind (arrive · (lastPart last)) := by
  rw [locate_of_admissible files given admissible, divides.parts, walk_append_singleton]

theorem locate_temporaryPath (divides : Divides path front last) (given : path ≠ "")
    (admissible : Admissible (temporaryPath path)) (files : Files) :
    files.locate (temporaryPath path) =
      (files.descend (startOf path) front).bind (arrive · (last ++ ".tmp")) := by
  rw [locate_of_admissible files (temporaryPath_ne_empty path) admissible,
    startOf_temporaryPath given, divides.besideParts, walk_append_singleton]

end Divides

theorem append_tmp_ne (last : String) {part : String} (short : part.length < 4) :
    last ++ ".tmp" ≠ part := by
  rintro rfl
  rw [String.length_append] at short
  have : ".tmp".length = 4 := by decide
  omega

theorem append_tmp_ne_lastPart (last : String) : last ++ ".tmp" ≠ lastPart last := by
  rw [lastPart]
  split
  · exact append_tmp_ne last (by decide)
  · intro same
    have sizes := congrArg String.length same
    have : ".tmp".length = 4 := by decide
    rw [String.length_append] at sizes
    omega

theorem arrive_append_tmp (here : Location) (last : String) :
    arrive here (last ++ ".tmp") =
      if 255 < (last ++ ".tmp").utf8ByteSize then .error .nameTooLong
      else .ok (here ++ [last ++ ".tmp"]) := by
  rw [arrive, if_neg (append_tmp_ne last (by decide)), if_neg (append_tmp_ne last (by decide))]

/-- Where the way of a path and of the one beside it leads: to a directory of
which the last part beside is a name. -/
structure Beside (files : Files) (path : String) (front : List String) (last : String)
    (directory : Location) : Prop where
  given : path ≠ ""
  divides : Divides path front last
  admissible : Admissible (temporaryPath path)
  reached : files.descend (startOf path) front = .ok directory
  short : (last ++ ".tmp").utf8ByteSize ≤ 255

theorem exists_beside {files : Files} {path : String} {location : Location} (given : path ≠ "")
    (found : files.locate (temporaryPath path) = .ok location) :
    ∃ front last directory, Beside files path front last directory := by
  obtain ⟨front, last, divides⟩ := exists_divides given
  have admissible := admissible_of_locate found
  rw [divides.locate_temporaryPath given admissible] at found
  cases reached : files.descend (startOf path) front with
  | error cause =>
      rw [reached] at found
      cases found
  | ok directory =>
      rw [reached, Except.bind, arrive_append_tmp] at found
      split_ifs at found with long
      exact ⟨front, last, directory, given, divides, admissible, reached, Nat.not_lt.mp long⟩

theorem not_prefix_startOf (path : String) (here : Location) {name : String} (proper : name ≠ top) :
    ¬here ++ [name] <+: startOf path := by
  rw [startOf]
  split
  · rw [← List.nil_append [top], prefix_concat_iff]
    rintro (empty | single)
    · simp at empty
    · exact proper (by simpa using congrArg List.getLast? single)
  · simp

theorem not_concat_prefix_self (here : Location) (name : String) : ¬here ++ [name] <+: here := by
  intro below
  have sizes := below.length_le
  rw [List.length_append, List.length_singleton] at sizes
  omega

namespace Beside

variable {files changed : Files} {path : String} {front : List String} {last : String}
  {directory : Location}

theorem locate_temporaryPath (beside : Beside files path front last directory) :
    files.locate (temporaryPath path) = .ok (directory ++ [last ++ ".tmp"]) := by
  rw [beside.divides.locate_temporaryPath beside.given beside.admissible, beside.reached,
    Except.bind, arrive_append_tmp, if_neg (Nat.not_lt.mpr beside.short)]

theorem locate_eq (beside : Beside files path front last directory) :
    files.locate path = arrive directory (lastPart last) := by
  rw [beside.divides.locate_eq beside.given (admissible_of_temporaryPath beside.admissible),
    beside.reached, Except.bind]

/-- What happens at the path beside is not on the way to the path. -/
theorem of_sameOutside (beside : Beside files path front last directory)
    (noDirectory : files.node? (directory ++ [last ++ ".tmp"]) ≠ some .directory)
    (same : SameOutside (directory ++ [last ++ ".tmp"]) files changed) :
    Beside changed path front last directory := by
  have start := not_prefix_startOf path directory (append_tmp_ne last (by decide))
  exact { beside with reached := (descend_of_sameOutside same noDirectory start beside.reached).1 }

/-- The path does not lead to the path beside. -/
theorem not_prefix_of_locate (beside : Beside files path front last directory)
    {location : Location} (found : files.locate path = .ok location) :
    ¬directory ++ [last ++ ".tmp"] <+: location := by
  rw [beside.locate_eq, arrive] at found
  split_ifs at found
  · cases found
    exact not_concat_prefix_self _ _
  · cases found
    exact fun below => not_concat_prefix_self _ _ (below.trans (List.dropLast_prefix directory))
  · cases found
    rw [prefix_concat_iff]
    rintro (below | same)
    · exact not_concat_prefix_self _ _ below
    · exact append_tmp_ne_lastPart last (by simpa using same)

theorem read_of_sameOutside (beside : Beside files path front last directory)
    (noDirectory : files.node? (directory ++ [last ++ ".tmp"]) ≠ some .directory)
    (same : SameOutside (directory ++ [last ++ ".tmp"]) files changed) :
    changed.read path = files.read path := by
  have located : changed.locate path = files.locate path := by
    rw [(beside.of_sameOutside noDirectory same).locate_eq, beside.locate_eq]
  rw [read, read, located]
  cases found : files.locate path with
  | error cause => rfl
  | ok location =>
      simp only [bind, Except.bind, same location (beside.not_prefix_of_locate found)]

end Beside

variable {files created changed : Files} {path : String} {bytes : ByteArray}

theorem read_empty (files : Files) : files.read "" = .error .notFound := rfl

theorem rename_empty_ne_ok {source : String} : files.rename source "" ≠ .ok changed := by
  rw [rename]
  cases files.locate source <;> simp [bind, Except.bind, locate]

/-- Nothing that happens beside a path is seen there. -/
theorem read_of_changedAt (aside : ChangedAt (temporaryPath path) files changed) :
    changed.read path = files.read path := by
  obtain ⟨location, found, noDirectory, same⟩ := aside
  by_cases given : path = ""
  · rw [given, read_empty, read_empty]
  obtain ⟨front, last, directory, beside⟩ := exists_beside given found
  rw [beside.locate_temporaryPath, Except.ok.injEq] at found
  subst found
  exact beside.read_of_sameOutside noDirectory same

/-- Nothing that happens beside a path changes where the path leads, or what stands there. -/
theorem locate_of_changedAt (aside : ChangedAt (temporaryPath path) files changed)
    {location : Location} (found : files.locate path = .ok location) :
    changed.locate path = .ok location ∧ changed.node? location = files.node? location := by
  obtain ⟨place, foundBeside, noDirectory, same⟩ := aside
  have given : path ≠ "" := by
    rintro rfl
    cases found
  obtain ⟨front, last, directory, beside⟩ := exists_beside given foundBeside
  rw [beside.locate_temporaryPath, Except.ok.injEq] at foundBeside
  subst foundBeside
  have outside := beside.not_prefix_of_locate found
  rw [beside.locate_eq] at found
  exact ⟨(beside.of_sameOutside noDirectory same).locate_eq.trans found, same location outside⟩

/-- A path and the one beside it never lead to the same place. -/
theorem locate_temporaryPath_ne {location place : Location}
    (found : files.locate path = .ok location)
    (foundBeside : files.locate (temporaryPath path) = .ok place) : place ≠ location := by
  have given : path ≠ "" := by
    rintro rfl
    cases found
  obtain ⟨front, last, directory, beside⟩ := exists_beside given foundBeside
  rw [beside.locate_temporaryPath, Except.ok.injEq] at foundBeside
  subst foundBeside
  rintro rfl
  exact beside.not_prefix_of_locate found List.prefix_rfl

/-- A new file holds what was written to it. -/
theorem read_of_create_append (given : path ≠ "")
    (creates : files.create (temporaryPath path) = .ok created)
    (appends : created.append (temporaryPath path) bytes = .ok changed) :
    changed.read (temporaryPath path) = .ok bytes := by
  obtain ⟨location, found, noDirectory, rfl⟩ := create_eq_ok_iff.mp creates
  obtain ⟨front, last, directory, beside⟩ := exists_beside given found
  rw [beside.locate_temporaryPath, Except.ok.injEq] at found
  subst found
  have inCreated := beside.of_sameOutside noDirectory (sameOutside_put files _ (.file .empty))
  obtain ⟨location, old, found, file, rfl⟩ := append_eq_ok_iff.mp appends
  rw [inCreated.locate_temporaryPath, Except.ok.injEq] at found
  subst found
  have inChanged := inCreated.of_sameOutside (by simp [file])
    (sameOutside_put _ _ (.file (old ++ bytes)))
  rw [node?_put_self _ (by simp), Option.some.injEq, Node.file.injEq] at file
  subst file
  refine read_eq_ok_iff.mpr ⟨_, inChanged.locate_temporaryPath, ?_⟩
  rw [node?_put_self _ (by simp), ByteArray.empty_append]

/-- A path that ends in a proper name and leads to no directory ends with that
name. -/
theorem Beside.eq_concat_of_locate {front : List String} {last : String}
    {directory location : Location} (beside : Beside files path front last directory)
    (found : files.locate path = .ok location) (noDots : endsInDots path = false)
    (noDirectory : files.node? location ≠ some .directory) :
    location = directory ++ [last] := by
  rw [endsInDots, beside.divides.names] at noDots
  rw [beside.locate_eq, arrive, lastPart] at found
  by_cases empty : last = ""
  · simp only [empty, if_true, List.append_nil, Except.ok.injEq] at noDots found
    subst found
    exfalso
    obtain rfl | ⟨parts, name, rfl⟩ := front.eq_nil_or_concat
    · simp at noDots
    · have reached := beside.reached
      simp only [List.concat_eq_append, List.getLast?_concat, Bool.or_eq_false_iff,
        beq_eq_false_iff_ne] at noDots reached
      exact noDirectory (node?_of_descend_concat reached noDots.1 noDots.2)
  · simp only [empty, if_false, List.getLast?_concat, Bool.or_eq_false_iff,
      beq_eq_false_iff_ne] at noDots found
    rw [if_neg noDots.1, if_neg noDots.2] at found
    split_ifs at found
    cases found
    rfl

/-- A file that was renamed is found at its new path, which leads where it led before. -/
theorem locate_of_rename (renames : files.rename (temporaryPath path) path = .ok changed)
    (held : files.read (temporaryPath path) = .ok bytes) :
    ∃ location, files.locate path = .ok location ∧ changed.locate path = .ok location ∧
      changed.node? location = some (.file bytes) := by
  obtain ⟨sourceAt, targetAt, found, file, place, noDots, noDirectory, rfl⟩ :=
    exists_of_rename renames held
  have given : path ≠ "" := by
    rintro rfl
    cases place
  obtain ⟨front, last, directory, beside⟩ := exists_beside given found
  rw [beside.locate_temporaryPath, Except.ok.injEq] at found
  subst found
  have target := beside.eq_concat_of_locate place noDots noDirectory
  have outside := beside.not_prefix_of_locate place
  refine ⟨targetAt, place, ?_, node?_put_self _ (by simp [target]) _⟩
  rw [beside.locate_eq] at place
  -- First the file beside goes, then the place is taken.
  have dropped := beside.of_sameOutside (by simp [file]) (sameOutside_drop files _)
  have start := not_prefix_startOf path directory beside.divides.proper
  rw [← target] at start
  have taken := descend_of_sameOutside
    (sameOutside_put (files.drop (directory ++ [last ++ ".tmp"])) targetAt (.file bytes))
    (by rwa [node?_drop_of_outside _ outside]) start dropped.reached
  have final : Beside ((files.drop (directory ++ [last ++ ".tmp"])).put targetAt (.file bytes))
      path front last directory := { beside with reached := taken.1 }
  exact final.locate_eq.trans place

theorem read_of_rename (renames : files.rename (temporaryPath path) path = .ok changed)
    (held : files.read (temporaryPath path) = .ok bytes) : changed.read path = .ok bytes := by
  obtain ⟨location, -, place, file⟩ := locate_of_rename renames held
  exact read_eq_ok_iff.mpr ⟨location, place, file⟩

end Files

end LogSieve
