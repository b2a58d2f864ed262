import Mathlib.Data.List.Basic
import LogSieve.Files

/-!
# Finding files

A path is followed through directories only, up to its last part.  A change at a
location that is no directory, or below it, is therefore never on the way to
another file: every path that led through directories before leads to the same
place afterwards.
-/

namespace LogSieve

/-- A text is read back from its bytes. -/
theorem fromUTF8?_toUTF8 (text : String) : String.fromUTF8? text.toUTF8 = some text := by
  rw [String.fromUTF8?, String.toUTF8_eq_toByteArray, dif_pos text.isValidUTF8]
  rfl

namespace Files

/-! ## Locations -/

theorem lookup_filter_of_pos {test : Location × Node → Bool} (nodes : List (Location × Node))
    (location : Location) (kept : ∀ node, test (location, node) = true) :
    (nodes.filter test).lookup location = nodes.lookup location := by
  induction nodes with
  | nil => rfl
  | cons entry rest ih =>
      obtain ⟨other, node⟩ := entry
      by_cases same : location = other
      · subst same
        simp [kept]
      · cases keep : test (other, node) <;>
          simp [keep, List.lookup_cons, beq_false_of_ne same, ih]

theorem node?_put_self (files : Files) {location : Location} (below : location ≠ [])
    (node : Node) : (files.put location node).node? location = some node := by
  simp [node?, put, below]

theorem node?_put_of_ne (files : Files) {location other : Location} (differ : other ≠ location)
    (node : Node) : (files.put location node).node? other = files.node? other := by
  simp only [node?, put]
  split
  · rfl
  · rw [List.lookup_cons, beq_false_of_ne differ]
    exact lookup_filter_of_pos _ _ fun node => by simpa using differ

theorem node?_drop_of_outside (files : Files) {location other : Location}
    (outside : ¬location <+: other) : (files.drop location).node? other = files.node? other := by
  simp only [node?, drop]
  split
  · rfl
  · apply lookup_filter_of_pos
    intro node
    rw [Bool.not_eq_true', ← Bool.not_eq_true, List.isPrefixOf_iff_prefix]
    exact outside

/-- Two trees of files that differ at a location and below it at most. -/
def SameOutside (location : Location) (files changed : Files) : Prop :=
  ∀ other, ¬location <+: other → changed.node? other = files.node? other

theorem sameOutside_put (files : Files) (location : Location) (node : Node) :
    SameOutside location files (files.put location node) := by
  intro other outside
  apply node?_put_of_ne
  rintro rfl
  exact outside List.prefix_rfl

theorem sameOutside_drop (files : Files) (location : Location) :
    SameOutside location files (files.drop location) :=
  fun _ => node?_drop_of_outside files

/-! ## Paths -/

/-- Follows parts that all have to be directories. -/
def descend (files : Files) (here : Location) : List String → Except FileError Location
  | [] => .ok here
  | part :: rest =>
      if part = "." then descend files here rest
      else if part = ".." then descend files here.dropLast rest
      else if 255 < part.utf8ByteSize then .error .nameTooLong
      else
        match files.node? (here ++ [part]) with
        | some .directory => descend files (here ++ [part]) rest
        | some (.file _) => .error .notDirectory
        | none => .error .notFound

/-- The last part of a path need not be there. -/
def arrive (here : Location) (part : String) : Except FileError Location :=
  if part = "." then .ok here
  else if part = ".." then .ok here.dropLast
  else if 255 < part.utf8ByteSize then .error .nameTooLong
  else .ok (here ++ [part])

/-- A path is followed through directories up to its last part. -/
theorem walk_append_singleton (files : Files) (here : Location) (parts : List String)
    (last : String) :
    files.walk here (parts ++ [last]) = (files.descend here parts).bind (arrive · last) := by
  induction parts generalizing here with
  | nil => simp [walk, descend, arrive, Except.bind]
  | cons part rest ih =>
      simp only [List.cons_append, walk, descend]
      split
      · exact ih here
      · split
        · exact ih here.dropLast
        · split
          · rfl
          · rw [if_neg (by simp)]
            cases files.node? (here ++ [part]) with
            | none => rfl
            | some node =>
                cases node with
                | file bytes => rfl
                | directory => exact ih (here ++ [part])

theorem descend_append (files : Files) (here : Location) (first second : List String) :
    files.descend here (first ++ second) =
      (files.descend here first).bind (files.descend · second) := by
  induction first generalizing here with
  | nil => rfl
  | cons part rest ih =>
      simp only [List.cons_append, descend]
      split
      · exact ih here
      · split
        · exact ih here.dropLast
        · split
          · rfl
          · cases files.node? (here ++ [part]) with
            | none => rfl
            | some node =>
                cases node with
                | file bytes => rfl
                | directory => exact ih (here ++ [part])

theorem prefix_concat_iff {location here : Location} {part : String} :
    location <+: here ++ [part] ↔ location <+: here ∨ location = here ++ [part] := by
  rw [List.prefix_concat_iff, or_comm]

/-- The way through directories does not change with anything at a location that
is no directory, and never leads there. -/
theorem descend_of_sameOutside {location : Location} {files changed : Files}
    (same : SameOutside location files changed)
    (noDirectory : files.node? location ≠ some .directory) {here found : Location}
    (outside : ¬location <+: here) {parts : List String}
    (reached : files.descend here parts = .ok found) :
    changed.descend here parts = .ok found ∧ ¬location <+: found := by
  induction parts generalizing here with
  | nil =>
      simp only [descend, Except.ok.injEq] at reached
      subst reached
      exact ⟨rfl, outside⟩
  | cons part rest ih =>
      simp only [descend] at reached ⊢
      by_cases stays : part = "."
      · rw [if_pos stays] at reached ⊢
        exact ih outside reached
      rw [if_neg stays] at reached ⊢
      by_cases returns : part = ".."
      · rw [if_pos returns] at reached ⊢
        exact ih (fun below => outside (below.trans (List.dropLast_prefix here))) reached
      rw [if_neg returns] at reached ⊢
      by_cases long : 255 < part.utf8ByteSize
      · rw [if_pos long] at reached
        cases reached
      rw [if_neg long] at reached ⊢
      split at reached
      · next directory =>
          have apart : ¬location <+: here ++ [part] := by
            rw [prefix_concat_iff]
            rintro (below | rfl)
            · exact outside below
            · exact noDirectory directory
          rw [same _ apart, directory]
          exact ih apart reached
      · cases reached
      · cases reached

/-- A way that ends in a proper name ends in a directory. -/
theorem node?_of_descend_concat {files : Files} {here found : Location} {parts : List String}
    {name : String} (reached : files.descend here (parts ++ [name]) = .ok found)
    (stays : name ≠ ".") (returns : name ≠ "..") : files.node? found = some .directory := by
  rw [descend_append] at reached
  cases first : files.descend here parts with
  | error cause =>
      rw [first] at reached
      cases reached
  | ok middle =>
      rw [first, Except.bind, descend, if_neg stays, if_neg returns] at reached
      by_cases long : 255 < name.utf8ByteSize
      · rw [if_pos long] at reached
        cases reached
      rw [if_neg long] at reached
      split at reached
      · next directory =>
          cases reached
          exact directory
      · cases reached
      · cases reached

/-! ## What a step does -/

variable {files changed : Files} {path : String}

theorem read_eq_ok_iff {bytes : ByteArray} :
    files.read path = .ok bytes ↔
      ∃ location, files.locate path = .ok location ∧
        files.node? location = some (.file bytes) := by
  rw [read]
  cases files.locate path with
  | error cause => simp [bind, Except.bind]
  | ok location =>
      rcases node : files.node? location with _ | _ | _ <;> simp [bind, Except.bind, node]

theorem exists?_eq_ok_false_iff :
    files.exists? path = .ok false ↔ files.read path = .error .notFound := by
  rw [exists?, read]
  cases files.locate path with
  | error cause => cases cause <;> simp [bind, Except.bind]
  | ok location =>
      rcases node : files.node? location with _ | _ | _ <;> simp [bind, Except.bind, node]

theorem create_eq_ok_iff :
    files.create path = .ok changed ↔
      ∃ location, files.locate path = .ok location ∧ files.node? location ≠ some .directory ∧
        files.put location (.file .empty) = changed := by
  rw [create]
  cases files.locate path with
  | error cause => simp [bind, Except.bind]
  | ok location =>
      rcases node : files.node? location with _ | _ | _ <;> simp [bind, Except.bind, node]

theorem append_eq_ok_iff {bytes : ByteArray} :
    files.append path bytes = .ok changed ↔
      ∃ location old, files.locate path = .ok location ∧
        files.node? location = some (.file old) ∧
        files.put location (.file (old ++ bytes)) = changed := by
  rw [append]
  cases files.locate path with
  | error cause => simp [bind, Except.bind]
  | ok location =>
      rcases node : files.node? location with _ | _ | _ <;> simp [bind, Except.bind, node]

theorem remove_eq_ok_iff :
    files.remove path = .ok changed ↔
      ∃ location old, files.locate path = .ok location ∧
        files.node? location = some (.file old) ∧ files.drop location = changed := by
  rw [remove]
  cases files.locate path with
  | error cause => simp [bind, Except.bind]
  | ok location =>
      rcases node : files.node? location with _ | _ | _ <;> simp [bind, Except.bind, node]

/-- A file takes the place of no directory, and of nothing that a path names by
dots. -/
theorem exists_of_rename {source target : String} {bytes : ByteArray}
    (renamed : files.rename source target = .ok changed)
    (held : files.read source = .ok bytes) :
    ∃ sourceAt targetAt, files.locate source = .ok sourceAt ∧
      files.node? sourceAt = some (.file bytes) ∧ files.locate target = .ok targetAt ∧
      endsInDots target = false ∧ files.node? targetAt ≠ some .directory ∧
      changed = (files.drop sourceAt).put targetAt (.file bytes) := by
  obtain ⟨sourceAt, found, file⟩ := read_eq_ok_iff.mp held
  rw [rename] at renamed
  cases place : files.locate target with
  | error cause =>
      rw [found, place] at renamed
      cases renamed
  | ok targetAt =>
      rw [found, place] at renamed
      simp only [bind, Except.bind, file] at renamed
      by_cases dots : endsInDots target = true
      · rw [if_pos dots] at renamed
        cases renamed
      rw [if_neg dots] at renamed
      refine ⟨sourceAt, targetAt, found, file, rfl, Bool.not_eq_true _ ▸ dots, ?_⟩
      rcases node : files.node? targetAt with _ | old | _ <;> simp_all

/-- A change that happens at a path where there is no directory. -/
def ChangedAt (path : String) (files changed : Files) : Prop :=
  ∃ location, files.locate path = .ok location ∧
    files.node? location ≠ some .directory ∧ SameOutside location files changed

theorem changedAt_create (created : files.create path = .ok changed) :
    ChangedAt path files changed := by
  obtain ⟨location, found, noDirectory, rfl⟩ := create_eq_ok_iff.mp created
  exact ⟨location, found, noDirectory, sameOutside_put files location _⟩

theorem changedAt_append {bytes : ByteArray} (appended : files.append path bytes = .ok changed) :
    ChangedAt path files changed := by
  obtain ⟨location, old, found, file, rfl⟩ := append_eq_ok_iff.mp appended
  exact ⟨location, found, by simp [file], sameOutside_put files location _⟩

theorem changedAt_remove (removed : files.remove path = .ok changed) :
    ChangedAt path files changed := by
  obtain ⟨location, old, found, file, rfl⟩ := remove_eq_ok_iff.mp removed
  exact ⟨location, found, by simp [file], sameOutside_drop files location⟩

end Files

end LogSieve
