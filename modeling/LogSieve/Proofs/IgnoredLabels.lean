import Mathlib
import LogSieve.Proofs.Splitting
import LogSieve.Settings.Loading

/-!
# Labels to ignore, by a variable

A variable of the environment can list the labels that are left out of rules.  Its items are divided
by commas; white space around them and items of nothing else are dropped.  So the labels are in a
normal form: put together with commas, they are read back as they are.
-/

namespace LogSieve.Settings

open LogSieve.Text LogSieve.Unicode

/-! ## Items of a list -/

/-- Whether a text can be an item of a list: it is not empty, has no comma, and no white space at
its ends. -/
structure IsItem (label : String) : Prop where
  nonempty : label ≠ ""
  undivided : ',' ∉ label.toList
  trimmed : IsTrimmed label.toList

/-- Whether an item is a label with white space around it. -/
def Strips (item : List Char) (label : String) : Prop :=
  ∃ before after, item = before ++ label.toList ++ after ∧
    ∀ char ∈ before ++ after, whiteSpace.contains char = true

/-- Whether labels are, in turn, what is left of the items of a text that are not blank.  The items
are the parts of the text between its commas. -/
def Lists (text : String) (labels : List String) : Prop :=
  ∃ items, items ≠ [] ∧ text.toList = [','].intercalate items ∧ (∀ item ∈ items, ',' ∉ item) ∧
    List.Forall₂ Strips (items.filter fun item => !item.all whiteSpace.contains) labels

/-- The label of an item, unless the item is blank. -/
def labelOf? (item : List Char) : Option String :=
  if (trim item).isEmpty then none else some (String.ofList (trim item))

theorem splitList_eq_filterMap (text : String) :
    splitList text = (splitAt ',' text.toList).filterMap labelOf? := by
  rw [splitList, List.filterMap_map]
  rfl

theorem labelOf?_eq_none_iff {item : List Char} :
    labelOf? item = none ↔ item.all whiteSpace.contains = true := by
  rw [List.all_eq_true, ← trim_eq_nil_iff, ← List.isEmpty_iff, labelOf?]
  cases (trim item).isEmpty <;> simp

theorem labelOf?_eq_some_iff {item : List Char} {label : String} :
    labelOf? item = some label ↔ label ≠ "" ∧ label.toList = trim item := by
  rw [labelOf?]
  constructor
  · intro found
    split at found
    · cases found
    · next filled =>
        cases found
        exact ⟨by simpa using filled, String.toList_ofList⟩
  · rintro ⟨nonempty, chars⟩
    rw [← chars, if_neg (by simpa using nonempty), String.ofList_toList]

/-- Each label is what is left of its item. -/
theorem strips_of_labelOf? {item : List Char} {label : String}
    (found : labelOf? item = some label) : Strips item label := by
  rw [Strips, (labelOf?_eq_some_iff.mp found).2]
  exact exists_eq_append_trim item

/-- Items that are not blank give their labels in turn. -/
theorem forall₂_strips (items : List (List Char)) :
    List.Forall₂ Strips (items.filter fun item => !item.all whiteSpace.contains)
      (items.filterMap labelOf?) := by
  induction items with
  | nil => exact .nil
  | cons item rest ih =>
      cases found : labelOf? item with
      | none =>
          have blank := labelOf?_eq_none_iff.mp found
          rw [List.filter_cons_of_neg (by simp [blank]), List.filterMap_cons_none found]
          exact ih
      | some label =>
          have filled : ¬item.all whiteSpace.contains = true := by
            rw [← labelOf?_eq_none_iff, found]
            exact Option.some_ne_none label
          rw [List.filter_cons_of_pos (by simp [filled]), List.filterMap_cons_some found]
          exact .cons (strips_of_labelOf? found) ih

theorem lists_splitList (text : String) : Lists text (splitList text) := by
  refine ⟨splitAt ',' text.toList, ?_, ?_, fun item => not_mem_of_mem_splitAt, ?_⟩
  · rw [splitAt_eq_splitOn]
    exact List.splitOn_ne_nil _ _
  · rw [splitAt_eq_splitOn, List.intercalate_splitOn]
  · rw [splitList_eq_filterMap]
    exact forall₂_strips _

theorem isItem_of_mem_splitList {text label : String} (member : label ∈ splitList text) :
    IsItem label := by
  rw [splitList_eq_filterMap, List.mem_filterMap] at member
  rcases member with ⟨item, part, found⟩
  rcases labelOf?_eq_some_iff.mp found with ⟨nonempty, chars⟩
  rcases strips_of_labelOf? found with ⟨before, after, whole, -⟩
  refine ⟨nonempty, ?_, ?_⟩
  · intro comma
    apply not_mem_of_mem_splitAt part
    rw [whole]
    exact List.mem_append_left _ (List.mem_append_right _ comma)
  · rw [chars]
    exact isTrimmed_trim item

theorem IsItem.labelOf?_eq {label : String} (isItem : IsItem label) :
    labelOf? label.toList = some label :=
  labelOf?_eq_some_iff.mpr ⟨isItem.nonempty, isItem.trimmed.trim_eq.symm⟩

/-- Items that are put together with commas are found again. -/
theorem splitList_intercalate {labels : List String} (items : ∀ label ∈ labels, IsItem label) :
    splitList (String.intercalate "," labels) = labels := by
  cases labels with
  | nil =>
      -- The empty text has one item, which is blank.
      rfl
  | cons first rest =>
      have undivided : ∀ chars ∈ (first :: rest).map String.toList, ',' ∉ chars := by
        rw [List.forall_mem_map]
        exact fun label member => (items label member).undivided
      have divided : splitAt ',' (String.intercalate "," (first :: rest)).toList =
          (first :: rest).map String.toList := by
        rw [String.toList_intercalate, splitAt_eq_splitOn]
        exact List.splitOn_intercalate ',' undivided (List.cons_ne_nil _ _)
      have kept : ∀ label ∈ first :: rest, (labelOf? ∘ String.toList) label = some label :=
        fun label member => (items label member).labelOf?_eq
      rw [splitList_eq_filterMap, divided, List.filterMap_map, List.filterMap_congr kept,
        List.filterMap_some]

/-! ## The labels by the variable -/

/-- The variable that lists the labels to ignore. -/
def ignoredVariable : String := "LOGTRIAGE_DATABASE_IGNORED_STREAM_KEYS"

/-- The labels to ignore with the variables applied. -/
def ignoredLabels (settings : Settings) (environment : Environment) : List String :=
  (settings.override environment).1.database.ignoredLabels

theorem ignoredLabels_of_get? {environment : Environment} {text : String}
    (given : environment.get? ignoredVariable = some text) (settings : Settings) :
    settings.ignoredLabels environment = splitList text := by
  have replaced : settings.ignoredLabels environment =
      ((environment.get? ignoredVariable).map splitList).getD settings.database.ignoredLabels := rfl
  rw [replaced, given]
  rfl

/-- Whatever the text of the variable, the labels are not empty, have no commas and no white space at
their ends.  They are what is left of the items of the text that are not blank, in turn.  Put
together with commas they are read back, and so is every list of such labels, the empty one from the
empty text. -/
theorem ignoredLabels_normal (settings : Settings) {environment : Environment} {text : String}
    (given : environment.get? ignoredVariable = some text) :
    (∀ label ∈ settings.ignoredLabels environment, IsItem label) ∧
      Lists text (settings.ignoredLabels environment) ∧
      (∀ (other : Settings) (again : Environment),
        again.get? ignoredVariable =
            some (String.intercalate "," (settings.ignoredLabels environment)) →
          other.ignoredLabels again = settings.ignoredLabels environment) ∧
      ∀ labels, (∀ label ∈ labels, IsItem label) →
        ∀ (other : Settings) (again : Environment),
          again.get? ignoredVariable = some (String.intercalate "," labels) →
            other.ignoredLabels again = labels := by
  have listed := ignoredLabels_of_get? given settings
  have items : ∀ label ∈ settings.ignoredLabels environment, IsItem label := by
    rw [listed]
    exact fun label => isItem_of_mem_splitList
  have readBack (labels : List String) (items : ∀ label ∈ labels, IsItem label)
      (other : Settings) (again : Environment)
      (joined : again.get? ignoredVariable = some (String.intercalate "," labels)) :
      other.ignoredLabels again = labels := by
    rw [ignoredLabels_of_get? joined, splitList_intercalate items]
  refine ⟨items, ?_, readBack _ items, readBack⟩
  rw [listed]
  exact lists_splitList text

/-- Variables of which one lists labels between blank items and white space of several kinds. -/
def spacedEnvironment : Environment :=
  [("LOGTRIAGE_GENERAL_LOG_LEVEL", "debug"),
    ("LOGTRIAGE_DATABASE_IGNORED_STREAM_KEYS", ",\u2003host ,, my pod\t,\u00a0,")]

theorem ignoredLabels_normal_spaced :
    spacedEnvironment.get? ignoredVariable = some ",\u2003host ,, my pod\t,\u00a0," ∧
      ({} : Settings).ignoredLabels spacedEnvironment = ["host", "my pod"] ∧
      (∀ label ∈ ["host", "my pod"], IsItem label) ∧
      Lists ",\u2003host ,, my pod\t,\u00a0," ["host", "my pod"] ∧
      ({} : Settings).ignoredLabels [(ignoredVariable, "host,my pod")] = ["host", "my pod"] ∧
      ({} : Settings).ignoredLabels [(ignoredVariable, "my pod,host")] = ["my pod", "host"] ∧
      ({} : Settings).ignoredLabels [(ignoredVariable, "")] = [] := by
  have given : spacedEnvironment.get? ignoredVariable =
      some ",\u2003host ,, my pod\t,\u00a0," := by decide
  have labels : ({} : Settings).ignoredLabels spacedEnvironment = ["host", "my pod"] := by
    decide +kernel
  rcases ignoredLabels_normal {} given with ⟨items, lists, again, others⟩
  rw [labels] at items lists again
  have turned : ∀ label ∈ ["my pod", "host"], IsItem label := by
    intro label member
    exact items label (List.mem_reverse.mp member)
  exact ⟨given, labels, items, lists, again {} _ (by decide), others _ turned {} _ (by decide),
    others [] (by simp) {} _ (by decide)⟩

end LogSieve.Settings
