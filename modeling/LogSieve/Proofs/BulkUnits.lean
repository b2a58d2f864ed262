import Mathlib
import LogSieve.Proofs.BulkMatching

/-!
# The units of a bulk matcher

The loop over the enabled rules fills one bucket, and closes it before each rule that cannot be
filed.  What it makes of the rules is said once, by `Lays`: buckets of rules that follow each other,
with single rules between them.  Which rules are where, in which order they stand and how many units
there are comes from that.
-/

namespace LogSieve.Bulk

/-! ## Runs -/

/-- A maximal run of set flags: the flags from `start` up to `stop` are set, and the ones next to
them are not. -/
structure IsRun (flags : List Bool) (start stop : Nat) : Prop where
  nonempty : start < stop
  inside : ∀ index, start ≤ index → index < stop → flags[index]? = some true
  before : ∀ index, index + 1 = start → flags[index]? ≠ some true
  after : flags[stop]? ≠ some true

/-- The maximal runs of set flags. -/
def runs (flags : List Bool) : Set (Nat × Nat) := {run | IsRun flags run.1 run.2}

variable {flags rest : List Bool}

theorem IsRun.stop_le {start stop : Nat} (run : IsRun flags start stop) : stop ≤ flags.length := by
  have nonempty := run.nonempty
  have last := run.inside (stop - 1) (by omega) (by omega)
  have bound := (List.getElem?_eq_some_iff.mp last).1
  omega

theorem finite_runs (flags : List Bool) : (runs flags).Finite := by
  apply ((Set.finite_Iio flags.length).prod (Set.finite_Iic flags.length)).subset
  intro run isRun
  exact ⟨isRun.nonempty.trans_le isRun.stop_le, isRun.stop_le⟩

theorem runs_nil : runs [] = ∅ := by
  apply Set.eq_empty_of_forall_notMem
  intro run isRun
  have set := isRun.inside run.1 le_rfl isRun.nonempty
  cases set

theorem runs_replicate_true {amount : Nat} (positive : 0 < amount) :
    runs (List.replicate amount true) = {(0, amount)} := by
  have set (index : Nat) : (List.replicate amount true)[index]? = some true ↔ index < amount := by
    simp [List.getElem?_replicate]
  ext ⟨start, stop⟩
  constructor
  · intro run
    have nonempty : start < stop := run.nonempty
    have bound : stop ≤ amount := run.stop_le.trans_eq (List.length_replicate ..)
    have first : start = 0 := by
      by_contra later
      apply run.before (start - 1) (by omega)
      exact (set _).mpr (by omega)
    have last : stop = amount := by
      by_contra sooner
      exact run.after ((set _).mpr (by omega))
    rw [first, last]
    rfl
  · intro whole
    cases whole
    refine ⟨positive, ?_, ?_, ?_⟩
    · intro index _ inside
      exact (set index).mpr inside
    · intro index impossible
      cases impossible
    · exact (set amount).not.mpr (lt_irrefl amount)

/-- Whether there is a run depends on the flags up to its end only. -/
theorem IsRun.congr {others : List Bool} {start stop : Nat} (run : IsRun flags start stop)
    (same : ∀ index ≤ stop, others[index]? = some true ↔ flags[index]? = some true) :
    IsRun others start stop where
  nonempty := run.nonempty
  inside index behind inside := (same index inside.le).mpr (run.inside index behind inside)
  before index next := by
    have bound : index ≤ stop := by
      have := run.nonempty
      omega
    exact (same index bound).not.mpr (run.before index next)
  after := (same stop le_rfl).not.mpr run.after

theorem isRun_append_false_of_le {start stop : Nat} (bound : stop ≤ flags.length) :
    IsRun (flags ++ false :: rest) start stop ↔ IsRun flags start stop := by
  have same : ∀ index ≤ stop,
      (flags ++ false :: rest)[index]? = some true ↔ flags[index]? = some true := by
    intro index within
    rcases Nat.lt_or_eq_of_le (within.trans bound) with inside | rfl
    · rw [List.getElem?_append_left inside]
    · simp
  constructor
  · intro run
    exact run.congr fun index within => (same index within).symm
  · intro run
    exact run.congr same

theorem isRun_append_false_add {start stop : Nat} :
    IsRun (flags ++ false :: rest) (flags.length + 1 + start) (flags.length + 1 + stop) ↔
      IsRun rest start stop := by
  have later (index : Nat) :
      (flags ++ false :: rest)[flags.length + 1 + index]? = rest[index]? := by
    rw [List.getElem?_append_right (by omega),
      show flags.length + 1 + index - flags.length = index + 1 by omega, List.getElem?_cons_succ]
  constructor
  · intro run
    have nonempty := run.nonempty
    refine ⟨by omega, ?_, ?_, ?_⟩
    · intro index behind inside
      rw [← later]
      exact run.inside _ (by omega) (by omega)
    · intro index next
      rw [← later]
      exact run.before _ (by omega)
    · rw [← later]
      exact run.after
  · intro run
    have nonempty := run.nonempty
    refine ⟨by omega, ?_, ?_, ?_⟩
    · intro index behind inside
      obtain ⟨shifted, rfl⟩ := Nat.exists_eq_add_of_le (show flags.length + 1 ≤ index by omega)
      rw [later]
      exact run.inside _ (by omega) (by omega)
    · intro index next
      cases start with
      | zero =>
          -- The flag before the first one of the rest is the one that is not set.
          obtain rfl : index = flags.length := by omega
          simp
      | succ start =>
          obtain rfl : index = flags.length + 1 + start := by omega
          rw [later]
          exact run.before start rfl
    · rw [later]
      exact run.after

/-- A flag that is not set divides the runs. -/
theorem runs_append_false (flags rest : List Bool) :
    runs (flags ++ false :: rest) =
      runs flags ∪ Prod.map (flags.length + 1 + ·) (flags.length + 1 + ·) '' runs rest := by
  ext ⟨start, stop⟩
  constructor
  · intro run
    have outside : stop ≤ flags.length ∨ flags.length < start := by
      by_contra across
      have set := run.inside flags.length (by omega) (by omega)
      simp at set
    cases outside with
    | inl bound => exact .inl ((isRun_append_false_of_le bound).mp run)
    | inr behind =>
        have further : flags.length < stop := behind.trans run.nonempty
        obtain ⟨first, rfl⟩ := Nat.exists_eq_add_of_le (Nat.succ_le_of_lt behind)
        obtain ⟨last, rfl⟩ := Nat.exists_eq_add_of_le (Nat.succ_le_of_lt further)
        exact .inr ⟨(first, last), isRun_append_false_add.mp run, rfl⟩
  · rintro (run | ⟨⟨first, last⟩, run, moved⟩)
    · exact (isRun_append_false_of_le run.stop_le).mpr run
    · cases moved
      exact isRun_append_false_add.mpr run

theorem ncard_runs_append_false (flags rest : List Bool) :
    (runs (flags ++ false :: rest)).ncard = (runs flags).ncard + (runs rest).ncard := by
  have shift : Function.Injective
      (Prod.map (flags.length + 1 + ·) (flags.length + 1 + ·) : Nat × Nat → Nat × Nat) :=
    (add_right_injective _).prodMap (add_right_injective _)
  have apart : Disjoint (runs flags)
      (Prod.map (flags.length + 1 + ·) (flags.length + 1 + ·) '' runs rest) := by
    rw [Set.disjoint_left]
    rintro _ early ⟨late, isRun, rfl⟩
    have bound := IsRun.stop_le early
    simp only [Prod.map_snd] at bound
    omega
  rw [runs_append_false, Set.ncard_union_eq apart (finite_runs _) ((finite_runs _).image _),
    Set.ncard_image_of_injective _ shift]

/-! ## Filing -/

/-- What is filed in a bucket: the values with their positions. -/
def listed (bucket : List (String × List Nat)) : List (String × Nat) :=
  bucket.flatMap fun entry => entry.2.map (entry.1, ·)

/-- The bucket of some filings: it has every value once, and under it what was filed under it, in
turn. -/
structure Buckets (filings : List (String × Nat)) (bucket : List (String × List Nat)) : Prop where
  distinct : (bucket.map (·.1)).Nodup
  perm : (listed bucket).Perm filings
  filled : ∀ entry ∈ bucket, entry.2 ≠ []
  ordered : ∀ entry ∈ bucket, entry.2.Sublist (filings.map (·.2))

variable {filings : List (String × Nat)} {bucket entries : List (String × List Nat)}

theorem listed_file_perm (value : String) (position : Nat) (bucket : List (String × List Nat)) :
    (listed (file value position bucket)).Perm (listed bucket ++ [(value, position)]) := by
  induction bucket with
  | nil => exact .refl _
  | cons entry rest ih =>
      obtain ⟨other, positions⟩ := entry
      rw [file]
      split
      · next same =>
          subst same
          simp only [listed, List.flatMap_cons, List.map_append, List.append_assoc]
          exact List.perm_append_comm.append_left _
      · simp only [listed, List.flatMap_cons, List.append_assoc]
        exact ih.append_left _

theorem buckets_nil : Buckets [] [] where
  distinct := .nil
  perm := .refl _
  filled _ member := absurd member List.not_mem_nil
  ordered _ member := absurd member List.not_mem_nil

/-- One more position is filed. -/
theorem Buckets.file (buckets : Buckets filings bucket) (value : String) (position : Nat) :
    Buckets (filings ++ [(value, position)]) (file value position bucket) := by
  have cases {entry : String × List Nat} (member : entry ∈ Bulk.file value position bucket) :
      entry ∈ bucket ∨ (∃ old ∈ bucket, entry.2 = old.2 ++ [position]) ∨ entry.2 = [position] := by
    rw [file_eq_upsert] at member
    rcases mem_upsert buckets.distinct member with
      ⟨kept, -⟩ | ⟨old, known, -, rfl⟩ | ⟨-, rfl⟩
    · exact .inl kept
    · exact .inr (.inl ⟨old, known, rfl⟩)
    · exact .inr (.inr rfl)
  constructor
  · rw [file_eq_upsert]
    apply nodup_keys_upsert
    · intro entry same
      exact same
    · rfl
    · exact buckets.distinct
  · exact (listed_file_perm value position bucket).trans (buckets.perm.append_right _)
  · intro entry member
    rcases cases member with kept | ⟨old, -, changed⟩ | new
    · exact buckets.filled entry kept
    · rw [changed]
      exact List.concat_ne_nil _ _
    · rw [new]
      exact List.cons_ne_nil _ _
  · intro entry member
    rw [List.map_append]
    rcases cases member with kept | ⟨old, known, changed⟩ | new
    · exact (buckets.ordered entry kept).trans (List.sublist_append_left _ _)
    · rw [changed]
      exact (buckets.ordered old known).append (.refl _)
    · rw [new]
      exact List.sublist_append_right _ _

theorem Buckets.eq_nil_iff (buckets : Buckets filings bucket) : bucket = [] ↔ filings = [] := by
  constructor
  · rintro rfl
    exact buckets.perm.symm.eq_nil
  · rintro rfl
    apply List.eq_nil_iff_forall_not_mem.mpr
    intro entry member
    exact buckets.filled entry member (List.sublist_nil.mp (buckets.ordered entry member))

/-! ## Units -/

/-- Whether a unit is a bucket. -/
def Unit.isBucket : Unit → Bool
  | .bucket _ => true
  | .single _ => false

@[simp] theorem Unit.isBucket_bucket (entries : List (String × List Nat)) :
    (Unit.bucket entries).isBucket = true := rfl

@[simp] theorem Unit.isBucket_single (position : Nat) :
    (Unit.single position).isBucket = false := rfl

/-- The positions in a unit. -/
def Unit.positions : Unit → List Nat
  | .bucket entries => entries.flatMap (·.2)
  | .single position => [position]

/-- Filings as marked positions. -/
def filedMarks (filings : List (String × Nat)) : List (Option String × Nat) :=
  filings.map fun filing => (some filing.1, filing.2)

@[simp] theorem map_snd_filedMarks (filings : List (String × Nat)) :
    (filedMarks filings).map (·.2) = filings.map (·.2) := by
  simp [filedMarks]

@[simp] theorem countP_isNone_filedMarks (filings : List (String × Nat)) :
    (filedMarks filings).countP (·.1.isNone) = 0 := by
  simp [filedMarks]

@[simp] theorem countP_isSome_filedMarks (filings : List (String × Nat)) :
    (filedMarks filings).countP (·.1.isSome) = filings.length := by
  simp [filedMarks, List.countP_map, Function.comp_def]

@[simp] theorem map_isSome_filedMarks (filings : List (String × Nat)) :
    (filedMarks filings).map (·.1.isSome) = List.replicate filings.length true := by
  simp [filedMarks, Function.comp_def]

/-- The positions in a unit, each with the value under which it is filed, if under any. -/
def Unit.marks : Unit → List (Option String × Nat)
  | .bucket entries => filedMarks (listed entries)
  | .single position => [(none, position)]

/-- How the loop arranges marked positions in units: positions with values that follow each other
are one bucket, and a position without a value stands alone. -/
inductive Lays : List (Option String × Nat) → List Unit → Prop where
  | last {filings : List (String × Nat)} {bucket : List (String × List Nat)} :
      Buckets filings bucket → Lays (filedMarks filings) (closeBucket bucket)
  | single {filings : List (String × Nat)} {bucket : List (String × List Nat)} {position : Nat}
      {marks : List (Option String × Nat)} {units : List Unit} :
      Buckets filings bucket → Lays marks units →
      Lays (filedMarks filings ++ (none, position) :: marks)
        (closeBucket bucket ++ .single position :: units)

/-- The enabled rules in their order: the value under which each is filed, if under any, and its
position. -/
def marks (field : Option String) (numbered : List (Rule × Nat)) : List (Option String × Nat) :=
  (numbered.filter fun entry => !entry.1.disabled).map fun entry =>
    (field.bind (splitValue? · entry.1), entry.2)

/-- The loop with a bucket that is being filled: the filings of that bucket come first. -/
theorem lays_buildUnits (buckets : Buckets filings bucket) (field : Option String)
    (numbered : List (Rule × Nat)) :
    Lays (filedMarks filings ++ marks field numbered)
      (buildUnits field bucket numbered) := by
  -- The bucket stands for the rules already filed, so it varies along the rules still to come.
  induction numbered generalizing filings bucket with
  | nil =>
      rw [marks, List.filter_nil, List.map_nil, List.append_nil]
      exact .last buckets
  | cons entry rest ih =>
      obtain ⟨rule, position⟩ := entry
      rw [buildUnits]
      cases disabled : rule.disabled with
      | true =>
          have skipped : marks field ((rule, position) :: rest) = marks field rest := by
            simp [marks, disabled]
          rw [skipped]
          exact ih buckets
      | false =>
          have marked : marks field ((rule, position) :: rest) =
              (field.bind (splitValue? · rule), position) :: marks field rest := by
            simp [marks, disabled]
          rw [marked]
          cases field.bind (splitValue? · rule) with
          | none => exact .single buckets (ih buckets_nil)
          | some value =>
              have next := ih (buckets.file value position)
              rwa [filedMarks, List.map_append, List.append_assoc] at next

variable {marked : List (Option String × Nat)} {units : List Unit}

@[simp] theorem Unit.map_marks (unit : Unit) : unit.marks.map (·.2) = unit.positions := by
  cases unit with
  | single position => rfl
  | bucket entries => simp [marks, positions, listed, List.map_flatMap, Function.comp_def]

theorem mem_closeBucket {unit : Unit} :
    unit ∈ closeBucket bucket ↔ bucket ≠ [] ∧ unit = .bucket bucket := by
  cases bucket with
  | nil => simp [closeBucket]
  | cons entry rest => simp [closeBucket]

theorem flatMap_marks_closeBucket (bucket : List (String × List Nat)) :
    (closeBucket bucket).flatMap Unit.marks = filedMarks (listed bucket) := by
  cases bucket with
  | nil => rfl
  | cons entry rest => simp [closeBucket, Unit.marks]

/-- The units hold each marked position once, and under its value. -/
theorem Lays.perm (lays : Lays marked units) : (units.flatMap Unit.marks).Perm marked := by
  induction lays with
  | last buckets =>
      rw [flatMap_marks_closeBucket]
      exact buckets.perm.map _
  | single buckets _ ih =>
      rw [List.flatMap_append, List.flatMap_cons, flatMap_marks_closeBucket]
      exact (buckets.perm.map _).append (ih.cons _)

theorem Lays.positions_perm (lays : Lays marked units) :
    (units.flatMap Unit.positions).Perm (marked.map (·.2)) := by
  have moved := lays.perm.map (·.2)
  rwa [List.map_flatMap, funext Unit.map_marks] at moved

theorem Lays.mem_of_mem_positions (lays : Lays marked units) {unit : Unit} (member : unit ∈ units)
    {position : Nat} (within : position ∈ unit.positions) : position ∈ marked.map (·.2) :=
  lays.positions_perm.mem_iff.mp (List.mem_flatMap.mpr ⟨unit, member, within⟩)

theorem pairwise_closeBucket {related : Unit → Unit → Prop} :
    (closeBucket bucket).Pairwise related := by
  cases bucket with
  | nil => exact .nil
  | cons entry rest => exact List.pairwise_singleton _ _

/-- No two buckets are next to each other. -/
theorem Lays.isChain (lays : Lays marked units) :
    units.IsChain fun first second => ¬(first.isBucket ∧ second.isBucket) := by
  induction lays with
  | last => exact pairwise_closeBucket.isChain
  | single _ _ ih =>
      rw [List.isChain_append, List.isChain_cons]
      refine ⟨pairwise_closeBucket.isChain, ⟨?_, ih⟩, ?_⟩
      · intro next _ both
        cases both.1
      · intro last _ next first both
        cases first
        cases both.2

/-- The positions of a unit come before those of a later one. -/
theorem Lays.pairwise (lays : Lays marked units)
    (increasing : (marked.map (·.2)).Pairwise (· < ·)) :
    units.Pairwise fun first second =>
      ∀ early ∈ first.positions, ∀ late ∈ second.positions, early < late := by
  induction lays with
  | last => exact pairwise_closeBucket
  | @single _ _ position _ _ buckets lays ih =>
      rw [List.map_append, List.map_cons, List.pairwise_append, List.pairwise_cons] at increasing
      rcases increasing with ⟨-, ⟨behind, later⟩, ahead⟩
      rw [List.pairwise_append, List.pairwise_cons]
      refine ⟨pairwise_closeBucket, ⟨?_, ih later⟩, ?_⟩
      · intro unit member early here late within
        cases List.mem_singleton.mp here
        exact behind late (lays.mem_of_mem_positions member within)
      · intro closed member unit follows early inside late within
        have filed := (Lays.last buckets).mem_of_mem_positions member inside
        apply ahead early filed late
        cases List.mem_cons.mp follows with
        | inl alone =>
            subst alone
            cases List.mem_singleton.mp within
            exact List.mem_cons_self
        | inr among => exact List.mem_cons_of_mem _ (lays.mem_of_mem_positions among within)

/-- A bucket is not empty, and comes of filings in the order of the marked positions. -/
theorem Lays.exists_of_bucket_mem (lays : Lays marked units) (member : .bucket entries ∈ units) :
    entries ≠ [] ∧ ∃ filings, Buckets filings entries ∧
      (filings.map (·.2)).Sublist (marked.map (·.2)) := by
  induction lays with
  | @last filings _ buckets =>
      rcases mem_closeBucket.mp member with ⟨filled, same⟩
      cases same
      exact ⟨filled, filings, buckets, by simp⟩
  | @single filings _ position marked units buckets _ ih =>
      rcases List.mem_append.mp member with closed | follows
      · rcases mem_closeBucket.mp closed with ⟨filled, same⟩
        cases same
        exact ⟨filled, filings, buckets, by simp⟩
      · cases List.mem_cons.mp follows with
        | inl alone => cases alone
        | inr among =>
            rcases ih among with ⟨filled, filings, buckets, sublist⟩
            refine ⟨filled, filings, buckets, sublist.trans ?_⟩
            exact ((List.sublist_cons_self _ _).trans (List.sublist_append_right _ _)).map _

theorem Buckets.length_closeBucket (buckets : Buckets filings bucket) :
    (closeBucket bucket).length = (runs (List.replicate filings.length true)).ncard := by
  cases bucket with
  | nil =>
      rw [buckets.eq_nil_iff.mp rfl, List.length_nil, List.replicate_zero, runs_nil,
        Set.ncard_empty]
      rfl
  | cons entry rest =>
      have filled : filings ≠ [] := buckets.eq_nil_iff.not.mp (List.cons_ne_nil _ _)
      rw [runs_replicate_true (List.length_pos_iff.mpr filled), Set.ncard_singleton]
      rfl

/-- There are as many units as single positions and runs of positions with values. -/
theorem Lays.length_eq (lays : Lays marked units) :
    units.length = marked.countP (·.1.isNone) + (runs (marked.map (·.1.isSome))).ncard := by
  induction lays with
  | last buckets =>
      rw [buckets.length_closeBucket, map_isSome_filedMarks, countP_isNone_filedMarks, Nat.zero_add]
  | single buckets _ ih =>
      rw [List.length_append, List.length_cons, buckets.length_closeBucket, ih, List.map_append,
        List.map_cons, map_isSome_filedMarks, Option.isSome_none, ncard_runs_append_false,
        List.countP_append, countP_isNone_filedMarks, List.countP_cons_of_pos rfl]
      omega

/-- As many positions are in buckets as have values. -/
theorem length_filter_isBucket (units : List Unit) :
    ((units.filter Unit.isBucket).flatMap Unit.positions).length =
      (units.flatMap Unit.marks).countP (·.1.isSome) := by
  induction units with
  | nil => rfl
  | cons unit rest ih =>
      rw [List.flatMap_cons, List.countP_append, ← ih]
      cases unit with
      | single position => simp [Unit.marks]
      | bucket entries =>
          have all : (Unit.bucket entries).marks.countP (·.1.isSome) =
              (Unit.bucket entries).positions.length := by
            rw [← Unit.map_marks, List.length_map, Unit.marks, countP_isSome_filedMarks,
              filedMarks, List.length_map]
          rw [List.filter_cons_of_pos rfl, List.flatMap_cons, List.length_append, all]

/-- As many units are single positions as positions have no value. -/
theorem countP_not_isBucket (units : List Unit) :
    units.countP (!·.isBucket) = (units.flatMap Unit.marks).countP (·.1.isNone) := by
  induction units with
  | nil => rfl
  | cons unit rest ih =>
      rw [List.flatMap_cons, List.countP_append, ← ih]
      cases unit with
      | single position => simp [Unit.marks, Nat.add_comm]
      | bucket entries => simp [Unit.marks]

theorem mem_flatMap_marks_some {value : String} {position : Nat} :
    (some value, position) ∈ units.flatMap Unit.marks ↔
      ∃ entries positions, .bucket entries ∈ units ∧ (value, positions) ∈ entries ∧
        position ∈ positions := by
  rw [List.mem_flatMap]
  constructor
  · rintro ⟨unit, member, marked⟩
    cases unit with
    | single alone => simp [Unit.marks] at marked
    | bucket entries =>
        simp only [Unit.marks, filedMarks, listed, List.mem_map, List.mem_flatMap] at marked
        rcases marked with ⟨_, ⟨⟨_, positions⟩, entry, _, within, rfl⟩, same⟩
        cases same
        exact ⟨entries, positions, member, entry, within⟩
  · rintro ⟨entries, positions, member, entry, within⟩
    refine ⟨.bucket entries, member, ?_⟩
    simp only [Unit.marks, filedMarks, listed, List.mem_map, List.mem_flatMap]
    exact ⟨(value, position), ⟨(value, positions), entry, position, within, rfl⟩, rfl⟩

theorem mem_flatMap_marks_none {position : Nat} :
    (none, position) ∈ units.flatMap Unit.marks ↔ .single position ∈ units := by
  rw [List.mem_flatMap]
  constructor
  · rintro ⟨unit, member, marked⟩
    cases unit with
    | single alone =>
        cases List.mem_singleton.mp marked
        exact member
    | bucket entries => simp [Unit.marks, filedMarks] at marked
  · intro member
    exact ⟨.single position, member, List.mem_singleton.mpr rfl⟩

/-! ## The rules in the units -/

variable {rules : List Rule} {field : Option String}

/-- Whether a matcher asks for equality with the value of a field, and is no placeholder. -/
def IsExactOn (field : String) (matcher : Matcher) : Prop :=
  matcher.operator = .equal ∧ matcher.isPlaceholder = false ∧ matcher.field = field

instance (field : String) (matcher : Matcher) : Decidable (IsExactOn field matcher) :=
  inferInstanceAs (Decidable (_ ∧ _ ∧ _))

theorem isExact_and_beq_iff {field : String} {matcher : Matcher} :
    (matcher.isExact && matcher.field == field) = true ↔ IsExactOn field matcher := by
  simp [Matcher.isExact, IsExactOn, and_assoc]

/-- Whether the first of the exact matchers of a rule on a field asks for a value. -/
def AsksFirst (rule : Rule) (field value : String) : Prop :=
  ∃ earlier matcher later, rule.matchers = earlier ++ matcher :: later ∧
    IsExactOn field matcher ∧ matcher.value = value ∧ ∀ other ∈ earlier, ¬IsExactOn field other

theorem splitValue?_eq_some_iff {rule : Rule} {field value : String} :
    splitValue? field rule = some value ↔ AsksFirst rule field value := by
  simp only [splitValue?, Option.map_eq_some_iff, List.find?_eq_some_iff_append, AsksFirst,
    Bool.not_eq_true', ← Bool.not_eq_true, isExact_and_beq_iff]
  constructor
  · rintro ⟨matcher, ⟨exact, earlier, later, split, others⟩, rfl⟩
    exact ⟨earlier, matcher, later, split, exact, rfl, others⟩
  · rintro ⟨earlier, matcher, later, split, exact, rfl, others⟩
    exact ⟨matcher, ⟨exact, earlier, later, split, others⟩, rfl⟩

theorem bind_splitValue?_eq_none_iff {rule : Rule} :
    field.bind (splitValue? · rule) = none ↔
      ∀ name, field = some name → ∀ value, ¬AsksFirst rule name value := by
  cases field with
  | none => simp
  | some name => simp [← splitValue?_eq_some_iff, Option.eq_none_iff_forall_ne_some]

/-- Whether a rule has an exact matcher on the split field. -/
def isFast (field : Option String) (rule : Rule) : Bool :=
  field.any fun name => rule.matchers.any fun matcher => IsExactOn name matcher

theorem isSome_bind_splitValue? (field : Option String) (rule : Rule) :
    (field.bind (splitValue? · rule)).isSome = isFast field rule := by
  cases field with
  | none => rfl
  | some name =>
      rw [Bool.eq_iff_iff]
      simp only [Option.bind_some, splitValue?, Option.isSome_map, List.find?_isSome,
        isExact_and_beq_iff, isFast, Option.any_some, List.any_eq_true, decide_eq_true_eq]

theorem mem_marks_iff {key : Option String} {position : Nat} :
    (key, position) ∈ marks field rules.zipIdx ↔
      ∃ rule, rules[position]? = some rule ∧ rule.disabled = false ∧
        field.bind (splitValue? · rule) = key := by
  simp only [marks, List.mem_map, List.mem_filter, Prod.exists, List.mem_zipIdx_iff_getElem?,
    Prod.mk.injEq, Bool.not_eq_true']
  constructor
  · rintro ⟨rule, _, ⟨stands, enabled⟩, filed, rfl⟩
    exact ⟨rule, stands, enabled, filed⟩
  · rintro ⟨rule, stands, enabled, filed⟩
    exact ⟨rule, position, ⟨stands, enabled⟩, filed, rfl⟩

theorem mem_map_snd_marks {position : Nat} :
    position ∈ (marks field rules.zipIdx).map (·.2) ↔
      (rules[position]?).any (!·.disabled) = true := by
  rw [List.mem_map, Option.any_eq_true]
  constructor
  · rintro ⟨⟨key, _⟩, marked, rfl⟩
    rcases mem_marks_iff.mp marked with ⟨rule, stands, enabled, -⟩
    exact ⟨rule, stands, by rw [enabled, Bool.not_false]⟩
  · rintro ⟨rule, stands, enabled⟩
    rw [Bool.not_eq_true'] at enabled
    exact ⟨(_, position), mem_marks_iff.mpr ⟨rule, stands, enabled, rfl⟩, rfl⟩

theorem map_fst_marks (field : Option String) (rules : List Rule) :
    (marks field rules.zipIdx).map (·.1) =
      (rules.filter (!·.disabled)).map fun rule => field.bind (splitValue? · rule) := by
  conv_rhs => rw [← List.zipIdx_map_fst 0 rules]
  simp only [marks, List.filter_map, List.map_map]
  rfl

theorem pairwise_map_snd_marks (field : Option String) (rules : List Rule) :
    ((marks field rules.zipIdx).map (·.2)).Pairwise (· < ·) := by
  have sublist : ((marks field rules.zipIdx).map (·.2)).Sublist (rules.zipIdx.map (·.2)) := by
    rw [marks, List.map_map]
    exact List.filter_sublist.map _
  apply List.Pairwise.sublist sublist
  rw [List.zipIdx_map_snd]
  exact List.pairwise_lt_range'

/-- Where a bulk matcher has the rules of a list.  Rules are told by their positions, so that equal
rules are not confused. -/
structure Arranges (bulk : Bulk) (rules : List Rule) : Prop where
  field_eq : bulk.splitField = splitField? rules
  /-- Each enabled rule is in the units once, and no disabled one is. -/
  once : ∀ position, (bulk.units.flatMap Unit.positions).count position =
    if (rules[position]?).any (!·.disabled) then 1 else 0
  /-- The rules in buckets, with the values under which they are. -/
  in_bucket_iff : ∀ position value,
    (∃ entries positions, .bucket entries ∈ bulk.units ∧ (value, positions) ∈ entries ∧
        position ∈ positions) ↔
      ∃ rule field, rules[position]? = some rule ∧ rule.disabled = false ∧
        bulk.splitField = some field ∧ AsksFirst rule field value
  /-- The rules that stand alone. -/
  single_iff : ∀ position, .single position ∈ bulk.units ↔
    ∃ rule, rules[position]? = some rule ∧ rule.disabled = false ∧
      ∀ field, bulk.splitField = some field → ∀ value, ¬AsksFirst rule field value
  /-- A bucket is not empty; it has every value once, and the rules under it in their order. -/
  bucket : ∀ entries, .bucket entries ∈ bulk.units →
    entries ≠ [] ∧ (entries.map (·.1)).Nodup ∧
      ∀ entry ∈ entries, entry.2 ≠ [] ∧ entry.2.Pairwise (· < ·)
  /-- No two buckets are next to each other. -/
  apart : bulk.units.IsChain fun first second => ¬(first.isBucket ∧ second.isBucket)
  /-- The rules of a unit come before those of a later one. -/
  ordered : bulk.units.Pairwise fun first second =>
    ∀ early ∈ first.positions, ∀ late ∈ second.positions, early < late
  /-- The fast rules are those in buckets, the slow ones those that stand alone. -/
  fast_eq : bulk.fastRules = ((bulk.units.filter Unit.isBucket).flatMap Unit.positions).length
  slow_eq : bulk.slowRules = bulk.units.countP (!·.isBucket)
  fast_add_slow : bulk.fastRules + bulk.slowRules = rules.countP (!·.disabled)
  /-- The units are the single rules and the runs of rules that are filed. -/
  length_eq : bulk.units.length = bulk.slowRules +
    (runs ((rules.filter (!·.disabled)).map (isFast bulk.splitField))).ncard

/-- What the whole loop makes of a list of rules. -/
theorem lays_build (rules : List Rule) :
    Lays (marks (splitField? rules) rules.zipIdx) (build rules).units :=
  lays_buildUnits buckets_nil (splitField? rules) rules.zipIdx

theorem countP_marks (test : Option String → Bool) (field : Option String) (rules : List Rule) :
    (marks field rules.zipIdx).countP (test ·.1) =
      (rules.filter (!·.disabled)).countP fun rule => test (field.bind (splitValue? · rule)) := by
  have moved : ((marks field rules.zipIdx).map (·.1)).countP test = _ := List.countP_map
  rw [map_fst_marks, List.countP_map] at moved
  exact moved.symm

theorem fastRules_build (rules : List Rule) :
    (build rules).fastRules = (marks (splitField? rules) rules.zipIdx).countP (·.1.isSome) :=
  (countP_marks Option.isSome _ _).symm

theorem slowRules_build (rules : List Rule) :
    (build rules).slowRules = (marks (splitField? rules) rules.zipIdx).countP (·.1.isNone) := by
  rw [countP_marks Option.isNone]
  simp [build]

theorem map_isSome_marks (field : Option String) (rules : List Rule) :
    (marks field rules.zipIdx).map (·.1.isSome) =
      (rules.filter (!·.disabled)).map (isFast field) := by
  have moved : ((marks field rules.zipIdx).map (·.1)).map Option.isSome = _ := List.map_map
  rw [map_fst_marks, List.map_map] at moved
  rw [← funext (isSome_bind_splitValue? field)]
  exact moved.symm

/-- The bulk matcher of a list arranges its rules: each enabled one once, in a bucket under the value
of its first exact matcher on the split field if it has one and else alone, with the order of the
list between the units and under each value, and with as few buckets as the slow rules allow. -/
theorem arranges_build (rules : List Rule) : (build rules).Arranges rules := by
  have lays := lays_build rules
  have increasing := pairwise_map_snd_marks (splitField? rules) rules
  constructor
  · rfl
  · intro position
    have distinct : ((marks (splitField? rules) rules.zipIdx).map (·.2)).Nodup :=
      increasing.imp Nat.ne_of_lt
    rw [lays.positions_perm.count_eq, distinct.count]
    simp only [mem_map_snd_marks]
  · intro position value
    rw [← mem_flatMap_marks_some, lays.perm.mem_iff, mem_marks_iff]
    simp only [Option.bind_eq_some_iff, splitValue?_eq_some_iff, exists_and_left]
    rfl
  · intro position
    rw [← mem_flatMap_marks_none, lays.perm.mem_iff, mem_marks_iff]
    simp only [bind_splitValue?_eq_none_iff]
    rfl
  · intro entries member
    rcases lays.exists_of_bucket_mem member with ⟨filled, filings, buckets, sublist⟩
    refine ⟨filled, buckets.distinct, ?_⟩
    intro entry listed
    refine ⟨buckets.filled entry listed, ?_⟩
    exact increasing.sublist ((buckets.ordered entry listed).trans sublist)
  · exact lays.isChain
  · exact lays.pairwise increasing
  · rw [fastRules_build, length_filter_isBucket, lays.perm.countP_eq]
  · rw [slowRules_build, countP_not_isBucket, lays.perm.countP_eq]
  · rw [List.countP_eq_length_filter, List.length_eq_countP_add_countP (isFast (splitField? rules))]
    simp [build, isSome_bind_splitValue?]
  · rw [slowRules_build, lays.length_eq, map_isSome_marks]
    rfl

example : (build [{ matchers := [.equal "source" "cron", .equal "message" "x"] },
      { matchers := [.regex "message" "y"] }, { disabled := true },
      { matchers := [.equal "source" "web"] }, { matchers := [.equal "source" "cron"] }]).units =
    [.bucket [("cron", [0])], .single 1, .bucket [("web", [3]), ("cron", [4])]] := by
  decide

end LogSieve.Bulk
