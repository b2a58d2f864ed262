import Mathlib
import LogSieve.Proofs.SummaryOrder

/-!
# The rules of one entry

A summary counts rules by a text: the sign of an operator and the operand right behind it.  The sign
for equality begins the sign for patterns, so an operand that starts with the rest of that sign
reads as a pattern.  Apart from such pairs the text tells operator and operand, and an entry counts
the rules that ask for one source in one way.
-/

namespace LogSieve

/-- Whether operator and operand of two matchers read as one text: they are the same, or one asks
for equality with what the other has as a pattern, behind the end of its sign. -/
def Matcher.readsLike (first second : Matcher) : Bool :=
  (first.operator == second.operator && first.value == second.value) ||
    (first.operator == .equal && second.operator == .regex &&
      first.value == "~" ++ second.value) ||
    (first.operator == .regex && second.operator == .equal &&
      second.value == "~" ++ first.value)

/-- The texts of two matchers are one exactly if they read alike. -/
theorem Matcher.sign_append_eq_iff {first second : Matcher}
    (supported : first.operator ≠ .unsupported) (supportedOther : second.operator ≠ .unsupported) :
    first.operator.sign ++ first.value = second.operator.sign ++ second.value ↔
      first.readsLike second = true := by
  have signs : Operator.sign .regex = Operator.sign .equal ++ "~" := rfl
  rw [readsLike]
  cases operator : first.operator with
  | unsupported => exact absurd operator supported
  | equal =>
      cases other : second.operator with
      | unsupported => exact absurd other supportedOther
      | equal => simp
      | regex =>
          rw [signs, String.append_assoc, String.append_right_inj]
          simp
  | regex =>
      cases other : second.operator with
      | unsupported => exact absurd other supportedOther
      | equal =>
          rw [signs, String.append_assoc, String.append_right_inj, eq_comm]
          simp
      | regex => simp

namespace Rule

/-- The first matcher on the source. -/
def source? (rule : Rule) : Option Matcher := rule.matchers.find? (·.field == sourceField)

/-- Whether two rules ask for the source alike: neither asks for it, or what they ask for reads
alike. -/
def sharesSource (first second : Rule) : Bool :=
  match first.source?, second.source? with
  | none, none => true
  | some matcher, some other => matcher.readsLike other
  | _, _ => false

/-- Every matcher has an operator in use. -/
def Supported (rule : Rule) : Prop :=
  ∀ matcher ∈ rule.matchers, matcher.operator ≠ .unsupported

theorem Supported.source? {rule : Rule} (supported : rule.Supported) {matcher : Matcher}
    (found : rule.source? = some matcher) : matcher.operator ≠ .unsupported :=
  supported matcher (List.mem_of_find?_eq_some found)

/-- A sign is never empty. -/
theorem sign_append_ne_empty (operator : Operator) (value : String) :
    operator.sign ++ value ≠ "" := by
  rw [ne_eq, String.append_eq_empty_iff]
  intro empty
  cases operator with
  | equal => exact absurd empty.1 (by decide)
  | regex => exact absurd empty.1 (by decide)
  | unsupported => exact absurd empty.1 (by decide)

theorem sourceText_of_some {rule : Rule} {matcher : Matcher}
    (found : rule.source? = some matcher) :
    rule.sourceText = matcher.operator.sign ++ matcher.value := by
  rw [source?] at found
  simp only [sourceText, found]

theorem sourceText_of_none {rule : Rule} (missing : rule.source? = none) : rule.sourceText = "" := by
  rw [source?] at missing
  simp only [sourceText, missing]

/-- The text by which rules are counted is the same exactly if they ask for the source alike. -/
theorem sourceText_eq_iff {first second : Rule} (supported : first.Supported)
    (supportedOther : second.Supported) :
    first.sourceText = second.sourceText ↔ first.sharesSource second = true := by
  cases found : first.source? with
  | none =>
      rw [sourceText_of_none found]
      cases other : second.source? with
      | none => simp only [sourceText_of_none other, sharesSource, found, other]
      | some matcher =>
          have differ := (sign_append_ne_empty matcher.operator matcher.value).symm
          simp only [sourceText_of_some other, sharesSource, found, other, differ,
            Bool.false_eq_true]
  | some matcher =>
      rw [sourceText_of_some found]
      cases other : second.source? with
      | none =>
          have differ := sign_append_ne_empty matcher.operator matcher.value
          simp only [sourceText_of_none other, sharesSource, found, other, differ,
            Bool.false_eq_true]
      | some matcherOther =>
          simp only [sourceText_of_some other, sharesSource, found, other]
          exact Matcher.sign_append_eq_iff (supported.source? found) (supportedOther.source? other)

end Rule

namespace SourceSummary

variable {hitsOf : UInt64 → Nat} {rules : List Rule}

/-- Whether an entry counts the rule at a position: it is an entry of the rules, and without that
rule there is no such entry. -/
def Counts (hitsOf : UInt64 → Nat) (rules : List Rule) (position : Nat) (entry : SourceSummary) :
    Prop :=
  entry ∈ group hitsOf rules ∧ entry ∉ group hitsOf (rules.eraseIdx position)

theorem mem_group_iff {entry : SourceSummary} :
    entry ∈ group hitsOf rules ↔
      ∃ rule ∈ rules, entry = entryOf hitsOf rules rule.sourceText := by
  rw [(group_perm hitsOf rules).mem_iff]
  simp [eq_comm]

/-- A rule is counted in the entry of its text and in no other. -/
theorem counts_iff {position : Nat} {rule : Rule} (stands : rules[position]? = some rule)
    {entry : SourceSummary} :
    Counts hitsOf rules position entry ↔ entry = entryOf hitsOf rules rule.sourceText := by
  rcases List.getElem?_eq_some_iff.mp stands with ⟨within, rfl⟩
  have perm : (rules.eraseIdx position ++ [rules[position]]).Perm rules :=
    (List.perm_append_singleton _ _).trans (List.getElem_cons_eraseIdx_perm within)
  rw [Counts, mem_group_iff, mem_group_iff]
  constructor
  · intro counts
    rcases counts with ⟨⟨other, member, rfl⟩, missing⟩
    by_contra differ
    -- An entry of another text is the same without the rule.
    have texts : rules[position].sourceText ≠ other.sourceText := by
      intro same
      rw [same] at differ
      exact differ rfl
    have kept : other ∈ rules.eraseIdx position := by
      rw [← perm.mem_iff, List.mem_append, List.mem_singleton] at member
      apply member.resolve_right
      intro same
      exact texts (same ▸ rfl)
    apply missing
    refine ⟨other, kept, ?_⟩
    rw [← entryOf_of_perm perm, entryOf_concat_of_ne hitsOf _ texts]
  · intro same
    refine ⟨⟨rules[position], List.getElem_mem within, same⟩, ?_⟩
    intro present
    rcases present with ⟨other, -, again⟩
    have source : rules[position].sourceText = other.sourceText :=
      congrArg SourceSummary.source (same.symm.trans again)
    rw [same, ← source, ← entryOf_of_perm perm, entryOf_concat_self] at again
    exact absurd (congrArg ruleCount again) (Nat.succ_ne_self _)

/-- Two rules are counted in one entry exactly if they ask for the source alike. -/
theorem exists_counts_iff {first second : Rule} {position other : Nat}
    (stands : rules[position]? = some first) (standsOther : rules[other]? = some second) :
    (∃ entry, Counts hitsOf rules position entry ∧ Counts hitsOf rules other entry) ↔
      first.sourceText = second.sourceText := by
  simp only [counts_iff stands, counts_iff standsOther]
  constructor
  · intro counted
    rcases counted with ⟨entry, rfl, same⟩
    exact congrArg SourceSummary.source same
  · intro same
    exact ⟨_, rfl, by rw [same]⟩

theorem mem_ofRules {top : Nat} {entry : SourceSummary} (member : entry ∈ ofRules hitsOf top rules) :
    entry ∈ group hitsOf rules :=
  List.mem_mergeSort.mp (List.mem_of_mem_take member)

/-- Which rules a summary counts together, where all matchers have operators in use.  Each rule is
counted in one entry.  Two rules are counted in the same one exactly if neither asks for a source, or
they ask for the same one in the same way, or one asks for equality with a text that reads as the
pattern of the other; and the entry of a rule counts as many rules as ask for a source alike.  A
summary has only entries that count a rule, and all of them if it is long enough. -/
theorem counted_together_iff (hitsOf : UInt64 → Nat) (rules : List Rule)
    (supported : ∀ rule ∈ rules, rule.Supported) :
    (∀ position other first second, rules[position]? = some first → rules[other]? = some second →
        ((∃ entry, Counts hitsOf rules position entry ∧ Counts hitsOf rules other entry) ↔
          first.sharesSource second = true) ∧
        (first.sourceText = second.sourceText ↔ first.sharesSource second = true)) ∧
      (∀ position rule, rules[position]? = some rule →
        ∃ entry, (∀ counting, Counts hitsOf rules position counting ↔ counting = entry) ∧
          entry.ruleCount = rules.countP rule.sharesSource) ∧
      (∀ top, ∀ entry ∈ ofRules hitsOf top rules, ∃ position, Counts hitsOf rules position entry) ∧
      ∀ top, (rules.map Rule.sourceText).dedup.length ≤ top → ∀ position entry,
        Counts hitsOf rules position entry → entry ∈ ofRules hitsOf top rules := by
  refine ⟨?_, ?_, ?_, ?_⟩
  · intro position other first second stands standsOther
    rw [exists_counts_iff stands standsOther]
    have alike := Rule.sourceText_eq_iff (supported first (List.mem_of_getElem? stands))
      (supported second (List.mem_of_getElem? standsOther))
    exact ⟨alike, alike⟩
  · intro position rule stands
    refine ⟨entryOf hitsOf rules rule.sourceText, fun _ => counts_iff stands, ?_⟩
    apply List.countP_congr
    intro other member
    rw [beq_iff_eq, eq_comm]
    exact Rule.sourceText_eq_iff (supported rule (List.mem_of_getElem? stands))
      (supported other member)
  · intro top entry member
    rcases mem_group_iff.mp (mem_ofRules member) with ⟨rule, known, same⟩
    rcases List.mem_iff_getElem?.mp known with ⟨position, stands⟩
    exact ⟨position, (counts_iff stands).mpr same⟩
  · intro top room position entry counts
    rw [ofRules_of_room hitsOf room, List.mem_mergeSort]
    exact counts.1

/-- Rules that ask for a text or for a pattern, one for a text that reads as the pattern, and two
without a source. -/
def tildeRules : List Rule :=
  [{ id := 1, matchers := [.equal "source" "~x"] }, { id := 2, matchers := [.regex "source" "x"] },
    { id := 3, matchers := [.equal "source" "x"] }, { id := 4, matchers := [.equal "host" "x"] },
    { id := 5 }]

theorem supported_tildeRules : ∀ rule ∈ tildeRules, rule.Supported := by
  unfold Rule.Supported
  decide

theorem counted_together_iff_tilde :
    (∃ entry, Counts (fun _ => 1) tildeRules 0 entry ∧ Counts (fun _ => 1) tildeRules 1 entry) ∧
      ¬(∃ entry, Counts (fun _ => 1) tildeRules 1 entry ∧ Counts (fun _ => 1) tildeRules 2 entry) ∧
      (∃ entry, Counts (fun _ => 1) tildeRules 3 entry ∧ Counts (fun _ => 1) tildeRules 4 entry) := by
  rcases counted_together_iff (fun _ => 1) tildeRules supported_tildeRules with ⟨together, -⟩
  refine ⟨?_, ?_, ?_⟩
  · exact (together 0 1 _ _ rfl rfl).1.mpr (by decide)
  · intro counted
    exact absurd ((together 1 2 _ _ rfl rfl).1.mp counted) (by decide)
  · exact (together 3 4 _ _ rfl rfl).1.mpr (by decide)

/-- A rule for a text and one for a pattern are counted in one entry, although both operator and
operand differ. -/
theorem one_entry_of_text_and_pattern :
    (∀ rule ∈ tildeRules.take 2, rule.Supported) ∧
      (tildeRules.take 2).map (fun rule => rule.source?.map fun matcher =>
        (matcher.operator, matcher.value)) = [some (.equal, "~x"), some (.regex, "x")] ∧
      ofRules (fun _ => 1) 2 (tildeRules.take 2) = [⟨"=~x", 2, 2⟩] := by
  refine ⟨?_, by decide, ?_⟩
  · intro rule member
    exact supported_tildeRules rule (List.mem_of_mem_take member)
  · have grouped : group (fun _ => 1) (tildeRules.take 2) = [⟨"=~x", 2, 2⟩] := by decide
    rw [ofRules, grouped, List.mergeSort_singleton]
    rfl

end SourceSummary

end LogSieve
