import Mathlib.Logic.Relation
import LogSieve.Proofs.BulkMatching

/-!
# Rewriting rules

A list of rules can be rewritten without a change of its meaning: the matchers of a rule come in
another order, one is there twice, one that asks for nothing comes or goes, or a disabled rule
does.  Such rewrites change how often fields are asked for, with it the field by which rules are
filed, and the values they are filed under.  Among faithful rules the one that is found stays
the same.
-/

namespace LogSieve

/-- A rewrite of the matchers of a rule after which they ask for the same. -/
inductive Matcher.Rewrite : List Matcher → List Matcher → Prop
  | permuted {first second : List Matcher} (permuted : first.Perm second) : Rewrite first second
  | repeated (before after : List Matcher) (matcher : Matcher)
      (known : matcher ∈ before ++ after) :
      Rewrite (before ++ after) (before ++ matcher :: after)
  | placeholder (before after : List Matcher) (matcher : Matcher)
      (idle : matcher.isPlaceholder = true) :
      Rewrite (before ++ after) (before ++ matcher :: after)

/-- A rewrite of a list of rules.  Each rule has a mark, by which it is known whatever becomes of
its matchers and of its place. -/
inductive Rule.Rewrite {α : Type} : List (α × Rule) → List (α × Rule) → Prop
  | matchers (before after : List (α × Rule)) (mark : α) (rule : Rule) {matchers : List Matcher}
      (rewrite : Matcher.Rewrite rule.matchers matchers) :
      Rewrite (before ++ (mark, rule) :: after) (before ++ (mark, { rule with matchers }) :: after)
  | disabled (before after : List (α × Rule)) (mark : α) (rule : Rule)
      (disabled : rule.disabled = true) :
      Rewrite (before ++ after) (before ++ (mark, rule) :: after)

/-- What rewriting leaves of a marked rule: its mark and all but its matchers. -/
def survivor {α : Type} (entry : α × Rule) : α × Rule :=
  (entry.1, { entry.2 with matchers := [] })

variable {α : Type} {first second : List (α × Rule)}

/-! ## The linear scan -/

theorem Matcher.Rewrite.all_holds {first second : List Matcher}
    (rewrite : Matcher.Rewrite first second) (record : Record) :
    second.all (·.holds record) = first.all (·.holds record) := by
  cases rewrite with
  | permuted permuted => exact permuted.symm.all_eq
  | repeated before after matcher known =>
      -- The copy holds wherever all the others do.
      have implied : (before ++ after).all (·.holds record) = true →
          matcher.holds record = true := by
        intro every
        exact List.all_eq_true.mp every matcher known
      rw [List.all_append] at implied ⊢
      rw [List.all_append, List.all_cons]
      grind
  | placeholder before after matcher idle =>
      have holds : matcher.holds record = true := by simp [Matcher.holds, idle]
      rw [List.all_append, List.all_append, List.all_cons, holds, Bool.true_and]

theorem Rule.holds_of_rewrite {rule : Rule} {matchers : List Matcher}
    (rewrite : Matcher.Rewrite rule.matchers matchers) (record : Record) :
    Rule.holds { rule with matchers } record = rule.holds record := by
  rw [Rule.holds, Rule.holds, rewrite.all_holds record]

/-- The linear scan over marked rules. -/
def scan? (marked : List (α × Rule)) (record : Record) : Option (α × Rule) :=
  marked.find? (·.2.holds record)

/-- One rewrite leaves what the linear scan finds. -/
theorem Rule.Rewrite.scan?_eq (rewrite : Rule.Rewrite first second) (record : Record) :
    (scan? first record).map survivor = (scan? second record).map survivor := by
  cases rewrite with
  | @matchers before after mark rule matchers rewrite =>
      rw [scan?, scan?, List.find?_append, List.find?_append]
      cases before.find? (·.2.holds record) with
      | some entry => rfl
      | none =>
          simp only [Option.none_or, List.find?_cons, Rule.holds_of_rewrite rewrite record]
          cases rule.holds record <;> rfl
  | disabled before after mark rule disabled =>
      have skipped : rule.holds record = false := by simp [Rule.holds, disabled]
      rw [scan?, scan?, List.find?_append, List.find?_append,
        List.find?_cons_of_neg (by simp [skipped])]

/-- Any number of rewrites, also backwards, leave what the linear scan finds. -/
theorem scan?_eq_of_rewrites (rewrites : Relation.EqvGen Rule.Rewrite first second)
    (record : Record) :
    (scan? first record).map survivor = (scan? second record).map survivor := by
  induction rewrites with
  | rel first second rewrite => exact rewrite.scan?_eq record
  | refl marked => rfl
  | symm first second _ ih => exact ih.symm
  | trans first second third _ _ left right => exact left.trans right

/-! ## The bulk matcher -/

namespace Bulk

/-- The marked rule that the bulk matcher finds. -/
def find? (marked : List (α × Rule)) (record : Record) : Option (α × Rule) :=
  ((build (marked.map (·.2))).position? (marked.map (·.2)) record).bind (marked[·]?)

/-- The marked rule by which a record is judged. -/
def judge? (marked : List (α × Rule)) (record : Record) : Option (α × Rule) :=
  (judgeAt record ((build (marked.map (·.2))).candidates record)
    (marked.map (·.2))).1.bind (marked[·]?)

theorem judge?_eq_find? (marked : List (α × Rule)) (record : Record) :
    judge? marked record = find? marked record := by
  rw [judge?, find?, judgeAt_eq_find?]
  rfl

theorem find?_eq_scan? {marked : List (α × Rule)}
    (faithful : ∀ entry ∈ marked, entry.2.Faithful) (record : Record) :
    find? marked record = scan? marked record := by
  have rulesFaithful : ∀ rule ∈ marked.map (·.2), rule.Faithful := by
    intro rule member
    obtain ⟨entry, known, rfl⟩ := List.mem_map.mp member
    exact faithful entry known
  rw [find?, position?_build _ record rulesFaithful, List.findIdx?_map, scan?,
    List.find?_eq_bind_findIdx?_getElem?]
  rfl

/-- Faithful rules that come of each other by rewriting are found alike: for every record the bulk
matcher of the one list finds the rule that the bulk matcher of the other list finds, known by its
mark and with the same id, judgement, comment and version; and so does judging by their
candidates. -/
theorem find?_eq_of_rewrites (rewrites : Relation.EqvGen Rule.Rewrite first second)
    (faithfulFirst : ∀ entry ∈ first, entry.2.Faithful)
    (faithfulSecond : ∀ entry ∈ second, entry.2.Faithful) (record : Record) :
    (find? first record).map survivor = (find? second record).map survivor ∧
      (judge? first record).map survivor = (judge? second record).map survivor := by
  have found : (find? first record).map survivor = (find? second record).map survivor := by
    rw [find?_eq_scan? faithfulFirst, find?_eq_scan? faithfulSecond]
    exact scan?_eq_of_rewrites rewrites record
  refine ⟨found, ?_⟩
  rw [judge?_eq_find?, judge?_eq_find?]
  exact found

/-- Two rules that are filed by their source. -/
def plainRules : List (String × Rule) :=
  [("jobs", { id := 7, matchers := [.equal "host" "web", .equal "source" "cron"] }),
    ("cron", { id := 7, ham := true, matchers := [.equal "source" "cron", .regex "message" "j.b"] })]

/-- The same rules after rewriting, now filed by their host. -/
def rewrittenRules : List (String × Rule) :=
  [("off", { id := 7, disabled := true }),
    ("jobs", { id := 7, matchers :=
      [.equal "host" "web", .equal "host" "web", .equal "host" "web", .equal "source" "cron"] }),
    ("cron", { id := 7, ham := true, matchers :=
      [.regex "message" "j.b", .regex "" "", .equal "source" "cron"] })]

theorem find?_rewrittenRules :
    Relation.EqvGen Rule.Rewrite plainRules rewrittenRules ∧
      (build (plainRules.map (·.2))).splitField = some "source" ∧
      (build (rewrittenRules.map (·.2))).splitField = some "host" ∧
      (find? plainRules cronRecord).map (·.1) = some "cron" ∧
      (find? plainRules cronRecord).map survivor =
        (find? rewrittenRules cronRecord).map survivor := by
  have rewrites : Relation.EqvGen Rule.Rewrite plainRules rewrittenRules := by
    apply Relation.EqvGen.trans _ _ _
      (.rel _ _ (.disabled [] plainRules "off" { id := 7, disabled := true } rfl))
    apply Relation.EqvGen.trans _ _ _
      (.rel _ _ (.matchers [_] _ _ _ (.repeated [] _ (.equal "host" "web") (by simp))))
    apply Relation.EqvGen.trans _ _ _
      (.rel _ _ (.matchers [_] _ _ _ (.repeated [] _ (.equal "host" "web") (by simp))))
    apply Relation.EqvGen.trans _ _ _
      (.rel _ _ (.matchers [_, _] [] _ _ (.permuted (List.Perm.swap ..))))
    exact .rel _ _ (.matchers [_, _] [] _ _ (.placeholder [_] [_] (.regex "" "") rfl))
  have unused (marked : List (String × Rule))
      (unused : marked.all (·.2.isUnused) = true) : ∀ entry ∈ marked, entry.2.Faithful := by
    intro entry member
    exact Rule.faithful_of_isUnused (List.all_eq_true.mp unused entry member)
  exact ⟨rewrites, by decide +kernel, by decide +kernel, by decide +kernel,
    (find?_eq_of_rewrites rewrites (unused _ rfl) (unused _ rfl) cronRecord).1⟩

/-- A rule that is not faithful, with a further matcher, filed by its message. -/
def retypedRules : List (String × Rule) :=
  [("jobs", { retypedRule with matchers := retypedRule.matchers ++ [.equal "message" "job"] })]

/-- The same rule with its first matcher twice, now filed by its source. -/
def repeatedRules : List (String × Rule) :=
  [("jobs", { retypedRule with
    matchers := retypedRule.matchers ++ retypedRule.matchers ++ [.equal "message" "job"] })]

/-- A matcher that is there twice loses the rule, as the old pattern holds where the new operand
does not. -/
theorem find?_repeatedRules :
    Rule.Rewrite retypedRules repeatedRules ∧
      (find? retypedRules cronRecord).map (·.1) = some "jobs" ∧
      (find? repeatedRules cronRecord).map (·.1) = none := by
  have rewrite : Rule.Rewrite retypedRules repeatedRules :=
    .matchers [] [] _ _ (.repeated [] _ _ List.mem_cons_self)
  exact ⟨rewrite, by decide +kernel, by decide +kernel⟩

end Bulk

end LogSieve
