import Mathlib
import LogSieve.Regex.Matching

/-!
# Trying a layout at positions

A layout stands for a relation between the positions where a match starts and those where it ends.
Trying the layout gives what the relation reaches, apart from what is known already from positions
tried before.
-/

namespace LogSieve.Regex

/-! ## Sets of positions -/

/-- The positions of a set that is kept as a number. -/
def bits (positions : Nat) : Set Nat := {position | positions.testBit position = true}

@[simp] theorem mem_bits {positions position : Nat} :
    position ∈ bits positions ↔ positions.testBit position = true := Iff.rfl

@[simp] theorem bits_zero : bits 0 = ∅ := by
  ext position
  simp

theorem bits_or (left right : Nat) : bits (left ||| right) = bits left ∪ bits right := by
  ext position
  simp

theorem bits_without (positions others : Nat) :
    bits (without positions others) = bits positions \ bits others := by
  ext position
  simp only [mem_bits, without, Nat.testBit_xor, Nat.testBit_and, Set.mem_sdiff]
  cases positions.testBit position <;> cases others.testBit position <;> decide

theorem bits_eq_empty_iff {positions : Nat} : bits positions = ∅ ↔ positions = 0 := by
  constructor
  · intro none
    apply Nat.eq_of_testBit_eq
    intro position
    have absent : position ∉ bits positions := by simp [none]
    simpa using absent
  · rintro rfl
    exact bits_zero

/-! ## What relations reach -/

section Relations

variable {links others : Nat → Nat → Prop} {starts : Set Nat}

/-- The positions that a relation leads to from some positions. -/
def reached (links : Nat → Nat → Prop) (starts : Set Nat) : Set Nat :=
  {stop | ∃ start ∈ starts, links start stop}

theorem reached_empty : reached links ∅ = ∅ := by
  ext stop
  simp [reached]

theorem reached_union (more : Set Nat) :
    reached links (starts ∪ more) = reached links starts ∪ reached links more := by
  ext stop
  simp only [reached, Set.mem_union, Set.mem_ofPred_eq, or_and_right, exists_or]

theorem reached_eq : reached Eq starts = starts := by
  ext stop
  simp [reached]

theorem reached_comp :
    reached (Relation.Comp links others) starts = reached others (reached links starts) := by
  ext stop
  constructor
  · rintro ⟨start, mem, middle, first, second⟩
    exact ⟨middle, ⟨start, mem, first⟩, second⟩
  · rintro ⟨middle, ⟨start, mem, first⟩, second⟩
    exact ⟨start, mem, middle, first, second⟩

theorem reached_or :
    reached (fun start stop => links start stop ∨ others start stop) starts =
      reached links starts ∪ reached others starts := by
  ext stop
  simp only [reached, Set.mem_union, Set.mem_ofPred_eq, and_or_left, exists_or]

theorem reached_mono {more : Set Nat} (subset : starts ⊆ more) :
    reached links starts ⊆ reached links more := by
  rintro stop ⟨start, mem, linked⟩
  exact ⟨start, subset mem, linked⟩

/-- One or more steps are any number of steps and then one. -/
theorem reached_transGen :
    reached (Relation.TransGen links) starts =
      reached links (reached (Relation.ReflTransGen links) starts) := by
  rw [← reached_comp]
  congr
  funext start stop
  exact propext Relation.TransGen.tail'_iff

theorem subset_reached_reflTransGen : starts ⊆ reached (Relation.ReflTransGen links) starts :=
  fun start mem => ⟨start, mem, .refl⟩

theorem reached_reflTransGen_closed :
    reached links (reached (Relation.ReflTransGen links) starts) ⊆
      reached (Relation.ReflTransGen links) starts := by
  rintro stop ⟨middle, ⟨start, mem, steps⟩, step⟩
  exact ⟨start, mem, steps.tail step⟩

/-- Steps do not lead out of a closed set. -/
theorem reached_reflTransGen_subset {closed : Set Nat} (subset : starts ⊆ closed)
    (closes : reached links closed ⊆ closed) :
    reached (Relation.ReflTransGen links) starts ⊆ closed := by
  rintro stop ⟨start, mem, steps⟩
  induction steps with
  | refl => exact subset mem
  | tail _ step inside => exact closes ⟨_, inside, step⟩

/-- A number of rounds, one after the other. -/
def Rounds (links : Nat → Nat → Prop) : Nat → Nat → Nat → Prop
  | 0 => Eq
  | count + 1 => Relation.Comp links (Rounds links count)

/-- Any number of rounds up to a given one. -/
def RoundsUpTo (links : Nat → Nat → Prop) (count start stop : Nat) : Prop :=
  ∃ rounds ≤ count, Rounds links rounds start stop

theorem roundsUpTo_zero : RoundsUpTo links 0 = Eq := by
  funext start stop
  simp [RoundsUpTo, Rounds]

theorem roundsUpTo_succ (count : Nat) :
    RoundsUpTo links (count + 1) =
      fun start stop => start = stop ∨ Relation.Comp links (RoundsUpTo links count) start stop := by
  funext start stop
  apply propext
  constructor
  · rintro ⟨rounds, bounded, follow⟩
    cases rounds with
    | zero => exact .inl follow
    | succ rounds =>
        rcases follow with ⟨middle, linked, follow⟩
        exact .inr ⟨middle, linked, rounds, by omega, follow⟩
  · rintro (same | ⟨middle, linked, rounds, bounded, follow⟩)
    · exact ⟨0, by omega, same⟩
    · exact ⟨rounds + 1, by omega, middle, linked, follow⟩

/-- One or more steps are one or more rounds. -/
theorem transGen_iff_rounds {start stop : Nat} :
    Relation.TransGen links start stop ↔ ∃ count, Rounds links (count + 1) start stop := by
  constructor
  · intro steps
    induction steps using Relation.TransGen.head_induction_on with
    | single step => exact ⟨0, _, step, rfl⟩
    | head step _ later =>
        rcases later with ⟨count, follow⟩
        exact ⟨count + 1, _, step, follow⟩
  · rintro ⟨count, follow⟩
    induction count generalizing start with
    | zero =>
        rcases follow with ⟨middle, step, rfl⟩
        exact .single step
    | succ count later =>
        rcases follow with ⟨middle, step, follow⟩
        exact .head step (later follow)

theorem rounds_add (first second : Nat) :
    Rounds links (first + second) = Relation.Comp (Rounds links first) (Rounds links second) := by
  induction first with
  | zero => rw [Nat.zero_add, Rounds, Relation.eq_comp]
  | succ first later =>
      rw [Nat.add_right_comm, Rounds, Rounds, later, Relation.comp_assoc]

/-- No step, or one or more, are any number of rounds. -/
theorem eq_or_transGen_iff_rounds {start stop : Nat} :
    start = stop ∨ Relation.TransGen links start stop ↔ ∃ count, Rounds links count start stop := by
  rw [transGen_iff_rounds]
  constructor
  · rintro (same | ⟨count, follow⟩)
    · exact ⟨0, same⟩
    · exact ⟨count + 1, follow⟩
  · rintro ⟨_ | count, follow⟩
    · exact .inl follow
    · exact .inr ⟨count, follow⟩

/-- Some rounds and then one or more steps are more rounds. -/
theorem comp_rounds_transGen_iff {least start stop : Nat} :
    Relation.Comp (Rounds links least) (Relation.TransGen links) start stop ↔
      ∃ more, Rounds links (least + 1 + more) start stop := by
  have regroup (more : Nat) : least + 1 + more = least + (more + 1) := by omega
  simp only [regroup, rounds_add least]
  constructor
  · rintro ⟨middle, first, steps⟩
    rcases transGen_iff_rounds.mp steps with ⟨more, follow⟩
    exact ⟨more, middle, first, follow⟩
  · rintro ⟨more, middle, first, follow⟩
    exact ⟨middle, first, transGen_iff_rounds.mpr ⟨more, follow⟩⟩

/-- A relation leads forwards in a text of the given length: to a position of the text, or nowhere
else. -/
structure Forward (length : Nat) (links : Nat → Nat → Prop) : Prop where
  le : ∀ {start stop}, links start stop → start ≤ stop
  inside : ∀ {start stop}, links start stop → start = stop ∨ stop ≤ length

namespace Forward

variable {length : Nat}

theorem reached_subset (forward : Forward length links) (inside : starts ⊆ Set.Iic length) :
    reached links starts ⊆ Set.Iic length := by
  rintro stop ⟨start, mem, linked⟩
  rcases forward.inside linked with rfl | bounded
  · exact inside mem
  · exact bounded

theorem eq : Forward length Eq := by
  constructor
  · intro start stop same
    exact same.le
  · intro start stop same
    exact .inl same

theorem comp (first : Forward length links) (second : Forward length others) :
    Forward length (Relation.Comp links others) := by
  constructor
  · rintro start stop ⟨middle, linked, linkedLater⟩
    exact (first.le linked).trans (second.le linkedLater)
  · rintro start stop ⟨middle, linked, linkedLater⟩
    rcases second.inside linkedLater with rfl | bounded
    · exact first.inside linked
    · exact .inr bounded

theorem or (first : Forward length links) (second : Forward length others) :
    Forward length (fun start stop => links start stop ∨ others start stop) := by
  constructor
  · rintro start stop (linked | linked)
    · exact first.le linked
    · exact second.le linked
  · rintro start stop (linked | linked)
    · exact first.inside linked
    · exact second.inside linked

theorem rounds (forward : Forward length links) (count : Nat) :
    Forward length (Rounds links count) := by
  induction count with
  | zero => exact eq
  | succ count later => exact forward.comp later

theorem of_exists_rounds {allowed : Nat → Prop} (forward : Forward length links) :
    Forward length (fun start stop => ∃ count, allowed count ∧ Rounds links count start stop) := by
  constructor
  · rintro start stop ⟨count, -, follow⟩
    exact (forward.rounds count).le follow
  · rintro start stop ⟨count, -, follow⟩
    exact (forward.rounds count).inside follow

theorem transGen (forward : Forward length links) : Forward length (Relation.TransGen links) := by
  constructor
  · intro start stop steps
    rcases transGen_iff_rounds.mp steps with ⟨count, follow⟩
    exact (forward.rounds _).le follow
  · intro start stop steps
    rcases transGen_iff_rounds.mp steps with ⟨count, follow⟩
    exact (forward.rounds _).inside follow

/-- Among more rounds than there are positions ahead, one leads nowhere; it may be made again. -/
theorem rounds_succ {count start stop : Nat} (forward : Forward length links)
    (many : length - start < count) (follow : Rounds links count start stop) :
    Rounds links (count + 1) start stop := by
  induction count generalizing start with
  | zero => omega
  | succ count later =>
      rcases follow with ⟨middle, step, follow⟩
      by_cases same : start = middle
      · subst same
        exact ⟨start, step, start, step, follow⟩
      · have order := forward.le step
        have bounded := (forward.inside step).resolve_left same
        exact ⟨middle, step, later (by omega) follow⟩

/-- It may be left out, too. -/
theorem rounds_of_succ {count start stop : Nat} (forward : Forward length links)
    (many : length - start < count) (follow : Rounds links (count + 1) start stop) :
    Rounds links count start stop := by
  induction count generalizing start with
  | zero => omega
  | succ count later =>
      rcases follow with ⟨middle, step, follow⟩
      by_cases same : start = middle
      · subst same
        exact follow
      · have order := forward.le step
        have bounded := (forward.inside step).resolve_left same
        exact ⟨middle, step, later (by omega) follow⟩

/-- Rounds beyond the number of positions change nothing. -/
theorem rounds_min (forward : Forward length links) (count : Nat) :
    Rounds links (min count (length + 1)) = Rounds links count := by
  induction count with
  | zero => rw [Nat.zero_min]
  | succ count same =>
      by_cases few : count < length + 1
      · rw [Nat.min_eq_left few]
      · rw [Nat.min_eq_right (by omega)] at same ⊢
        rw [same]
        funext start stop
        exact propext ⟨forward.rounds_succ (by omega), forward.rounds_of_succ (by omega)⟩

theorem roundsUpTo_min (forward : Forward length links) (count : Nat) :
    RoundsUpTo links (min count (length + 1)) = RoundsUpTo links count := by
  funext start stop
  apply propext
  constructor
  · rintro ⟨rounds, bounded, follow⟩
    exact ⟨rounds, by omega, follow⟩
  · rintro ⟨rounds, bounded, follow⟩
    rw [← forward.rounds_min] at follow
    exact ⟨min rounds (length + 1), by omega, follow⟩

end Forward

end Relations

/-! ## Attempts -/

namespace Attempt

variable {length : Nat} {links others : Nat → Nat → Prop}

/-- An attempt follows a relation between the positions of a text. Its memory, which stands for the
positions tried so far, comes to stand for the new ones too; and together with what the relation
reaches from the positions tried so far, the attempt gives all that it reaches from both. -/
structure Tracks (attempt : Attempt) (length : Nat) (links : Nat → Nat → Prop)
    (recalls : Memory → Set Nat → Prop) : Prop where
  blank : recalls .blank ∅
  step : ∀ {memory tried starts}, recalls memory tried → tried ⊆ Set.Iic length →
    bits starts ⊆ Set.Iic length →
      recalls (attempt memory starts).1 (tried ∪ bits starts) ∧
      reached links (tried ∪ bits starts) = reached links tried ∪ bits (attempt memory starts).2

/-- An attempt follows a relation, with some meaning of its memory. -/
def Follows (attempt : Attempt) (length : Nat) (links : Nat → Nat → Prop) : Prop :=
  ∃ recalls, attempt.Tracks length links recalls

/-- From a blank memory, an attempt gives all that its relation reaches. -/
theorem Follows.bits_ends {attempt : Attempt} (follows : attempt.Follows length links)
    {starts : Nat} (inside : bits starts ⊆ Set.Iic length) :
    bits (attempt .blank starts).2 = reached links (bits starts) := by
  rcases follows with ⟨recalls, tracks⟩
  have stepped := (tracks.step tracks.blank (Set.empty_subset _) inside).2
  rw [Set.empty_union, reached_empty, Set.empty_union] at stepped
  exact stepped.symm

/-- An attempt that remembers nothing. -/
theorem follows_of_map {attempt : Attempt} (advance : Nat → Nat)
    (spelled : ∀ memory starts, attempt memory starts = (memory, advance starts))
    (advances : ∀ starts, bits (advance starts) = reached links (bits starts)) :
    attempt.Follows length links := by
  refine ⟨fun _ _ => True, trivial, ?_⟩
  intro memory tried starts _ _ _
  rw [spelled, reached_union, advances]
  exact ⟨trivial, rfl⟩

/-- Tries two parts, and only where the whole has not been tried yet. -/
def onFresh (parts : Memory → Memory → Nat → Memory × Memory × Nat) : Attempt :=
  fun memory starts =>
    let fresh := without starts memory.seen
    if fresh = 0 then (memory, 0)
    else
      let (first, second, ends) := parts memory.first memory.second fresh
      (.node (memory.seen ||| fresh) first second, ends)

theorem onFresh_follows {parts : Memory → Memory → Nat → Memory × Memory × Nat}
    (recalls : Memory → Memory → Set Nat → Prop) (blank : recalls .blank .blank ∅)
    (step : ∀ {first second tried fresh}, recalls first second tried → tried ⊆ Set.Iic length →
      bits fresh ⊆ Set.Iic length →
        recalls (parts first second fresh).1 (parts first second fresh).2.1 (tried ∪ bits fresh) ∧
        reached links (tried ∪ bits fresh) =
          reached links tried ∪ bits (parts first second fresh).2.2) :
    (onFresh parts).Follows length links := by
  refine ⟨fun memory tried => bits memory.seen = tried ∧ recalls memory.first memory.second tried,
    ⟨bits_zero, blank⟩, ?_⟩
  rintro memory tried starts ⟨rfl, recalled⟩ triedInside startsInside
  have split : bits memory.seen ∪ bits starts =
      bits memory.seen ∪ bits (without starts memory.seen) := by
    rw [bits_without, Set.union_sdiff_self]
  have freshInside : bits (without starts memory.seen) ⊆ Set.Iic length := by
    rw [bits_without]
    exact Set.sdiff_subset.trans startsInside
  rw [split]
  simp only [onFresh]
  split_ifs with nothing
  · rw [nothing, bits_zero, Set.union_empty, Set.union_empty]
    exact ⟨⟨rfl, recalled⟩, rfl⟩
  · rcases step recalled triedInside freshInside with ⟨recalledAfter, reaches⟩
    exact ⟨⟨bits_or _ _, recalledAfter⟩, reaches⟩

section Composition

variable {first second : Attempt}

/-- What two attempts, one after the other, remember and reach. -/
theorem comp_step {recallsFirst recallsSecond : Memory → Set Nat → Prop} {memory later : Memory}
    {tried : Set Nat} {fresh : Nat} (forward : Forward length links)
    (tracksFirst : first.Tracks length links recallsFirst)
    (tracksSecond : second.Tracks length others recallsSecond)
    (recalled : recallsFirst memory tried)
    (recalledLater : recallsSecond later (reached links tried))
    (triedInside : tried ⊆ Set.Iic length)
    (freshInside : bits fresh ⊆ Set.Iic length) :
    (recallsFirst (first memory fresh).1 (tried ∪ bits fresh) ∧
      recallsSecond (second later (first memory fresh).2).1
        (reached links (tried ∪ bits fresh))) ∧
    reached (Relation.Comp links others) (tried ∪ bits fresh) =
      reached (Relation.Comp links others) tried ∪
        bits (second later (first memory fresh).2).2 := by
  rcases tracksFirst.step recalled triedInside freshInside with ⟨recalledOnce, reaches⟩
  have allInside : reached links (tried ∪ bits fresh) ⊆ Set.Iic length :=
    forward.reached_subset (Set.union_subset triedInside freshInside)
  rw [reaches, Set.union_subset_iff] at allInside
  rcases tracksSecond.step recalledLater allInside.1 allInside.2 with ⟨recalledTwice, ends⟩
  rw [reached_comp, reached_comp, reaches]
  exact ⟨⟨recalledOnce, recalledTwice⟩, ends⟩

/-- One attempt after the other. -/
theorem comp_follows (forward : Forward length links) (left : first.Follows length links)
    (right : second.Follows length others) :
    (onFresh fun memory later fresh =>
      let (memory, middle) := first memory fresh
      let (later, ends) := second later middle
      (memory, later, ends)).Follows length (Relation.Comp links others) := by
  rcases left with ⟨recallsFirst, tracksFirst⟩
  rcases right with ⟨recallsSecond, tracksSecond⟩
  apply onFresh_follows
    (fun memory later tried =>
      recallsFirst memory tried ∧ recallsSecond later (reached links tried))
  · rw [reached_empty]
    exact ⟨tracksFirst.blank, tracksSecond.blank⟩
  · rintro memory later tried fresh ⟨recalled, recalledLater⟩ triedInside freshInside
    exact comp_step forward tracksFirst tracksSecond recalled recalledLater triedInside freshInside

/-- No attempt, or one attempt and then another. -/
theorem eq_or_comp_follows (forward : Forward length links) (left : first.Follows length links)
    (right : second.Follows length others) :
    (onFresh fun memory later fresh =>
      let (memory, middle) := first memory fresh
      let (later, ends) := second later middle
      (memory, later, fresh ||| ends)).Follows length
        (fun start stop => start = stop ∨ Relation.Comp links others start stop) := by
  rcases left with ⟨recallsFirst, tracksFirst⟩
  rcases right with ⟨recallsSecond, tracksSecond⟩
  apply onFresh_follows
    (fun memory later tried =>
      recallsFirst memory tried ∧ recallsSecond later (reached links tried))
  · rw [reached_empty]
    exact ⟨tracksFirst.blank, tracksSecond.blank⟩
  · rintro memory later tried fresh ⟨recalled, recalledLater⟩ triedInside freshInside
    rcases comp_step forward tracksFirst tracksSecond recalled recalledLater triedInside freshInside
      with ⟨recalledBoth, ends⟩
    refine ⟨recalledBoth, ?_⟩
    rw [reached_or, reached_or, reached_eq, reached_eq, ends, bits_or, Set.union_union_union_comm]

/-- One attempt beside the other. -/
theorem or_follows (left : first.Follows length links) (right : second.Follows length others) :
    (onFresh fun memory beside fresh =>
      let (memory, ends) := first memory fresh
      let (beside, more) := second beside fresh
      (memory, beside, ends ||| more)).Follows length
        (fun start stop => links start stop ∨ others start stop) := by
  rcases left with ⟨recallsFirst, tracksFirst⟩
  rcases right with ⟨recallsSecond, tracksSecond⟩
  apply onFresh_follows
    (fun memory beside tried => recallsFirst memory tried ∧ recallsSecond beside tried)
  · exact ⟨tracksFirst.blank, tracksSecond.blank⟩
  · rintro memory beside tried fresh ⟨recalled, recalledBeside⟩ triedInside freshInside
    rcases tracksFirst.step recalled triedInside freshInside with ⟨recalledFirst, reaches⟩
    rcases tracksSecond.step recalledBeside triedInside freshInside with
      ⟨recalledSecond, reachesMore⟩
    refine ⟨⟨recalledFirst, recalledSecond⟩, ?_⟩
    rw [reached_or, reached_or, reaches, reachesMore, bits_or, Set.union_union_union_comm]

end Composition

section Repetition

variable {attempt : Attempt}

theorem times_follows (forward : Forward length links) (follows : attempt.Follows length links)
    (count : Nat) : (attempt.times count).Follows length (Rounds links count) := by
  induction count with
  | zero => exact follows_of_map id (fun _ _ => rfl) (fun _ => reached_eq.symm)
  | succ count later => exact comp_follows forward follows later

theorem upTo_follows (forward : Forward length links) (follows : attempt.Follows length links)
    (count : Nat) : (attempt.upTo count).Follows length (RoundsUpTo links count) := by
  induction count with
  | zero =>
      rw [roundsUpTo_zero]
      exact follows_of_map id (fun _ _ => rfl) (fun _ => reached_eq.symm)
  | succ count later =>
      rw [roundsUpTo_succ]
      exact eq_or_comp_follows forward follows later

/-- The positions up to the end of a text that are not in a set. -/
def missing (length seen : Nat) : Finset Nat :=
  (Finset.range (length + 1)).filter fun position => ¬ seen.testBit position

theorem card_missing_le (seen : Nat) : (missing length seen).card ≤ length + 1 := by
  have bound := Finset.card_filter_le (Finset.range (length + 1)) fun position =>
    ¬ seen.testBit position
  rwa [Finset.card_range] at bound

/-- Positions that are added to a set are no longer missing. -/
theorem card_missing_or {seen fresh : Nat} (inside : bits fresh ⊆ Set.Iic length)
    (apart : Disjoint (bits fresh) (bits seen)) (some : fresh ≠ 0) :
    (missing length (seen ||| fresh)).card < (missing length seen).card := by
  have filled : (bits fresh).Nonempty := by
    rw [Set.nonempty_iff_ne_empty, ne_eq, bits_eq_empty_iff]
    exact some
  rcases filled with ⟨position, mem⟩
  apply Finset.card_lt_card
  rw [Finset.ssubset_iff_of_subset]
  · refine ⟨position, ?_, ?_⟩
    · have unseen : position ∉ bits seen := Set.disjoint_left.mp apart mem
      have bounded : position ≤ length := inside mem
      simp only [missing, Finset.mem_filter, Finset.mem_range]
      exact ⟨by omega, unseen⟩
    · rw [mem_bits] at mem
      simp [missing, mem]
  · intro other
    simp only [missing, Finset.mem_filter, Finset.mem_range, Nat.testBit_or]
    grind

/-- What rounds from `fresh` on come to, after the positions `seen`: the least closed set, and all
that the relation reaches from it. -/
structure Grown (links : Nat → Nat → Prop) (recalls : Memory → Set Nat → Prop) (known : Set Nat)
    (seen fresh : Nat) (outcome : Memory × Nat × Nat) : Prop where
  recalled : recalls outcome.1 (bits outcome.2.1)
  contains : bits seen ∪ bits fresh ⊆ bits outcome.2.1
  closed : reached links (bits outcome.2.1) ⊆ bits outcome.2.1
  least : ∀ {other}, bits seen ∪ bits fresh ⊆ other → reached links other ⊆ other →
    bits outcome.2.1 ⊆ other
  gathered : reached links (bits outcome.2.1) = known ∪ bits outcome.2.2

theorem grown_of_closed {recalls : Memory → Set Nat → Prop} {known : Set Nat} {memory : Memory}
    {seen found : Nat} (recalled : recalls memory (bits seen))
    (closed : reached links (bits seen) ⊆ bits seen)
    (gathered : reached links (bits seen) = known ∪ bits found) :
    Grown links recalls known seen 0 (memory, seen, found) := by
  constructor
  · exact recalled
  · rw [bits_zero, Set.union_empty]
  · exact closed
  · intro other subset _
    exact Set.subset_union_left.trans subset
  · exact gathered

/-- A round can be made first. -/
theorem Grown.of_round {recalls : Memory → Set Nat → Prop} {known : Set Nat}
    {seen fresh ends : Nat} {outcome : Memory × Nat × Nat}
    (reaches : bits ends ⊆ reached links (bits (seen ||| fresh)))
    (grown : Grown links recalls known (seen ||| fresh) (without ends (seen ||| fresh)) outcome) :
    Grown links recalls known seen fresh outcome := by
  constructor
  · exact grown.recalled
  · rw [← bits_or]
    exact Set.subset_union_left.trans grown.contains
  · exact grown.closed
  · intro other subset closes
    rw [← bits_or] at subset
    apply grown.least _ closes
    apply Set.union_subset subset
    rw [bits_without]
    calc
      bits ends \ bits (seen ||| fresh) ⊆ bits ends := Set.sdiff_subset
      _ ⊆ reached links (bits (seen ||| fresh)) := reaches
      _ ⊆ reached links other := reached_mono subset
      _ ⊆ other := closes
  · exact grown.gathered

/-- Rounds end before they run out: each of them finds a position that was missing. -/
theorem grow_grown {recalls : Memory → Set Nat → Prop} {known : Set Nat}
    (tracks : attempt.Tracks length links recalls) (forward : Forward length links) {rounds : Nat}
    {memory : Memory} {seen found fresh : Nat} (enough : (missing length seen).card ≤ rounds)
    (recalled : recalls memory (bits seen)) (seenInside : bits seen ⊆ Set.Iic length)
    (freshInside : bits fresh ⊆ Set.Iic length) (apart : Disjoint (bits fresh) (bits seen))
    (covered : reached links (bits seen) ⊆ bits seen ∪ bits fresh)
    (gathered : reached links (bits seen) = known ∪ bits found) :
    Grown links recalls known seen fresh (attempt.grow rounds memory seen found fresh) := by
  induction rounds generalizing memory seen found fresh with
  | zero =>
      by_cases none : fresh = 0
      · subst none
        rw [bits_zero, Set.union_empty] at covered
        exact grown_of_closed recalled covered gathered
      · have fewer := card_missing_or freshInside apart none
        omega
  | succ rounds grows =>
      simp only [grow]
      split_ifs with none
      · subst none
        rw [bits_zero, Set.union_empty] at covered
        exact grown_of_closed recalled covered gathered
      · rcases tracks.step recalled seenInside freshInside with ⟨recalledAfter, reaches⟩
        have fewer := card_missing_or freshInside apart none
        have allInside := Set.union_subset seenInside freshInside
        have reachedInside := forward.reached_subset allInside
        rw [reaches, Set.union_subset_iff] at reachedInside
        rw [← bits_or] at recalledAfter reaches allInside covered
        refine Grown.of_round (?_ : bits (attempt memory fresh).2 ⊆ _) ?_
        · rw [reaches]
          exact Set.subset_union_right
        · apply grows
          · omega
          · exact recalledAfter
          · exact allInside
          · rw [bits_without]
            exact Set.sdiff_subset.trans reachedInside.2
          · rw [bits_without]
            exact Set.disjoint_sdiff_left
          · rw [reaches, bits_without, Set.union_sdiff_self]
            exact Set.union_subset_union covered subset_rfl
          · rw [reaches, gathered, bits_or, Set.union_assoc]

theorem plus_follows (forward : Forward length links) (follows : attempt.Follows length links) :
    Follows (fun memory starts =>
      let (once, seen, ends) :=
        attempt.grow (length + 1) memory.first memory.seen 0 (without starts memory.seen)
      (.node seen once .blank, ends)) length (Relation.TransGen links) := by
  rcases follows with ⟨recalls, tracks⟩
  refine ⟨fun memory tried => recalls memory.first (bits memory.seen) ∧
    bits memory.seen = reached (Relation.ReflTransGen links) tried, ⟨?_, ?_⟩, ?_⟩
  · exact bits_zero ▸ tracks.blank
  · exact bits_zero.trans reached_empty.symm
  · rintro memory tried starts ⟨recalled, closure⟩ triedInside startsInside
    have seenInside : bits memory.seen ⊆ Set.Iic length := by
      rw [closure]
      exact reached_reflTransGen_subset triedInside (forward.reached_subset subset_rfl)
    have seenClosed : reached links (bits memory.seen) ⊆ bits memory.seen := by
      rw [closure]
      exact reached_reflTransGen_closed
    have freshInside : bits (without starts memory.seen) ⊆ Set.Iic length := by
      rw [bits_without]
      exact Set.sdiff_subset.trans startsInside
    have apart : Disjoint (bits (without starts memory.seen)) (bits memory.seen) := by
      rw [bits_without]
      exact Set.disjoint_sdiff_left
    have grown : Grown links recalls (reached links (bits memory.seen)) memory.seen
        (without starts memory.seen) (attempt.grow (length + 1) memory.first memory.seen 0
          (without starts memory.seen)) := by
      apply grow_grown tracks forward (card_missing_le _) recalled seenInside freshInside apart
      · exact seenClosed.trans Set.subset_union_left
      · rw [bits_zero, Set.union_empty]
    have covers : bits memory.seen ∪ bits (without starts memory.seen) =
        reached (Relation.ReflTransGen links) tried ∪ bits starts := by
      rw [bits_without, Set.union_sdiff_self, closure]
    have settled : bits (attempt.grow (length + 1) memory.first memory.seen 0
        (without starts memory.seen)).2.1 =
          reached (Relation.ReflTransGen links) (tried ∪ bits starts) := by
      apply Set.Subset.antisymm
      · apply grown.least _ reached_reflTransGen_closed
        rw [covers, reached_union]
        exact Set.union_subset_union subset_rfl subset_reached_reflTransGen
      · apply reached_reflTransGen_subset _ grown.closed
        have contains := grown.contains
        rw [covers] at contains
        exact (Set.union_subset_union subset_reached_reflTransGen subset_rfl).trans contains
    refine ⟨⟨grown.recalled, settled⟩, ?_⟩
    rw [reached_transGen, reached_transGen, ← settled, ← closure]
    exact grown.gathered

end Repetition

end Attempt

/-! ## Layouts -/

namespace Layout

/-- The relation that a layout stands for. -/
def Links : Layout → Nat → Nat → Prop
  | stay => Eq
  | jump origins length => fun start stop => start ∈ bits origins ∧ stop = start + length
  | keep positions => fun start stop => start ∈ bits positions ∧ start = stop
  | seq first second => Relation.Comp first.Links second.Links
  | either first second => fun start stop => first.Links start stop ∨ second.Links start stop
  | times body count => Rounds body.Links count
  | upTo body count => RoundsUpTo body.Links count
  | plus body _ => Relation.TransGen body.Links

/-- A layout belongs to texts of a given length: its jumps stay in the text, and it makes as many
rounds as the text has positions. -/
def Fits (length : Nat) : Layout → Prop
  | stay => True
  | jump origins width => ∀ start ∈ bits origins, start + width ≤ length
  | keep _ => True
  | seq first second => first.Fits length ∧ second.Fits length
  | either first second => first.Fits length ∧ second.Fits length
  | times body _ => body.Fits length
  | upTo body _ => body.Fits length
  | plus body rounds => body.Fits length ∧ rounds = length + 1

theorem links_forward {length : Nat} (layout : Layout) (fits : layout.Fits length) :
    Forward length layout.Links := by
  induction layout with
  | stay => exact .eq
  | jump origins width =>
      constructor
      · rintro start stop ⟨_, rfl⟩
        exact Nat.le_add_right start width
      · rintro start stop ⟨mem, rfl⟩
        exact .inr (fits start mem)
  | keep positions =>
      constructor
      · rintro start stop ⟨_, same⟩
        exact same.le
      · rintro start stop ⟨_, same⟩
        exact .inl same
  | seq first second left right => exact (left fits.1).comp (right fits.2)
  | either first second left right => exact (left fits.1).or (right fits.2)
  | times body count forward => exact (forward fits).rounds count
  | upTo body count forward => exact (forward fits).of_exists_rounds
  | plus body rounds forward => exact (forward fits.1).transGen

theorem advance_follows {length : Nat} (layout : Layout) (fits : layout.Fits length) :
    layout.advance.Follows length layout.Links := by
  induction layout with
  | stay => exact Attempt.follows_of_map id (fun _ _ => rfl) (fun _ => reached_eq.symm)
  | jump origins width =>
      apply Attempt.follows_of_map (fun starts => (starts &&& origins) <<< width) (fun _ _ => rfl)
      intro starts
      ext stop
      simp only [mem_bits, Nat.testBit_shiftLeft, Nat.testBit_and, Bool.and_eq_true,
        decide_eq_true_eq]
      constructor
      · rintro ⟨bounded, mem, origin⟩
        exact ⟨stop - width, mem, origin, (Nat.sub_add_cancel bounded).symm⟩
      · rintro ⟨start, mem, origin, rfl⟩
        rw [Nat.add_sub_cancel]
        exact ⟨Nat.le_add_left width start, mem, origin⟩
  | keep positions =>
      apply Attempt.follows_of_map (fun starts => starts &&& positions) (fun _ _ => rfl)
      intro starts
      ext stop
      simp [reached, Links]
  | seq first second left right =>
      exact Attempt.comp_follows (first.links_forward fits.1) (left fits.1) (right fits.2)
  | either first second left right => exact Attempt.or_follows (left fits.1) (right fits.2)
  | times body count follows =>
      exact Attempt.times_follows (body.links_forward fits) (follows fits) count
  | upTo body count follows =>
      exact Attempt.upTo_follows (body.links_forward fits) (follows fits) count
  | plus body rounds follows =>
      rcases fits with ⟨fits, rfl⟩
      exact Attempt.plus_follows (body.links_forward fits) (follows fits)

end Layout

end LogSieve.Regex
