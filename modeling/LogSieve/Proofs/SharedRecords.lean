import Mathlib.Data.List.Nodup
import LogSieve.Proofs.Store.Judging

/-!
# Records that snapshots share

Many snapshots of the rules may judge one record, in any order and again and again,
and a record remembers only the last outcome.  It is tagged with the generation of
its snapshot.  No two snapshots have the same generation, so what is remembered for
a generation is the outcome of the one snapshot that has it; whatever happens in
between, every snapshot of faithful rules judges every record as the linear scan over
its own rules.
-/

namespace LogSieve

/-- What can happen to snapshots and records.  They are named by the order in which
they came. -/
inductive Use where
  /-- A snapshot is built from rules, new ones or those of other snapshots. -/
  | build (rules : List Rule) (version : UInt64)
  /-- A record comes in. -/
  | receive (record : Record)
  /-- A rule judges a record on behalf of another snapshot that has it too. -/
  | lend (snapshot position : Nat) (record : Record)
  /-- A snapshot is asked for the rule that holds for a record. -/
  | find (snapshot entry : Nat)
  /-- A snapshot is asked for its verdict on a record. -/
  | judge (snapshot entry : Nat)
  /-- Records are divided by the verdicts of a snapshot. -/
  | split (snapshot : Nat) (entries : List Nat)

/-- What a use is answered with. -/
inductive Answer where
  | nothing
  | found (position : Option Nat) (rule : Option Rule)
  | judged (verdict : Verdict)
  | halves (kept noise : List Nat)

namespace Answer

/-- The answer with all tests of its rule prepared. -/
def settled : Answer → Answer
  | .found position rule => .found position (rule.map Rule.settled)
  | answer => answer

/-- The answer that tells of a rule, if there is something to tell of. -/
def ofFound : Option (Option Nat × Option Rule) → Answer
  | some (position, rule) => .found position rule
  | none => .nothing

/-- The answer that tells of a verdict, if there is one. -/
def ofVerdict : Option Verdict → Answer
  | some verdict => .judged verdict
  | none => .nothing

end Answer

/-! ## Snapshots and records in use -/

/-- Snapshots and records that are in use together. -/
structure Holdings where
  world : World
  snapshots : List Ruleset := []
  entries : List Entry := []

namespace Holdings

/-- The rule that a snapshot finds for a record, with its position, and what is held
afterwards. -/
def find (holdings : Holdings) (snapshot entry : Nat) :
    Option (Option Nat × Option Rule) × Holdings :=
  match holdings.snapshots[snapshot]?, holdings.entries[entry]? with
  | some ruleset, some known =>
      let (position, used, judged, refused) := ruleset.judge known
      (some (position, used.at? position),
        { world := holdings.world.noteRefused refused
          snapshots := holdings.snapshots.set snapshot used
          entries := holdings.entries.set entry judged })
  | _, _ => (none, holdings)

/-- The rules found for records in turn. -/
def findEach (holdings : Holdings) (snapshot : Nat) :
    List Nat → List (Nat × Option Rule) × Holdings
  | [] => ([], holdings)
  | entry :: rest =>
      let (found, used) := holdings.find snapshot entry
      let (others, last) := used.findEach snapshot rest
      ((found.map fun (_, rule) => (entry, rule)).toList ++ others, last)

/-- What is held after a rule judged a record on behalf of another snapshot. -/
def lend (holdings : Holdings) (snapshot position : Nat) (record : Record) : Holdings :=
  let used (rule : Rule) := (rule.afterJudging record).1
  { holdings with
    snapshots := holdings.snapshots.modify snapshot fun ruleset =>
      { ruleset with rules := ruleset.rules.modify position used } }

/-- The answer to a use, and what is held afterwards. -/
def use (holdings : Holdings) : Use → Answer × Holdings
  | .build rules version =>
      let (ruleset, world) := Ruleset.build rules version holdings.world
      (.nothing, { holdings with world, snapshots := holdings.snapshots ++ [ruleset] })
  | .receive record => (.nothing, { holdings with entries := holdings.entries ++ [{ record }] })
  | .lend snapshot position record => (.nothing, holdings.lend snapshot position record)
  | .find snapshot entry =>
      let (found, used) := holdings.find snapshot entry
      (.ofFound found, used)
  | .judge snapshot entry =>
      let (found, used) := holdings.find snapshot entry
      (.ofVerdict (found.map fun (_, rule) => .ofRule rule), used)
  | .split snapshot entries =>
      let (judged, used) := holdings.findEach snapshot entries
      let (kept, noise) := Ruleset.splitSpam judged
      (.halves kept noise, used)

/-- The answers to uses in turn. -/
def answers (holdings : Holdings) : List Use → List Answer
  | [] => []
  | first :: rest => (holdings.use first).1 :: (holdings.use first).2.answers rest

end Holdings

/-! ## Rules and records alone -/

/-- The rules that snapshots were built from, and the records: nothing is prepared
and nothing is remembered. -/
structure Inventory where
  rules : List (List Rule) := []
  records : List Record := []

namespace Inventory

/-- What the linear scan finds for a record, with its position. -/
def find? (inventory : Inventory) (snapshot entry : Nat) : Option (Option Nat × Option Rule) :=
  match inventory.rules[snapshot]?, inventory.records[entry]? with
  | some rules, some record => some (rules.findIdx? (·.holds record), firstMatch? rules record)
  | _, _ => none

/-- The verdict of the rule that the linear scan finds. -/
def verdict? (inventory : Inventory) (snapshot entry : Nat) : Option Verdict :=
  (inventory.find? snapshot entry).map fun (_, rule) => .ofRule rule

/-- The answer that the linear scan gives. -/
def answer (inventory : Inventory) : Use → Answer
  | .build _ _ | .receive _ | .lend _ _ _ => .nothing
  | .find snapshot entry => .ofFound (inventory.find? snapshot entry)
  | .judge snapshot entry => .ofVerdict (inventory.verdict? snapshot entry)
  | .split snapshot entries =>
      .halves (entries.filter fun entry => (inventory.verdict? snapshot entry).any (· != .spam))
        (entries.filter fun entry => (inventory.verdict? snapshot entry).any (· == .spam))

/-- The inventory after a use. -/
def after (inventory : Inventory) : Use → Inventory
  | .build rules _ => { inventory with rules := inventory.rules ++ [rules] }
  | .receive record => { inventory with records := inventory.records ++ [record] }
  | _ => inventory

/-- The answers of the linear scan to uses in turn. -/
def answers (inventory : Inventory) : List Use → List Answer
  | [] => []
  | first :: rest => inventory.answer first :: (inventory.after first).answers rest

end Inventory

/-! ## What is remembered stays right -/

namespace Holdings

/-- Every snapshot has its bulk matcher and a generation of its own, and every record
fits all of them. -/
structure Coherent (holdings : Holdings) : Prop where
  built : ∀ ruleset ∈ holdings.snapshots, ruleset.Built
  apart : (holdings.snapshots.map (·.generation)).Nodup
  issued : ∀ ruleset ∈ holdings.snapshots, ruleset.generation ≤ holdings.world.generations
  known : ∀ entry ∈ holdings.entries, ∀ memo, entry.memo = some memo →
    memo.generation ≤ holdings.world.generations
  fits : ∀ entry ∈ holdings.entries, ∀ ruleset ∈ holdings.snapshots, entry.Fits ruleset

/-- A snapshot is an earlier one with further tests prepared. -/
theorem exists_settled_eq {before after : List Ruleset}
    (same : after.map Ruleset.settled = before.map Ruleset.settled) :
    ∀ ruleset ∈ after, ∃ other ∈ before, other.settled = ruleset.settled := by
  intro ruleset member
  have settled : ruleset.settled ∈ after.map Ruleset.settled := List.mem_map_of_mem member
  rw [same] at settled
  exact List.mem_map.mp settled

namespace Coherent

variable {before after : Holdings}

/-- Preparing tests harms nothing. -/
theorem of_settled_eq (coherent : Coherent before)
    (snapshots : after.snapshots.map Ruleset.settled = before.snapshots.map Ruleset.settled)
    (generations : after.world.generations = before.world.generations)
    (entries : after.entries = before.entries) : Coherent after := by
  have origin := exists_settled_eq snapshots
  have numbers (rulesets : List Ruleset) : rulesets.map (·.generation) =
      (rulesets.map Ruleset.settled).map (·.generation) := by
    rw [List.map_map]
    rfl
  constructor
  · intro ruleset member
    obtain ⟨other, held, same⟩ := origin ruleset member
    exact (coherent.built other held).of_settled_eq same
  · rw [numbers, snapshots, ← numbers]
    exact coherent.apart
  · intro ruleset member
    obtain ⟨other, held, same⟩ := origin ruleset member
    rw [← Ruleset.generation_of_settled_eq same, generations]
    exact coherent.issued other held
  · rw [entries, generations]
    exact coherent.known
  · intro entry stands ruleset member
    obtain ⟨other, held, same⟩ := origin ruleset member
    exact (coherent.fits entry (entries ▸ stands) other held).of_settled_eq same

/-- What a snapshot finds for a record may be remembered: no other snapshot has its
generation. -/
theorem remember (coherent : Coherent before) {ruleset : Ruleset}
    (held : ruleset ∈ before.snapshots) (entry : Nat) (record : Record) :
    Coherent { before with entries := before.entries.set entry (ruleset.remembered record) } where
  built := coherent.built
  apart := coherent.apart
  issued := coherent.issued
  known := by
    intro judged stands memo remembers
    cases List.mem_or_eq_of_mem_set stands with
    | inl old => exact coherent.known judged old memo remembers
    | inr new =>
        rw [new] at remembers
        cases remembers
        exact coherent.issued ruleset held
  fits := by
    intro judged stands other member
    cases List.mem_or_eq_of_mem_set stands with
    | inl old => exact coherent.fits judged old other member
    | inr new =>
        rw [new]
        intro memo remembers current
        have tagged : memo.generation = ruleset.generation := by
          cases remembers
          rfl
        have same : ruleset = other :=
          List.inj_on_of_nodup_map coherent.apart held member (tagged.symm.trans current)
        exact same ▸ ruleset.fits_remembered record memo remembers tagged

/-- A new snapshot has a generation that no record has seen. -/
theorem build (coherent : Coherent before) (rules : List Rule) (version : UInt64) :
    Coherent (before.use (.build rules version)).2 where
  built := by
    intro ruleset member
    cases List.mem_append.mp member with
    | inl old => exact coherent.built ruleset old
    | inr new =>
        rw [List.mem_singleton.mp new]
        exact Ruleset.built_build rules version before.world
  apart := by
    have numbers : (before.use (.build rules version)).2.snapshots.map (·.generation) =
        before.snapshots.map (·.generation) ++ [before.world.generations + 1] := List.map_append
    rw [numbers]
    apply coherent.apart.append (List.nodup_singleton _)
    intro generation old new
    obtain ⟨ruleset, held, rfl⟩ := List.mem_map.mp old
    have bound := coherent.issued ruleset held
    rw [List.mem_singleton.mp new] at bound
    exact absurd bound (Nat.not_succ_le_self _)
  issued := by
    intro ruleset member
    cases List.mem_append.mp member with
    | inl old => exact Nat.le_succ_of_le (coherent.issued ruleset old)
    | inr new =>
        rw [List.mem_singleton.mp new]
        exact Nat.le_refl _
  known := by
    intro entry stands memo remembers
    exact Nat.le_succ_of_le (coherent.known entry stands memo remembers)
  fits := by
    intro entry stands ruleset member
    cases List.mem_append.mp member with
    | inl old => exact coherent.fits entry stands ruleset old
    | inr new =>
        intro memo remembers current
        have older := coherent.known entry stands memo remembers
        rw [current, List.mem_singleton.mp new] at older
        exact absurd older (Nat.not_succ_le_self _)

/-- A record that comes in remembers nothing. -/
theorem receive (coherent : Coherent before) (record : Record) :
    Coherent (before.use (.receive record)).2 where
  built := coherent.built
  apart := coherent.apart
  issued := coherent.issued
  known := by
    intro entry stands memo remembers
    cases List.mem_append.mp stands with
    | inl old => exact coherent.known entry old memo remembers
    | inr new =>
        rw [List.mem_singleton.mp new] at remembers
        cases remembers
  fits := by
    intro entry stands ruleset held
    cases List.mem_append.mp stands with
    | inl old => exact coherent.fits entry old ruleset held
    | inr new =>
        rw [List.mem_singleton.mp new]
        exact Entry.fits_of_memo_eq_none rfl ruleset

end Coherent

/-! ## Following the inventory -/

/-- What is held is coherent, and is what the inventory lists, but for prepared tests
and memories; the rules are faithful. -/
structure Follows (holdings : Holdings) (inventory : Inventory) : Prop where
  coherent : Coherent holdings
  faithful : ∀ ruleset ∈ holdings.snapshots, ruleset.Faithful
  rules : holdings.snapshots.map (·.rules.map Rule.settled) =
    inventory.rules.map (·.map Rule.settled)
  records : holdings.entries.map (·.record) = inventory.records

variable {holdings : Holdings} {inventory : Inventory}

/-- Preparing tests does not part holdings and inventory. -/
theorem Follows.of_settled_eq {after : Holdings} (follows : Follows holdings inventory)
    (snapshots : after.snapshots.map Ruleset.settled = holdings.snapshots.map Ruleset.settled)
    (generations : after.world.generations = holdings.world.generations)
    (entries : after.entries = holdings.entries) : Follows after inventory where
  coherent := follows.coherent.of_settled_eq snapshots generations entries
  faithful := by
    intro ruleset member
    obtain ⟨other, held, same⟩ := exists_settled_eq snapshots ruleset member
    exact (follows.faithful other held).of_settled_eq same
  rules := by
    have views (rulesets : List Ruleset) : rulesets.map (·.rules.map Rule.settled) =
        (rulesets.map Ruleset.settled).map (·.rules) := by
      rw [List.map_map]
      rfl
    rw [views, snapshots, ← views]
    exact follows.rules
  records := by rw [entries, follows.records]

/-- Nor does remembering what a snapshot finds. -/
theorem Follows.remember (follows : Follows holdings inventory) {ruleset : Ruleset}
    (held : ruleset ∈ holdings.snapshots) {entry : Nat} {known : Entry}
    (stands : holdings.entries[entry]? = some known) :
    Follows { holdings with
      entries := holdings.entries.set entry (ruleset.remembered known.record) } inventory where
  coherent := follows.coherent.remember held entry known.record
  faithful := follows.faithful
  rules := follows.rules
  records := by
    have same : (ruleset.remembered known.record).record = known.record := rfl
    rw [map_set_of_eq stands same, follows.records]

/-! ## Finding rules -/

theorem firstMatch?_map_settled (rules : List Rule) (record : Record) :
    firstMatch? (rules.map Rule.settled) record =
      (firstMatch? rules record).map Rule.settled := by
  simp [firstMatch?, List.find?_map]

theorem ofRule_map_settled (rule : Option Rule) :
    Verdict.ofRule (rule.map Rule.settled) = Verdict.ofRule rule := by
  cases rule <;> rfl

/-- What was found, with all tests of the rule prepared. -/
def settle (found : Option Nat × Option Rule) : Option Nat × Option Rule :=
  (found.1, found.2.map Rule.settled)

/-- A snapshot of faithful rules finds what the linear scan over them finds. -/
theorem settle_judge {ruleset : Ruleset} {known : Entry} {rules : List Rule}
    (built : ruleset.Built) (faithful : ruleset.Faithful) (fits : known.Fits ruleset)
    (same : ruleset.rules.map Rule.settled = rules.map Rule.settled) :
    settle ((ruleset.judge known).1,
        (ruleset.judge known).2.1.at? (ruleset.judge known).1) =
      settle (rules.findIdx? (·.holds known.record), firstMatch? rules known.record) := by
  have position := (Ruleset.judge_eq fits).1.trans (built.pick?_eq_scan faithful known.record)
  rw [settle, settle, Ruleset.at?_of_settled_eq (ruleset.judge_settled known), position,
    Ruleset.at?_scan, Ruleset.scan, ← findIdx?_holds_map_settled, ← firstMatch?_map_settled, same,
    findIdx?_holds_map_settled, firstMatch?_map_settled]

/-- A snapshot that is held finds for a record what the linear scan finds, and
holdings and inventory stay together. -/
theorem Follows.find (follows : Follows holdings inventory) (snapshot entry : Nat) :
    (holdings.find snapshot entry).1.map settle =
        (inventory.find? snapshot entry).map settle ∧
      Follows (holdings.find snapshot entry).2 inventory := by
  have listed : (holdings.snapshots[snapshot]?).map (·.rules.map Rule.settled) =
      (inventory.rules[snapshot]?).map (·.map Rule.settled) := by
    rw [← List.getElem?_map, follows.rules, List.getElem?_map]
  have record : (holdings.entries[entry]?).map (·.record) = inventory.records[entry]? := by
    rw [← List.getElem?_map, follows.records]
  rw [Holdings.find, Inventory.find?, ← record]
  cases held : holdings.snapshots[snapshot]? with
  | none =>
      rw [held, Option.map_none, eq_comm, Option.map_eq_none_iff] at listed
      rw [listed]
      exact ⟨rfl, follows⟩
  | some ruleset =>
      rw [held, Option.map_some, eq_comm, Option.map_eq_some_iff] at listed
      obtain ⟨rules, listed, same⟩ := listed
      rw [listed]
      cases stands : holdings.entries[entry]? with
      | none => exact ⟨rfl, follows⟩
      | some known =>
          have member := List.mem_of_getElem? held
          have built := follows.coherent.built ruleset member
          have fits := follows.coherent.fits known (List.mem_of_getElem? stands) ruleset member
          constructor
          · exact congrArg some
              (settle_judge built (follows.faithful ruleset member) fits same.symm)
          · apply (follows.remember member stands).of_settled_eq
            · exact map_set_of_eq held (ruleset.judge_settled known)
            · exact (World.Noted.noteRefused _ _).generations
            · exact congrArg (holdings.entries.set entry) (Ruleset.judge_eq fits).2

theorem map_ofRule_of_settle {found other : Option (Option Nat × Option Rule)}
    (same : found.map settle = other.map settle) :
    (found.map fun (_, rule) => Verdict.ofRule rule) =
      other.map fun (_, rule) => Verdict.ofRule rule := by
  have verdicts := congrArg (Option.map fun (_, rule) => Verdict.ofRule rule) same
  simpa [Function.comp_def, settle, ofRule_map_settled] using verdicts

/-- So it does for records in turn. -/
theorem Follows.findEach (follows : Follows holdings inventory) (snapshot : Nat)
    (entries : List Nat) :
    (holdings.findEach snapshot entries).1.map (fun (entry, rule) => (entry, Verdict.ofRule rule)) =
        entries.filterMap (fun entry => (inventory.verdict? snapshot entry).map (entry, ·)) ∧
      Follows (holdings.findEach snapshot entries).2 inventory := by
  induction entries generalizing holdings with
  | nil => exact ⟨rfl, follows⟩
  | cons entry rest ih =>
      obtain ⟨found, used⟩ := follows.find snapshot entry
      obtain ⟨others, last⟩ := ih used
      refine ⟨?_, last⟩
      rw [Holdings.findEach, List.map_append, others, List.filterMap_cons, Inventory.verdict?,
        ← map_ofRule_of_settle found]
      cases (holdings.find snapshot entry).1 <;> rfl

/-! ## Dividing records -/

/-- The things with wanted verdicts, in order. -/
theorem map_filter_filterMap (verdict? : Nat → Option Verdict) (wanted : Verdict → Bool)
    (entries : List Nat) :
    ((entries.filterMap fun entry => (verdict? entry).map (entry, ·)).filter
        fun (_, verdict) => wanted verdict).map (·.1) =
      entries.filter fun entry => (verdict? entry).any wanted := by
  induction entries with
  | nil => rfl
  | cons entry rest ih =>
      cases judged : verdict? entry with
      | none => simpa [judged] using ih
      | some verdict => by_cases wants : wanted verdict = true <;> simpa [judged, wants] using ih

/-- Dividing goes by the verdicts alone and keeps the order. -/
theorem splitSpam_of_verdicts {judged : List (Nat × Option Rule)} {entries : List Nat}
    {verdict? : Nat → Option Verdict}
    (verdicts : judged.map (fun (entry, rule) => (entry, Verdict.ofRule rule)) =
      entries.filterMap fun entry => (verdict? entry).map (entry, ·)) :
    Ruleset.splitSpam judged =
      (entries.filter fun entry => (verdict? entry).any (· != .spam),
        entries.filter fun entry => (verdict? entry).any (· == .spam)) := by
  have half (wanted : Verdict → Bool) :
      (judged.filter fun (_, rule) => wanted (.ofRule rule)).map (·.1) =
        entries.filter fun entry => (verdict? entry).any wanted := by
    rw [← map_filter_filterMap, ← verdicts, List.filter_map, List.map_map]
    rfl
  rw [← half, ← half]
  simp [Ruleset.splitSpam, List.partition_eq_filter_filter, Function.comp_def, bne]

/-! ## Every use -/

theorem map_modify_of_eq {α β : Type} {view : α → β} {change : α → α}
    (same : ∀ value, view (change value) = view value) (list : List α) (position : Nat) :
    (list.modify position change).map view = list.map view := by
  apply List.ext_getElem?
  intro other
  rw [List.getElem?_map, List.getElem?_map, List.getElem?_modify]
  cases list[other]? with
  | none => rfl
  | some value => by_cases here : position = other <;> simp [here, same]

/-- Lending a rule prepares its tests at most. -/
theorem map_settled_lend (holdings : Holdings) (snapshot position : Nat) (record : Record) :
    (holdings.lend snapshot position record).snapshots.map Ruleset.settled =
      holdings.snapshots.map Ruleset.settled := by
  apply map_modify_of_eq
  intro ruleset
  have rules := map_modify_of_eq (fun rule => Rule.afterJudging_settled rule record) ruleset.rules
    position
  rw [Ruleset.settled, rules, Ruleset.settled]

theorem settled_ofFound (found : Option (Option Nat × Option Rule)) :
    (Answer.ofFound found).settled = .ofFound (found.map settle) := by
  cases found <;> rfl

/-- A use is answered as by the linear scan, and holdings and inventory stay
together. -/
theorem Follows.use (follows : Follows holdings inventory) (use : Use)
    (faithful : ∀ rules version, use = .build rules version → ∀ rule ∈ rules, rule.Faithful) :
    (holdings.use use).1.settled = (inventory.answer use).settled ∧
      Follows (holdings.use use).2 (inventory.after use) := by
  cases use with
  | build rules version =>
      refine ⟨rfl, follows.coherent.build rules version, ?_, ?_, follows.records⟩
      · intro ruleset member
        cases List.mem_append.mp member with
        | inl old => exact follows.faithful ruleset old
        | inr new =>
            rw [List.mem_singleton.mp new]
            exact faithful rules version rfl
      · simp only [Holdings.use, Inventory.after, List.map_append, follows.rules]
        rfl
  | receive record =>
      refine ⟨rfl, follows.coherent.receive record, follows.faithful, follows.rules, ?_⟩
      simp only [Holdings.use, Inventory.after, List.map_append, follows.records]
      rfl
  | lend snapshot position record =>
      exact ⟨rfl, follows.of_settled_eq (map_settled_lend holdings snapshot position record) rfl rfl⟩
  | find snapshot entry =>
      obtain ⟨found, used⟩ := follows.find snapshot entry
      refine ⟨?_, used⟩
      simp only [Holdings.use, Inventory.answer, settled_ofFound, found]
  | judge snapshot entry =>
      obtain ⟨found, used⟩ := follows.find snapshot entry
      refine ⟨?_, used⟩
      exact congrArg (fun verdict => (Answer.ofVerdict verdict).settled) (map_ofRule_of_settle found)
  | split snapshot entries =>
      obtain ⟨verdicts, used⟩ := follows.findEach snapshot entries
      refine ⟨?_, used⟩
      simp only [Holdings.use, splitSpam_of_verdicts verdicts, Inventory.answer]

/-- Uses in turn are answered as by the linear scan. -/
theorem Follows.answers (follows : Follows holdings inventory) {uses : List Use}
    (faithful : ∀ rules version, .build rules version ∈ uses → ∀ rule ∈ rules, rule.Faithful) :
    (holdings.answers uses).map Answer.settled = (inventory.answers uses).map Answer.settled := by
  induction uses generalizing holdings inventory with
  | nil => rfl
  | cons first rest ih =>
      have firstFaithful rules version (built : first = .build rules version) :
          ∀ rule ∈ rules, rule.Faithful :=
        faithful rules version (by simp [built])
      obtain ⟨answered, together⟩ := follows.use first firstFaithful
      rw [Holdings.answers, Inventory.answers, List.map_cons, List.map_cons, answered,
        ih together fun rules version later => faithful rules version (.tail first later)]

theorem follows_nothing (world : World) : Follows { world } {} where
  coherent := by constructor <;> simp
  faithful := List.forall_mem_nil _
  rules := rfl
  records := rfl

end Holdings

/-- Snapshots judge as the linear scan does, whatever records remember.  Snapshots
are built from faithful rules, with any versions, records come in, and the snapshots find
rules for them, judge them and divide them in any order; every answer is the one that
the scan over the rules of the snapshot gives. -/
theorem answers_eq_scan (world : World) (uses : List Use)
    (faithful : ∀ rules version, .build rules version ∈ uses → ∀ rule ∈ rules, rule.Faithful) :
    (Holdings.answers { world } uses).map Answer.settled =
      (Inventory.answers {} uses).map Answer.settled :=
  (Holdings.follows_nothing world).answers faithful

/-- Two snapshots of the same version that differ about a record. -/
def sharedUses : List Use :=
  [.build Bulk.mixedRules 3,
    .build [{ id := 9, ham := true, matchers := [.equal "source" "cron"] }] 3,
    .receive Bulk.cronRecord, .judge 0 0, .judge 1 0, .judge 0 0, .lend 0 5 Bulk.cronRecord,
    .find 1 0, .split 0 [0, 0]]

theorem answers_eq_scan_shared :
    (∀ rules version, .build rules version ∈ sharedUses → ∀ rule ∈ rules, rule.Faithful) ∧
      (Holdings.answers { world := {} } sharedUses).map Answer.settled =
        (Inventory.answers {} sharedUses).map Answer.settled ∧
      (Inventory.answers {} sharedUses)[4]? = some (.judged .ham) ∧
      (Inventory.answers {} sharedUses)[5]? = some (.judged .spam) ∧
      (Inventory.answers {} sharedUses)[8]? = some (.halves [] [0, 0]) := by
  have unused : ∀ rules version, .build rules version ∈ sharedUses →
      ∀ rule ∈ rules, rule.isUnused = true := by
    intro rules version built
    simp only [sharedUses, List.mem_cons, Use.build.injEq, reduceCtorEq, List.not_mem_nil,
      or_false] at built
    obtain ⟨rfl, -⟩ | ⟨rfl, -⟩ := built
    · decide
    · decide
  have faithful : ∀ rules version, .build rules version ∈ sharedUses →
      ∀ rule ∈ rules, rule.Faithful :=
    fun rules version built rule member =>
      Rule.faithful_of_isUnused (unused rules version built rule member)
  exact ⟨faithful, answers_eq_scan {} sharedUses faithful, rfl, rfl, rfl⟩

/-- A snapshot of a rule that is not faithful, and a record. -/
def retypedUses : List Use :=
  [.build [Bulk.retypedRule] 0, .receive Bulk.cronRecord, .find 0 0, .judge 0 0]

/-- The snapshot finds nothing for the record and has no verdict, where the linear scan finds
the rule. -/
theorem answers_of_retypedUses :
    Holdings.answers { world := {} } retypedUses =
        [.nothing, .nothing, .found none none, .judged .unknown] ∧
      Inventory.answers {} retypedUses =
        [.nothing, .nothing, .found (some 0) (some Bulk.retypedRule), .judged .spam] :=
  ⟨rfl, rfl⟩

end LogSieve
