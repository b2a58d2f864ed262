import LogSieve.Proofs.Entries
import LogSieve.Proofs.Store.Judging

/-!
# Hit counts

The hits that a store keeps are those that its snapshot finds in its buffer, after
every run; with faithful rules they are those of the linear scan.  Two things carry
this.  What the records remember of the current snapshot is right, since a snapshot
never gets a generation that some record remembers.  And hits that belong to the
current snapshot grow by exactly the hits of the records that come in.
-/

namespace LogSieve

/-! ## Counters -/

namespace HitCounts

/-- The count under an id. -/
def countOf (counts : List (UInt64 × Nat)) (id : UInt64) : Nat := (counts.lookup id).getD 0

@[simp] theorem countOf_cons (key : UInt64) (count : Nat) (rest : List (UInt64 × Nat))
    (id : UInt64) :
    countOf ((key, count) :: rest) id = if key = id then count else countOf rest id := by
  by_cases same : key = id
  · simp [countOf, same]
  · simp [countOf, List.lookup_cons, beq_false_of_ne (Ne.symm same), same]

theorem add_eq_upsert (key : UInt64) (counts : List (UInt64 × Nat)) :
    add key counts = upsert Prod.fst key (Prod.map id (· + 1)) (key, 1) counts := by
  induction counts with
  | nil => rfl
  | cons entry rest ih =>
      rw [add, upsert, ih]
      rfl

theorem countOf_add (id other : UInt64) (counts : List (UInt64 × Nat)) :
    countOf (add id counts) other = countOf counts other + if id = other then 1 else 0 := by
  rw [countOf, add_eq_upsert, lookup_upsert]
  by_cases same : other = id
  · subst same
    cases found : counts.lookup other with
    | none => simp [countOf, found]
    | some count => simp [countOf, found]
  · simp [countOf, same, Ne.symm same]

/-- Counting judged records adds, for each id, the rules with that id. -/
theorem countOf_addAll (counts : List (UInt64 × Nat)) (found : List (Option Rule)) (id : UInt64) :
    countOf (addAll counts found) id =
      countOf counts id + found.countP (·.any (·.id == id)) := by
  rw [addAll]
  induction found generalizing counts with
  | nil => rfl
  | cons rule rest ih =>
      rw [List.foldl_cons, ih, List.countP_cons]
      cases rule with
      | none => simp
      | some rule =>
          simp only [countOf_add, Option.any_some, beq_iff_eq]
          omega

theorem countOf_zeros (rules : List Rule) (id : UInt64) :
    countOf (rules.map fun rule => (rule.id, 0)) id = 0 := by
  induction rules with
  | nil => rfl
  | cons rule rest ih => simp [ih]

end HitCounts

namespace Ruleset

/-- How many records a snapshot gives to rules with an id. -/
def matchesIn (ruleset : Ruleset) (records : List Record) (id : UInt64) : Nat :=
  records.countP fun record => (ruleset.match? record).any (·.id == id)

/-- How many records the linear scan gives to rules with an id. -/
def hitsIn (ruleset : Ruleset) (records : List Record) (id : UInt64) : Nat :=
  records.countP fun record => (firstMatch? ruleset.rules record).any (·.id == id)

/-- A snapshot of faithful rules gives records to rules as the linear scan does. -/
theorem Built.matchesIn_eq_hitsIn {ruleset : Ruleset} (built : ruleset.Built)
    (faithful : ruleset.Faithful) (records : List Record) (id : UInt64) :
    ruleset.matchesIn records id = ruleset.hitsIn records id := by
  rw [matchesIn, hitsIn]
  apply List.countP_congr
  intro record _
  rw [built.match?_eq_firstMatch? faithful]

theorem matchesIn_append (ruleset : Ruleset) (first second : List Record) (id : UInt64) :
    ruleset.matchesIn (first ++ second) id =
      ruleset.matchesIn first id + ruleset.matchesIn second id :=
  List.countP_append

theorem any_id_map_settled (rule : Option Rule) (id : UInt64) :
    (rule.map Rule.settled).any (·.id == id) = rule.any (·.id == id) := by
  cases rule <;> rfl

theorem matchesIn_of_settled_eq {first second : Ruleset} (same : first.settled = second.settled)
    (records : List Record) (id : UInt64) :
    first.matchesIn records id = second.matchesIn records id := by
  rw [matchesIn]
  apply List.countP_congr
  intro record _
  rw [← any_id_map_settled, match?_of_settled_eq same, any_id_map_settled]

/-- The rules found for records that fit are the matches among them. -/
theorem countP_judgeAll {ruleset : Ruleset} {entries : List Entry}
    (fit : ∀ entry ∈ entries, entry.Fits ruleset) (id : UInt64) :
    (ruleset.judgeAll entries).1.countP (·.any (·.id == id)) =
      ruleset.matchesIn (entries.map (·.record)) id := by
  calc (ruleset.judgeAll entries).1.countP (·.any (·.id == id))
    _ = ((ruleset.judgeAll entries).1.map (Option.map Rule.settled)).countP
          (·.any (·.id == id)) := by
      simp only [List.countP_map, Function.comp_def, any_id_map_settled]
    _ = ruleset.matchesIn (entries.map (·.record)) id := by
      rw [(judgeAll_eq fit).1]
      simp only [matchesIn, List.countP_map, Function.comp_def, any_id_map_settled]

end Ruleset

namespace Session

variable {σ : Type}

/-! ## What is right in every session -/

/-- Bulk matcher and memories are right, and no record remembers a later snapshot. -/
structure Sound (session : Session σ) : Prop where
  built : session.store.ruleset.Built
  current : session.store.ruleset.generation ≤ session.world.generations
  known : ∀ entry ∈ session.store.buffer.entries, ∀ memo, entry.memo = some memo →
    memo.generation ≤ session.world.generations
  fit : ∀ entry ∈ session.store.buffer.entries, entry.Fits session.store.ruleset

/-- The hits kept for the current snapshot are those that it finds. -/
def Counted (session : Session σ) : Prop :=
  ∀ hits, session.store.hits = some hits →
    hits.generation = session.store.ruleset.generation →
      ∀ id, hits.get id = session.store.ruleset.matchesIn session.store.buffer.records id

theorem counted_of_hits_eq_none {session : Session σ} (none : session.store.hits = none) :
    Counted session := by
  intro hits kept
  rw [none] at kept
  cases kept

/-! ## Judging -/

theorem records_judging (session : Session σ) (count : Nat) :
    (session.judging count).2.store.buffer.records = session.store.buffer.records := by
  simp only [judging, Buffer.records, List.map_append, Ruleset.judgeAll_records]
  rw [← List.map_append, List.take_append_drop]

theorem Counted.judging {session : Session σ} (counted : Counted session) (count : Nat) :
    Counted (session.judging count).2 := by
  have same := (session.watched_judging count).ruleset
  intro hits kept current id
  rw [records_judging, Ruleset.matchesIn_of_settled_eq same]
  exact counted hits kept (current.trans (Ruleset.generation_of_settled_eq same)) id

theorem Sound.fit_take {session : Session σ} (sound : Sound session) (count : Nat) :
    ∀ entry ∈ session.store.buffer.entries.take count, entry.Fits session.store.ruleset :=
  fun entry member => sound.fit entry (List.mem_of_mem_take member)

/-- A record was judged by the current snapshot, or is as it was. -/
theorem Sound.eq_remembered_or_mem {session : Session σ} (sound : Sound session) {count : Nat}
    {entry : Entry} (member : entry ∈ (session.judging count).2.store.buffer.entries) :
    (∃ record, entry = session.store.ruleset.remembered record) ∨
      entry ∈ session.store.buffer.entries := by
  have judged := (Ruleset.judgeAll_eq (sound.fit_take count)).2
  simp only [Session.judging, judged, List.mem_append, List.mem_map] at member
  obtain ⟨other, -, rfl⟩ | later := member
  · exact .inl ⟨other.record, rfl⟩
  · exact .inr (List.mem_of_mem_drop later)

theorem Sound.judging {session : Session σ} (sound : Sound session) (count : Nat) :
    Sound (session.judging count).2 := by
  have watched := session.watched_judging count
  constructor
  · exact sound.built.of_settled_eq watched.ruleset.symm
  · rw [Ruleset.generation_of_settled_eq watched.ruleset, watched.world.generations]
    exact sound.current
  · intro entry member memo remembers
    rw [watched.world.generations]
    obtain ⟨record, rfl⟩ | old := sound.eq_remembered_or_mem member
    · cases remembers
      exact sound.current
    · exact sound.known entry old memo remembers
  · intro entry member
    apply Entry.Fits.of_settled_eq _ watched.ruleset.symm
    obtain ⟨record, rfl⟩ | old := sound.eq_remembered_or_mem member
    · exact Ruleset.fits_remembered _ record
    · exact sound.fit entry old

/-- The rules found for the first records are the hits among them. -/
theorem Sound.countP_judging {session : Session σ} (sound : Sound session) (count : Nat)
    (id : UInt64) :
    (session.judging count).1.countP (·.any (·.id == id)) =
      session.store.ruleset.matchesIn (session.store.buffer.records.take count) id := by
  rw [Buffer.records, ← List.map_take]
  exact Ruleset.countP_judgeAll (sound.fit_take count) id

/-! ## Counting -/

theorem Sound.withHits {session : Session σ} (sound : Sound session) (hits : Option HitCounts) :
    Sound (session.withHits hits) :=
  ⟨sound.built, sound.current, sound.known, sound.fit⟩

/-- Hits that are right for the rules and records of a session are right when kept. -/
theorem counted_withHits {session : Session σ} {hits : HitCounts}
    (right : ∀ id, hits.get id =
      session.store.ruleset.matchesIn session.store.buffer.records id) :
    Counted (session.withHits (some hits)) := by
  intro kept same _ id
  cases same
  exact right id

theorem hits_of_currentHits?_eq_some {session : Session σ} {hits : HitCounts}
    (current : session.currentHits? = some hits) :
    session.store.hits = some hits ∧ hits.generation = session.store.ruleset.generation := by
  simpa [currentHits?, Option.filter_eq_some_iff] using current

/-- The hits counted are those that the snapshot finds, and stay right. -/
theorem Sound.counting {session : Session σ} (sound : Sound session) (counted : Counted session) :
    (∀ id, session.counting.1.get id =
        session.store.ruleset.matchesIn session.store.buffer.records id) ∧
      Sound session.counting.2 ∧ Counted session.counting.2 ∧
      session.counting.2.store.buffer.records = session.store.buffer.records := by
  rw [Session.counting]
  cases current : session.currentHits? with
  | some hits =>
      obtain ⟨kept, generation⟩ := hits_of_currentHits?_eq_some current
      have right := counted hits kept generation
      exact ⟨right, sound.withHits _, counted_withHits right, rfl⟩
  | none =>
      have dropped := sound.withHits none
      have right (id : UInt64) : HitCounts.countOf (HitCounts.addAll
          (session.store.ruleset.rules.map fun rule => (rule.id, 0))
          ((session.withHits none).judging session.store.buffer.entries.length).1) id =
          session.store.ruleset.matchesIn session.store.buffer.records id := by
        rw [HitCounts.countOf_addAll, HitCounts.countOf_zeros, Nat.zero_add,
          dropped.countP_judging]
        have all : session.store.buffer.records.take session.store.buffer.entries.length =
            session.store.buffer.records :=
          List.take_of_length_le (by simp [Buffer.records])
        exact congrArg (session.store.ruleset.matchesIn · id) all
      refine ⟨right, (dropped.judging _).withHits _, counted_withHits ?_, records_judging _ _⟩
      intro id
      rw [records_judging, Ruleset.matchesIn_of_settled_eq (watched_judging _ _).ruleset]
      exact right id

/-! ## Taking in records -/

variable {before after : Session σ}

theorem Polled.ruleset_eq (polled : Polled before after) :
    after.store.ruleset = before.store.ruleset := by
  rw [polled.store]

theorem Polled.hits_eq (polled : Polled before after) :
    after.store.hits = before.store.hits := by
  rw [polled.store]

theorem Sound.of_pollFailed (sound : Sound before) (failed : PollFailed before after) :
    Sound after where
  built := by
    rw [failed.ruleset_eq]
    exact sound.built
  current := by
    rw [failed.ruleset_eq, failed.world.generations]
    exact sound.current
  known := by
    rw [failed.entries, failed.world.generations]
    exact sound.known
  fit := by
    rw [failed.entries, failed.ruleset_eq]
    exact sound.fit

theorem Counted.of_pollFailed (counted : Counted before) (failed : PollFailed before after) :
    Counted after := by
  rw [Counted]
  rw [failed.hits_eq, failed.ruleset_eq, Buffer.records, failed.entries]
  exact counted

theorem mem_entries_accept {buffer : Buffer} {fresh : List Record} {entry : Entry}
    (member : entry ∈ (buffer.accept fresh).entries) :
    entry.memo = none ∨ entry ∈ buffer.entries := by
  simp only [Buffer.accept, List.mem_append, List.mem_map] at member
  obtain ⟨record, -, rfl⟩ | old := member
  · exact .inl rfl
  · exact .inr old

theorem records_accept (buffer : Buffer) (fresh : List Record) :
    (buffer.accept fresh).records = fresh ++ buffer.records := by
  simp [Buffer.accept, Buffer.records, Function.comp_def]

theorem Sound.of_pollAnswered {fresh : List Record} (sound : Sound before)
    (answered : PollAnswered fresh before after) : Sound after where
  built := by
    rw [answered.ruleset_eq]
    exact sound.built
  current := by
    rw [answered.ruleset_eq, answered.world.generations]
    exact sound.current
  known := by
    rw [answered.buffer, answered.world.generations]
    intro entry member memo remembers
    obtain forgets | old := mem_entries_accept member
    · rw [forgets] at remembers
      cases remembers
    · exact sound.known entry old memo remembers
  fit := by
    rw [answered.buffer, answered.ruleset_eq]
    intro entry member
    obtain forgets | old := mem_entries_accept member
    · exact Entry.fits_of_memo_eq_none forgets _
    · exact sound.fit entry old

/-- Counting the new records keeps the hits right. -/
theorem Sound.countingFresh {fresh : List Record} (sound : Sound before)
    (counted : Counted before) (answered : PollAnswered fresh before after) :
    Sound (after.countingFresh fresh.length) ∧ Counted (after.countingFresh fresh.length) := by
  have taken := sound.of_pollAnswered answered
  rw [Session.countingFresh]
  cases current : after.currentHits? with
  | none => exact ⟨taken.withHits none, counted_of_hits_eq_none rfl⟩
  | some hits =>
      obtain ⟨kept, generation⟩ := hits_of_currentHits?_eq_some current
      rw [answered.hits_eq] at kept
      rw [answered.ruleset_eq] at generation
      have right := counted hits kept generation
      refine ⟨((taken.withHits _).judging _).withHits _, counted_withHits ?_⟩
      intro id
      rw [records_judging, Ruleset.matchesIn_of_settled_eq (watched_judging _ _).ruleset]
      -- Only the fresh records are judged; the older ones are in the kept hits already.
      have records : after.store.buffer.records = fresh ++ before.store.buffer.records := by
        rw [answered.buffer, records_accept]
      calc HitCounts.countOf (HitCounts.addAll hits.counts
            ((after.withHits (some hits)).judging fresh.length).1) id
        _ = hits.get id + after.store.ruleset.matchesIn
              (after.store.buffer.records.take fresh.length) id := by
          rw [HitCounts.countOf_addAll, (taken.withHits _).countP_judging]
          rfl
        _ = before.store.ruleset.matchesIn before.store.buffer.records id +
              before.store.ruleset.matchesIn fresh id := by
          rw [right id, records, List.take_left, answered.ruleset_eq]
        _ = after.store.ruleset.matchesIn after.store.buffer.records id := by
          rw [records, answered.ruleset_eq, Ruleset.matchesIn_append, Nat.add_comm]

end Session

end LogSieve
