import LogSieve.Proofs.Loki.Answer

/-!
# Following a log server

A server holds more and more lines.  A buffer follows it by polls: it asks for what is
after its watermark, in nanoseconds, is answered in nanoseconds, and cuts off what is
not after its watermark, in microseconds.  If lines come up after the watermark only,
the buffer holds exactly the records of the lines after every poll: a line after the
watermark is always asked for, and what is cut off is in the buffer already.
-/

namespace LogSieve.Loki

open LogSieve.Text

/-! ## Queries -/

/-- Whether a query asks for lines of a time: of any time, or from its start on. -/
def asksFor (parameters : List (String × String)) (nanoseconds : Nat) : Bool :=
  match parameters.lookup "start" with
  | none => true
  | some text => text.toInt?.any (· ≤ (nanoseconds : Int))

theorem toInt?_toSignedDecimal (value : Int) : (toSignedDecimal value).toInt? = some value := by
  have spelled : toSignedDecimal value = value.repr := by
    cases value with
    | ofNat magnitude => rfl
    | negSucc magnitude =>
        apply String.toList_injective
        simp [toSignedDecimal, integerDigits, Int.repr, Nat.repr, digitsOf]
  rw [spelled, Int.toInt?_repr]

theorem asksFor_parameters (query : Query) (after : Option Int64) (nanoseconds : Nat) :
    asksFor (query.parameters after) nanoseconds =
      after.all fun watermark => startAfter watermark ≤ nanoseconds := by
  have others : ("start" == "query") = false ∧ ("start" == "limit") = false := by decide
  cases after with
  | none => simp [asksFor, Query.parameters, List.lookup, others]
  | some watermark =>
      simp [asksFor, Query.parameters, List.lookup, others, toInt?_toSignedDecimal]

/-- A query asks for every time after its watermark, also where the start does not fit 64
bits. -/
theorem startAfter_le {watermark : Int64} {nanoseconds : Nat} (fits : nanoseconds < 2 ^ 63)
    (after : watermark.toInt < (nanoseconds / 1000 : Nat)) :
    startAfter watermark ≤ nanoseconds := by
  have least : Int64.minValue.toInt = -2 ^ 63 := by decide
  have most : Int64.maxValue.toInt = 2 ^ 63 - 1 := by decide
  have range := watermark.le_toInt
  simp only [startAfter, clamp, least, most]
  omega

/-! ## Servers -/

/-- Every query is answered with the lines that it asks for, of those held. -/
def Answers (server : Server) (held : List Line) : Prop :=
  ∀ parameters, ∃ bytes, server parameters = .ok bytes ∧
    Carries bytes (held.filter (asksFor parameters ·.nanoseconds))

/-- What is held later is what was held before and new lines, which are after the
watermark. -/
def Grows (watermark : Option Int64) (held later : List Line) : Prop :=
  ∃ new, later.Perm (held ++ new) ∧
    ∀ line ∈ new, ∀ moment, watermark = some moment → moment.toInt < line.microseconds

/-- The intake with a server in the place of its own. -/
def facing (intake : Intake Client) (server : Server) : Intake Client :=
  { intake with source := { intake.source with server } }

/-- What polls of a server come to: the buffer with its source, and the lines that the server
held at the last poll. -/
inductive Follows (query : Query) : Intake Client → List Line → Prop
  | new (cooldown : Nat) (server : Server) (latency : List (String × String) → Nat)
      (world : World) : Follows query ⟨{ cooldown }, ⟨query, server, latency⟩, world⟩ []
  | poll {intake : Intake Client} {held later : List Line} {server : Server}
      (follows : Follows query intake held)
      (grows : Grows intake.buffer.watermark held later) (answers : Answers server later)
      (clock : Nat) : Follows query ((facing intake server).pollAt clock).2 later

/-- A server that answers gives the records of the lines asked for. -/
theorem Query.ask_of_answers {server : Server} {held : List Line} (query : Query)
    (answers : Answers server held) (after : Option Int64) :
    ∃ batch, query.ask server after = .ok batch ∧ NewestFirst batch ∧
      batch.Perm
        ((held.filter (asksFor (query.parameters after) ·.nanoseconds)).map Line.record) := by
  obtain ⟨bytes, answered, carries⟩ := answers (query.parameters after)
  obtain ⟨batch, read, shown⟩ := readResponse_of_carries carries
  refine ⟨batch, ?_, newestFirst_of_readResponse read, shown⟩
  rw [ask, answered]
  exact read

/-! ## One poll -/

/-- A buffer holds the records of lines, and its source has not failed. -/
structure Mirrors (query : Query) (intake : Intake Client) (held : List Line) : Prop where
  query : intake.source.query = query
  buffer : intake.buffer.Orderly
  sound : intake.buffer.lastFailure = none
  records : intake.buffer.records.Perm (held.map Line.record)

section Poll

variable {query : Query} {intake : Intake Client} {held later : List Line} {server : Server}

/-- A record is new if its line is after the watermark. -/
theorem isNew_record_iff (buffer : Buffer) (line : Line) :
    buffer.isNew line.record = true ↔
      ∀ moment, buffer.watermark = some moment → moment.toInt < line.microseconds := by
  cases marked : buffer.watermark with
  | none => simp [Buffer.isNew, marked]
  | some moment =>
      simp [Buffer.isNew, marked, Int64.lt_iff_toInt_lt, line.toInt_timestamp_record]

/-- A line whose record is new is asked for. -/
theorem asksFor_of_isNew (query : Query) {buffer : Buffer} {line : Line}
    (new : buffer.isNew line.record = true) :
    asksFor (query.parameters buffer.watermark) line.nanoseconds = true := by
  rw [isNew_record_iff] at new
  rw [asksFor_parameters]
  cases marked : buffer.watermark with
  | none => rfl
  | some moment => simpa using startAfter_le line.fits (new moment marked)

/-- What came up is new, and what was held before is not. -/
theorem Mirrors.filter_isNew (mirrors : Mirrors query intake held)
    (grows : Grows intake.buffer.watermark held later) :
    later.Perm (held ++ later.filter fun line => intake.buffer.isNew line.record) ∧
      (later.filter fun line => !intake.buffer.isNew line.record).Perm held := by
  obtain ⟨new, together, after⟩ := grows
  have known : ∀ line ∈ held, intake.buffer.isNew line.record = false := by
    intro line member
    apply mirrors.buffer.isNew_of_mem
    rw [mirrors.records.mem_iff]
    exact List.mem_map_of_mem member
  have fresh : ∀ line ∈ new, intake.buffer.isNew line.record = true := by
    intro line member
    rw [isNew_record_iff]
    exact after line member
  have shown : (later.filter fun line => intake.buffer.isNew line.record).Perm new := by
    refine (together.filter _).trans ?_
    rw [List.filter_append, List.filter_eq_nil_iff.mpr (by simpa using known),
      List.filter_eq_self.mpr fresh, List.nil_append]
  constructor
  · exact together.trans (shown.symm.append_left held)
  · refine (together.filter _).trans ?_
    rw [List.filter_append, List.filter_eq_self.mpr (by simpa using known),
      List.filter_eq_nil_iff.mpr (by simpa using fresh), List.append_nil]

/-- Of the lines asked for, those with a new record are all that are held. -/
theorem filter_isNew_asked (query : Query) (buffer : Buffer) (held : List Line) :
    ((held.filter (asksFor (query.parameters buffer.watermark) ·.nanoseconds)).map
      Line.record).filter buffer.isNew =
      (held.filter fun line => buffer.isNew line.record).map Line.record := by
  rw [List.filter_map, List.filter_filter]
  congr 2
  funext line
  cases new : buffer.isNew line.record with
  | false => simp [Function.comp, new]
  | true => simp [Function.comp, new, asksFor_of_isNew query new]

/-- A source that has not failed and is answered is not left alone. -/
theorem pollAt_facing {batch : List Record} (sound : intake.buffer.lastFailure = none)
    (asked : intake.source.query.ask server intake.buffer.watermark = .ok batch) (clock : Nat) :
    ∃ left, (facing intake server).pollAt clock = (.ok (intake.buffer.trim batch), left) ∧
      left.buffer = intake.buffer.accept (intake.buffer.trim batch) ∧
      left.source.query = intake.source.query := by
  have fetched : LogSource.fetch (facing intake server).source intake.buffer.watermark =
      (.ok batch, (facing intake server).source) := by
    rw [← asked]
    rfl
  have delivered : (facing intake server).delivery? clock = some batch := by
    have ready : (facing intake server).buffer.pause? clock = none := by
      simp only [facing, Buffer.pause?, sound]
    rw [Intake.delivery?, ready]
    exact congrArg (·.1.toOption) fetched
  obtain ⟨error, left, ran, missing, -⟩ | ⟨_, left, ran, same, taken, kept⟩ :=
    (facing intake server).pollAt_cases clock
  · rw [delivered] at missing
    cases missing
  · rw [delivered] at same
    cases same
    have source : (facing intake server).source = left.source :=
      congrArg Prod.snd (fetched.symm.trans kept)
    exact ⟨left, ran, taken, by rw [← source]; rfl⟩

/-- What is cut off of a batch was in the buffer. -/
theorem Mirrors.subperm_dropWhile (mirrors : Mirrors query intake held)
    (grows : Grows intake.buffer.watermark held later) {asked : Line → Bool}
    {batch : List Record} (sorted : NewestFirst batch)
    (shown : batch.Perm ((later.filter asked).map Line.record)) :
    (batch.dropWhile intake.buffer.isNew).Subperm intake.buffer.records := by
  have cut : (batch.dropWhile intake.buffer.isNew).Perm
      (batch.filter fun record => !intake.buffer.isNew record) := by
    rw [← List.perm_append_left_iff (intake.buffer.trim batch), intake.buffer.trim_eq_filter sorted]
    refine List.Perm.trans ?_ (List.filter_append_perm _ batch).symm
    rw [← intake.buffer.trim_eq_filter sorted, Buffer.trim_eq_takeWhile,
      List.takeWhile_append_dropWhile]
  have known : (batch.filter fun record => !intake.buffer.isNew record).Subperm
      ((later.filter fun line => !intake.buffer.isNew line.record).map Line.record) := by
    refine (shown.filter _).subperm.trans ?_
    rw [List.filter_map, List.filter_filter, List.filter_congr fun _ _ => Bool.and_comm _ _,
      ← List.filter_filter]
    exact (List.filter_sublist.map Line.record).subperm
  have old : ((later.filter fun line => !intake.buffer.isNew line.record).map Line.record).Perm
      intake.buffer.records :=
    ((mirrors.filter_isNew grows).2.map Line.record).trans mirrors.records.symm
  exact cut.subperm.trans (known.trans old.subperm)

/-- What is kept of a batch are the records of the lines that came up. -/
theorem Mirrors.accept (mirrors : Mirrors query intake held)
    (grows : Grows intake.buffer.watermark held later) {batch : List Record}
    (sorted : NewestFirst batch)
    (shown : batch.Perm ((later.filter
      (asksFor (query.parameters intake.buffer.watermark) ·.nanoseconds)).map Line.record)) :
    (intake.buffer.accept (intake.buffer.trim batch)).Orderly ∧
      (intake.buffer.accept (intake.buffer.trim batch)).records.Perm (later.map Line.record) := by
  rw [intake.buffer.trim_eq_filter sorted]
  constructor
  · exact mirrors.buffer.accept (sorted.sublist List.filter_sublist)
      fun _ member => (List.mem_filter.mp member).2
  · have fresh := shown.filter intake.buffer.isNew
    rw [filter_isNew_asked query] at fresh
    rw [Session.records_accept]
    refine (fresh.append mirrors.records).trans ?_
    rw [← List.map_append]
    have together := (mirrors.filter_isNew grows).1
    exact (List.perm_append_comm.trans together.symm).map Line.record

/-- One poll: what is cut off was in the buffer, and what is held now is in it after. -/
theorem Mirrors.poll (mirrors : Mirrors query intake held)
    (grows : Grows intake.buffer.watermark held later) (answers : Answers server later)
    (clock : Nat) :
    ∃ batch dropped left,
      query.ask server intake.buffer.watermark = .ok batch ∧
      batch.Perm ((later.filter
        (asksFor (query.parameters intake.buffer.watermark) ·.nanoseconds)).map Line.record) ∧
      batch = intake.buffer.trim batch ++ dropped ∧
      dropped.Subperm intake.buffer.records ∧
      (facing intake server).pollAt clock = (.ok (intake.buffer.trim batch), left) ∧
      Mirrors query left later := by
  obtain ⟨batch, asked, sorted, shown⟩ := query.ask_of_answers answers intake.buffer.watermark
  have askedHere : intake.source.query.ask server intake.buffer.watermark = .ok batch := by
    rw [mirrors.query]
    exact asked
  obtain ⟨left, ran, taken, source⟩ := pollAt_facing mirrors.sound askedHere clock
  obtain ⟨orderly, records⟩ := mirrors.accept grows sorted shown
  have cut : batch = intake.buffer.trim batch ++ batch.dropWhile intake.buffer.isNew := by
    rw [Buffer.trim_eq_takeWhile, List.takeWhile_append_dropWhile]
  refine ⟨batch, _, left, asked, shown, cut, mirrors.subperm_dropWhile grows sorted shown, ran, ?_⟩
  rw [← taken] at orderly records
  refine ⟨source.trans mirrors.query, orderly, ?_, records⟩
  rw [taken]
  rfl

/-- Lines that are later than all before grow what is held. -/
theorem Mirrors.grows (mirrors : Mirrors query intake held) {new : List Line}
    (later : ∀ line ∈ new, ∀ old ∈ held, old.microseconds < line.microseconds) :
    Grows intake.buffer.watermark held (held ++ new) := by
  refine ⟨new, .refl _, ?_⟩
  intro line member moment marked
  rw [mirrors.buffer.watermark, Option.map_eq_some_iff] at marked
  obtain ⟨first, leads, rfl⟩ := marked
  have stored := mirrors.records.mem_iff.mp (List.mem_of_mem_head? leads)
  obtain ⟨old, before, rfl⟩ := List.mem_map.mp stored
  rw [old.toInt_timestamp_record]
  exact_mod_cast later line member old before

end Poll

/-! ## Runs -/

theorem Follows.mirrors {query : Query} {intake : Intake Client} {held : List Line}
    (follows : Follows query intake held) : Mirrors query intake held := by
  induction follows with
  | new cooldown server latency world => exact ⟨rfl, Buffer.orderly_new cooldown, rfl, .nil⟩
  | poll _ grows answers clock ih =>
      obtain ⟨_, _, left, -, -, -, -, ran, mirrors⟩ := ih.poll grows answers clock
      rw [ran]
      exact mirrors

/-- Following a server loses no line and takes none twice.  After every poll the buffer holds
the records of the lines that the server holds, each as often as its line, with the newest
first.  Of what the server answers, the poll cuts off only what was in the buffer. -/
theorem Follows.holds_each_line_once {query : Query} {intake : Intake Client}
    {held later : List Line} {server : Server} (follows : Follows query intake held)
    (grows : Grows intake.buffer.watermark held later) (answers : Answers server later)
    (clock : Nat) :
    ∃ batch dropped left,
      query.ask server intake.buffer.watermark = .ok batch ∧
      batch.Perm ((later.filter
        (asksFor (query.parameters intake.buffer.watermark) ·.nanoseconds)).map Line.record) ∧
      batch = intake.buffer.trim batch ++ dropped ∧
      dropped.Subperm intake.buffer.records ∧
      (facing intake server).pollAt clock = (.ok (intake.buffer.trim batch), left) ∧
      left.buffer.records.Perm (later.map Line.record) ∧
      NewestFirst left.buffer.records := by
  obtain ⟨batch, dropped, left, asked, shown, cut, known, ran, mirrors⟩ :=
    follows.mirrors.poll grows answers clock
  exact ⟨batch, dropped, left, asked, shown, cut, known, ran, mirrors.records,
    mirrors.buffer.newestFirst⟩

/-- The server that writes the lines asked for, of some that it holds. -/
def serving (held : List Line) : Server := fun parameters =>
  .ok (written (held.filter (asksFor parameters ·.nanoseconds))).toLine.toUTF8

theorem answers_serving (held : List Line) : Answers (serving held) held :=
  fun _ => ⟨_, rfl, carries_written _⟩

/-- What is left of an intake that polls such a server. -/
def served (intake : Intake Client) (held : List Line) (clock : Nat) : Intake Client :=
  ((facing intake (serving held)).pollAt clock).2

/-- Polls follow such a server while later lines come up. -/
theorem Follows.served {query : Query} {intake : Intake Client} {held new : List Line}
    (follows : Follows query intake held)
    (later : ∀ line ∈ new, ∀ old ∈ held, old.microseconds < line.microseconds) (clock : Nat) :
    Follows query (served intake (held ++ new) clock) (held ++ new) :=
  follows.poll (follows.mirrors.grows later) (answers_serving _) clock

/-- Lines of one microsecond, and one before. -/
def earlyLines : List Line :=
  [⟨.ofList [("app", "web")], 1000, "b", by decide⟩,
    ⟨.ofList [("app", "web")], 1999, "c", by decide⟩, ⟨∅, 500, "a", by decide⟩]

/-- A line just after them, and one at the last nanosecond that fits. -/
def lateLines : List Line :=
  [⟨∅, 2000, "d", by decide⟩, ⟨.ofList [("app", "db")], 2 ^ 63 - 1, "e", by decide⟩]

/-- All these lines. -/
def allLines : List Line := earlyLines ++ lateLines

/-- A query with a buffer that took in the early lines and then all. -/
def fedIntake : Intake Client :=
  served (served ⟨{ cooldown := 0 }, { query := default, server := serving [] }, {}⟩
    earlyLines 0) allLines 1

-- The third poll starts at the last nanosecond that fits, so the line there comes again.
theorem Follows.holds_each_line_once_at_last_nanosecond :
    Follows default fedIntake allLines ∧ Grows fedIntake.buffer.watermark allLines allLines ∧
      Answers (serving allLines) allLines ∧
      ∃ batch dropped left,
        (default : Query).ask (serving allLines) fedIntake.buffer.watermark = .ok batch ∧
        batch.Perm ((allLines.filter (asksFor ((default : Query).parameters
          fedIntake.buffer.watermark) ·.nanoseconds)).map Line.record) ∧
        batch = fedIntake.buffer.trim batch ++ dropped ∧
        dropped.Subperm fedIntake.buffer.records ∧
        (facing fedIntake (serving allLines)).pollAt 2 =
          (.ok (fedIntake.buffer.trim batch), left) ∧
        left.buffer.records.Perm (allLines.map Line.record) ∧
        NewestFirst left.buffer.records := by
  have start : Follows default
      ⟨{ cooldown := 0 }, { query := default, server := serving [] }, {}⟩ [] := .new 0 _ _ _
  have follows : Follows default fedIntake allLines :=
    (start.served (by decide) 0).served (by decide) 1
  have grows : Grows fedIntake.buffer.watermark allLines allLines :=
    ⟨[], by rw [List.append_nil], fun _ member => by cases member⟩
  have answers : Answers (serving allLines) allLines := answers_serving _
  exact ⟨follows, grows, answers, follows.holds_each_line_once grows answers 2⟩

end LogSieve.Loki
