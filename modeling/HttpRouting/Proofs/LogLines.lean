import HttpRouting.Effect
import HttpRouting.Proofs.HeaderFields
import HttpRouting.Proofs.PathText

/-! # Entries and lines

In JSON an entry is always one line, since every line feed in a text is escaped. For people it is one line when its
message and its time have no line feed and no stack stands below it: these are written as they are.

So a stream of entries can be read line by line exactly when all the entries on it are of that kind. Then each line is
one entry, in the order in which they were logged; one entry of another kind leaves more lines than entries.
-/

namespace HttpRouting

open Text

def OneLine (text : String) : Prop :=
  '\n' ∉ text.toList

instance (text : String) : Decidable (OneLine text) :=
  inferInstanceAs (Decidable (¬_))

private theorem oneLine_append {left right : String} : OneLine (left ++ right) ↔ OneLine left ∧ OneLine right := by
  simp [OneLine, not_or]

namespace Json

private theorem newline_not_mem_escapeChar (char : Char) : '\n' ∉ escapeChar char := by
  have digits : ∀ value < 16, lowerHexDigit value ≠ '\n' := by decide
  unfold escapeChar
  split_ifs with _ _ _ _ feed _ _ control
  -- the short forms are known texts
  any_goals decide
  · have high : char.toNat / 16 < 16 := by omega
    have low : char.toNat % 16 < 16 := by omega
    simp [(digits _ high).symm, (digits _ low).symm]
  · simpa [eq_comm] using feed

private theorem newline_not_mem_quote (text : String) : '\n' ∉ quote text := by
  simp [quote, newline_not_mem_escapeChar]

private theorem newline_not_mem_numberChars (number : Number) : '\n' ∉ numberChars number := by
  cases number with
  | infinite negative => simp [numberChars]
  | finite negative multiple exponent =>
    intro member
    have proper := Headers.isValue_iff.mp (Number.isValue_render (.finite negative multiple exponent)) '\n'
    rw [Number.render, String.toList_ofList] at proper
    exact (proper member).2.2.2 rfl

mutual

/-- The JSON text of a value has no line feed. -/
theorem newline_not_mem_renderChars : (value : Json) → '\n' ∉ renderChars value
  | .null => by decide
  | .bool value => by cases value <;> decide
  | .number value => newline_not_mem_numberChars value
  | .string text => newline_not_mem_quote text
  | .array items => by simp [renderChars, newline_not_mem_renderItems items]
  | .object fields => by simp [renderChars, newline_not_mem_renderFields fields]

theorem newline_not_mem_renderItems : (items : List Json) → '\n' ∉ renderItems items
  | [] => by simp [renderItems]
  | [item] => by simp [renderItems, newline_not_mem_renderChars item]
  | item :: next :: rest => by
    simp [renderItems, newline_not_mem_renderChars item, newline_not_mem_renderItems (next :: rest)]

theorem newline_not_mem_renderFields : (fields : List (String × Json)) → '\n' ∉ renderFields fields
  | [] => by simp [renderFields]
  | [(name, value)] => by simp [renderFields, newline_not_mem_quote name, newline_not_mem_renderChars value]
  | (name, value) :: next :: rest => by
    simp [renderFields, newline_not_mem_quote name, newline_not_mem_renderChars value,
      newline_not_mem_renderFields (next :: rest)]

end

private theorem oneLine_render (value : Json) : OneLine value.render := by
  rw [OneLine, render, String.toList_ofList]
  exact newline_not_mem_renderChars value

end Json

namespace LogEntry

/-- The stack that stands below an entry: that of its error, unless it is empty. -/
def stack? (entry : LogEntry) : Option String :=
  (entry.error.bind (·.stack)).filter (· ≠ "")

/-- Whether an entry is written as one line: in JSON always, and for people if it has no stack and neither its message
nor its time has a line feed. -/
def Fits (entry : LogEntry) (format : LogFormat) : Prop :=
  format = .pretty → OneLine entry.message ∧ OneLine entry.time ∧ entry.stack? = none

private theorem oneLine_painted {start text : String} (plain : OneLine start) (color : Bool) :
    OneLine (painted color start text) ↔ OneLine text := by
  have reset : OneLine "\x1b[0m" := by decide
  cases color with
  | false => rfl
  | true => simp [painted, oneLine_append, plain, reset]

private theorem oneLine_dim (color : Bool) (text : String) : OneLine (dim color text) ↔ OneLine text :=
  oneLine_painted (by decide) color

private theorem oneLine_pretty_iff (entry : LogEntry) (color : Bool) :
    OneLine (entry.pretty color) ↔ OneLine entry.message ∧ OneLine entry.time ∧ entry.stack? = none := by
  have empty : OneLine "" := by decide
  have blank : OneLine " " := by decide
  have feed : ¬OneLine "\n" := by decide
  have label : OneLine (painted color entry.level.color entry.level.label) := by
    rw [oneLine_painted] <;> cases entry.level <;> decide
  rw [pretty, stack?]
  generalize entry.context = context, entry.error.bind (·.stack) = stack
  simp only [oneLine_append, oneLine_dim, blank, label, and_true]
  -- a context is rendered as JSON, and a stack stands below a line feed
  split <;> split <;>
    simp_all [oneLine_append, oneLine_dim, Json.oneLine_render, and_comm]

theorem oneLine_write_iff (entry : LogEntry) (format : LogFormat) (color : Bool) :
    OneLine (entry.write format color) ↔ entry.Fits format := by
  cases format with
  | json => exact iff_of_true (Json.oneLine_render _) fun pretty => by cases pretty
  | pretty => simp [write, oneLine_pretty_iff, Fits]

def lines (entry : LogEntry) (format : LogFormat) (color : Bool) : List String :=
  cut '\n' (entry.write format color)

end LogEntry

/-! ## Texts as lines -/

namespace Text

/-- Lines as a text, each with a line feed behind it. -/
def ended (lines : List String) : String :=
  String.join (lines.map (· ++ "\n"))

private theorem ended_append (lines more : List String) : ended (lines ++ more) = ended lines ++ ended more := by
  simp [ended]

private theorem oneLine_of_mem_cut {text line : String} (member : line ∈ cut '\n' text) : OneLine line := by
  obtain ⟨chars, piece, rfl⟩ := List.mem_map.mp member
  exact fun feed => (mem_of_mem_splitOn piece '\n' (by simpa using feed)).2 rfl

private theorem ended_eq_join {lines : List String} (some : lines ≠ []) : ended lines = join "\n" lines ++ "\n" := by
  induction lines with
  | nil => contradiction
  | cons line lines ih =>
    by_cases alone : lines = []
    · subst alone
      simp [ended, join]
    · rw [ended, List.map_cons, String.join_cons, ← ended, ih alone, join_cons alone, String.append_assoc,
        String.append_assoc, String.append_assoc]

private theorem ended_cut (text : String) : ended (cut '\n' text) = text ++ "\n" := by
  rw [ended_eq_join (cut_ne_nil '\n' text)]
  exact congrArg (· ++ "\n") (join_cut text)

/-- Lines can be read back from their text. -/
theorem cut_ended {lines : List String} (plain : ∀ line ∈ lines, OneLine line) :
    cut '\n' (ended lines) = lines ++ [""] := by
  induction lines with
  | nil => rfl
  | cons line lines ih =>
    obtain ⟨first, later⟩ := List.forall_mem_cons.mp plain
    have cutFirst := cut_append '\n' line (ended lines)
    rw [cut_plain first, ih later] at cutFirst
    simpa [ended] using cutFirst

/-- A text that has a line feed is cut into two lines at least. -/
theorem length_cut_of_not_oneLine {text : String} (broken : ¬OneLine text) : 1 < (cut '\n' text).length := by
  by_contra short
  have some : 0 < (cut '\n' text).length := List.length_pos_iff.mpr (cut_ne_nil '\n' text)
  obtain ⟨line, single⟩ := List.length_eq_one_iff.mp (by omega : (cut '\n' text).length = 1)
  have whole : line = text := by simpa [single, join] using @join_cut '\n' text
  have member : line ∈ cut '\n' text := by simp [single]
  exact broken (whole ▸ oneLine_of_mem_cut member)

end Text

namespace LogEntry

variable {entries : List LogEntry} {format : LogFormat}

private theorem lines_of_fits {entry : LogEntry} (fits : entry.Fits format) (color : Bool) :
    entry.lines format color = [entry.write format color] :=
  cut_plain ((entry.oneLine_write_iff format color).mpr fits)

private theorem flatMap_lines (fit : ∀ entry ∈ entries, entry.Fits format) (color : Bool) :
    entries.flatMap (·.lines format color) = entries.map (·.write format color) := by
  rw [List.flatMap_congr fun entry member => lines_of_fits (fit entry member) color]
  exact List.flatMap_pure_eq_map ..

private theorem length_le_length_flatMap_lines (entries : List LogEntry) (format : LogFormat) (color : Bool) :
    entries.length ≤ (entries.flatMap (·.lines format color)).length := by
  induction entries with
  | nil => simp
  | cons entry entries ih =>
    have some : 0 < (entry.lines format color).length := List.length_pos_iff.mpr (cut_ne_nil _ _)
    simp only [List.flatMap_cons, List.length_append, List.length_cons]
    omega

private theorem length_lt_length_flatMap_lines (unfit : ∃ entry ∈ entries, ¬entry.Fits format) (color : Bool) :
    entries.length < (entries.flatMap (·.lines format color)).length := by
  obtain ⟨entry, member, breaks⟩ := unfit
  obtain ⟨before, after, rfl⟩ := List.append_of_mem member
  have first := length_le_length_flatMap_lines before format color
  have last := length_le_length_flatMap_lines after format color
  have middle : 1 < (entry.lines format color).length :=
    length_cut_of_not_oneLine (mt (entry.oneLine_write_iff format color).mp breaks)
  simp only [List.flatMap_append, List.flatMap_cons, List.length_append, List.length_cons]
  omega

end LogEntry

/-! ## Streams -/

/-- What an event adds to one of the two streams of a program. -/
def Event.textTo (toErrors : Bool) : Event → String
  | .written stream text => if stream = toErrors then text else ""
  | _ => ""

namespace World

/-- All that was written to one of the two streams. -/
def output (world : World) (toErrors : Bool) : String :=
  String.join (world.events.map (Event.textTo toErrors))

private theorem output_record (world : World) (event : Event) (toErrors : Bool) :
    (world.record event).output toErrors = world.output toErrors ++ event.textTo toErrors := by
  simp [output, record]

/-- Whether one of the streams consists of these lines. -/
def HasLines (world : World) (toErrors : Bool) (lines : List String) : Prop :=
  (∀ line ∈ lines, OneLine line) ∧ world.output toErrors = ended lines

theorem HasLines.unique {world : World} {toErrors : Bool} {lines other : List String}
    (one : world.HasLines toErrors lines) (two : world.HasLines toErrors other) : lines = other := by
  have same : lines ++ [""] = other ++ [""] := by
    rw [← cut_ended one.1, ← cut_ended two.1, ← one.2, two.2]
  exact List.append_cancel_right same

end World

/-- A call of a logger. -/
structure LogCall where
  logger : Logger
  level : Level
  message : String
  context : LogContext := []
  error : Option ErrorReport := none

namespace LogCall

/-- The entry that a call gives to one of the two streams. -/
def entryTo? (call : LogCall) (time : String) (toErrors : Bool) : Option LogEntry :=
  if (call.level == .error) = toErrors then
    call.logger.entry? time call.level call.message call.context call.error
  else none

/-- The entries that calls give to one of the two streams, in order. -/
def entriesTo (calls : List LogCall) (time : String) (toErrors : Bool) : List LogEntry :=
  calls.filterMap (·.entryTo? time toErrors)

end LogCall

namespace World

def make (world : World) (call : LogCall) : World :=
  world.log call.logger call.level call.message call.context call.error

def logAll (world : World) (calls : List LogCall) : World :=
  calls.foldl make world

variable {format : LogFormat} {color : Bool} (world : World) (toErrors : Bool)

@[simp] theorem time_record (event : Event) : (world.record event).time = world.time :=
  rfl

/-- A call writes the lines of the entry that it gives to a stream, if it gives one, and leaves the time. -/
theorem output_make {call : LogCall} (streams : call.logger.sink = .stream format color) :
    (world.make call).output toErrors =
        world.output toErrors ++
          ended (((call.entryTo? world.time toErrors).toList).flatMap (·.lines format color)) ∧
      (world.make call).time = world.time := by
  rw [make, log, LogCall.entryTo?]
  cases made : call.logger.entry? world.time call.level call.message call.context call.error with
  | none => simp [ended]
  | some entry =>
    simp only [streams, output_record, time_record, and_true, Event.textTo]
    by_cases same : (call.level == .error) = toErrors
    · simp [same, LogEntry.lines, ended_cut]
    · simp [same, ended]

private theorem output_logAll {calls : List LogCall}
    (streams : ∀ call ∈ calls, call.logger.sink = .stream format color) :
    (world.logAll calls).output toErrors =
      world.output toErrors ++
        ended ((LogCall.entriesTo calls world.time toErrors).flatMap (·.lines format color)) := by
  induction calls generalizing world with
  | nil => simp [logAll, LogCall.entriesTo, ended]
  | cons call calls ih =>
    obtain ⟨first, later⟩ := List.forall_mem_cons.mp streams
    obtain ⟨written, time⟩ := output_make world toErrors first
    have rest := ih (world.make call) later
    rw [written, time, String.append_assoc, ← ended_append] at rest
    rw [logAll, List.foldl_cons, ← logAll, rest, LogCall.entriesTo, LogCall.entriesTo, List.filterMap_cons]
    cases call.entryTo? world.time toErrors <;> simp

/-- An entry is written as one line exactly if it fits. Whatever is logged to a sink, one entry after another, each of
the two streams grows by the lines of the entries that it was given, and by nothing else. If all of these fit, each line
is one entry; if one of them does not, there are more lines than entries. -/
theorem lines_of_logged {before : List String} {calls : List LogCall}
    (streams : ∀ call ∈ calls, call.logger.sink = .stream format color) (start : world.HasLines toErrors before) :
    let entries := LogCall.entriesTo calls world.time toErrors
    (∀ (entry : LogEntry) (format : LogFormat) (color : Bool),
        OneLine (entry.write format color) ↔ entry.Fits format) ∧
      (∀ lines, (world.logAll calls).HasLines toErrors lines ↔
        lines = before ++ entries.flatMap (·.lines format color)) ∧
      ((∀ entry ∈ entries, entry.Fits format) →
        entries.flatMap (·.lines format color) = entries.map (·.write format color)) ∧
      ((∃ entry ∈ entries, ¬entry.Fits format) →
        entries.length < (entries.flatMap (·.lines format color)).length) := by
  intro entries
  have whole : (world.logAll calls).HasLines toErrors
      (before ++ entries.flatMap (·.lines format color)) := by
    refine ⟨?_, by rw [output_logAll world toErrors streams, start.2, ended_append]⟩
    intro line member
    rcases List.mem_append.mp member with old | new
    · exact start.1 line old
    · obtain ⟨entry, _, inside⟩ := List.mem_flatMap.mp new
      exact oneLine_of_mem_cut inside
  refine ⟨fun entry format color => entry.oneLine_write_iff format color, fun lines => ?_, fun fit => ?_, ?_⟩
  · exact ⟨fun has => has.unique whole, fun same => same ▸ whole⟩
  · exact LogEntry.flatMap_lines fit color
  · exact fun unfit => LogEntry.length_lt_length_flatMap_lines unfit color

/-- Two entries, the second of which does not fit, and the three lines that they take. -/
theorem lines_of_logged_feed :
    let logger : Logger := { sink := .stream .pretty false }
    let calls : List LogCall := [⟨logger, .info, "ready", [], none⟩, ⟨logger, .info, "first\nsecond", [], none⟩]
    (World.logAll {} calls).HasLines false
        ["1970-01-01T00:00:00.000Z INFO  ready", "1970-01-01T00:00:00.000Z INFO  first", "second"] ∧
      (LogCall.entriesTo calls "1970-01-01T00:00:00.000Z" false).length = 2 := by
  intro logger calls
  have streams : ∀ call ∈ calls, call.logger.sink = .stream .pretty false := by simp [calls, logger]
  have start : World.HasLines {} false [] := ⟨by simp, rfl⟩
  exact ⟨((lines_of_logged {} false streams start).2.1 _).mpr (by decide), rfl⟩

/-- A message is written as it is: an entry without a stack can take two lines. -/
theorem lines_of_message :
    ¬∀ (entry : LogEntry) (format : LogFormat) (color : Bool), entry.stack? = none →
      OneLine (entry.write format color) := by
  intro all
  let entry : LogEntry := { level := .info, message := "first\nsecond", time := "2026-01-02T03:04:05.000Z" }
  exact absurd (all entry .pretty false rfl) (by decide)

end World

end HttpRouting
