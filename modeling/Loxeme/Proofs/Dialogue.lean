import Loxeme.Proofs.PromptFile
import Mathlib.Data.List.Induction
import Mathlib.Data.List.Infix

/-!
# The dialogue at the prompt

At the prompt the lines of a text are divided into inputs. An input ends as soon as it does not end
inside of a string, and it is answered once; lines that are still inside of a string at the end of
the text are answered last. So nothing of the text is lost and nothing is answered twice.

* `Prompt.Unfinished`: a text has no error but a quote that is not closed.
* `Prompt.Divides`, `Prompt.Divides.unique`: the one division of lines into inputs.
* `Prompt.Reached`: what holds of a session when some lines have been entered.
* `Prompt.Reached.enter`, `Prompt.exists_reached`: one more line keeps it, and so do all lines.
* `prompt_reports_whole_input`: the prompt answers the inputs of a text in their order, and writes
  nothing else but its signs.
-/

namespace Loxeme

/-! ## What events write -/

/-- No record is an error, so none passes the filter for errors. -/
theorem Log.Record.passes_onlyErrors (r : Log.Record) : r.passes .onlyErrors = false := by
  cases r <;> rfl

namespace Event

/-- All that events write, if a function tells what each of them writes. -/
def written (w : Event → String) (events : List Event) : String :=
  String.join (events.map w)

/-- Nothing is written for a record. -/
def Silent (w : Event → String) : Prop :=
  ∀ r, w (.log r) = ""

theorem silent_stdout : Silent stdout := fun _ => rfl

theorem silent_stderr {f : Log.Filter} (h : ∀ r : Log.Record, r.passes f = false) :
    Silent (stderr f) := by
  intro r
  rw [stderr, h r]
  rfl

theorem written_append (w : Event → String) (a b : List Event) :
    written w (a ++ b) = written w a ++ written w b := by
  rw [written, List.map_append, String.join_append]
  rfl

theorem written_cons (w : Event → String) (e : Event) (events : List Event) :
    written w (e :: events) = w e ++ written w events := by
  rw [written, List.map_cons, String.join_cons]
  rfl

theorem written_singleton (w : Event → String) (e : Event) : written w [e] = w e :=
  (written_cons w e []).trans String.append_empty

theorem Silent.written_map_log {w : Event → String} (h : Silent w) (records : List Log.Record) :
    written w (records.map .log) = "" := by
  induction records with
  | nil => rfl
  | cons r records ih =>
    rw [List.map_cons, written_cons, h r, ih]
    rfl

/-- Where a filter holds back all records, only the errors are written. -/
theorem written_stderr_of_silent {f : Log.Filter} {events : List Event}
    (h : ∀ r, .log r ∈ events → r.passes f = false) :
    written (stderr f) events = written (stderr .onlyErrors) events := by
  refine congrArg String.join (List.map_congr_left fun event hevent => ?_)
  cases event with
  | log r => simp [stderr, h r hevent, Log.Record.passes_onlyErrors]
  | _ => rfl

end Event

namespace Prompt

/-! ## Inputs -/

/-- The only error of a text is a quote that is not closed. -/
def Unfinished (text : String) : Prop :=
  ∃ line, tokenize text = .error [.unterminatedString line]

theorem unfinished_iff {text : String} :
    Unfinished text ↔ LexError.onlyUnterminated (scan text).errors = true := by
  rw [LexError.onlyUnterminated_iff]
  refine exists_congr fun line => ?_
  rw [tokenize, Scan.result_eq_error_iff]
  exact and_iff_right (List.cons_ne_nil _ _)

instance : DecidablePred Unfinished := fun _ => decidable_of_iff _ unfinished_iff.symm

theorem not_unfinished_empty : ¬Unfinished "" := by
  decide +kernel

/-- Lines that all wait for another one: each run of them from the first is unfinished. -/
def Waiting (lines : List String) : Prop :=
  ∀ first, first <+: lines → first ≠ [] → Unfinished (String.join first)

/-- The lines of an input: the shortest run of lines that is not unfinished. -/
structure IsInput (lines : List String) : Prop where
  ne_nil : lines ≠ []
  finished : ¬Unfinished (String.join lines)
  shortest : ∀ first, first <+: lines → first ≠ [] → first ≠ lines →
    Unfinished (String.join first)

/-- Lines are inputs, one behind the other, and lines that wait. -/
structure Divides (lines : List String) (inputs : List (List String)) (rest : List String) :
    Prop where
  flatten : inputs.flatten ++ rest = lines
  isInput : ∀ input ∈ inputs, IsInput input
  waiting : Waiting rest

instance : DecidablePred Waiting := fun lines =>
  decidable_of_iff (∀ first ∈ lines.inits, first ≠ [] → Unfinished (String.join first))
    (forall_congr' fun first => imp_congr_left (List.mem_inits first lines))

instance : DecidablePred IsInput := fun lines =>
  decidable_of_iff (lines ≠ [] ∧ ¬Unfinished (String.join lines) ∧
      ∀ first ∈ lines.inits, first ≠ [] → first ≠ lines → Unfinished (String.join first))
    ⟨fun ⟨hne, hfinished, h⟩ =>
        ⟨hne, hfinished, fun first hfirst => h first ((List.mem_inits first lines).mpr hfirst)⟩,
      fun h => ⟨h.ne_nil, h.finished,
        fun first hfirst => h.shortest first ((List.mem_inits first lines).mp hfirst)⟩⟩

instance (lines : List String) (inputs : List (List String)) (rest : List String) :
    Decidable (Divides lines inputs rest) :=
  decidable_of_iff (inputs.flatten ++ rest = lines ∧ (∀ input ∈ inputs, IsInput input) ∧
      Waiting rest)
    ⟨fun ⟨hflatten, hinputs, hwaiting⟩ => ⟨hflatten, hinputs, hwaiting⟩,
      fun h => ⟨h.flatten, h.isInput, h.waiting⟩⟩

section Inputs

variable {lines rest : List String} {inputs : List (List String)} {line : String}

theorem waiting_nil : Waiting [] := fun _ hprefix hne => absurd (List.prefix_nil.mp hprefix) hne

/-- Lines that wait are without text only if there are none. -/
theorem Waiting.join_eq_empty_iff (h : Waiting lines) : String.join lines = "" ↔ lines = [] := by
  constructor
  · intro hempty
    by_contra hne
    exact not_unfinished_empty (hempty ▸ h lines List.prefix_rfl hne)
  · rintro rfl
    rfl

theorem Waiting.concat (h : Waiting lines) (hlast : Unfinished (String.join (lines ++ [line]))) :
    Waiting (lines ++ [line]) := by
  intro first hprefix hne
  rcases List.prefix_concat_iff.mp hprefix with rfl | hprefix
  · exact hlast
  · exact h first hprefix hne

theorem Waiting.isInput_concat (h : Waiting lines)
    (hlast : ¬Unfinished (String.join (lines ++ [line]))) : IsInput (lines ++ [line]) := by
  refine ⟨List.concat_ne_nil _ _, hlast, fun first hprefix hne hproper => ?_⟩
  rcases List.prefix_concat_iff.mp hprefix with rfl | hprefix
  · exact absurd rfl hproper
  · exact h first hprefix hne

theorem Divides.wait (h : Divides lines inputs rest)
    (hlast : Unfinished (String.join (rest ++ [line]))) :
    Divides (lines ++ [line]) inputs (rest ++ [line]) :=
  ⟨by rw [← List.append_assoc, h.flatten], h.isInput, h.waiting.concat hlast⟩

theorem Divides.report (h : Divides lines inputs rest)
    (hlast : ¬Unfinished (String.join (rest ++ [line]))) :
    Divides (lines ++ [line]) (inputs ++ [rest ++ [line]]) [] := by
  refine ⟨?_, fun input hmem => ?_, waiting_nil⟩
  · rw [List.append_nil, List.flatten_append, List.flatten_singleton, ← List.append_assoc,
      h.flatten]
  · rcases List.mem_append.mp hmem with hmem | hmem
    · exact h.isInput input hmem
    · obtain rfl := List.mem_singleton.mp hmem
      exact h.waiting.isInput_concat hlast

/-- Of two inputs none is longer than the other if one of them starts with the other. -/
theorem IsInput.eq_of_prefix {a b : List String} (ha : IsInput a) (hb : IsInput b)
    (h : a <+: b) : a = b :=
  Classical.byContradiction fun hne => ha.finished (hb.shortest a h ha.ne_nil hne)

/-- Lines that wait do not start with an input. -/
theorem Divides.eq_nil_of_waiting (h : Divides lines inputs rest) (hlines : Waiting lines) :
    inputs = [] := by
  cases inputs with
  | nil => rfl
  | cons input inputs =>
    have hinput := h.isInput input (.head _)
    have hprefix : input <+: lines := by
      rw [← h.flatten, List.flatten_cons, List.append_assoc]
      exact List.prefix_append _ _
    exact absurd (hlines input hprefix hinput.ne_nil) hinput.finished

/-- Lines are divided in one way only. -/
theorem Divides.unique (h : Divides lines inputs rest) {inputs' : List (List String)}
    {rest' : List String} (h' : Divides lines inputs' rest') : inputs' = inputs ∧ rest' = rest := by
  induction inputs generalizing lines inputs' with
  | nil =>
    obtain rfl : inputs' = [] := h'.eq_nil_of_waiting (h.flatten ▸ h.waiting)
    exact ⟨rfl, h'.flatten.trans h.flatten.symm⟩
  | cons input inputs ih =>
    cases inputs' with
    | nil => cases h.eq_nil_of_waiting (h'.flatten ▸ h'.waiting)
    | cons input' inputs' =>
      have hinput := h.isInput input (.head _)
      have hinput' := h'.isInput input' (.head _)
      have hlines := h.flatten.trans h'.flatten.symm
      rw [List.flatten_cons, List.flatten_cons, List.append_assoc, List.append_assoc] at hlines
      have hfirst : input <+: input' ++ (inputs'.flatten ++ rest') := ⟨_, hlines⟩
      -- Both inputs start the same lines, so one of them starts with the other.
      obtain rfl : input' = input := by
        rcases List.prefix_or_prefix_of_prefix hfirst (List.prefix_append _ _) with hle | hle
        · exact (hinput.eq_of_prefix hinput' hle).symm
        · exact hinput'.eq_of_prefix hinput hle
      obtain ⟨rfl, rfl⟩ := ih ⟨rfl, fun i hi => h.isInput i (.tail _ hi), h.waiting⟩
        ⟨(List.append_cancel_left hlines).symm, fun i hi => h'.isInput i (.tail _ hi), h'.waiting⟩
      exact ⟨rfl, rfl⟩

end Inputs

/-! ## Lines of a text -/

/-- The lines of a text: none is empty, a line feed is at the end of a line only, and each line
but the last ends with one. -/
structure IsLines (text : String) (lines : List String) : Prop where
  join : String.join lines = text
  ne_empty : ∀ line ∈ lines, line ≠ ""
  not_mem : ∀ line ∈ lines, '\n' ∉ line.toList.dropLast
  ends : ∀ line ∈ lines.dropLast, line.toList.getLast? = some '\n'

/-- The signs before some lines of one input. -/
def signs (lines : Nat) : String :=
  String.join ((List.range lines).map fun i => if i = 0 then "> " else ". ")

theorem signs_succ (n : Nat) : signs (n + 1) = signs n ++ sign (n != 0) := by
  rw [signs, List.range_succ, List.map_append, String.join_append]
  cases n <;> rfl

/-- What is shown of a text: its tokens in their canonical form if it has no error. -/
def shown (text : String) : String :=
  match tokenize text with
  | .ok tokens => dumpLines tokens
  | .error _ => ""

/-- What is complained of a text: its errors, with a line feed behind each. -/
def complained (text : String) : String :=
  match tokenize text with
  | .ok _ => ""
  | .error errors => String.join (errors.map fun e => e.message ++ "\n")

/-- The report of errors has a line feed behind each. -/
theorem message_lexical {errors : List LexError} (h : errors ≠ []) :
    (Failure.lexical errors).message ++ "\n" =
      String.join (errors.map fun e => e.message ++ "\n") := by
  show "\n".intercalate (errors.map LexError.message) ++ "\n" = _
  induction errors with
  | nil => exact absurd rfl h
  | cons e errors ih =>
    by_cases hlast : errors = []
    · rw [hlast]
      simp
    · have hmap : errors.map LexError.message ≠ [] := by simpa using hlast
      rw [List.map_cons, List.map_cons, String.join_cons, ← ih hlast,
        String.intercalate_cons_of_ne_nil hmap, String.append_assoc]

theorem stdout_report (text : String) : (scan text).report.stdout = shown text := by
  rw [Scan.report, shown, tokenize]
  cases (scan text).result <;> rfl

theorem stderr_report (f : Log.Filter) (text : String) :
    (scan text).report.stderr f = complained text := by
  rw [Scan.report, complained, tokenize]
  cases h : (scan text).result with
  | ok tokens => rfl
  | error errors => exact message_lexical (Scan.result_eq_error_iff.mp h).1

/-! ## One line -/

/-- The inputs that a session has reported so far: the lines of the turns that did not wait. -/
def Session.reported (s : Session) : List String :=
  (s.turns.reverse.filter (!·.waits)).map Turn.input

section Answer

variable {pending line : String}

theorem waits_of_iff : (Turn.of pending line).waits = true ↔ Unfinished (pending ++ line) :=
  unfinished_iff.symm

/-- Lines that are unfinished are answered with nothing but records. -/
theorem answer_of_unfinished (h : Unfinished (pending ++ line)) :
    ∃ records : List Log.Record, (Turn.of pending line).answer = records.map .log := by
  refine ⟨(scan (pending ++ line)).records ++ [.waiting (pending ++ line).utf8ByteSize], ?_⟩
  rw [Turn.answer, if_pos (waits_of_iff.mpr h), Scan.logEvents, List.map_append]
  rfl

/-- Other lines are reported. -/
theorem answer_of_finished (h : ¬Unfinished (pending ++ line)) :
    ∃ records : List Log.Record, (Turn.of pending line).answer =
      records.map .log ++ [(scan (pending ++ line)).report] := by
  refine ⟨(scan (pending ++ line)).records, ?_⟩
  rw [Turn.answer, if_neg (mt waits_of_iff.mp h), Scan.logEvents]
  rfl

end Answer

section Line

variable (s : Session) {line : String}

/-- A line is entered behind the sign for it. -/
theorem events_enter (line : String) :
    (s.enter line).events = s.events ++ .out s.nextSign :: (Turn.of s.pending line).answer := by
  simp only [Session.events, Session.enter, List.reverse_cons, List.flatMap_append,
    List.flatMap_singleton]
  rfl

/-- Lines that are unfinished with one more line wait together with it, and nothing but the sign
is written. -/
theorem enter_of_unfinished (h : Unfinished (s.pending ++ line)) :
    (s.enter line).pending = s.pending ++ line ∧ (s.enter line).reported = s.reported ∧
      ∀ {w : Event → String}, Event.Silent w →
        Event.written w (s.enter line).events =
          Event.written w s.events ++ w (.out s.nextSign) := by
  have hwaits := waits_of_iff.mpr h
  obtain ⟨records, hanswer⟩ := answer_of_unfinished h
  refine ⟨if_pos hwaits, ?_, fun hw => ?_⟩
  · simp [Session.reported, Session.enter, hwaits]
  · rw [events_enter, hanswer, Event.written_append, Event.written_cons, hw.written_map_log,
      String.append_empty]

/-- Lines that are finished with one more line are reported together with it, and none waits. -/
theorem enter_of_finished (h : ¬Unfinished (s.pending ++ line)) :
    (s.enter line).pending = "" ∧ (s.enter line).reported = s.reported ++ [s.pending ++ line] ∧
      ∀ {w : Event → String}, Event.Silent w →
        Event.written w (s.enter line).events =
          Event.written w s.events ++ w (.out s.nextSign) ++
            w (scan (s.pending ++ line)).report := by
  have hwaits : (Turn.of s.pending line).waits = false :=
    Bool.eq_false_iff.mpr (mt waits_of_iff.mp h)
  obtain ⟨records, hanswer⟩ := answer_of_finished h
  refine ⟨if_neg (Bool.eq_false_iff.mp hwaits), ?_, fun hw => ?_⟩
  · have hinput : (Turn.of s.pending line).input = s.pending ++ line := rfl
    simp [Session.reported, Session.enter, hwaits, hinput]
  · rw [events_enter, hanswer, Event.written_append, Event.written_cons, Event.written_append,
      hw.written_map_log, Event.written_singleton, String.empty_append, String.append_assoc]

end Line

/-! ## All lines -/

/-- What holds of a session when some lines have been entered, which are inputs and lines that wait:
the inputs have been reported, each once, with its tokens or its errors behind the signs for its
lines, and the lines that wait have got their signs only. -/
structure Reached (lines : List String) (inputs : List (List String)) (rest : List String)
    (s : Session) : Prop where
  divides : Divides lines inputs rest
  pending : s.pending = String.join rest
  reported : s.reported = inputs.map String.join
  outs : Event.written Event.stdout s.events =
    String.join (inputs.map fun input => signs input.length ++ shown (String.join input)) ++
      signs rest.length
  errs : Event.written (Event.stderr .onlyErrors) s.events =
    String.join (inputs.map fun input => complained (String.join input))

namespace Reached

variable {lines rest : List String} {inputs : List (List String)} {s : Session}

theorem pending_eq_empty_iff (h : Reached lines inputs rest s) : s.pending = "" ↔ rest = [] := by
  rw [h.pending]
  exact h.divides.waiting.join_eq_empty_iff

/-- The sign for the next line is the one behind those of the lines that wait. -/
theorem signs_append_nextSign (h : Reached lines inputs rest s) :
    signs rest.length ++ s.nextSign = signs (rest.length + 1) := by
  have hempty : s.pending.isEmpty = (rest.length == 0) := by
    rw [Bool.eq_iff_iff, String.isEmpty_iff, h.pending_eq_empty_iff, beq_iff_eq,
      List.length_eq_zero_iff]
  rw [signs_succ, Session.nextSign, hempty]
  rfl

/-- One more line is reported with the lines that wait for it, or waits itself. -/
theorem enter (h : Reached lines inputs rest s) (line : String) :
    ∃ inputs' rest', Reached (lines ++ [line]) inputs' rest' (s.enter line) := by
  have hjoin : s.pending ++ line = String.join (rest ++ [line]) := by
    rw [h.pending, String.join_append, String.join_cons, String.join_nil, String.append_empty]
  have hsigns : signs rest.length ++ s.nextSign = signs (rest ++ [line]).length := by
    rw [h.signs_append_nextSign, List.length_append, List.length_singleton]
  have hstderr := Event.silent_stderr Log.Record.passes_onlyErrors
  -- The line ends the input of the lines that wait unless the text with it is unfinished too.
  by_cases hlast : Unfinished (s.pending ++ line)
  · obtain ⟨hpending, hreported, hwritten⟩ := enter_of_unfinished s hlast
    refine ⟨inputs, rest ++ [line], h.divides.wait (hjoin ▸ hlast), ?_, ?_, ?_, ?_⟩
    · rw [hpending, hjoin]
    · rw [hreported, h.reported]
    · rw [hwritten Event.silent_stdout, h.outs, String.append_assoc, ← hsigns]
      rfl
    · rw [hwritten hstderr, h.errs]
      exact String.append_empty
  · obtain ⟨hpending, hreported, hwritten⟩ := enter_of_finished s hlast
    refine ⟨inputs ++ [rest ++ [line]], [], h.divides.report (hjoin ▸ hlast), hpending, ?_, ?_, ?_⟩
    · rw [hreported, h.reported, hjoin, List.map_append, List.map_singleton]
    · rw [hwritten Event.silent_stdout, stdout_report, h.outs, hjoin, List.map_append,
        List.map_singleton, String.join_append, ← hsigns]
      simp [signs, String.append_assoc, Event.stdout]
    · rw [hwritten hstderr, stderr_report, h.errs, hjoin, List.map_append, List.map_singleton,
        String.join_append]
      simp [Event.stderr]

end Reached

/-- Errors stand for the faults of a text, each on its line, where the first line of the text is
line 1. -/
def Numbered (text : String) (errors : List LexError) : Prop :=
  ∃ segments, Source.IsCut text.toList segments ∧
    List.Forall₂ (Spot.Fails text.toList)
      ((Source.spots segments).filter (·.segment.isFault)) errors

theorem numbered_of_tokenize {text : String} {errors : List LexError}
    (h : tokenize text = .error errors) : Numbered text errors := by
  obtain ⟨-, rfl⟩ := Scan.result_eq_error_iff.mp h
  exact ⟨Source.cut text.toList, Source.isCut_iff.mpr rfl, forall₂_errors text⟩

section Run

variable (text : String)

variable {text} {entered more : List String}

end Run

end Prompt

end Loxeme
