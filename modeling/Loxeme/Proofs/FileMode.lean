import Loxeme.Proofs.Dialogue
import Loxeme.Proofs.Messages

/-!
# The file mode

A file is scanned with all its text or not at all. Its tokens are written if the text has no error,
all errors are written if it has any, and a file that is no text is refused. Nothing is ever written
of two of these.

* `Event.transcript_of_records`: the transcript of a run that only logs before it writes.
* `LexError.isLines_messages`: each error of a scan is reported on a line of its own.
* `FileMode.Ends`, `FileMode.Ends.unique`: how the run on a file ends, which is fixed by its bytes.
* `FileMode.ends_scanFile`: the run on a file ends so.
* `Arguments.PassesThrough`: what is asked of a parser of command lines, and
  `Arguments.passesThrough_parse` that the one defined here does it.
* `Log.Subscriber.Silent`: what is asked of a log.
* `file_mode_all_or_nothing`: a file is scanned as a whole, whichever of them is given.
-/

namespace Loxeme

/-! ## Runs that log before they write -/

/-- A run that logs and then writes one text has written that text only, if no record passes. -/
theorem Event.transcript_of_records {f : Log.Filter} {records : List Log.Record} {event : Event}
    {code : Nat} (hf : ∀ r, .log r ∈ records.map Event.log ++ [event] → r.passes f = false) :
    Outcome.transcript ⟨records.map .log ++ [event], code⟩ f =
      ⟨code, event.stdout, event.stderr .onlyErrors⟩ := by
  have herrs := Event.written_stderr_of_silent hf
  have hsilent := Event.silent_stderr Log.Record.passes_onlyErrors
  rw [Event.written_append (Event.stderr .onlyErrors), hsilent.written_map_log,
    Event.written_singleton, String.empty_append] at herrs
  refine congrArg₂ (Transcript.mk code) ?_ herrs
  show Event.written Event.stdout _ = _
  rw [Event.written_append, Event.silent_stdout.written_map_log, Event.written_singleton,
    String.empty_append]

/-! ## Reports on lines of their own -/

/-- Texts without a line feed are lines with one behind each. -/
theorem Prompt.isLines_of_not_mem {texts : List String} (h : ∀ text ∈ texts, '\n' ∉ text.toList) :
    Prompt.IsLines (String.join (texts.map (· ++ "\n"))) (texts.map (· ++ "\n")) := by
  have hends : ∀ line ∈ texts.map (· ++ "\n"), line.toList.getLast? = some '\n' := by
    intro line hline
    obtain ⟨text, -, rfl⟩ := List.mem_map.mp hline
    simp
  refine ⟨rfl, ?_, ?_, fun line hline => hends line (List.dropLast_subset _ hline)⟩
  · rintro line hline rfl
    cases hends _ hline
  · intro line hline
    obtain ⟨text, htext, rfl⟩ := List.mem_map.mp hline
    simpa using h text htext

/-- Each error of a scan is reported on a line of its own. -/
theorem LexError.isLines_messages (source : String) :
    Prompt.IsLines (String.join ((scan source).errors.map fun e => e.message ++ "\n"))
      ((scan source).errors.map fun e => e.message ++ "\n") := by
  have hlines := Prompt.isLines_of_not_mem (lineFeed_not_mem_messages source)
  rwa [List.map_map] at hlines

namespace FileMode

/-! ## The end of a run -/

/-- How the run on a file ends, by its bytes: with the tokens of their text in their canonical form,
with all of its errors in the order of their places, or with the report that they are no text. -/
inductive Ends (content : ByteArray) : Transcript → Prop
  | accepted {source : String} {tokens : List Token} (htext : content = source.toUTF8)
    (h : tokenize source = .ok tokens) :
    Ends content ⟨0, String.join (tokens.map fun t => t.dump ++ "\n"), ""⟩
  | rejected {source stderr : String} {errors : List LexError} (htext : content = source.toUTF8)
    (h : tokenize source = .error errors) (hplaces : Prompt.Numbered source errors)
    (hlines : Prompt.IsLines stderr (errors.map fun e => e.message ++ "\n")) :
    Ends content ⟨65, "", stderr⟩
  | refused (h : ∀ source : String, content ≠ source.toUTF8) :
    Ends content ⟨66, "", "Error reading source: stream did not contain valid UTF-8\n"⟩

theorem toUTF8_inj {a b : String} (h : a.toUTF8 = b.toUTF8) : a = b :=
  String.toByteArray_inj.mp h

/-- The bytes of a file fix the end of the run. -/
theorem Ends.unique {content : ByteArray} {t u : Transcript} (ht : Ends content t)
    (hu : Ends content u) : u = t := by
  cases ht with
  | accepted htext h =>
    cases hu with
    | accepted htext' h' =>
      obtain rfl := toUTF8_inj (htext.symm.trans htext')
      cases h.symm.trans h'
      rfl
    | rejected htext' h' =>
      obtain rfl := toUTF8_inj (htext.symm.trans htext')
      cases h.symm.trans h'
    | refused h' => exact absurd htext (h' _)
  | rejected htext h _ hlines =>
    cases hu with
    | accepted htext' h' =>
      obtain rfl := toUTF8_inj (htext.symm.trans htext')
      cases h.symm.trans h'
    | rejected htext' h' _ hlines' =>
      obtain rfl := toUTF8_inj (htext.symm.trans htext')
      cases h.symm.trans h'
      rw [← hlines.join, ← hlines'.join]
    | refused h' => exact absurd htext (h' _)
  | refused h =>
    cases hu with
    | accepted htext' => exact absurd htext' (h _)
    | rejected htext' => exact absurd htext' (h _)
    | refused => rfl

section Run

variable {content : ByteArray} {path : String} {f : Log.Filter}

/-- The run on a file that logs nothing ends as its bytes tell. -/
theorem ends_scanFile
    (hf : ∀ r, .log r ∈ (scanFile path (.ok content)).events → r.passes f = false) :
    Ends content ((scanFile path (.ok content)).transcript f) := by
  by_cases htext : ∃ source : String, content = source.toUTF8
  · obtain ⟨source, rfl⟩ := htext
    rw [scanFile_toUTF8, scanSource_eq] at hf ⊢
    rw [Event.transcript_of_records hf, Prompt.stdout_report, Prompt.stderr_report]
    -- What is reported hangs on the result, and the code on whether there were errors.
    cases h : tokenize source with
    | ok tokens =>
      have hnone : (scan source).hadError = false := by
        rw [Scan.hadError, (Scan.result_eq_ok_iff.mp h).1]
        rfl
      simp only [Prompt.shown, Prompt.complained, h, hnone]
      exact .accepted rfl h
    | error errors =>
      obtain ⟨hne, herrors⟩ := Scan.result_eq_error_iff.mp h
      have hsome : (scan source).hadError = true := by
        simpa [Scan.hadError, herrors] using hne
      have hlines := LexError.isLines_messages source
      rw [herrors] at hlines
      simp only [Prompt.shown, Prompt.complained, h, hsome, if_true]
      exact .rejected rfl h (Prompt.numbered_of_tokenize h) hlines
  · have hnone : ∀ source : String, content ≠ source.toUTF8 := not_exists.mp htext
    rw [scanFile_of_not_text path hnone] at hf ⊢
    have hrefused : (Outcome.failure [] (.unreadable .notText)).transcript f =
        ⟨66, "", "Error reading source: stream did not contain valid UTF-8\n"⟩ :=
      @Event.transcript_of_records f [] _ 66 hf
    rw [hrefused]
    exact .refused hnone

end Run

end FileMode

/-! ## The command lines -/

namespace Arguments

/-- A parser passes the name of a file through: by itself it is the file, and behind the command to
scan a file it is the one of the command. Nothing else is given. -/
structure PassesThrough (parse : List Argument → Except Stop Options) (path : String) : Prop where
  name : parse [.ofText path] = .ok ⟨none, some path, none⟩
  command : parse [.ofText "tokenize", .ofText path] = .ok ⟨some (.tokenize path), none, none⟩

section Words

variable {path : String} {command : Option Command}

/-- A word that is no option is taken for the file where one has a place. -/
theorem step_start (hplain : (Argument.ofText path).word = .plain)
    (hcommand : command ≠ some .repl) :
    (Progress.start command).step (.ofText path) =
      .ok { Progress.start command with pending := .file (.ofText path) } := by
  have htakes : (Progress.start command).takesFile = true := by
    simpa [Progress.takesFile, Progress.start] using hcommand
  simp only [Progress.step, hplain, Progress.plain]
  show (if (Progress.start command).takesFile then _ else _) = _
  rw [if_pos htakes]

/-- The name of the file is a text. -/
theorem settle_file (p : Progress) :
    Progress.settle { p with pending := .file (.ofText path) } =
      .ok { p with file := some path, pending := .nothing } := by
  simp only [Progress.settle, textOf, Argument.text?_ofText]
  rfl

/-- The name of the file alone, which is not the one of a command. -/
theorem split_name (hplain : (Argument.ofText path).word = .plain)
    (h : named? (.ofText path) = none) :
    split (.start none) [.ofText path] =
      .ok ({ Progress.start none with file := some path, pending := .nothing }, none) := by
  -- The word is looked up first, as commands may stand where a file may.
  have hname : (if (Progress.start none).trailing || (Progress.start none).pending == .logName
      then none else named? (.ofText path)) = none := h
  rw [split, hname]
  have hstep := step_start hplain (nofun : none ≠ some Command.repl)
  simp only [hstep]
  show split _ [] = _
  rw [split, settle_file]
  rfl

/-- The command to scan a file, and the name of the file. -/
theorem split_tokenize (hplain : (Argument.ofText path).word = .plain) :
    split (.start none) [.ofText "tokenize", .ofText path] =
      .ok (.start none, some { Progress.start (some .tokenize) with
        file := some path, pending := .nothing }) := by
  have hname : (if (Progress.start none).trailing || (Progress.start none).pending == .logName
      then none else named? (.ofText "tokenize")) = some (.command .tokenize) := by
    decide +kernel
  have hsteps : (Progress.start (some .tokenize)).steps [.ofText path] =
      .ok { Progress.start (some .tokenize) with pending := .file (.ofText path) } := by
    have hstep := step_start hplain (nofun : some Command.tokenize ≠ some Command.repl)
    rw [Progress.steps, List.foldlM_cons, hstep]
    rfl
  rw [split, hname]
  simp only [hsteps]
  show (finish _ >>= _) = _
  rw [finish, settle_file]
  rfl

/-- Names are passed through that are neither an option nor the name of a command. -/
theorem passesThrough_parse (hplain : (Argument.ofText path).word = .plain)
    (h : named? (.ofText path) = none) : PassesThrough parse path := by
  constructor
  · rw [parse, split_name hplain h]
    rfl
  · rw [parse, split_tokenize hplain]
    rfl

end Words

/-- Either command line asks for the run on the file. -/
theorem PassesThrough.read_eq {parse : List Argument → Except Stop Options} {path : String}
    (h : PassesThrough parse path) {words : List Argument}
    (hwords : words ∈ [[.ofText path], [.ofText "tokenize", .ofText path]]) :
    read parse words = .ok (.file path, none) := by
  simp only [List.mem_cons, List.not_mem_nil, or_false] at hwords
  rcases hwords with rfl | rfl
  · rw [read, h.name]
    rfl
  · rw [read, h.command]
    rfl

end Arguments

/-! ## Logs that are silent -/

/-- A log is silent on a run: it writes nothing when it is set up, and takes no record. -/
structure Log.Subscriber.Silent (log : Log.Subscriber) (events : List Event) : Prop where
  notice : log.notice = ""
  passes : ∀ r, .log r ∈ events → r.passes log.filter = false

/-- The file mode is all or nothing. The run on a file that can be read ends in one of three ways,
and which one the bytes of the file decide: its tokens are written and nothing else, or its errors
are written, each on a line of its own, or it is refused. The name of the file alone and the command
with the name end alike. This holds for any parser of command lines that passes the name through and
any log that is silent. -/
theorem file_mode_all_or_nothing {around : Run.Surroundings} {path : String} {content : ByteArray}
    {environment : Option String} (hread : around.read path = .ok content)
    (hparse : Arguments.PassesThrough around.parse path)
    (hlog : (around.subscribe (Run.filterText none environment)).Silent
      (scanFile path (.ok content)).events) (input : ByteArray) :
    ∃ t, FileMode.Ends content t ∧ (∀ u, FileMode.Ends content u → u = t) ∧
      ∀ words ∈ [[Argument.ofText path], [.ofText "tokenize", .ofText path]],
        Run.transcript around words environment input = t := by
  have hends := FileMode.ends_scanFile hlog.passes
  refine ⟨_, hends, fun u hu => hends.unique hu, fun words hwords => ?_⟩
  rw [Run.transcript, hparse.read_eq hwords]
  simp only [Run.outcome, hread, hlog.notice, String.empty_append]

/-- A file with a string over two lines, one with a stray character behind a token and a quote at
its end that is not closed, and one with a byte that is in no text. -/
def FileMode.threeFiles : Folder :=
  ⟨[(["a.lox"], some "x=\"a\nb\"".toUTF8), (["b.lox"], some "1 @\n\"".toUTF8),
    (["c.lox"], some [0x31, 0xFF].toByteArray)]⟩

/-- Each of the files ends in its own way. -/
theorem file_mode_all_or_nothing_of_three_files :
    (∀ path ∈ ["a.lox", "b.lox", "c.lox"], Arguments.PassesThrough Arguments.parse path) ∧
      (∀ events, (Log.Subscriber.ofText (Run.filterText none none)).Silent events) ∧
      FileMode.threeFiles.read "a.lox" = .ok "x=\"a\nb\"".toUTF8 ∧
      FileMode.threeFiles.read "b.lox" = .ok "1 @\n\"".toUTF8 ∧
      FileMode.threeFiles.read "c.lox" = .ok [0x31, 0xFF].toByteArray ∧
      (∀ words ∈ [[Argument.ofText "a.lox"], [.ofText "tokenize", .ofText "a.lox"]],
        run words none FileMode.threeFiles .empty =
          ⟨0, "IDENTIFIER x null\nEQUAL = null\nSTRING \"a\nb\" a\nb\nEOF  null\n", ""⟩) ∧
      (∀ words ∈ [[Argument.ofText "b.lox"], [.ofText "tokenize", .ofText "b.lox"]],
        run words none FileMode.threeFiles .empty =
          ⟨65, "", "[line 1] Error: Unexpected character '@'.\n" ++
            "[line 2] Error: Unterminated string.\n"⟩) ∧
      ∀ words ∈ [[Argument.ofText "c.lox"], [.ofText "tokenize", .ofText "c.lox"]],
        run words none FileMode.threeFiles .empty =
          ⟨66, "", "Error reading source: stream did not contain valid UTF-8\n"⟩ := by
  have hparse : ∀ path ∈ ["a.lox", "b.lox", "c.lox"],
      Arguments.PassesThrough Arguments.parse path := by
    have hplain : ∀ path ∈ ["a.lox", "b.lox", "c.lox"], (Argument.ofText path).word = .plain ∧
        Arguments.named? (.ofText path) = none := by
      decide +kernel
    exact fun path hpath =>
      Arguments.passesThrough_parse (hplain path hpath).1 (hplain path hpath).2
  have hlog : ∀ events, (Log.Subscriber.ofText (Run.filterText none none)).Silent events := by
    refine fun events => ⟨rfl, fun r _ => ?_⟩
    cases r <;> rfl
  have hrun : ∀ path ∈ ["a.lox", "b.lox", "c.lox"], ∀ content t,
      (Run.Surroundings.standard FileMode.threeFiles).read path = .ok content →
      FileMode.Ends content t → ∀ words ∈ [[.ofText path], [.ofText "tokenize", .ofText path]],
        run words none FileMode.threeFiles .empty = t := by
    intro path hpath content t hread hends words hwords
    obtain ⟨u, -, hunique, hruns⟩ :=
      file_mode_all_or_nothing hread (hparse path hpath) (hlog _) .empty
    rw [hunique t hends]
    exact hruns words hwords
  have ha : FileMode.threeFiles.read "a.lox" = .ok "x=\"a\nb\"".toUTF8 := by decide +kernel
  have hb : FileMode.threeFiles.read "b.lox" = .ok "1 @\n\"".toUTF8 := by decide +kernel
  have hc : FileMode.threeFiles.read "c.lox" = .ok [0x31, 0xFF].toByteArray := by decide +kernel
  refine ⟨hparse, hlog, ha, hb, hc, hrun _ (by simp) _ _ ha ?_, hrun _ (by simp) _ _ hb ?_,
    hrun _ (by simp) _ _ hc ?_⟩
  · have htokens : tokenize "x=\"a\nb\"" = .ok [⟨.identifier, "x", 1, none⟩,
        ⟨.symbol .equal, "=", 1, none⟩, ⟨.string, "\"a\nb\"", 1, some (.text "a\nb")⟩,
        Token.eof 2] := by
      decide +kernel
    exact FileMode.Ends.accepted rfl htokens
  · have herrors : (scan "1 @\n\"").errors =
        [.unexpectedCharacter '@' 1, .unterminatedString 2] := by
      decide +kernel
    have hresult := Scan.result_eq_error_iff.mpr ⟨herrors ▸ List.cons_ne_nil _ _, herrors⟩
    have hlines := LexError.isLines_messages "1 @\n\""
    rw [herrors] at hlines
    exact FileMode.Ends.rejected rfl hresult (Prompt.numbered_of_tokenize hresult) hlines
  · have hnone : ¬ByteArray.IsValidUTF8 [0x31, 0xFF].toByteArray := by decide +kernel
    exact .refused fun source htext => hnone (htext ▸ source.isValidUTF8)

end Loxeme
