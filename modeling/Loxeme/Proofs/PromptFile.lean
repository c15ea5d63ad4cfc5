import Loxeme.Command.Run
import Loxeme.Proofs.LineEnds

/-!
# The prompt and the file mode

A source without errors is shown alike when it is entered at the prompt line by line and when it is
read from a file. Lines wait for more only inside of a quoted text, which the rest of the source
closes, and a line end between two segments divides the tokens as it divides the source.

* `Prompt.Shows`: what is seen of the prompt when it shows some tokens.
* `Prompt.Turn.Shows`: the tokens that a line is answered with.
* `Prompt.Awaits`: what holds of the lines that wait and of the text that is still to come.
* `Prompt.Awaits.enter_line`: one more line keeps it.
* `Prompt.foldl_enter`: the turns on the lines of a text without errors.
* `prompt_agrees_with_file`: the prompt shows the tokens that the file mode writes.
-/

namespace Loxeme

namespace Prompt

/-! ## What is seen -/

/-- What is seen of the prompt from a sign on, and the tokens that it shows. A line is answered with
its tokens in their canonical form, the one for the end of its input last, or with nothing, and then
the next sign tells that lines wait. Records may go to the log before the answer. At the end no line
waits, and there is a line feed. -/
inductive Shows : Bool → List Event → List Token → Prop
  | quit : Shows false [.out "> ", .out "\n"] []
  | wait {continued : Bool} {events : List Event} {tokens : List Token}
    (records : List Log.Record) (h : Shows true events tokens) :
    Shows continued (.out (if continued then ". " else "> ") :: records.map .log ++ events) tokens
  | report {continued : Bool} {events : List Event} {tokens : List Token}
    (records : List Log.Record) (own : List Token) (line : Nat) (h : Shows false events tokens) :
    Shows continued
      (.out (if continued then ". " else "> ") :: records.map .log ++
        [.out (String.join ((own ++ [Token.eof line]).map fun t => t.dump ++ "\n"))] ++ events)
      (own ++ tokens)

/-- Where tokens are shown only, no error is written. -/
theorem Shows.err_not_mem {continued : Bool} {events : List Event} {tokens : List Token}
    (h : Shows continued events tokens) (text : String) : .err text ∉ events := by
  induction h with
  | quit => simp
  | wait records h ih => simp [ih]
  | report records own line h ih => simp [ih]

/-! ## One line -/

/-- A turn that leaves some lines waiting shows its own tokens before all that are shown later. -/
def Turn.Shows (t : Turn) (waiting : String) (own : List Token) : Prop :=
  ∀ {events : List Event} {tokens : List Token}, Prompt.Shows (!waiting.isEmpty) events tokens →
    Prompt.Shows t.continued (t.events ++ events) (own ++ tokens)

section Line

variable {pending line : String} (turns : List Turn)

/-- Lines without errors are shown, and no line waits then. -/
theorem enter_of_clean (h : Source.Clean (Source.cut (pending ++ line).toList)) :
    Session.enter ⟨pending, turns⟩ line = ⟨"", Turn.of pending line :: turns⟩ ∧
      (Turn.of pending line).Shows ""
        (Source.tokensFrom Position.start (Source.cut (pending ++ line).toList)) := by
  have herrors : (scan (pending ++ line)).errors = [] := (errors_eq_nil_iff _).mpr h
  have hwaits : (Turn.of pending line).waits = false := by
    rw [Turn.waits, Turn.of, herrors]
    rfl
  have hresult := tokenize_eq_ok_iff.mpr ⟨h, rfl⟩
  rw [tokenize] at hresult
  refine ⟨?_, fun hlater => ?_⟩
  · simp only [Session.enter, hwaits, Bool.false_eq_true, if_false]
  · rw [Turn.events, Turn.answer, hwaits, if_neg Bool.false_ne_true, Scan.logEvents, Turn.of,
      Scan.report, hresult]
    exact .report _ _ _ hlater

/-- Lines whose only error is a quote that is not closed wait for more. -/
theorem enter_of_unclosed {a : List Segment} {body : List Char}
    (h : Source.cut (pending ++ line).toList = a ++ [.unclosed body]) (hclean : Source.Clean a) :
    Session.enter ⟨pending, turns⟩ line = ⟨pending ++ line, Turn.of pending line :: turns⟩ ∧
      (Turn.of pending line).Shows (pending ++ line) [] := by
  have hwaits : (Turn.of pending line).waits = true :=
    (onlyUnterminated_errors_iff _).mpr ⟨a, body, h, hclean⟩
  have hne : (pending ++ line).isEmpty = false := by
    refine Bool.eq_false_iff.mpr fun hempty => ?_
    rw [String.isEmpty_iff.mp hempty] at h
    exact List.concat_ne_nil _ _ (h.symm.trans Source.cut_nil)
  refine ⟨?_, fun hlater => ?_⟩
  · simp only [Session.enter, hwaits, if_true]
    rfl
  · have hanswer : (Turn.of pending line).answer = List.map Event.log
        ((scan (pending ++ line)).records ++ [.waiting (pending ++ line).utf8ByteSize]) := by
      rw [Turn.answer, hwaits, if_pos rfl, Scan.logEvents, List.map_append]
      rfl
    rw [hne] at hlater
    rw [Turn.events, hanswer]
    exact .wait _ hlater

end Line

/-! ## All lines -/

/-- The lines of a text. -/
def lines (text : List Char) : List String :=
  (splitAfter (· == '\n') text).map String.ofList

theorem lines_of_not_mem {text : List Char} (h : ∀ c ∈ text, (c == '\n') = false)
    (hne : text ≠ []) : lines text = [String.ofList text] := by
  rw [lines, splitAfter_of_forall h hne]
  rfl

theorem lines_append_cons {line : List Char} (h : ∀ c ∈ line, (c == '\n') = false)
    (rest : List Char) :
    lines (line ++ '\n' :: rest) = String.ofList (line ++ ['\n']) :: lines rest := by
  rw [lines, splitAfter_append_cons h rfl]
  rfl

/-- Lines that wait for more and the text that is still to come make segments without a fault, and
lines only wait for want of it. -/
structure Awaits (pending : String) (text : List Char) (segments : List Segment) : Prop where
  lawful : Source.Lawful segments
  clean : Source.Clean segments
  flatMap_chars : segments.flatMap Segment.chars = pending.toList ++ text
  not_clean : pending ≠ "" → ¬Source.Clean (Source.cut pending.toList)

namespace Awaits

variable {pending : String} {line rest : List Char} {segments : List Segment}

/-- No line waits where nothing is to come. -/
theorem eq_nil (h : Awaits pending [] segments) : pending = "" ∧ segments = [] := by
  have htext := h.flatMap_chars
  rw [List.append_nil] at htext
  have hcut : Source.cut pending.toList = segments := Source.cut_eq_iff.mpr ⟨htext, h.lawful⟩
  obtain rfl : pending = "" :=
    Classical.byContradiction fun hne => h.not_clean hne (hcut ▸ h.clean)
  exact ⟨rfl, hcut ▸ Source.cut_nil⟩

/-- The last line is shown with the lines that wait for it. -/
theorem enter_last (h : Awaits pending line segments) (turns : List Turn) :
    Session.enter ⟨pending, turns⟩ (String.ofList line) =
        ⟨"", Turn.of pending (String.ofList line) :: turns⟩ ∧
      (Turn.of pending (String.ofList line)).Shows ""
        (Source.tokensFrom Position.start segments) := by
  have hcut : Source.cut (pending ++ String.ofList line).toList = segments := by
    rw [String.toList_append, String.toList_ofList]
    exact Source.cut_eq_iff.mpr ⟨h.flatMap_chars, h.lawful⟩
  rw [← hcut]
  exact enter_of_clean turns (hcut.symm ▸ h.clean)

/-- A line that ends between two segments is shown with the lines that wait for it, and one that
ends inside of a segment waits. Either way the segments that are still to come have the tokens that
are not shown. -/
theorem enter_line (h : Awaits pending (line ++ '\n' :: rest) segments) (turns : List Turn) :
    ∃ own pending' segments',
      Session.enter ⟨pending, turns⟩ (String.ofList (line ++ ['\n'])) =
          ⟨pending', Turn.of pending (String.ofList (line ++ ['\n'])) :: turns⟩ ∧
        (Turn.of pending (String.ofList (line ++ ['\n']))).Shows pending' own ∧
        Awaits pending' rest segments' ∧
        own.map Token.dump ++ (Source.tokensFrom Position.start segments').map Token.dump =
          (Source.tokensFrom Position.start segments).map Token.dump := by
  obtain ⟨hlawful, hclean, htext, -⟩ := h
  have hinput : (pending ++ String.ofList (line ++ ['\n'])).toList =
      pending.toList ++ line ++ ['\n'] := by
    rw [String.toList_append, String.toList_ofList, List.append_assoc]
  rw [← List.append_assoc] at htext
  cases Source.splitsAt_of_flatMap_chars hlawful hclean htext with
  | @blank a b hbefore hrest =>
    obtain ⟨ha, hb⟩ := Source.clean_append.mp hclean
    have hcut : Source.cut (pending ++ String.ofList (line ++ ['\n'])).toList =
        a ++ [.blank '\n'] := by
      rw [hinput, ← hbefore, Source.cut_upto_blank hlawful]
    have hfirst : Source.Clean (a ++ [.blank '\n']) :=
      Source.clean_append.mpr ⟨ha, Source.clean_cons.mpr ⟨rfl, Source.clean_nil⟩⟩
    obtain ⟨henter, hshows⟩ := enter_of_clean turns (hcut.symm ▸ hfirst)
    rw [hcut] at hshows
    refine ⟨_, "", b, henter, hshows, ⟨hlawful.right.2, (Source.clean_cons.mp hb).2, hrest,
      fun hne => absurd rfl hne⟩, ?_⟩
    -- The line feed goes with the line that it ends, and means nothing there.
    have hsplit : a ++ .blank '\n' :: b = (a ++ [.blank '\n']) ++ b := List.append_cons ..
    rw [hsplit, Source.tokensFrom_append _ (a ++ [Segment.blank '\n']), List.map_append]
    exact congrArg _ (Source.map_dump_tokensFrom _ _ _)
  | @quoted a b body body' hbefore hrest =>
    have hsplit : body ++ '\n' :: body' = (body ++ ['\n']) ++ body' := List.append_cons ..
    have hcut : Source.cut (pending ++ String.ofList (line ++ ['\n'])).toList =
        a ++ [.unclosed (body ++ ['\n'])] := by
      rw [hinput, ← hbefore, List.append_assoc, List.cons_append,
        Source.cut_upto_quoted (hsplit ▸ hlawful)]
    -- Nothing is shown, and the same segments are to come, of whose text a longer part waits.
    have hdirty : ¬Source.Clean (a ++ [.unclosed (body ++ ['\n'])]) := fun h =>
      nomatch (Source.clean_cons.mp (Source.clean_append.mp h).2).1
    obtain ⟨henter, hshows⟩ := enter_of_unclosed turns hcut (Source.clean_append.mp hclean).1
    refine ⟨[], _, _, henter, hshows, ⟨hlawful, hclean, ?_, fun _ => hcut ▸ hdirty⟩, rfl⟩
    rw [htext, hinput, List.append_cons]

end Awaits

/-- The lines of a text are entered behind lines that wait for it: no line waits at the end, and
what is seen shows the tokens of the segments. -/
theorem foldl_enter {text : List Char} {pending : String} {segments : List Segment}
    (h : Awaits pending text segments) (turns : List Turn) :
    ∃ (entered : List Turn) (shown : List Token),
      (lines text).foldl Session.enter ⟨pending, turns⟩ = ⟨"", entered.reverse ++ turns⟩ ∧
      Shows (!pending.isEmpty) (entered.flatMap Turn.events ++ [.out "> ", .out "\n"]) shown ∧
      shown.map Token.dump = (Source.tokensFrom Position.start segments).map Token.dump := by
  induction text using splitAfter_induction (p := (· == '\n'))
    generalizing pending turns segments with
  | nil =>
    obtain ⟨rfl, rfl⟩ := h.eq_nil
    exact ⟨[], [], rfl, .quit, rfl⟩
  | last line hne hline =>
    obtain ⟨henter, hshows⟩ := h.enter_last turns
    have hlast := hshows .quit
    rw [List.append_nil] at hlast
    refine ⟨[Turn.of pending (String.ofList line)], _, ?_, ?_, rfl⟩
    · rw [lines_of_not_mem hline hne, List.foldl_cons, henter]
      rfl
    · rw [List.flatMap_singleton]
      exact hlast
  | cons line c rest hline hc ih =>
    obtain rfl := eq_of_beq hc
    -- What this line shows comes before what the later ones do, as their tokens do in the source.
    obtain ⟨own, pending', segments', henter, hshows, hawaits, hown⟩ := h.enter_line turns
    obtain ⟨entered, shown, hfold, hlater, hdump⟩ :=
      ih hawaits (Turn.of pending (String.ofList (line ++ ['\n'])) :: turns)
    refine ⟨Turn.of pending (String.ofList (line ++ ['\n'])) :: entered, own ++ shown, ?_, ?_, ?_⟩
    · rw [lines_append_cons hline, List.foldl_cons, henter, hfold, List.reverse_cons,
        List.append_assoc]
      rfl
    · rw [List.flatMap_cons, List.append_assoc]
      exact hshows hlater
    · rw [List.map_append, hdump, hown]

/-- The run on a text after whose lines none waits. -/
theorem run_of_foldl_enter {text : String} {turns : List Turn}
    (h : (lines text.toList).foldl Session.enter .start = ⟨"", turns⟩) :
    Prompt.run (.ofBytes text.toUTF8) =
      ⟨turns.reverse.flatMap Turn.events ++ [.out "> ", .out "\n"], 0⟩ := by
  have hlines : (Input.ofText text).lines.foldl Session.enter .start = ⟨"", turns⟩ := h
  rw [Input.ofBytes_toUTF8, Prompt.run, hlines]
  simp [Input.ofText, Session.events, Session.nextSign, Session.farewell, sign, Outcome.success]

end Prompt

/-- A source without errors is shown alike by the file mode and at the prompt. The file mode writes
its tokens in their canonical form, a line feed behind each, the one for the end of the source last.
At the prompt, each line waits or is answered with tokens; no error is written, no line waits at the
end, and the run does not fail. The tokens that are shown, but for the one that ends each input,
have the canonical forms of those that the file mode writes. -/
theorem prompt_agrees_with_file {source : String} {tokens : List Token}
    (h : tokenize source = .ok tokens) (path : String) :
    ∃ lexemes line records events shown,
      tokens = lexemes ++ [Token.eof line] ∧
      scanFile path (.ok source.toUTF8) =
        ⟨List.map Event.log records ++
          [.out (String.join (tokens.map fun t => t.dump ++ "\n"))], 0⟩ ∧
      ((Input.ofBytes source.toUTF8).lines.foldl Prompt.Session.enter .start).pending = "" ∧
      Prompt.run (.ofBytes source.toUTF8) = ⟨events, 0⟩ ∧
      (∀ text, .err text ∉ events) ∧
      Prompt.Shows false events shown ∧
      shown.map Token.dump = lexemes.map Token.dump := by
  obtain ⟨hclean, rfl⟩ := tokenize_eq_ok_iff.mp h
  have hawaits : Prompt.Awaits "" source.toList (Source.cut source.toList) :=
    ⟨Source.lawful_cut _, hclean, Source.flatMap_chars_cut _, fun hne => absurd rfl hne⟩
  obtain ⟨entered, shown, hfold, hshows, hdump⟩ := Prompt.foldl_enter hawaits []
  rw [List.append_nil] at hfold
  have hrun := Prompt.run_of_foldl_enter hfold
  rw [List.reverse_reverse] at hrun
  refine ⟨_, _, .scanning path source.utf8ByteSize :: (scan source).records, _, shown, rfl,
    ?_, ?_, hrun, hshows.err_not_mem, hshows, hdump⟩
  · rw [tokenize] at h
    rw [scanFile_toUTF8, scanSource, h]
    rfl
  · rw [Input.ofBytes_toUTF8]
    exact congrArg Prompt.Session.pending hfold

/-- A string over two lines, behind a comment with a quote. -/
theorem prompt_agrees_with_file_of_two_lines :
    ∃ lexemes line,
      tokenize "// \"\nx=\"a\nb\"" = .ok (lexemes ++ [Token.eof line]) ∧
      lexemes.map Token.dump = ["IDENTIFIER x null", "EQUAL = null", "STRING \"a\nb\" a\nb"] ∧
      (scanFile "script" (.ok "// \"\nx=\"a\nb\"".toUTF8)).transcript .onlyErrors =
        ⟨0, "IDENTIFIER x null\nEQUAL = null\nSTRING \"a\nb\" a\nb\nEOF  null\n", ""⟩ ∧
      (Prompt.run (.ofBytes "// \"\nx=\"a\nb\"".toUTF8)).transcript .onlyErrors =
        ⟨0, "> EOF  null\n> . IDENTIFIER x null\nEQUAL = null\nSTRING \"a\nb\" a\nb\nEOF  null\n" ++
          "> \n", ""⟩ ∧
      ∃ events shown, Prompt.run (.ofBytes "// \"\nx=\"a\nb\"".toUTF8) = ⟨events, 0⟩ ∧
        Prompt.Shows false events shown ∧ shown.map Token.dump = lexemes.map Token.dump := by
  have h : tokenize "// \"\nx=\"a\nb\"" = .ok ([⟨.identifier, "x", 2, none⟩,
      ⟨.symbol .equal, "=", 2, none⟩, ⟨.string, "\"a\nb\"", 2, some (.text "a\nb")⟩] ++
        [Token.eof 3]) := by
    decide +kernel
  obtain ⟨lexemes, line, records, events, shown, heof, -, -, hrun, -, hshows, hdump⟩ :=
    prompt_agrees_with_file h "script"
  obtain ⟨rfl, -⟩ := List.append_inj' heof rfl
  refine ⟨_, _, h, by decide +kernel, ?_, ?_, events, shown, hrun, hshows, hdump⟩
  · rw [scanFile_toUTF8]
    decide +kernel
  · rw [Input.ofBytes_toUTF8]
    decide +kernel

end Loxeme
