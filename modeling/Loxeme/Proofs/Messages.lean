import Loxeme.Proofs.Report
import Loxeme.Report.Failure

/-!
# Messages of errors

The message of an error tells all of it: its line ends at the first character that is no digit, and
what is said behind it differs for each kind of error. A scan reports no line feed, so each of its
messages is one line, and the report of a source can be taken apart into its messages again.

* `LexError.message_injective`: no two errors have the same message.
* `LexError.lineFeed_not_mem_messages`: the messages of a scan are one line each.
* `Failure.lines_lexical`: the lines of a report are the messages of its errors.
* `report_tells_errors`: the report of a source tells all of its errors and nothing else.
-/

namespace Loxeme

theorem isDigit_of_mem_toString {n : Nat} {c : Char} (h : c ∈ (toString n).toList) :
    c.isDigit = true := by
  rw [Nat.toString_eq_repr, Nat.toList_repr] at h
  exact Nat.isDigit_of_mem_toDigits (by decide) (by decide) h

/-! ## Messages without a line feed -/

theorem lineFeed_not_mem_toString (n : Nat) : '\n' ∉ (toString n).toList :=
  fun h => absurd (isDigit_of_mem_toString h) (by decide)

theorem lineFeed_not_mem_append {a b : String} (ha : '\n' ∉ a.toList) (hb : '\n' ∉ b.toList) :
    '\n' ∉ (a ++ b).toList := by
  rw [String.toList_append, List.mem_append, not_or]
  exact ⟨ha, hb⟩

/-- The message of an error is one line if what it says is. -/
theorem LexError.lineFeed_not_mem_message {e : LexError} (h : '\n' ∉ e.complaint.toList) :
    '\n' ∉ e.message.toList := by
  have hstart := lineFeed_not_mem_append (a := "[line ") (by decide +kernel)
    (lineFeed_not_mem_toString e.line)
  unfold message
  apply lineFeed_not_mem_append _ h
  exact lineFeed_not_mem_append hstart (by decide +kernel)

/-- The error of a segment says what is wrong in one line: a stray character is no line feed, as
that is a blank. -/
theorem Segment.Fails.lineFeed_not_mem_complaint {g : Segment} {e : LexError} {rest : List Char}
    (he : g.Fails e) (hg : g.Fits rest) : '\n' ∉ e.complaint.toList := by
  cases he with
  | stray c line =>
    have hc : '\n' ∉ (String.singleton c).toList := by
      rw [String.toList_singleton, List.mem_singleton]
      rintro rfl
      exact hg (.inl rfl)
    have hstart := lineFeed_not_mem_append (a := "Unexpected character '") (by decide +kernel) hc
    exact lineFeed_not_mem_append hstart (by decide +kernel)
  | unclosed body line =>
    show '\n' ∉ "Unterminated string.".toList
    decide +kernel

namespace LexError

theorem lineFeed_not_mem_messages (source : String) :
    ∀ text ∈ (scan source).errors.map message, '\n' ∉ text.toList := by
  intro text htext
  obtain ⟨e, he, rfl⟩ := List.mem_map.mp htext
  obtain ⟨s, hs, hfails, -⟩ := exists_mem_of_forall₂ (forall₂_errors source).flip he
  obtain ⟨rest, -, hfits⟩ := Source.in_spots_cut source.toList s (List.mem_of_mem_filter hs)
  exact lineFeed_not_mem_message (hfails.lineFeed_not_mem_complaint hfits)

/-! ## Messages tell errors apart -/

private theorem third_append {a b : String} {c : Char} (h : a.toList[2]? = some c) :
    (a ++ b).toList[2]? = some c := by
  obtain ⟨hlt, -⟩ := List.getElem?_eq_some_iff.mp h
  rw [String.toList_append, List.getElem?_append_left hlt, h]

/-- The third letter of what is said tells the kind of the error. -/
theorem getElem?_two_complaint (e : LexError) :
    e.complaint.toList[2]? = some (match e with
      | .unexpectedCharacter _ _ => 'e'
      | .unterminatedString _ => 't'
      | .invalidNumber _ _ => 'v') := by
  cases e with
  | unexpectedCharacter character line =>
    exact third_append (c := 'e') (third_append (by decide +kernel))
  | unterminatedString line =>
    show "Unterminated string.".toList[2]? = some 't'
    decide +kernel
  | invalidNumber literal line =>
    exact third_append (c := 'v') (third_append (by decide +kernel))

theorem eq_of_line_of_complaint {d e : LexError} (hline : d.line = e.line)
    (hcomplaint : d.complaint = e.complaint) : d = e := by
  have hthird := getElem?_two_complaint d
  rw [hcomplaint, getElem?_two_complaint] at hthird
  cases d with
  | unexpectedCharacter c line =>
    cases e with
    | unexpectedCharacter c' line' =>
      obtain rfl : line = line' := hline
      have hc := (String.append_right_inj _).mp ((String.append_left_inj _).mp hcomplaint)
      rw [← String.toList_inj, String.toList_singleton, String.toList_singleton] at hc
      obtain rfl : c = c' := List.singleton_inj.mp hc
      rfl
    | _ => simp at hthird
  | unterminatedString line =>
    cases e with
    | unterminatedString line' => exact congrArg _ hline
    | _ => simp at hthird
  | invalidNumber literal line =>
    cases e with
    | invalidNumber literal' line' =>
      obtain rfl : line = line' := hline
      have hliteral := (String.append_right_inj _).mp ((String.append_left_inj _).mp hcomplaint)
      exact congrArg (invalidNumber · line) hliteral
    | _ => simp at hthird

/-- A message behind its first bracket: the digits of the line, and what a bracket begins. -/
theorem toList_message (e : LexError) :
    e.message.toList =
      "[line ".toList ++ ((toString e.line).toList ++ ("] Error: " ++ e.complaint).toList) := by
  simp only [message, String.toList_append, List.append_assoc]

theorem message_injective : Function.Injective message := by
  intro d e h
  rw [← String.toList_inj, toList_message, toList_message, List.append_cancel_left_eq] at h
  -- The digits of a line are the run of digits in front of the bracket.
  have hdigits : ∀ a : LexError, ∀ c ∈ (toString a.line).toList, c.isDigit = true :=
    fun a c hc => isDigit_of_mem_toString hc
  have hstop : ∀ a : LexError, ∀ c ∈ ("] Error: " ++ a.complaint).toList.head?,
      c.isDigit = false := by
    intro a c hc
    rw [String.toList_append, show "] Error: ".toList = ']' :: " Error: ".toList from rfl] at hc
    cases hc
    decide
  have hline : (toString d.line).toList = (toString e.line).toList := by
    rw [← takeWhile_run (hdigits d) (hstop d), h, takeWhile_run (hdigits e) (hstop e)]
  have hcomplaint : ("] Error: " ++ d.complaint).toList = ("] Error: " ++ e.complaint).toList := by
    rw [← dropWhile_run (hdigits d) (hstop d), h, dropWhile_run (hdigits e) (hstop e)]
  rw [String.toList_inj, String.append_right_inj] at hcomplaint
  rw [Nat.toString_eq_repr, Nat.toString_eq_repr, Nat.toList_repr, Nat.toList_repr] at hline
  refine eq_of_line_of_complaint ?_ hcomplaint
  rw [← Nat.ofDigitChars_ten_toDigits (n := d.line), hline, Nat.ofDigitChars_ten_toDigits]

end LexError

/-! ## Reports -/

/-- The lines of what a failure is reported with: the texts between its line feeds. -/
def Failure.lines (f : Failure) : List String :=
  (f.message.split '\n').toList.map (·.copy)

theorem Failure.lines_lexical {errors : List LexError} (hne : errors ≠ [])
    (h : ∀ text ∈ errors.map LexError.message, '\n' ∉ text.toList) :
    (Failure.lexical errors).lines = errors.map LexError.message := by
  have hsplit := String.toList_split_intercalate h
  rw [if_neg (by simpa using hne)] at hsplit
  exact hsplit

/-- The errors that a source is rejected with are reported in one line each. -/
theorem lines_report {source : String} {errors : List LexError}
    (h : tokenize source = .error errors) :
    (Failure.lexical errors).lines = errors.map LexError.message := by
  obtain ⟨hne, rfl⟩ := Scan.result_eq_error_iff.mp h
  exact Failure.lines_lexical hne (LexError.lineFeed_not_mem_messages source)

/-- The report of a source that is rejected has a line for each of its errors, which is the message
of the error, and sources that are reported alike have the same errors. -/
theorem report_tells_errors {source other : String} {errors others : List LexError}
    (h : tokenize source = .error errors) (h' : tokenize other = .error others) :
    (Failure.lexical errors).lines = errors.map LexError.message ∧
      ((Failure.lexical errors).message = (Failure.lexical others).message → errors = others) := by
  refine ⟨lines_report h, fun hsame => ?_⟩
  have hmessages : errors.map LexError.message = others.map LexError.message := by
    rw [← lines_report h, ← lines_report h', Failure.lines, hsame]
    rfl
  exact List.map_injective_iff.mpr LexError.message_injective hmessages

/-- A separator of lines that is no line feed, and a bracket as the one behind a line. -/
theorem report_tells_errors_of_separator :
    ∃ errors others, tokenize "\u2028]\n\"1" = .error errors ∧
      tokenize "\u2028 ] // @\n\"" = .error others ∧
      (Failure.lexical errors).message = (Failure.lexical others).message ∧
      (Failure.lexical errors).lines =
        ["[line 1] Error: Unexpected character '\u2028'.",
          "[line 1] Error: Unexpected character ']'.", "[line 2] Error: Unterminated string."] ∧
      errors = others := by
  have herrors : (scan "\u2028]\n\"1").errors = [.unexpectedCharacter '\u2028' 1,
      .unexpectedCharacter ']' 1, .unterminatedString 2] := by
    decide +kernel
  have hothers : (scan "\u2028 ] // @\n\"").errors = (scan "\u2028]\n\"1").errors := by
    decide +kernel
  have h := Scan.result_eq_error_iff.mpr ⟨List.cons_ne_nil _ _, herrors⟩
  have h' := Scan.result_eq_error_iff.mpr ⟨List.cons_ne_nil _ _, hothers.trans herrors⟩
  obtain ⟨hlines, hinj⟩ := report_tells_errors h h'
  exact ⟨_, _, h, h', rfl, hlines.trans (by decide +kernel), hinj rfl⟩

end Loxeme
