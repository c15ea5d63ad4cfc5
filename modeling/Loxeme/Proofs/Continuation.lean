import Loxeme.Proofs.Lexemes

/-!
# Sources that go on

More text can mend a source with errors only if its one error is a quote that is not closed, and
then one more quote is enough. A stray character stays one whatever follows, although what follows
may make other segments longer.

* `Source.cut_close`: a quote behind a text closes a quote that is not closed in it, and changes
  nothing before it.
* `Source.cut_append_of_stray`: more text changes nothing before a stray character.
* `onlyUnterminated_iff_exists_more`: the test for errors that more text can mend is exact.
-/

namespace Loxeme

namespace Source

variable {text : List Char} {a b : List Segment}

/-- A quote that is not closed is the start of a quoted text once a quote follows. -/
theorem cut_close {body : List Char} (h : cut text = a ++ [.unclosed body]) :
    cut (text ++ ['"']) = a ++ [.quoted body] := by
  obtain ⟨rfl, hlawful⟩ := cut_eq_iff.mp h
  have hbody : '"' ∉ body := hlawful.right.1.1
  have htext : [Segment.quoted body].flatMap Segment.chars =
      [Segment.unclosed body].flatMap Segment.chars ++ ['"'] := by
    simp [Segment.chars]
  refine cut_eq_iff.mpr ⟨?_, ?_⟩
  · rw [List.flatMap_append, htext, List.flatMap_append, List.append_assoc]
  · refine hlawful.extend ⟨hbody, lawful_nil⟩ htext (List.cons_ne_nil _ _) fun hpoint => ?_
    cases hpoint

/-- What is before a stray character does not change with what follows it, and neither does the
character itself. -/
theorem cut_append_of_stray {c : Char} (h : cut text = a ++ .stray c :: b) (more : List Char) :
    ∃ b', cut (text ++ more) = a ++ .stray c :: b' := by
  obtain ⟨rfl, hlawful⟩ := cut_eq_iff.mp h
  have hc : ¬StartsSegment c := hlawful.right.1
  have htext : (.stray c :: cut (b.flatMap Segment.chars ++ more)).flatMap Segment.chars =
      (.stray c :: b).flatMap Segment.chars ++ more := by
    rw [List.flatMap_cons, List.flatMap_cons, flatMap_chars_cut, List.append_assoc]
  refine ⟨cut (b.flatMap Segment.chars ++ more), cut_eq_iff.mpr ⟨?_, ?_⟩⟩
  · rw [List.flatMap_append, htext, List.flatMap_append, List.append_assoc]
  · refine hlawful.extend ⟨hc, lawful_cut _⟩ htext (List.cons_ne_nil _ _) fun hpoint => ?_
    -- A point is a symbol.
    obtain ⟨rfl, -⟩ := List.cons.inj hpoint
    exact hc (.inr (.inr (.inr (.inr ⟨.dot, rfl⟩))))

end Source

/-- A stray character is an error whatever follows. -/
theorem exists_tokenize_append_eq_error {source : String} {a b : List Segment} {c : Char}
    (h : Source.cut source.toList = a ++ .stray c :: b) (more : String) :
    ∃ errors, tokenize (source ++ more) = .error errors := by
  obtain ⟨b', hcut⟩ := Source.cut_append_of_stray h more.toList
  rw [exists_tokenize_eq_error_iff, String.toList_append, hcut]
  intro hclean
  cases hclean (.stray c) (List.mem_append_right _ (.head _))

/-- One quote mends a source whose only error is a quote that is not closed: the text behind it
becomes a string, and the tokens before it stay. -/
theorem tokenize_append_quote {source : String} {a : List Segment} {body : List Char}
    (h : Source.cut source.toList = a ++ [.unclosed body]) (hclean : Source.Clean a) :
    tokenize (source ++ "\"") = .ok ((scan source).lexemes ++
      [⟨.string, "\"" ++ String.ofList body ++ "\"", 1 + lineFeeds (a.flatMap Segment.chars),
        some (.text (String.ofList body))⟩, Token.eof (1 + lineFeeds source.toList)]) := by
  have hcut := Source.cut_close h
  rw [tokenize_eq_ok_iff, String.toList_append, show "\"".toList = ['"'] from rfl, hcut]
  refine ⟨Source.clean_append.mpr ⟨hclean, Source.clean_cons.mpr ⟨rfl, Source.clean_nil⟩⟩, ?_⟩
  have hquote : lineFeeds ['"'] = 0 := rfl
  have hlexeme : String.ofList ('"' :: (body ++ ['"'])) = "\"" ++ String.ofList body ++ "\"" := by
    rw [← String.toList_inj]
    simp
  have hunclosed : Source.tokensFrom (Position.start.after (a.flatMap Segment.chars))
      [.unclosed body] = [] := rfl
  have hquoted : Source.tokensFrom (Position.start.after (a.flatMap Segment.chars))
      [.quoted body] = [⟨.string, String.ofList ('"' :: (body ++ ['"'])),
        1 + lineFeeds (a.flatMap Segment.chars), some (.text (String.ofList body))⟩] := rfl
  rw [lexemes_scan, h, Source.tokensFrom_append, Source.tokensFrom_append, lineFeeds_append, hquote,
    hunclosed, hquoted, hlexeme, List.append_nil, List.append_assoc]
  rfl

/-- More text can mend a source with errors exactly if its one error is a quote that is not closed.
Then one quote is enough: it ends a string that starts where the quote is, and the tokens before it
are those of the source. Otherwise no text mends the source. -/
theorem onlyUnterminated_iff_exists_more {source : String} {errors : List LexError}
    (h : tokenize source = .error errors) :
    (LexError.onlyUnterminated errors = true ↔
      ∃ more tokens, tokenize (source ++ more) = .ok tokens) ∧
    (LexError.onlyUnterminated errors = true → ∃ segments body tokens,
      Source.IsCut source.toList (segments ++ [.unclosed body]) ∧
      (scan source).tokens = tokens ++ [Token.eof (1 + lineFeeds source.toList)] ∧
      tokenize (source ++ "\"") = .ok (tokens ++
        [⟨.string, "\"" ++ String.ofList body ++ "\"",
            1 + lineFeeds (segments.flatMap Segment.chars), some (.text (String.ofList body))⟩,
          Token.eof (1 + lineFeeds source.toList)])) ∧
    (LexError.onlyUnterminated errors = false →
      ∀ more, ∃ others, tokenize (source ++ more) = .error others) := by
  obtain ⟨hne, rfl⟩ := Scan.result_eq_error_iff.mp h
  have hdirty : ¬Source.Clean (Source.cut source.toList) :=
    fun hclean => hne ((errors_eq_nil_iff source).mpr hclean)
  by_cases honly : LexError.onlyUnterminated (scan source).errors = true
  · obtain ⟨a, body, hcut, hclean⟩ := (onlyUnterminated_errors_iff source).mp honly
    have hclose := tokenize_append_quote hcut hclean
    refine ⟨⟨fun _ => ⟨_, _, hclose⟩, fun _ => honly⟩,
      fun _ => ⟨a, body, _, ?_, tokens_scan source, hclose⟩, ?_⟩
    · exact Source.isCut_iff.mpr hcut.symm
    · rw [honly]
      exact fun hfalse => absurd hfalse (by decide)
  · rcases (Source.lawful_cut source.toList).faults with hclean | hlast | ⟨a, c, b, hcut⟩
    · exact absurd hclean hdirty
    · exact absurd ((onlyUnterminated_errors_iff source).mpr hlast) honly
    · have herror := exists_tokenize_append_eq_error hcut
      refine ⟨⟨fun h => absurd h honly, ?_⟩, fun h => absurd h honly, fun _ => herror⟩
      rintro ⟨more, tokens, hok⟩
      obtain ⟨others, hothers⟩ := herror more
      rw [hok] at hothers
      cases hothers

/-- A quote that is not closed on the second line, and the same behind a stray character. -/
theorem onlyUnterminated_iff_exists_more_of_quote :
    (tokenize "a\n1.\"b\nc" = .error [.unterminatedString 3] ∧
      ∃ more tokens, tokenize ("a\n1.\"b\nc" ++ more) = .ok tokens) ∧
    tokenize "@1.\"b\nc" = .error [.unexpectedCharacter '@' 1, .unterminatedString 2] ∧
      ∀ more, ∃ others, tokenize ("@1.\"b\nc" ++ more) = .error others := by
  have hquote : tokenize "a\n1.\"b\nc" = .error [.unterminatedString 3] := by decide +kernel
  have hstray : tokenize "@1.\"b\nc" =
      .error [.unexpectedCharacter '@' 1, .unterminatedString 2] := by
    decide +kernel
  exact ⟨⟨hquote, (onlyUnterminated_iff_exists_more hquote).1.mp rfl⟩, hstray,
    (onlyUnterminated_iff_exists_more hstray).2.2 rfl⟩

end Loxeme
