import Loxeme.Command.Outcome
import Loxeme.Proofs.Layout

/-!
# Reading canonical forms

The canonical form of a token escapes nothing, and a string over several lines may hold what looks
like the lines of other tokens. Still it can be read back: the name of the kind ends at the first
blank, the kind tells where the lexeme ends, and kind and lexeme fix the rest.

* `Dump.next?`: the token in front of a text of canonical forms.
* `Dump.decode`: all tokens of such a text, but for their lines.
* `Token.Readable`: what a token needs so that it can be read back.
* `Dump.next?_line_append`, `Dump.decode_dumpLines`: one token and many are read back.
* `dumpLines_determines_tokens`: sources whose tokens are written alike have the same tokens.
-/

namespace Loxeme

namespace Dump

/-! ## A reader -/

/-- The lexeme in front of a text, if its kind is known. That of a string is up to its second
quote, and any other one is up to the next blank. -/
def lexemeAt (kind : Kind) (text : List Char) : List Char :=
  match kind, text with
  | .string, quote :: text => quote :: (text.takeWhile (· != '"') ++ ['"'])
  | _, text => text.takeWhile (· != ' ')

/-- The value of a lexeme. -/
def valueOf (kind : Kind) (lexeme : List Char) : Option Literal :=
  match kind with
  | .string => some (.text (String.ofList lexeme.tail.dropLast))
  | .number => (Decimal.read? lexeme).map fun d => .number (.ofDecimal d)
  | _ => none

/-- The token of a kind and a lexeme. Nothing is known of its line. -/
def tokenOf (kind : Kind) (lexeme : List Char) : Token :=
  ⟨kind, String.ofList lexeme, 0, valueOf kind lexeme⟩

/-- The canonical form of a token and the line feed behind it. -/
def line (t : Token) : List Char :=
  (t.dump ++ "\n").toList

/-- What is behind a text in front of another one, if it stands there. -/
def behind? (front text : List Char) : Option (List Char) :=
  if front.isPrefixOf text then some (text.drop front.length) else none

theorem behind?_eq_some_iff {front text rest : List Char} :
    behind? front text = some rest ↔ text = front ++ rest := by
  unfold behind?
  constructor
  · intro h
    split at h
    · rename_i hfront
      cases h
      exact (List.prefix_iff_eq_append.mp (List.isPrefixOf_iff_prefix.mp hfront)).symm
    · cases h
  · rintro rfl
    rw [if_pos (List.isPrefixOf_iff_prefix.mpr (List.prefix_append front rest)), List.drop_left]

/-- The token in front of a text and what is behind its canonical form, if the text starts with the
form of a token. -/
def next? (text : List Char) : Option (Token × List Char) :=
  match Kind.ofName? (String.ofList (text.takeWhile (· != ' '))) with
  | some kind =>
    let t := tokenOf kind (lexemeAt kind (text.dropWhile (· != ' ')).tail)
    (behind? (line t) text).map (t, ·)
  | none => none

theorem line_ne_nil (t : Token) : line t ≠ [] := by
  simp [line]

/-- A token is read only where its canonical form stands. -/
theorem eq_line_append_of_next? {text rest : List Char} {t : Token}
    (h : next? text = some (t, rest)) : text = line t ++ rest := by
  unfold next? at h
  split at h
  · obtain ⟨tail, htail, he⟩ := Option.map_eq_some_iff.mp h
    cases he
    exact behind?_eq_some_iff.mp htail
  · cases h

theorem length_lt_of_next? {text rest : List Char} {t : Token} (h : next? text = some (t, rest)) :
    rest.length < text.length := by
  have hpos := List.length_pos_iff.mpr (line_ne_nil t)
  rw [eq_line_append_of_next? h, List.length_append]
  omega

/-- The tokens of a text of canonical forms, as kind, lexeme and value. -/
def decodeChars (text : List Char) : Option (List (Kind × String × Option Literal)) :=
  if text = [] then some []
  else
    match _h : next? text with
    | some (t, rest) => (decodeChars rest).map (t.content :: ·)
    | none => none
termination_by text.length
decreasing_by exact length_lt_of_next? _h

/-- The tokens that are written in a text, as kind, lexeme and value. -/
def decode (text : String) : Option (List (Kind × String × Option Literal)) :=
  decodeChars text.toList

end Dump

/-! ## Tokens that can be read back -/

theorem Kind.blank_not_mem_name (k : Kind) : ' ' ∉ k.name.toList := by
  rcases k with s | k | _ | _ | _ | _
  · cases s <;> decide
  · cases k <;> decide
  all_goals decide

/-- A token can be read back if its lexeme ends where its kind says so, and its value is that of its
lexeme. -/
structure Token.Readable (t : Token) : Prop where
  lexemeAt_eq : ∀ rest,
    Dump.lexemeAt t.kind (t.lexeme.toList ++ ' ' :: rest) = t.lexeme.toList
  valueOf_eq : Dump.valueOf t.kind t.lexeme.toList = t.literal

namespace Dump

/-- A lexeme without a blank ends before the next blank. -/
theorem lexemeAt_of_blank_not_mem {kind : Kind} {lexeme : List Char} (hkind : kind ≠ .string)
    (h : ' ' ∉ lexeme) (rest : List Char) : lexemeAt kind (lexeme ++ ' ' :: rest) = lexeme := by
  unfold lexemeAt
  split
  · exact absurd rfl hkind
  · exact takeWhile_upto h rest

/-- A text between quotes ends with the second of them. -/
theorem lexemeAt_quoted {body : List Char} (h : '"' ∉ body) (rest : List Char) :
    lexemeAt .string ('"' :: (body ++ ['"']) ++ rest) = '"' :: (body ++ ['"']) := by
  simp [lexemeAt, takeWhile_upto h]

end Dump

namespace Segment

theorem blank_not_mem_of_isDigits {digits : List Char} (h : IsDigits digits) : ' ' ∉ digits := by
  intro hmem
  exact absurd (h.2 _ hmem) (by decide)

theorem blank_not_mem_of_isWord {word : List Char} (h : IsWord word) : ' ' ∉ word := by
  obtain ⟨c, tail, rfl, hletter, hparts⟩ := h
  intro hmem
  rcases List.mem_cons.mp hmem with rfl | hmem
  · rw [isLetter_eq_false_of_isBlank rfl] at hletter
    cases hletter
  · have hpart := hparts _ hmem
    rw [isWordPart_eq_false_of_isBlank rfl] at hpart
    cases hpart

/-- The token of a segment can be read back. -/
theorem Yields.readable {g : Segment} {t : Token} {rest : List Char} (ht : g.Yields t)
    (hg : g.Fits rest) : t.Readable := by
  cases ht with
  | symbol s line =>
    refine ⟨fun rest => ?_, rfl⟩
    rw [String.toList_ofList]
    exact Dump.lexemeAt_of_blank_not_mem (by simp) (by cases s <;> decide) rest
  | quoted body line =>
    constructor
    · intro rest
      rw [String.toList_ofList]
      exact Dump.lexemeAt_quoted hg _
    · simp [Dump.valueOf]
  | whole digits line =>
    have hread := read?_number hg
    constructor
    · intro rest
      rw [String.toList_ofList]
      exact Dump.lexemeAt_of_blank_not_mem (by simp) (blank_not_mem_of_isDigits hg.1) rest
    · simp_all [Dump.valueOf, chars]
  | fraction digits fraction line =>
    have hread := read?_number hg
    have hdigits := blank_not_mem_of_isDigits hg.1
    have hfraction := blank_not_mem_of_isDigits hg.2.1
    constructor
    · intro rest
      rw [String.toList_ofList]
      exact Dump.lexemeAt_of_blank_not_mem (by simp) (by simp [hdigits, hfraction]) rest
    · simp_all [Dump.valueOf, chars]
  | keyword k line =>
    refine ⟨fun rest => ?_, rfl⟩
    exact Dump.lexemeAt_of_blank_not_mem (by simp) (blank_not_mem_of_isWord hg.1) rest
  | name h line =>
    refine ⟨fun rest => ?_, rfl⟩
    rw [String.toList_ofList]
    exact Dump.lexemeAt_of_blank_not_mem (by simp) (blank_not_mem_of_isWord hg.1) rest

end Segment

/-- All tokens of a scan can be read back, the one for the end of the source too. -/
theorem readable_of_mem_tokens {source : String} {t : Token} (ht : t ∈ (scan source).tokens) :
    t.Readable := by
  rw [tokens_scan] at ht
  rcases List.mem_append.mp ht with ht | ht
  · obtain ⟨g, hg, hyields⟩ := exists_mem_of_forall₂ (forall₂_yields source).flip ht
    exact hyields.readable (fits_nil_of_mem_cut g hg).2
  · obtain rfl := List.mem_singleton.mp ht
    exact ⟨Dump.lexemeAt_of_blank_not_mem nofun (by simp [Token.eof, Token.plain]), rfl⟩

/-! ## Reading back -/

namespace Dump

/-- The parts of the canonical form of a token. -/
theorem line_eq (t : Token) :
    line t = t.kind.name.toList ++
      ' ' :: (t.lexeme.toList ++ ' ' :: ((Token.literalText t.literal).toList ++ ['\n'])) := by
  simp [line, Token.dump]

/-- The token in front of a text is read back, whatever is behind its canonical form. -/
theorem next?_line_append {t : Token} (h : t.Readable) (rest : List Char) :
    next? (line t ++ rest) = some (⟨t.kind, t.lexeme, 0, t.literal⟩, rest) := by
  have hname := t.kind.blank_not_mem_name
  generalize hbehind :
    ' ' :: ((Token.literalText t.literal).toList ++ '\n' :: rest) = behind
  have hline : line t ++ rest = t.kind.name.toList ++ ' ' :: (t.lexeme.toList ++ behind) := by
    simp [line_eq, ← hbehind]
  have htoken : tokenOf t.kind (lexemeAt t.kind (t.lexeme.toList ++ behind)) =
      ⟨t.kind, t.lexeme, 0, t.literal⟩ := by
    rw [← hbehind, h.lexemeAt_eq, tokenOf, h.valueOf_eq, String.ofList_toList]
  -- The canonical form does not hold the line, so the token that is read back has the same form.
  have hsame : line ⟨t.kind, t.lexeme, 0, t.literal⟩ = line t := rfl
  have hrest : behind? (line t) (line t ++ rest) = some rest := behind?_eq_some_iff.mpr rfl
  unfold next?
  conv in List.takeWhile _ _ => rw [hline, takeWhile_upto hname]
  conv in List.dropWhile _ _ => rw [hline, dropWhile_upto hname]
  simp only [String.ofList_toList, Kind.ofName?_name, List.tail_cons, htoken, hsame, hrest,
    Option.map_some]

/-- Tokens that can be read back one by one are read back from their canonical forms. -/
theorem decode_dumpLines {tokens : List Token} (h : ∀ t ∈ tokens, t.Readable) :
    decode (dumpLines tokens) = some (tokens.map Token.content) := by
  unfold decode
  induction tokens with
  | nil => simp [dumpLines, decodeChars]
  | cons t tokens ih =>
    have hlines : (dumpLines (t :: tokens)).toList = line t ++ (dumpLines tokens).toList := by
      simp [dumpLines, line]
    have hnext := next?_line_append (h t (.head _)) (dumpLines tokens).toList
    have hrest := ih fun u hu => h u (.tail _ hu)
    rw [hlines, decodeChars, if_neg (by simp [line_ne_nil])]
    split
    · rename_i u rest hu
      rw [hnext] at hu
      cases hu
      rw [hrest]
      rfl
    · rename_i hnone
      rw [hnext] at hnone
      cases hnone

end Dump

/-- The canonical forms of the tokens of a source can be read back: they determine the tokens but
for their lines. So two sources that are written alike have equally many tokens, and these agree one
by one in kind, lexeme and value. -/
theorem dumpLines_determines_tokens {source other : String} {tokens others : List Token}
    (h : tokenize source = .ok tokens) (h' : tokenize other = .ok others) :
    Dump.decode (dumpLines tokens) = some (tokens.map Token.content) ∧
      (dumpLines tokens = dumpLines others →
        tokens.length = others.length ∧
          List.Forall₂ (fun t u => t.kind = u.kind ∧ t.lexeme = u.lexeme ∧ t.literal = u.literal)
            tokens others) := by
  obtain ⟨-, rfl⟩ := Scan.result_eq_ok_iff.mp h
  obtain ⟨-, rfl⟩ := Scan.result_eq_ok_iff.mp h'
  have hread : Dump.decode (dumpLines (scan source).tokens) = _ :=
    Dump.decode_dumpLines fun _ => readable_of_mem_tokens
  have hread' : Dump.decode (dumpLines (scan other).tokens) = _ :=
    Dump.decode_dumpLines fun _ => readable_of_mem_tokens
  refine ⟨hread, fun hsame => ?_⟩
  have hcontent : (scan source).tokens.map Token.content =
      (scan other).tokens.map Token.content := by
    rw [hsame, hread'] at hread
    exact (Option.some.inj hread).symm
  have hall : List.Forall₂ (· = ·) ((scan source).tokens.map Token.content)
      ((scan other).tokens.map Token.content) := by
    rw [hcontent, List.forall₂_same]
    exact fun _ _ => rfl
  rw [List.forall₂_map_left_iff, List.forall₂_map_right_iff] at hall
  refine ⟨hall.length_eq, hall.imp fun t u htu => ?_⟩
  simpa [Token.content] using htu

/-- A string that holds the line of another token, alone and behind a comment with a quote. -/
theorem dumpLines_determines_tokens_of_lookalike :
    ∃ tokens others, tokenize "\"\nEOF  null\" 01" = .ok tokens ∧
      tokenize "// \"\n\"\nEOF  null\"\n01" = .ok others ∧
      dumpLines tokens = dumpLines others ∧
      Dump.decode (dumpLines tokens) =
        some [(.string, "\"\nEOF  null\"", some (.text "\nEOF  null")),
          (.number, "01", some (.number (.ofBits 0x3FF0000000000000))), (.eof, "", none)] ∧
      tokens.length = others.length ∧
      List.Forall₂ (fun t u => t.kind = u.kind ∧ t.lexeme = u.lexeme ∧ t.literal = u.literal)
        tokens others := by
  have hclean : Source.Clean (Source.cut "\"\nEOF  null\" 01".toList) := by
    unfold Source.Clean
    decide +kernel
  have hclean' : Source.Clean (Source.cut "// \"\n\"\nEOF  null\"\n01".toList) := by
    unfold Source.Clean
    decide +kernel
  have h := tokenize_eq_ok_iff.mpr ⟨hclean, rfl⟩
  have h' := tokenize_eq_ok_iff.mpr ⟨hclean', rfl⟩
  obtain ⟨hread, hagree⟩ := dumpLines_determines_tokens h h'
  refine ⟨_, _, h, h', ?hsame, hread.trans ?hcontent, hagree ?hsame⟩
  all_goals decide +kernel

end Loxeme
