import Loxeme.Proofs.Watched
import Mathlib.Algebra.Group.Nat.Defs

/-!
# The bounds of the cursor

The cursor of a scan never leaves its source and never stands inside of a character. So no range is
asked for that the source does not have, no sum needs more than a word, and each round passes at
least one character.

* `Probe.Sound`: what has to hold of what is noted of a scan.
* `Scanner.Steady`: the cursor is sound; `Scanner.Onward`: and it has moved on within a lexeme.
* `Watched.Safe`, `Watched.Safe.bind`: what is noted is sound, and the value is as it should be.
* `Scanner.Steady.safe_advance`, `Scanner.Steady.safe_readLexeme`: so of one move, and of a round.
* `cursor_stays_sound`: so of a whole scan.
-/

namespace Loxeme

/-- What has to hold of what is noted of a scan, where sources are shorter than `2 ^ bits` bytes and
a word has one bit more. -/
def Probe.Sound (source : String) (bits : Nat) : Probe → Prop
  | .point s => s.source = source ∧ s.start ≤ s.current ∧ s.current ≤ source.utf8ByteSize ∧
    String.Pos.Raw.IsValid source ⟨s.start⟩ ∧ String.Pos.Raw.IsValid source ⟨s.current⟩ ∧
    s.line ≤ source.utf8ByteSize + 1
  | .range s low high => s.source = source ∧ ∃ text, s.slice? low high = some text
  | .sum a b => a + b < 2 ^ (bits + 1)
  | .difference a b => b ≤ a
  | .round s t => ∃ c, s.peek = some c ∧ s.current + c.utf8Size ≤ t.current

namespace Scanner

/-- The cursor is sound: the lexeme is between two edges of characters, and each line that was
counted has taken a byte. -/
structure Steady (source : String) (s : Scanner) : Prop where
  source_eq : s.source = source
  start_edge : String.Pos.Raw.IsValid source ⟨s.start⟩
  current_edge : String.Pos.Raw.IsValid source ⟨s.current⟩
  start_le : s.start ≤ s.current
  line_le : s.line ≤ s.current + 1

/-- The cursor is sound, and it has moved on within a lexeme or stayed where it was. -/
structure Onward (source : String) (s t : Scanner) : Prop where
  steady : t.Steady source
  start_eq : t.start = s.start
  current_le : s.current ≤ t.current

section Cursor

variable {source : String} {s t u : Scanner} {c : Char}

theorem Onward.trans (h : Onward source s t) (h' : Onward source t u) : Onward source s u :=
  ⟨h'.steady, h'.start_eq.trans h.start_eq, Nat.le_trans h.current_le h'.current_le⟩

theorem Onward.refl (h : s.Steady source) : Onward source s s := ⟨h, rfl, Nat.le_refl _⟩

namespace Steady

theorem current_le (h : s.Steady source) : s.current ≤ source.utf8ByteSize :=
  h.current_edge.le_utf8ByteSize

theorem exists_slice? (h : s.Steady source) {low high : Nat} (hle : low ≤ high)
    (hlow : String.Pos.Raw.IsValid source ⟨low⟩) (hhigh : String.Pos.Raw.IsValid source ⟨high⟩) :
    ∃ text, s.slice? low high = some text := by
  rw [slice?, h.source_eq, String.Pos.Raw.isValid_eq_true_iff.mpr hlow,
    String.Pos.Raw.isValid_eq_true_iff.mpr hhigh, decide_eq_true hle]
  exact ⟨_, rfl⟩

/-- The offset behind the next character is an edge too. -/
theorem edge_of_peek (h : s.Steady source) (hc : s.peek = some c) :
    String.Pos.Raw.IsValid source ⟨s.current + c.utf8Size⟩ := by
  obtain ⟨before, rest, hsource, hcurrent⟩ := exists_of_get? hc
  refine isValid_iff.mpr ⟨before ++ [c], rest, ?_, ?_⟩
  · rw [← h.source_eq, hsource, List.append_assoc]
    rfl
  · rw [hcurrent, byteLength_append]
    rfl

/-- A move over the next character, whether it counts a line or not. -/
theorem move (h : s.Steady source) (hc : s.peek = some c) {line : Nat} (hline : line ≤ s.line + 1) :
    Onward source s { s with current := s.current + c.utf8Size, line := line } := by
  have hpos := c.utf8Size_pos
  have hstart := h.start_le
  have hbefore := h.line_le
  have hle : line ≤ s.current + c.utf8Size + 1 := by omega
  have hlexeme : s.start ≤ s.current + c.utf8Size := by omega
  exact ⟨⟨h.source_eq, h.start_edge, h.edge_of_peek hc, hlexeme, hle⟩, rfl, Nat.le_add_right _ _⟩

theorem point_sound (h : s.Steady source) (bits : Nat) : (Probe.point s).Sound source bits := by
  have hle := h.current_le
  have hline := h.line_le
  exact ⟨h.source_eq, h.start_le, hle, h.start_edge, h.current_edge, by omega⟩

/-- A token or an error that is found leaves the cursor as it is. -/
theorem of_cursor (h : s.Steady source) (hsource : t.source = s.source) (hstart : t.start = s.start)
    (hcurrent : t.current = s.current) (hline : t.line = s.line) : Onward source s t := by
  refine ⟨⟨hsource.trans h.source_eq, ?_, ?_, ?_, ?_⟩, hstart, hcurrent ▸ Nat.le_refl _⟩
  · exact hstart ▸ h.start_edge
  · exact hcurrent ▸ h.current_edge
  · rw [hstart, hcurrent]
    exact h.start_le
  · rw [hline, hcurrent]
    exact h.line_le

end Steady

end Cursor

end Scanner

/-! ## What is noted on the way -/

namespace Watched

/-- All that was noted on the way to a value is good, and so is the value. -/
def Safe {α : Type} (good : Probe → Prop) (post : α → Prop) (x : Watched α) : Prop :=
  (∀ p ∈ x.probes, good p) ∧ post x.value

namespace Safe

variable {α β : Type} {good : Probe → Prop} {post post' : α → Prop} {next : β → Prop}

theorem pure {a : α} (h : post a) : (Pure.pure a : Watched α).Safe good post :=
  ⟨List.forall_mem_nil _, h⟩

theorem bind {x : Watched α} {f : α → Watched β} (hx : x.Safe good post)
    (hf : ∀ a, post a → (f a).Safe good next) : (x >>= f).Safe good next := by
  have hrest := hf x.value hx.2
  refine ⟨fun p hp => ?_, hrest.2⟩
  rcases List.mem_append.mp hp with hp | hp
  · exact hx.1 p hp
  · exact hrest.1 p hp

theorem imp {x : Watched α} (hx : x.Safe good post) (h : ∀ a, post a → post' a) :
    x.Safe good post' :=
  ⟨hx.1, h _ hx.2⟩

/-- The value is the one of the operation. -/
theorem and_value {x : Watched α} (hx : x.Safe good post) :
    x.Safe good fun a => post a ∧ a = x.value :=
  ⟨hx.1, hx.2, rfl⟩

end Safe

end Watched

/-- What is noted within a round: it is sound, and no round ends there. -/
def Probe.Inner (source : String) (bits : Nat) (p : Probe) : Prop :=
  p.Sound source bits ∧ p.isRound = false

namespace Watched

variable {source : String} {bits : Nat} {s : Scanner} {c : Char}

/-! ## Single operations -/

theorem safe_reach (h : s.Steady source) : (reach s).Safe (Probe.Inner source bits) (· = s) :=
  ⟨List.forall_mem_singleton.mpr ⟨h.point_sound bits, rfl⟩, rfl⟩

theorem safe_ask (h : s.Steady source) {low high : Nat} (hle : low ≤ high)
    (hlow : String.Pos.Raw.IsValid source ⟨low⟩) (hhigh : String.Pos.Raw.IsValid source ⟨high⟩) :
    (ask s low high).Safe (Probe.Inner source bits) fun _ => True :=
  ⟨List.forall_mem_singleton.mpr ⟨⟨h.source_eq, h.exists_slice? hle hlow hhigh⟩, rfl⟩, trivial⟩

theorem safe_subtract {a b : Nat} (h : b ≤ a) :
    (subtract a b).Safe (Probe.Inner source bits) (· = a - b) :=
  ⟨List.forall_mem_singleton.mpr ⟨h, rfl⟩, rfl⟩

/-- Sums of at most one more than the size of the source need no more than a word. -/
theorem safe_add (hsize : source.utf8ByteSize < 2 ^ bits) {a b : Nat}
    (h : a + b ≤ source.utf8ByteSize + 1) :
    (add a b).Safe (Probe.Inner source bits) (· = a + b) := by
  have hsum : a + b < 2 ^ (bits + 1) := by
    rw [pow_succ]
    omega
  exact ⟨List.forall_mem_singleton.mpr ⟨hsum, rfl⟩, rfl⟩

/-! ## What is seen from the cursor -/

/-- What is left of the source can be asked for. -/
theorem safe_ask_rest (h : s.Steady source) :
    (ask s s.current s.source.utf8ByteSize).Safe (Probe.Inner source bits) fun _ => True := by
  rw [h.source_eq]
  refine safe_ask h h.current_le h.current_edge ?_
  exact isValid_iff.mpr ⟨source.toList, [], by simp, by rw [← utf8ByteSize_ofList]; simp⟩

theorem safe_peek (h : s.Steady source) : (peek s).Safe (Probe.Inner source bits) (· = s.peek) :=
  ⟨(safe_ask_rest h).1, value_peek s⟩

theorem safe_peekNext (h : s.Steady source) :
    (peekNext s).Safe (Probe.Inner source bits) (· = s.peekNext) :=
  ⟨(safe_ask_rest h).1, value_peekNext s⟩

theorem safe_lexeme (h : s.Steady source) :
    (lexeme s).Safe (Probe.Inner source bits) fun _ => True :=
  (safe_ask h h.start_le h.start_edge h.current_edge).bind fun _ _ => .pure trivial

/-! ## Moves -/

section Moves

variable (hsize : source.utf8ByteSize < 2 ^ bits)
include hsize

theorem safe_pass (h : s.Steady source) (hc : s.peek = some c) :
    (pass s c).Safe (Probe.Inner source bits) fun t =>
      s.Onward source t ∧ t.current = s.current + c.utf8Size := by
  have hend : s.current + c.utf8Size ≤ source.utf8ByteSize :=
    (h.edge_of_peek hc).le_utf8ByteSize
  have hpos := c.utf8Size_pos
  have hline := h.line_le
  refine (safe_add hsize (by omega)).bind fun current hcurrent => ?_
  have hlines : (countLine s.line c).Safe (Probe.Inner source bits) (· ≤ s.line + 1) := by
    unfold countLine
    split
    · exact (safe_add hsize (by omega)).imp fun line hline => Nat.le_of_eq hline
    · exact .pure (Nat.le_succ _)
  refine hlines.bind fun line hline => ?_
  subst hcurrent
  have hmove := h.move hc hline
  refine (safe_reach hmove.steady).imp ?_
  rintro t rfl
  exact ⟨hmove, rfl⟩

/-- A character that is read is passed as a whole. -/
theorem safe_advance (h : s.Steady source) :
    (advance s).Safe (Probe.Inner source bits) fun r =>
      s.Onward source r.2 ∧ r.1 = s.peek ∧ ∀ c ∈ r.1, r.2.current = s.current + c.utf8Size := by
  refine (safe_peek h).bind ?_
  rintro next rfl
  cases hc : s.peek with
  | none => exact .pure ⟨.refl h, rfl, nofun⟩
  | some c =>
    refine (safe_pass hsize h hc).bind fun t ht => .pure ⟨ht.1, rfl, ?_⟩
    rintro d ⟨⟩
    exact ht.2

theorem safe_takeIf (h : s.Steady source) (expected : Char) :
    (takeIf s expected).Safe (Probe.Inner source bits) fun r =>
      s.Onward source r.2 ∧ (r.1 = true → r.2.current = s.current + expected.utf8Size) := by
  refine (safe_peek h).bind ?_
  rintro next rfl
  split
  · rename_i hpeek
    have hc : s.peek = some expected := eq_of_beq hpeek
    have hend := (h.edge_of_peek hc).le_utf8ByteSize
    have hmove := h.move hc (Nat.le_succ s.line)
    refine (safe_add hsize (Nat.le_succ_of_le hend)).bind ?_
    rintro current rfl
    refine (safe_reach hmove.steady).bind ?_
    rintro t rfl
    exact .pure ⟨hmove, fun _ => rfl⟩
  · exact .pure ⟨.refl h, nofun⟩

theorem safe_advanceWhile (h : s.Steady source) (p : Char → Bool) :
    (advanceWhile p s).Safe (Probe.Inner source bits) (s.Onward source) := by
  induction s using advanceWhile.induct with
  | case1 s ih =>
    rw [advanceWhile_eq]
    refine (safe_peek h).bind ?_
    rintro next rfl
    cases hc : s.peek with
    | none => exact .pure (.refl h)
    | some c =>
      show Safe _ _ (if p c then advance s >>= fun r => advanceWhile p r.2 else pure s)
      split
      · -- The scanner behind the character is the one that the induction speaks of.
        refine (safe_advance hsize h).and_value.bind ?_
        rintro r ⟨⟨hmove, -⟩, hr⟩
        have hlater := ih c (by rw [value_peek, hc]) r.1 r.2 hr hmove.steady
        exact hlater.imp fun t ht => hmove.trans ht
      · exact .pure (.refl h)

end Moves

/-! ## Reading a lexeme -/

section Reading

theorem safe_emitPlain (h : s.Steady source) (kind : Kind) :
    (emitPlain s kind).Safe (Probe.Inner source bits) (s.Onward source) :=
  (safe_lexeme h).bind fun _ _ => .pure (h.of_cursor rfl rfl rfl rfl)

theorem safe_emitLiteral (h : s.Steady source) (kind : Kind) (value : Literal) :
    (emitLiteral s kind value).Safe (Probe.Inner source bits) (s.Onward source) :=
  (safe_lexeme h).bind fun _ _ => .pure (h.of_cursor rfl rfl rfl rfl)

theorem safe_readSingle (h : s.Steady source) (c : Char) :
    (readSingle s c).Safe (Probe.Inner source bits) (s.Onward source) := by
  unfold readSingle
  split
  · exact safe_emitPlain h _
  · exact .pure (h.of_cursor rfl rfl rfl rfl)

variable (hsize : source.utf8ByteSize < 2 ^ bits)
include hsize

/-- Behind an opening quote the text between the quotes can be asked for: it starts behind the first
byte of the lexeme and ends before its last one. -/
theorem safe_readString (h : s.Steady source) (hle : s.start + 1 ≤ s.current)
    (hopen : String.Pos.Raw.IsValid source ⟨s.start + 1⟩) :
    (readString s).Safe (Probe.Inner source bits) (s.Onward source) := by
  refine (safe_advanceWhile hsize h _).bind fun t ht => ?_
  refine (safe_takeIf hsize ht.steady '"').bind fun ⟨closed, u⟩ ⟨hu, hclosed⟩ => ?_
  have hmove := ht.trans hu
  cases closed with
  | false =>
    exact .pure (hmove.trans (hmove.steady.of_cursor rfl rfl rfl rfl))
  | true =>
    have hend : u.current = t.current + 1 := hclosed rfl
    have hstart : u.start = s.start := hmove.start_eq
    have hcurrent : s.current ≤ t.current := ht.current_le
    have hlast : u.current ≤ source.utf8ByteSize := hmove.steady.current_le
    refine (safe_add hsize (by omega)).bind fun low hlow => ?_
    refine (safe_subtract (by omega)).bind fun high hhigh => ?_
    -- Both ends are edges: the one behind the opening quote, and the cursor before the closing one.
    obtain rfl : low = s.start + 1 := by omega
    obtain rfl : high = t.current := by omega
    refine (safe_ask hmove.steady (by omega) hopen ht.steady.current_edge).bind fun _ _ => ?_
    exact (safe_emitLiteral hmove.steady _ _).imp fun v hv => hmove.trans hv

theorem safe_readFraction (h : s.Steady source) :
    (readFraction s).Safe (Probe.Inner source bits) (s.Onward source) := by
  refine (safe_peekNext h).bind fun _ _ => ?_
  split
  · refine (safe_takeIf hsize h '.').bind fun ⟨taken, t⟩ ⟨ht, _⟩ => ?_
    cases taken with
    | false => exact .pure ht
    | true => exact (safe_advanceWhile hsize ht.steady _).imp fun u hu => ht.trans hu
  · exact .pure (.refl h)

theorem safe_readNumber (h : s.Steady source) :
    (readNumber s).Safe (Probe.Inner source bits) (s.Onward source) := by
  refine (safe_advanceWhile hsize h _).bind fun t ht => ?_
  refine (safe_readFraction hsize ht.steady).bind fun u hu => ?_
  have hmove := ht.trans hu
  refine (safe_lexeme hmove.steady).bind fun numeral _ => ?_
  split
  · exact (safe_emitLiteral hmove.steady _ _).imp fun v hv => hmove.trans hv
  · exact .pure (hmove.trans (hmove.steady.of_cursor rfl rfl rfl rfl))

theorem safe_readWord (h : s.Steady source) :
    (readWord s).Safe (Probe.Inner source bits) (s.Onward source) := by
  refine (safe_advanceWhile hsize h _).bind fun t ht => ?_
  refine (safe_lexeme ht.steady).bind fun spelling _ => ?_
  exact (safe_emitPlain ht.steady _).imp fun u hu => ht.trans hu

theorem safe_readSlash (h : s.Steady source) :
    (readSlash s).Safe (Probe.Inner source bits) (s.Onward source) := by
  refine (safe_takeIf hsize h '/').bind fun ⟨taken, t⟩ ⟨ht, _⟩ => ?_
  cases taken with
  | false => exact (safe_emitPlain ht.steady _).imp fun u hu => ht.trans hu
  | true => exact (safe_advanceWhile hsize ht.steady _).imp fun u hu => ht.trans hu

theorem safe_readMark (h : s.Steady source) (c : Char) :
    (readMark s c).Safe (Probe.Inner source bits) (s.Onward source) := by
  unfold readMark
  split
  · exact safe_readSlash hsize h
  split
  · refine (safe_takeIf hsize h '=').bind fun ⟨taken, t⟩ ⟨ht, _⟩ => ?_
    cases taken with
    | false => exact (safe_readSingle ht.steady c).imp fun u hu => ht.trans hu
    | true => exact (safe_emitPlain ht.steady _).imp fun u hu => ht.trans hu
  · exact safe_readSingle h c

/-- A lexeme has at least its first character. -/
theorem safe_readLexeme (h : s.Steady source) (hstart : s.start = s.current) :
    (readLexeme s).Safe (Probe.Inner source bits) fun t =>
      s.Onward source t ∧ ∀ c ∈ s.peek, s.current + c.utf8Size ≤ t.current := by
  refine (safe_advance hsize h).bind fun ⟨next, t⟩ ⟨ht, hpeek, hcurrent⟩ => ?_
  cases next with
  | none => exact .pure ⟨ht, fun c hc => nomatch hpeek.trans hc⟩
  | some c =>
    have hpass : t.current = s.current + c.utf8Size := hcurrent c rfl
    -- What is read behind the first character only moves on.
    suffices hread : Safe (Probe.Inner source bits) (t.Onward source)
        (if isBlank c then return t
        else if c == '"' then readString t
        else if isDigit c then readNumber t
        else if isLetter c then readWord t
        else readMark t c) by
      refine hread.imp fun u hu => ⟨ht.trans hu, fun d hd => ?_⟩
      obtain rfl : c = d := Option.some.inj (hpeek.trans hd)
      exact hpass ▸ hu.current_le
    split
    · exact .pure (.refl ht.steady)
    split
    · rename_i hquote
      obtain rfl := eq_of_beq hquote
      -- A quote is one byte, so the cursor is where the text between the quotes starts.
      have hone : t.start + 1 = t.current := by
        rw [hpass, ← hstart]
        exact congrArg (· + 1) ht.start_eq
      exact safe_readString hsize ht.steady (Nat.le_of_eq hone) (hone ▸ ht.steady.current_edge)
    split
    · exact safe_readNumber hsize ht.steady
    split
    · exact safe_readWord hsize ht.steady
    · exact safe_readMark hsize ht.steady c

/-! ## All rounds -/

theorem safe_round (h : s.Steady source) :
    (round s).Safe (Probe.Inner source bits) fun t =>
      t.Steady source ∧ ∀ c ∈ s.peek, s.current + c.utf8Size ≤ t.current := by
  have hbegin : s.begin.Steady source :=
    ⟨h.source_eq, h.current_edge, h.current_edge, Nat.le_refl _, h.line_le⟩
  refine (safe_reach hbegin).bind ?_
  rintro t rfl
  exact (safe_readLexeme hsize hbegin rfl).imp fun t ht => ⟨ht.1.steady, ht.2⟩

/-- All that is noted of the rounds is sound, and there are no more of them than characters. -/
theorem safe_rounds {before rest : List Char} (hat : s.At before rest) (hs : s.Sound)
    (h : s.Steady source) :
    (∀ p ∈ (rounds s hs).probes, p.Sound source bits) ∧
      (rounds s hs).probes.countP Probe.isRound ≤ rest.length := by
  induction rest using Source.cut_induction generalizing s before with
  | nil =>
    rw [rounds, dif_pos (hat.isAtEnd_iff.mpr rfl)]
    exact ⟨List.forall_mem_nil _, Nat.zero_le _⟩
  | cons c text ih =>
    have hend : ¬s.isAtEnd = true := fun he => List.cons_ne_nil _ _ (hat.isAtEnd_iff.mp he)
    have hg := Segment.fits_next c text
    have hpeek : s.peek = some c := hat.peek
    obtain ⟨hprobes, hsteady, hpass⟩ := safe_round hsize h
    rw [value_round] at hsteady hpass
    -- A round takes one character or more of the text, and is counted once.
    have hlt := Segment.length_next_lt c text
    rw [← Segment.chars_append_next c text] at hat
    obtain ⟨hrest, hcount⟩ := ih (hat.round hg) (hs.round hend) hsteady
    rw [probes_rounds hs hend]
    constructor
    · intro p hp
      rcases List.mem_append.mp hp with hp | hp
      · exact (hprobes p hp).1
      rcases List.mem_cons.mp hp with rfl | hp
      · exact ⟨c, hpeek, hpass c hpeek⟩
      · exact hrest p hp
    · have hinner : (round s).probes.countP Probe.isRound = 0 := by
        refine List.countP_eq_zero.mpr fun p hp => ?_
        simp [(hprobes p hp).2]
      have hround : (Probe.round s s.round).isRound = true := rfl
      rw [List.countP_append, hinner, List.countP_cons_of_pos hround]
      rw [List.length_cons] at hlt ⊢
      omega

end Reading

end Watched

/-- The cursor of a scan is sound at each point, whatever was scanned before: it is in the source
and at the edge of a character, as is the start of the lexeme, and no more lines are counted than
bytes are passed. Each range that is asked for is there, no sum is more than a word and no
difference less than zero. Each round passes a character or more, so there are no more rounds than
characters. -/
theorem cursor_stays_sound {s : Scanner} {bits : Nat} (hsize : s.source.utf8ByteSize < 2 ^ bits) :
    (Watched.scan s).value = s.scan ∧
      (∀ p ∈ (Watched.scan s).probes, p.Sound s.source bits) ∧
      (Watched.scan s).probes.countP Probe.isRound ≤ s.source.length := by
  have hat := s.at_restart
  have hstart : String.Pos.Raw.IsValid s.source ⟨0⟩ :=
    isValid_iff.mpr ⟨[], s.source.toList, String.ofList_toList.symm, rfl⟩
  have hsteady : s.restart.Steady s.source :=
    ⟨rfl, hstart, hstart, Nat.le_refl 0, Nat.le_refl 1⟩
  obtain ⟨hrounds, hcount⟩ := Watched.safe_rounds hsize hat s.sound_restart hsteady
  have hprobes : (Watched.scan s).probes =
      .point s.restart :: (Watched.rounds s.restart s.sound_restart).probes := by
    simp [Watched.scan, Watched.reach]
  refine ⟨Watched.value_scan s, ?_, ?_⟩
  · rw [hprobes, List.forall_mem_cons]
    exact ⟨hsteady.point_sound bits, hrounds⟩
  · rw [hprobes, List.countP_cons_of_neg (by simp [Probe.isRound])]
    rwa [String.length_toList] at hcount

/-- A source with characters of one, two and three bytes, where a string goes over two lines: all
that is noted of its three rounds. -/
theorem cursor_stays_sound_of_wide :
    (Scanner.ofSource "é\"∀\n\"!").source.utf8ByteSize < 2 ^ 63 ∧
      (Watched.scan (.ofSource "é\"∀\n\"!")).value = (Scanner.ofSource "é\"∀\n\"!").scan ∧
      (∀ p ∈ (Watched.scan (.ofSource "é\"∀\n\"!")).probes, p.Sound "é\"∀\n\"!" 63) ∧
      (Watched.scan (.ofSource "é\"∀\n\"!")).probes.countP Probe.isRound ≤ 6 ∧
      (Watched.scan (.ofSource "é\"∀\n\"!")).probes.countP Probe.isRound = 3 ∧
      ((Watched.scan (.ofSource "é\"∀\n\"!")).probes.filterMap fun
        | .point s => some (s.start, s.current, s.line)
        | _ => none) =
        [(0, 0, 1), (0, 0, 1), (0, 2, 1), (2, 2, 1), (2, 3, 1), (2, 6, 1), (2, 7, 2), (2, 8, 2),
          (8, 8, 2), (8, 9, 2)] ∧
      ((Watched.scan (.ofSource "é\"∀\n\"!")).probes.filterMap fun
        | .range _ low high => some (low, high)
        | _ => none) =
        [(0, 9), (2, 9), (0, 2), (0, 2), (2, 9), (3, 9), (3, 9), (6, 9), (6, 9), (7, 9), (7, 9),
          (3, 7), (2, 8), (8, 9), (9, 9), (8, 9)] ∧
      ((Watched.scan (.ofSource "é\"∀\n\"!")).probes.filterMap fun
        | .sum a b => some (a, b)
        | _ => none) =
        [(0, 2), (2, 1), (3, 3), (6, 1), (1, 1), (7, 1), (2, 1), (8, 1)] ∧
      ((Watched.scan (.ofSource "é\"∀\n\"!")).probes.filterMap fun
        | .difference a b => some (a, b)
        | _ => none) = [(8, 1)] ∧
      ((Watched.scan (.ofSource "é\"∀\n\"!")).probes.filterMap fun
        | .round s t => some (s.current, t.current)
        | _ => none) = [(0, 2), (2, 8), (8, 9)] := by
  have hsize : (Scanner.ofSource "é\"∀\n\"!").source.utf8ByteSize < 2 ^ 63 := by decide +kernel
  obtain ⟨hvalue, hsound, hcount⟩ := cursor_stays_sound hsize
  exact ⟨hsize, hvalue, hsound, hcount, by decide +kernel, by decide +kernel, by decide +kernel,
    by decide +kernel, by decide +kernel, by decide +kernel⟩

end Loxeme
