import Loxeme.Scan.Scanner
import Loxeme.Source.Lawful

/-!
# A scan finds what the pieces of its source mean

The rounds of a scan pass the segments of the source one after the other, so what is found, in
its order, is the meaning of the pieces.

* `Scanner.finds_rounds`: what the rounds add to what was found.
* `Scanner.scan_eq`: the scan of a scanner that holds nothing back.
* `scan_eq_ofPieces`, `scan_eq_ofFindings`: the scan of a source.
-/

namespace Loxeme

namespace Scanner

/-- What the pieces of a text mean that starts at a position. -/
def findingsFrom (p : Position) (text : List Char) : List Finding :=
  (Source.place p (Source.cut text)).filterMap Piece.finding?

/-- The position of the cursor. -/
def position (s : Scanner) : Position := ⟨s.current, s.line⟩

@[simp] theorem findingsFrom_nil (p : Position) : findingsFrom p [] = [] := by
  simp [findingsFrom]

/-- The first segment of a text comes first, and the text behind it starts where it ends. -/
theorem findingsFrom_append {g : Segment} {rest : List Char} (hg : g.Fits rest) (p : Position) :
    findingsFrom p (g.chars ++ rest) =
      (Piece.finding? ⟨g, p, p.after g.chars⟩).toList ++ findingsFrom (p.after g.chars) rest := by
  have hcut : Source.cut (g.chars ++ rest) = g :: Source.cut rest := by
    rw [Source.cut_eq_iff, Source.lawful_cons, List.flatMap_cons, Source.flatMap_chars_cut]
    exact ⟨rfl, hg, Source.lawful_cut rest⟩
  rw [findingsFrom, hcut, Source.place_cons, List.filterMap_cons, findingsFrom]
  cases Piece.finding? ⟨g, p, p.after g.chars⟩ <;> rfl

/-! ## One finding -/

section Note

variable (s : Scanner) (f : Option Finding)

theorem found_note :
    (s.note f).found.toList = s.found.toList ++ f.toList.filterMap Finding.token? := by
  rcases f with _ | t | e <;> simp [note, emit, report, Finding.token?]

theorem faults_note :
    (s.note f).faults.toList = s.faults.toList ++ f.toList.filterMap Finding.error? := by
  rcases f with _ | t | e <;> simp [note, emit, report, Finding.error?]

theorem log_note : (s.note f).log.toList = s.log.toList ++ f.toList.map Finding.record := by
  rcases f with _ | t | e <;> simp [note, emit, report, Finding.record]

end Note

/-! ## One round -/

namespace At

variable {s : Scanner} {before rest : List Char} {g : Segment}

/-- A round adds what the piece at the cursor means, and ends behind it. -/
theorem round_eq_note (h : s.At before (g.chars ++ rest)) (hg : g.Fits rest) :
    s.round = (s.begin.past g.chars).note
      (Piece.finding? ⟨g, s.position, s.position.after g.chars⟩) :=
  h.round_eq hg

theorem position_round (h : s.At before (g.chars ++ rest)) (hg : g.Fits rest) :
    s.round.position = s.position.after g.chars := by
  rw [position, h.round_eq hg, current_settle, line_settle]
  rfl

end At

/-! ## All rounds -/

/-- What a scanner holds and where it stands after all rounds. -/
structure Finds (s t : Scanner) (findings : List Finding) (lastLine : Nat) : Prop where
  source_eq : t.source = s.source
  found_eq : t.found.toList = s.found.toList ++ findings.filterMap Finding.token?
  faults_eq : t.faults.toList = s.faults.toList ++ findings.filterMap Finding.error?
  log_eq : t.log.toList = s.log.toList ++ findings.map Finding.record
  line_eq : t.line = lastLine

theorem finds_rounds {s : Scanner} {before rest : List Char} (hat : s.At before rest)
    (h : s.Sound) :
    Finds s (s.rounds h) (findingsFrom s.position rest) (s.position.after rest).line := by
  induction rest using Source.cut_induction generalizing s before with
  | nil =>
    rw [rounds, dif_pos (hat.isAtEnd_iff.mpr rfl), findingsFrom_nil]
    exact ⟨rfl, by simp, by simp, by simp, rfl⟩
  | cons c text ih =>
    -- One round passes the first segment of the cut, and the later rounds are those of the rest.
    have hend : ¬s.isAtEnd = true := fun he => List.cons_ne_nil _ _ (hat.isAtEnd_iff.mp he)
    have hg := Segment.fits_next c text
    rw [← Segment.chars_append_next c text] at hat ⊢
    have hrest := ih (hat.round hg) (h.round hend)
    rw [hat.position_round hg] at hrest
    rw [rounds, dif_neg hend, findingsFrom_append hg, Position.after_append]
    have hround := hat.round_eq_note hg
    refine ⟨hrest.source_eq.trans ?_, hrest.found_eq.trans ?_, hrest.faults_eq.trans ?_,
      hrest.log_eq.trans ?_, hrest.line_eq⟩
    · rw [hround, source_note]
      rfl
    · rw [hround, found_note, List.filterMap_append, List.append_assoc]
      rfl
    · rw [hround, faults_note, List.filterMap_append, List.append_assoc]
      rfl
    · rw [hround, log_note, List.map_append, List.append_assoc]
      rfl

/-! ## The whole scan -/

/-- A scanner that has handed out all tokens and log records. -/
structure Idle (s : Scanner) : Prop where
  found_eq : s.found = #[]
  log_eq : s.log = #[]

theorem idle_ofSource (source : String) : (ofSource source).Idle := ⟨rfl, rfl⟩

theorem idle_scan (s : Scanner) : s.scan.2.Idle := ⟨rfl, rfl⟩

theorem found_finish (s : Scanner) :
    s.finish.found.toList = s.found.toList ++ [Token.eof s.line] := by
  simp [finish]

theorem log_finish (s : Scanner) :
    s.finish.log.toList = s.log.toList ++
      [.finished s.finish.found.toList.length s.faults.toList.length s.line] := by
  simp [finish]

/-- The scan of a scanner that holds nothing back is what the pieces of its source mean. -/
theorem scan_eq {s : Scanner} (h : s.Idle) :
    s.scan.1 = Scan.ofPieces (Source.pieces s.source.toList) := by
  have hfinds := finds_rounds s.at_restart s.sound_restart
  generalize ht : s.restart.rounds s.sound_restart = t at hfinds
  have hscan : s.scan.1 = ⟨t.finish.found.toList, t.faults.toList, t.finish.log.toList⟩ := by
    rw [← ht]
    rfl
  have hfound : t.found.toList = _ := hfinds.found_eq
  have hfaults : t.faults.toList = _ := hfinds.faults_eq
  have hlog : t.log.toList = _ := hfinds.log_eq
  rw [show s.restart.found.toList = [] by simp [restart, h.found_eq], List.nil_append] at hfound
  rw [show s.restart.faults.toList = [] from rfl, List.nil_append] at hfaults
  rw [show s.restart.log.toList = [] by simp [restart, h.log_eq], List.nil_append] at hlog
  rw [hscan, log_finish, found_finish, hfound, hfaults, hlog, hfinds.line_eq, Scan.ofPieces,
    Source.stop_pieces]
  rfl

end Scanner

/-- The scan of a source is what its pieces mean. -/
theorem scan_eq_ofPieces (source : String) :
    scan source = Scan.ofPieces (Source.pieces source.toList) :=
  Scanner.scan_eq (Scanner.idle_ofSource source)

/-- The scan of a source is what its text means from the start, up to its last line. -/
theorem scan_eq_ofFindings (source : String) :
    scan source = .ofFindings (Scanner.findingsFrom Position.start source.toList)
      (1 + lineFeeds source.toList) := by
  rw [scan_eq_ofPieces, Scan.ofPieces, Source.stop_pieces]
  rfl

end Loxeme
