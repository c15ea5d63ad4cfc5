import Loxeme.Command.Outcome
import Loxeme.Scan.Scanner

/-!
# Scanning a file

A file is read, and its tokens are written if it has no error. If it has any, they are written and
no token is.

* `scanFile`: the run on a file with given contents.
* `scanSource_eq`: a source is scanned, and then it is reported on.
* `scanFile_toUTF8`, `scanFile_of_not_text`: contents that are a text are scanned, and others are
  refused.
-/

namespace Loxeme

/-- The run on a source that was read from a file. -/
def scanSource (path source : String) : Outcome :=
  let s := scan source
  let events := .log (.scanning path source.utf8ByteSize) :: s.logEvents
  match s.result with
  | .ok tokens => .success (events ++ [.out (dumpLines tokens)])
  | .error errors => .failure events (.lexical errors)

/-- The run on a file: its contents, or why it could not be read. -/
def scanFile (path : String) : Except ReadError ByteArray → Outcome
  | .error e => .failure [] (.unreadable e)
  | .ok content =>
    match String.fromUTF8? content with
    | some source => scanSource path source
    | none => .failure [] (.unreadable .notText)

theorem scanFile_toUTF8 (path source : String) :
    scanFile path (.ok source.toUTF8) = scanSource path source := by
  have hread : String.fromUTF8? source.toUTF8 = some source := dif_pos source.isValidUTF8
  rw [scanFile, hread]

/-- The run on a source writes to the log first, and its report last. -/
theorem scanSource_eq (path source : String) :
    scanSource path source =
      ⟨(.scanning path source.utf8ByteSize :: (scan source).records).map .log ++
          [(scan source).report],
        if (scan source).hadError then 65 else 0⟩ := by
  simp only [scanSource, Scan.report, Scan.result]
  cases (scan source).hadError <;> rfl

theorem scanFile_of_not_text (path : String) {content : ByteArray}
    (h : ∀ source : String, content ≠ source.toUTF8) :
    scanFile path (.ok content) = .failure [] (.unreadable .notText) := by
  have hread : String.fromUTF8? content = none :=
    dif_neg fun hvalid => h (String.fromUTF8 content hvalid) rfl
  rw [scanFile, hread]

end Loxeme
