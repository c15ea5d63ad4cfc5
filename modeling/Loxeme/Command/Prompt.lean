import Loxeme.Command.Input
import Loxeme.Command.Outcome
import Loxeme.Scan.Scanner

/-!
# The prompt

At the prompt each line is scanned by itself, unless it ends inside of a string: then the next line
is scanned together with it. What is left at the end of the input is scanned as it is.

* `Prompt.Session`: the lines that wait for more, and what was done so far.
* `Prompt.Session.enter`: what one more line changes.
* `Prompt.run`: the run on an input.
-/

namespace Loxeme

namespace Prompt

/-- What happened when a line was entered. -/
structure Turn where
  /-- Whether lines were waiting for this one. -/
  continued : Bool
  /-- The lines that were scanned, this one being the last. -/
  input : String
  /-- The scan of the lines. -/
  scan : Scan
  deriving DecidableEq, Repr

namespace Turn

/-- The turn of a line behind the lines that waited for it. -/
def of (pending line : String) : Turn :=
  ⟨!pending.isEmpty, pending ++ line, Loxeme.scan (pending ++ line)⟩

/-- Whether the lines wait for another one: more text could mend them. -/
def waits (t : Turn) : Bool :=
  LexError.onlyUnterminated t.scan.errors

end Turn

/-- The sign that a line may be entered: another one if lines wait for one. -/
def sign (continued : Bool) : String :=
  if continued then ". " else "> "

/-- What a line is answered with. Lines that wait for more are not reported. -/
def Turn.answer (t : Turn) : List Event :=
  t.scan.logEvents ++ [if t.waits then .log (.waiting t.input.utf8ByteSize) else t.scan.report]

/-- The events of a turn: the sign, and the answer to the line. -/
def Turn.events (t : Turn) : List Event :=
  .out (sign t.continued) :: t.answer

/-- The lines that wait for another one, and the turns so far, the latest of them first. -/
structure Session where
  pending : String
  turns : List Turn
  deriving DecidableEq, Repr

namespace Session

def start : Session := ⟨"", []⟩

/-- A line is entered. -/
def enter (s : Session) (line : String) : Session :=
  let t := Turn.of s.pending line
  ⟨if t.waits then t.input else "", t :: s.turns⟩

/-- The events of the turns so far. -/
def events (s : Session) : List Event :=
  s.turns.reverse.flatMap Turn.events

/-- The sign for the next line. -/
def nextSign (s : Session) : String :=
  sign !s.pending.isEmpty

/-- What the end of the input is answered with: lines that still wait are reported. -/
def farewell (s : Session) : List Event :=
  let last := scan s.pending
  (if s.pending.isEmpty then [] else last.logEvents ++ [last.report]) ++ [.out "\n"]

end Session

/-- The run on an input. It fails only at a line that is no text. -/
def run (input : Input) : Outcome :=
  let s := input.lines.foldl Session.enter .start
  let events := s.events ++ [.out s.nextSign]
  if input.broken then .failure events (.unreadable .notText)
  else .success (events ++ s.farewell)

end Prompt

end Loxeme
