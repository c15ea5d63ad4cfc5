import Loxeme.Scan.Basic
import Loxeme.Report.Failure

/-!
# Outcomes

What a run writes, in the order in which it does, and the code it ends with. Tokens are written to
the standard output, errors and the log to the standard error.

* `Outcome.transcript`: all that is written to each of the two, under a log filter.
* `Scan.report`: what is written about a scan: its tokens or its errors, never both.
-/

namespace Loxeme

/-- Something that a run writes. -/
inductive Event
  /-- A text for the standard output. -/
  | out (text : String)
  /-- A text for the standard error. -/
  | err (text : String)
  /-- A record for the log, which takes it if the filter lets it through. -/
  | log (r : Log.Record)
  deriving DecidableEq, Repr

namespace Event

/-- What an event adds to the standard output. -/
def stdout : Event → String
  | .out text => text
  | .err _ => ""
  | .log _ => ""

/-- What an event adds to the standard error. -/
def stderr (f : Log.Filter) : Event → String
  | .out _ => ""
  | .err text => text
  | .log r => if r.passes f then r.line ++ "\n" else ""

end Event

/-- All that a run writes, and the code it ends with. -/
structure Transcript where
  exitCode : Nat
  stdout : String
  stderr : String
  deriving DecidableEq, Repr

/-- What a run does: its events in their order, and the code it ends with. -/
structure Outcome where
  events : List Event
  exitCode : Nat
  deriving DecidableEq, Repr

namespace Outcome

/-- All that is written to the standard output and the standard error. -/
def transcript (o : Outcome) (f : Log.Filter) : Transcript :=
  ⟨o.exitCode, String.join (o.events.map Event.stdout),
    String.join (o.events.map (Event.stderr f))⟩

/-- A run that does not fail. -/
def success (events : List Event) : Outcome := ⟨events, 0⟩

/-- A run that fails at last, and says why. -/
def failure (events : List Event) (f : Failure) : Outcome :=
  ⟨events ++ [.err (f.message ++ "\n")], f.exitCode⟩

end Outcome

/-- Tokens in their canonical form, with a line feed behind each. -/
def dumpLines (tokens : List Token) : String :=
  String.join (tokens.map fun t => t.dump ++ "\n")

/-- What is written about a scan: its tokens, or its errors if there are any. -/
def Scan.report (s : Scan) : Event :=
  match s.result with
  | .ok tokens => .out (dumpLines tokens)
  | .error errors => .err ((Failure.lexical errors).message ++ "\n")

/-- The records of a scan as events. -/
def Scan.logEvents (s : Scan) : List Event :=
  s.records.map .log

end Loxeme
