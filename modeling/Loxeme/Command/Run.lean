import Loxeme.Command.File
import Loxeme.Command.Folder
import Loxeme.Command.Help
import Loxeme.Command.Prompt

/-!
# Runs of the program

From the command line, the environment, the files and the standard input to all that the program
writes and the code it ends with. How a command line is parsed and how the log is set up is left to
others.

* `Run.filter`: the log filter of a run.
* `Run.Surroundings`: what a run has from others.
* `Run.transcript`: the transcript of a run, whatever its surroundings.
* `run`: the transcript of a run in a folder.
-/

namespace Loxeme

namespace Run

/-- The name of the program, as it is reported to who has used it wrongly. -/
def programName : String := "compilo"

/-- The text of the log filter of a run: the one on the command line, or the one of the environment,
or warnings and errors. -/
def filterText (given environment : Option String) : String :=
  (given <|> environment).getD "warn"

/-- The log filter of a run. -/
def filter (given environment : Option String) : Log.Filter :=
  .ofText (filterText given environment)

/-- What ends the reading of a command line is answered at once. -/
def answer (environment : Option String) : Stop → Outcome
  | .help topic => .success [.out (help environment topic)]
  | .version => .success [.out versionText]
  | .misuse _ => .failure [] (.usage programName)

/-- What a run has from others: a parser of command lines, a log that is set up by a text, and files
with their contents. -/
structure Surroundings where
  parse : List Argument → Except Stop Options
  subscribe : String → Log.Subscriber
  read : String → Except ReadError ByteArray

/-- A parser and a log as they are defined here, and the files of a folder. -/
def Surroundings.standard (folder : Folder) : Surroundings :=
  ⟨Arguments.parse, .ofText, folder.read⟩

section Outcome

variable (around : Surroundings)

/-- The run that a command line asks for. -/
def outcome (input : ByteArray) : Invocation → Outcome
  | .file path => scanFile path (around.read path)
  | .prompt => Prompt.run (.ofBytes input)

/-- The transcript of a run with a command line and the log filter of the environment, on a standard
input. The log is set up before anything else is done. -/
def transcript (words : List Argument) (environment : Option String) (input : ByteArray) :
    Transcript :=
  match Arguments.read around.parse words with
  | .ok (invocation, given) =>
    let log := around.subscribe (filterText given environment)
    let t := (outcome around input invocation).transcript log.filter
    { t with stderr := log.notice ++ t.stderr }
  | .error stop => (answer environment stop).transcript .onlyErrors

end Outcome

end Run

/-- The transcript of a run in a folder. -/
def run (words : List Argument) (environment : Option String) (folder : Folder)
    (input : ByteArray) : Transcript :=
  Run.transcript (.standard folder) words environment input

end Loxeme
