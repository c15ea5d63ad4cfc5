import Loxeme.Command.Run

/-!
# The program

The command line, the environment, files and the standard streams, around the runs of the library.
-/

namespace Loxeme

/-- An event is written as soon as it happens. -/
def writeEvent (f : Log.Filter) (e : Event) : IO Unit := do
  let stdout ← IO.getStdout
  stdout.putStr e.stdout
  stdout.flush
  (← IO.getStderr).putStr (e.stderr f)

/-- The events of a run are written in their order, and its code is given back. -/
def writeOutcome (f : Log.Filter) (o : Outcome) : IO UInt32 := do
  o.events.forM (writeEvent f)
  return UInt32.ofNat o.exitCode

/-- The system error number of a code, which may be given as its negative in 32 bits. -/
def errnoOf (code : UInt32) : Nat :=
  (if code < 0x80000000 then code else 0 - code).toNat

/-- The error of reading a file, as the system reports it. -/
def readErrorOf : IO.Error → ReadError
  | .noFileOrDirectory _ code _ => .ofErrno (errnoOf code)
  | .permissionDenied _ code _ => .ofErrno (errnoOf code)
  | .inappropriateType _ code _ => .ofErrno (errnoOf code)
  | .invalidArgument _ code _ => .ofErrno (errnoOf code)
  | .resourceExhausted _ code _ => .ofErrno (errnoOf code)
  | .interrupted _ code _ => .ofErrno (errnoOf code)
  | .hardwareFault code _ => .ofErrno (errnoOf code)
  | .otherError code _ => .ofErrno (errnoOf code)
  | e => ⟨.other, toString e⟩

/-- The contents of a file, or why it could not be read. -/
def readFile (path : String) : IO (Except ReadError ByteArray) :=
  try return .ok (← IO.FS.readBinFile path)
  catch e => return .error (readErrorOf e)

/-- The bytes of the next line, its line feed included, behind bytes that were read of it before. It
is empty at the end of the input. -/
partial def readLine (input : IO.FS.Stream) (line : ByteArray) : IO ByteArray := do
  let byte ← input.read 1
  if byte.isEmpty then return line
  let line := line ++ byte
  if byte.toList == [0x0A] then return line
  readLine input line

/-- The prompt: each line is answered when it is entered, until the input ends or is no text. The
session holds no turn that was answered. -/
partial def converse (f : Log.Filter) (s : Prompt.Session) : IO UInt32 := do
  let stdout ← IO.getStdout
  stdout.putStr s.nextSign
  stdout.flush
  let line ← readLine (← IO.getStdin) ByteArray.empty
  if line.isEmpty then writeOutcome f (.success s.farewell)
  else
    match String.fromUTF8? line with
    | none => writeOutcome f (.failure [] (.unreadable .notText))
    | some line =>
      let next := s.enter line
      (next.turns.flatMap (·.answer)).forM (writeEvent f)
      converse f { next with turns := [] }

end Loxeme

open Loxeme in
/-- Runs the program on its command line. -/
def main (args : List String) : IO UInt32 := do
  let environment ← IO.getEnv "COMPILO_LOG"
  match Arguments.read Arguments.parse (args.map Argument.ofText) with
  | .error stop => writeOutcome .onlyErrors (Run.answer environment stop)
  | .ok (invocation, given) =>
    let f := Run.filter given environment
    match invocation with
    | .file path => writeOutcome f (scanFile path (← readFile path))
    | .prompt => converse f .start
