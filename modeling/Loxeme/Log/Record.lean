import Loxeme.Log.Filter
import Loxeme.Log.Quoted
import Loxeme.Scan.Error
import Loxeme.Token.Basic

/-!
# Log records

What is worth a line in the log, with its level, its target and its text. A text from outside, a
lexeme or a file name, is quoted and escaped, so a record is always one line.

* `Record.line`: the line of a record.
* `Record.passes`: whether a filter lets a record through.
-/

namespace Loxeme

namespace Log

/-- Where a record comes from. -/
inductive Target
  | program
  | scanner
  deriving DecidableEq, Repr

/-- The path that filters know a target by. -/
def Target.path : Target → String
  | .program => "compilo"
  | .scanner => "compilo::lox::token::lexer"

/-- What is worth a line in the log. -/
inductive Record
  /-- A token was found. -/
  | token (kind : Kind) (lexeme : String) (line : Nat)
  /-- An error was found. -/
  | lexError (e : LexError)
  /-- A numeral was found that has no value. -/
  | noValue (numeral : String)
  /-- A scan came to its end, with so many tokens and errors, on a line. -/
  | finished (tokens errors line : Nat)
  /-- A file was read and is scanned next. -/
  | scanning (path : String) (bytes : Nat)
  /-- The input so far ends inside of a string. -/
  | waiting (bytes : Nat)
  deriving DecidableEq, Repr

namespace Record

def level : Record → Level
  | .token .. => .trace
  | .lexError _ => .debug
  | .noValue _ => .debug
  | .finished .. => .debug
  | .scanning .. => .info
  | .waiting _ => .debug

def target : Record → Target
  | .token .. => .scanner
  | .lexError _ => .scanner
  | .noValue _ => .scanner
  | .finished .. => .scanner
  | .scanning .. => .program
  | .waiting _ => .program

/-- What a record says: a message, and its fields as names and values. -/
def text : Record → String
  | .token kind lexeme line =>
    "token kind=" ++ kind.name ++ " lexeme=" ++ quoted lexeme ++ " line=" ++ toString line
  | .lexError e => "lexing error error=" ++ e.message
  | .noValue numeral =>
    "number literal rejected literal=" ++ quoted numeral ++ " err=invalid float literal"
  | .finished tokens errors line =>
    "finished scanning tokens=" ++ toString tokens ++ " errors=" ++ toString errors ++
      " lines=" ++ toString line
  | .scanning path bytes =>
    "scanning source file file=" ++ quoted path ++ " bytes=" ++ toString bytes
  | .waiting bytes => "waiting for continuation line bytes=" ++ toString bytes

/-- The line of a record: a blank, its level in a column of five, its target and its text. -/
def line (r : Record) : String :=
  " " ++ "".pushn ' ' (5 - r.level.name.length) ++ r.level.name ++ " " ++ r.target.path ++ ": " ++
    r.text

/-- Whether a filter lets a record through. -/
def passes (r : Record) (f : Filter) : Bool :=
  f.admits r.target.path.toList r.level

end Record

end Log

end Loxeme
