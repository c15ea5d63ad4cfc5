/-!
# Lexical errors

What can be wrong in a source. An error never ends a scan: the text that is wrong is passed over.

* `LexError.message`: the text of an error, with its line.
* `LexError.onlyUnterminated`: whether more text could mend a list of errors.
* `LexError.onlyUnterminated_iff`: that is so of one error alone, a string that is not closed.
-/

namespace Loxeme

/-- A lexical error and the line it is reported on. -/
inductive LexError
  /-- A character that starts no token, on its line. -/
  | unexpectedCharacter (character : Char) (line : Nat)
  /-- A string that is not closed, on the last line of the source. -/
  | unterminatedString (line : Nat)
  /-- A numeral that has no value, on its line. -/
  | invalidNumber (literal : String) (line : Nat)
  deriving DecidableEq, Repr

namespace LexError

/-- The line an error is reported on. -/
def line : LexError → Nat
  | .unexpectedCharacter _ line => line
  | .unterminatedString line => line
  | .invalidNumber _ line => line

/-- What is wrong, without the line. -/
def complaint : LexError → String
  | .unexpectedCharacter character _ =>
    "Unexpected character '" ++ String.singleton character ++ "'."
  | .unterminatedString _ => "Unterminated string."
  | .invalidNumber literal _ => "Invalid number literal '" ++ literal ++ "'."

/-- The text of an error: its line, and what is wrong. -/
def message (e : LexError) : String :=
  "[line " ++ toString e.line ++ "] Error: " ++ e.complaint

/-- Whether an error was caused by the end of the source. -/
def isUnterminated : LexError → Bool
  | .unterminatedString _ => true
  | _ => false

/-- Whether errors could be mended by more text: there is one, and the end of the source caused
it. -/
def onlyUnterminated : List LexError → Bool
  | [e] => e.isUnterminated
  | _ => false

theorem onlyUnterminated_iff {errors : List LexError} :
    onlyUnterminated errors = true ↔ ∃ line, errors = [.unterminatedString line] := by
  constructor
  · intro h
    match errors with
    | [.unterminatedString line] => exact ⟨line, rfl⟩
    | [.unexpectedCharacter _ _] | [.invalidNumber _ _] | [] | _ :: _ :: _ => cases h
  · rintro ⟨line, rfl⟩
    rfl

end LexError

end Loxeme
