import Loxeme.Scan.Basic
import Loxeme.Source.Cut

/-!
# Findings

What each piece of a source means: a token, an error, or nothing at all for blanks and comments.

* `Piece.finding?`: the meaning of a piece.
* `Scan.ofPieces`: the scan of a source that is laid out in pieces.
-/

namespace Loxeme

/-- What a piece of a source gives rise to. -/
inductive Finding
  | token (t : Token)
  | error (e : LexError)
  deriving DecidableEq, Repr

namespace Finding

/-- The token, if the finding is one. -/
def token? : Finding → Option Token
  | .token t => some t
  | .error _ => none

/-- The error, if the finding is one. -/
def error? : Finding → Option LexError
  | .token _ => none
  | .error e => some e

/-- The log record of a finding. -/
def record : Finding → Log.Record
  | .token t => .token t.kind t.lexeme t.line
  | .error e => .lexError e

end Finding

namespace Piece

/-- The source text of a piece. -/
def lexeme (p : Piece) : String :=
  String.ofList p.segment.chars

/-- The meaning of a piece. A token is on the line where its lexeme starts, and an error on the
line that is reached when it is noticed. -/
def finding? (p : Piece) : Option Finding :=
  match p.segment with
  | .blank _ => none
  | .comment _ => none
  | .symbol s => some (.token (.plain (.symbol s) p.lexeme p.start.line))
  | .quoted body =>
    some (.token ((Token.plain .string p.lexeme p.start.line).withLiteral
      (.text (String.ofList body))))
  | .number _ _ =>
    match Decimal.read? p.segment.chars with
    | some d =>
      some (.token ((Token.plain .number p.lexeme p.start.line).withLiteral
        (.number (Binary64.ofDecimal d))))
    | none => some (.error (.invalidNumber p.lexeme p.stop.line))
  | .word spelling => some (.token (.plain (Kind.ofWord spelling) p.lexeme p.start.line))
  | .stray c => some (.error (.unexpectedCharacter c p.stop.line))
  | .unclosed _ => some (.error (.unterminatedString p.stop.line))

end Piece

/-- What findings in their order are to a scan that ends on a line. -/
def Scan.ofFindings (findings : List Finding) (lastLine : Nat) : Scan :=
  let tokens := findings.filterMap Finding.token? ++ [Token.eof lastLine]
  let errors := findings.filterMap Finding.error?
  ⟨tokens, errors, findings.map Finding.record ++
    [.finished tokens.length errors.length lastLine]⟩

/-- The scan of a text that is laid out in pieces. -/
def Scan.ofPieces (pieces : List Piece) : Scan :=
  .ofFindings (pieces.filterMap Piece.finding?) (Source.stop Position.start pieces).line

end Loxeme
