import Loxeme.Report.ReadError
import Loxeme.Scan.Error

/-!
# Failures

Why a run has failed, the text it is reported with and the code the process ends with.

* `Failure.message`: the report; lexical errors are one line each.
* `Failure.exitCode`: the code, as `sysexits.h` numbers them.
* `Failure.isUnterminated`: whether more text could have mended it.
-/

namespace Loxeme

/-- Why a run has failed. -/
inductive Failure
  /-- The command line was wrong; the report names the program. -/
  | usage (program : String)
  /-- The source could not be read. -/
  | unreadable (e : ReadError)
  /-- The source has lexical errors. -/
  | lexical (errors : List LexError)
  deriving DecidableEq, Repr

namespace Failure

/-- The text that a failure is reported with. -/
def message : Failure → String
  | .usage program => "Usage: " ++ program ++ " [script]"
  | .unreadable e => "Error reading source: " ++ e.text
  | .lexical errors => "\n".intercalate (errors.map LexError.message)

/-- The code the process ends with: 64 for a wrong command line, 65 for wrong data, 66 for missing
input and 74 for other faults of reading. -/
def exitCode : Failure → Nat
  | .usage _ => 64
  | .unreadable e => if e.fault.isMissingInput then 66 else 74
  | .lexical _ => 65

/-- Whether a failure was caused only by the end of the source. -/
def isUnterminated : Failure → Bool
  | .lexical errors => LexError.onlyUnterminated errors
  | _ => false

end Failure

end Loxeme
