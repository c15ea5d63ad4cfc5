/-!
# Read errors

Why a source could not be read: the kind of the fault and a text that says so.

* `Fault.isMissingInput`: the faults that mean that there is no input to be had.
* `ReadError.ofFault`, `ReadError.ofErrno`: the error of a kind of fault, or of a system error
  number.
-/

namespace Loxeme

/-- The kinds of faults that reading can end with. -/
inductive Fault
  | notFound
  | permissionDenied
  | connectionRefused
  | connectionReset
  | notConnected
  | addressInUse
  | brokenPipe
  | alreadyExists
  | wouldBlock
  | notADirectory
  | isADirectory
  | invalidInput
  | invalidData
  | timedOut
  | writeZero
  | interrupted
  | unsupported
  | unexpectedEof
  | outOfMemory
  | other
  deriving DecidableEq, Repr

namespace Fault

/-- What a kind of fault is called. -/
def description : Fault → String
  | .notFound => "entity not found"
  | .permissionDenied => "permission denied"
  | .connectionRefused => "connection refused"
  | .connectionReset => "connection reset"
  | .notConnected => "not connected"
  | .addressInUse => "address in use"
  | .brokenPipe => "broken pipe"
  | .alreadyExists => "entity already exists"
  | .wouldBlock => "operation would block"
  | .notADirectory => "not a directory"
  | .isADirectory => "is a directory"
  | .invalidInput => "invalid input parameter"
  | .invalidData => "invalid data"
  | .timedOut => "timed out"
  | .writeZero => "write zero"
  | .interrupted => "operation interrupted"
  | .unsupported => "unsupported"
  | .unexpectedEof => "unexpected end of file"
  | .outOfMemory => "out of memory"
  | .other => "other error"

/-- The faults that mean that there is no input: it is missing, closed to the reader or no text. -/
def isMissingInput : Fault → Bool
  | .notFound | .permissionDenied | .invalidData => true
  | _ => false

/-- The kind of fault and the text of a system error number. -/
def ofErrno : Nat → Fault × String
  | 1 => (.permissionDenied, "Operation not permitted")
  | 2 => (.notFound, "No such file or directory")
  | 4 => (.interrupted, "Interrupted system call")
  | 5 => (.other, "Input/output error")
  | 9 => (.other, "Bad file descriptor")
  | 11 => (.wouldBlock, "Resource temporarily unavailable")
  | 12 => (.outOfMemory, "Cannot allocate memory")
  | 13 => (.permissionDenied, "Permission denied")
  | 17 => (.alreadyExists, "File exists")
  | 20 => (.notADirectory, "Not a directory")
  | 21 => (.isADirectory, "Is a directory")
  | 22 => (.invalidInput, "Invalid argument")
  | 28 => (.other, "No space left on device")
  | 32 => (.brokenPipe, "Broken pipe")
  | 36 => (.other, "File name too long")
  | 40 => (.other, "Too many levels of symbolic links")
  | n => (.other, "Unknown error " ++ toString n)

end Fault

/-- Why a source could not be read, and the words for it. -/
structure ReadError where
  fault : Fault
  text : String
  deriving DecidableEq, Repr

namespace ReadError

/-- The error of a kind of fault without words of its own. -/
def ofFault (fault : Fault) : ReadError :=
  ⟨fault, fault.description⟩

/-- The error of a system error number: its words name the number. -/
def ofErrno (n : Nat) : ReadError :=
  ⟨(Fault.ofErrno n).1, (Fault.ofErrno n).2 ++ " (os error " ++ toString n ++ ")"⟩

/-- The error of bytes that are not the UTF-8 form of a text. -/
def notText : ReadError :=
  ⟨.invalidData, "stream did not contain valid UTF-8"⟩

end ReadError

end Loxeme
