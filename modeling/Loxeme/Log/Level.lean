/-!
# Log levels

The five levels of a log record, from errors to traces, and the names and numbers by which a filter
asks for them.

* `Level.rank`: how much a level admits.
* `Ceiling.ofChars?`: the greatest level that a word of a filter asks for.
-/

namespace Loxeme.Log

/-- The level of a log record. -/
inductive Level
  | error | warn | info | debug | trace
  deriving DecidableEq, Repr

namespace Level

/-- A level admits all records whose rank is at most its own. -/
def rank : Level → Nat
  | .error => 1
  | .warn => 2
  | .info => 3
  | .debug => 4
  | .trace => 5

/-- The level as it is written in a record. -/
def name : Level → String
  | .error => "ERROR"
  | .warn => "WARN"
  | .info => "INFO"
  | .debug => "DEBUG"
  | .trace => "TRACE"

end Level

/-- The greatest level that is logged, or that nothing is. -/
inductive Ceiling
  | off
  | upTo (level : Level)
  deriving DecidableEq, Repr

namespace Ceiling

/-- Whether a record of a level is logged. -/
def admits : Ceiling → Level → Bool
  | .off, _ => false
  | .upTo greatest, level => level.rank ≤ greatest.rank

/-- The ceiling of a rank, where nothing is logged at rank zero. -/
def ofRank? : Nat → Option Ceiling
  | 0 => some .off
  | 1 => some (.upTo .error)
  | 2 => some (.upTo .warn)
  | 3 => some (.upTo .info)
  | 4 => some (.upTo .debug)
  | 5 => some (.upTo .trace)
  | _ => none

/-- The number that a word writes in decimal digits, perhaps with a plus sign before them. -/
def number? (word : List Char) : Option Nat :=
  let digits := if word.head? == some '+' then word.tail else word
  if digits.isEmpty || !digits.all Char.isDigit then none
  else some (Nat.ofDigitChars 10 digits 0)

/-- The ceiling of a level by its name. -/
def ofName? (name : List Char) : Option Ceiling :=
  if name == "off".toList then some .off
  else if name == "error".toList then some (.upTo .error)
  else if name == "warn".toList then some (.upTo .warn)
  else if name == "info".toList then some (.upTo .info)
  else if name == "debug".toList then some (.upTo .debug)
  else if name == "trace".toList then some (.upTo .trace)
  else none

/-- The ceiling that a word stands for: a rank, or a level by its name in any case. -/
def ofChars? (word : List Char) : Option Ceiling :=
  match number? word with
  | some rank => ofRank? rank
  | none => ofName? (word.map Char.toLower)

@[simp] theorem admits_off (level : Level) : off.admits level = false := rfl

end Ceiling

end Loxeme.Log
