import Loxeme.Log.Record

/-!
# Scans

What the scan of a source gives: its tokens, which end with one for the end of the source, its
errors apart from them, and the records that it writes to the log.

* `Scan.result`: the tokens of a scan without errors, and otherwise its errors.
* `Scan.result_eq_ok_iff`, `Scan.result_eq_error_iff`: which of the two it is.
-/

namespace Loxeme

/-- What the scan of a source gives. -/
structure Scan where
  /-- The tokens in their order, the last one for the end of the source. -/
  tokens : List Token
  /-- The errors in their order. -/
  errors : List LexError
  /-- What was logged. -/
  records : List Log.Record
  deriving DecidableEq, Repr

namespace Scan

/-- Whether a scan met an error. -/
def hadError (s : Scan) : Bool :=
  !s.errors.isEmpty

/-- The tokens of a scan, or all of its errors if there are any. -/
def result (s : Scan) : Except (List LexError) (List Token) :=
  if s.hadError then .error s.errors else .ok s.tokens

theorem result_eq_ok_iff {s : Scan} {tokens : List Token} :
    s.result = .ok tokens ↔ s.errors = [] ∧ s.tokens = tokens := by
  cases h : s.errors <;> simp [result, hadError, h]

theorem result_eq_error_iff {s : Scan} {errors : List LexError} :
    s.result = .error errors ↔ errors ≠ [] ∧ s.errors = errors := by
  cases h : s.errors with
  | nil => simp [result, hadError, h, eq_comm]
  | cons e es =>
    simp only [result, hadError, h, List.isEmpty_cons, Bool.not_false, if_true, Except.error.injEq]
    exact ⟨fun he => ⟨he ▸ List.cons_ne_nil _ _, he⟩, fun he => he.2⟩

end Scan

end Loxeme
