import Loxeme.Log.Level

/-!
# Log filters

A filter knows the greatest level that is logged of each target. It is written as a list of
directives between commas. A directive is a level for all records, a target with a level for the
records of the targets that it begins, or a target alone, which asks for everything of it. Of the
directives for a record the one with the longest target decides.

* `Filter.admits`: whether a record of a target and a level is logged.
* `Filter.ofText`: the filter that a text stands for.
* `Subscriber`: the log of a run, as it is set up.
-/

namespace Loxeme.Log

/-- The greatest level that is logged of the targets that begin with a text. The empty text stands
for all records. -/
structure Directive where
  target : List Char
  ceiling : Ceiling
  deriving DecidableEq, Repr

namespace Directive

/-- Whether a directive speaks of a target. -/
def covers (d : Directive) (target : List Char) : Bool :=
  d.target.isPrefixOf target

/-- The directive that a text stands for. A text whose level is none stands for no directive. -/
def ofChars? (text : List Char) : Option Directive :=
  match text.dropWhile (· != '=') with
  | [] =>
    match Ceiling.ofChars? text with
    | some ceiling => some ⟨[], ceiling⟩
    | none => some ⟨text, .upTo .trace⟩
  | _ :: word =>
    let target := text.takeWhile (· != '=')
    if target.isEmpty then none
    else if word.isEmpty then some ⟨target, .upTo .trace⟩
    else (Ceiling.ofChars? word).map (⟨target, ·⟩)

end Directive

/-- A filter: the greatest level that is logged of each target. -/
structure Filter where
  ceiling : List Char → Ceiling

namespace Filter

/-- Whether a record of a target and a level is logged. -/
def admits (f : Filter) (target : List Char) (level : Level) : Bool :=
  (f.ceiling target).admits level

/-- The filter for errors, whatever their target. -/
def onlyErrors : Filter := ⟨fun _ => .upTo .error⟩

/-- The directive that decides about a target: the one with the longest target, and of equal ones
the last. -/
def deciding? (directives : List Directive) (target : List Char) : Option Directive :=
  (directives.filter (·.covers target)).foldl
    (fun best d => if best.all (·.target.length ≤ d.target.length) then some d else best) none

/-- The filter of some directives. Where none of them decides, errors are logged. -/
def ofDirectives (directives : List Directive) : Filter :=
  ⟨fun target =>
    ((deciding? directives target).map (·.ceiling)).getD (onlyErrors.ceiling target)⟩

/-- The filter that a text stands for. -/
def ofText (text : String) : Filter :=
  ofDirectives (((text.toList.splitOn ',').filter (!·.isEmpty)).filterMap Directive.ofChars?)

end Filter

/-- The log of a run, as it is set up: what the set-up itself writes, and the filter for records. -/
structure Subscriber where
  notice : String
  filter : Filter

/-- The log that a text sets up. What is said then of texts that stand for no directive depends on
the library that reads them, and is not part of it. -/
def Subscriber.ofText (text : String) : Subscriber :=
  ⟨"", .ofText text⟩

end Loxeme.Log
