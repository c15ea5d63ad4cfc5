import Loxeme.Report.Failure

/-!
# Command lines

What the words of a command line ask for: help, the version, or a run on a file or at the prompt.
The words are read from left to right. A request for help or for the version counts as soon as it
is met, and so does a fault; what follows is not looked at. A value is looked at when the next word
is taken up: before that it may still be cut off by the name of a command.

* `Argument.text?_ofText`: a word that is written as a text is read as that text.
* `Argument.word`: what a word of the command line looks like.
* `Arguments.parse`: the values of a command line, or what ends its reading before.
* `Arguments.read`: the run that they ask for.
-/

namespace Loxeme

/-- The program's commands, by which a command line may go on. -/
inductive Command
  | repl
  | tokenize
  deriving DecidableEq, Repr

/-- What help can be asked for. -/
inductive Topic
  | program
  | command (c : Command)
  | help
  deriving DecidableEq, Repr

/-- A command with its value. -/
inductive Task
  | repl
  | tokenize (path : String)
  deriving DecidableEq, Repr

/-- The values of a command line: the command, the file where there is none, and the text of the
log filter. -/
structure Options where
  task : Option Task
  file : Option String
  log : Option String
  deriving DecidableEq, Repr

/-- What a run works on. -/
inductive Invocation
  | file (path : String)
  | prompt
  deriving DecidableEq, Repr

/-- What can be wrong with a command line. -/
inductive Misuse
  /-- An option that is not known here, or that takes no value and has one. -/
  | unknownOption
  /-- The option for the log filter is at the end or before another option. -/
  | missingValue
  /-- The option for the log filter is given twice. -/
  | repeatedOption
  /-- A value is not the UTF-8 form of a text. -/
  | notText
  /-- A word that has no place. -/
  | surplusWord
  /-- Help was asked for something that is not there. -/
  | unknownTopic
  /-- The command to scan a file has none. -/
  | missingFile
  /-- There are both a file and a command. -/
  | fileAndCommand
  deriving DecidableEq, Repr

/-- What ends the reading of a command line before its end. -/
inductive Stop
  | help (topic : Topic)
  | version
  | misuse (m : Misuse)
  deriving DecidableEq, Repr

/-- A word of the command line, as its bytes. -/
abbrev Argument := List UInt8

namespace Argument

/-- The text of a word, if it is one. -/
def text? (a : Argument) : Option String :=
  String.fromUTF8? a.toByteArray

/-- A word that is written as a text. -/
def ofText (s : String) : Argument :=
  s.toUTF8.data.toList

/-- A word that is written as a text is read as that text. -/
theorem text?_ofText (s : String) : (ofText s).text? = some s := by
  have hbytes : (ofText s).toByteArray = s.toUTF8 :=
    ByteArray.ext (Array.toList_inj.mp (by rw [List.data_toByteArray]; rfl))
  rw [text?, hbytes]
  exact dif_pos s.isValidUTF8

/-- What a word of the command line looks like. -/
inductive Word
  /-- The mark behind which all words are plain. -/
  | endOfOptions
  /-- An option with a long name, and the value behind a `=` if there is one. -/
  | long (name : List UInt8) (value : Option Argument)
  /-- Options of one letter each. -/
  | short (first : UInt8) (others : List UInt8)
  /-- Any other word, and a single hyphen. -/
  | plain
  deriving DecidableEq, Repr

/-- The byte that options begin with. -/
def hyphen : UInt8 := 0x2D

/-- The byte between the name and the value of an option. -/
def equalSign : UInt8 := 0x3D

/-- The look of a word. -/
def word : Argument → Word
  | first :: second :: rest =>
    if first == hyphen then
      if second == hyphen then
        if rest.isEmpty then .endOfOptions
        else .long (rest.takeWhile (· != equalSign)) (rest.dropWhile (· != equalSign)).tail?
      else .short second rest
    else .plain
  | _ => .plain

end Argument

namespace Arguments

/-- A value that has been met and not been looked at yet. -/
inductive Pending
  | nothing
  /-- The name of the option for the log filter; the value comes next. -/
  | logName
  /-- The value of the option for the log filter. -/
  | log (value : Argument)
  /-- The file. -/
  | file (value : Argument)
  deriving DecidableEq, Repr

/-- What the words of the program itself, or of one of its commands, have come to so far. -/
structure Progress where
  command : Option Command
  log : Option String
  file : Option String
  pending : Pending
  /-- Whether the mark behind which all words are plain has been met. -/
  trailing : Bool
  deriving DecidableEq, Repr

/-- Nothing has been read of the words of the program, or of one of its commands. -/
def Progress.start (command : Option Command) : Progress :=
  ⟨command, none, none, .nothing, false⟩

/-- The text of a value. -/
def textOf (value : Argument) : Except Stop String :=
  match value.text? with
  | some s => .ok s
  | none => .error (.misuse .notText)

namespace Progress

/-- The topic of help among the words of a command. -/
def topic (p : Progress) : Topic :=
  match p.command with
  | none => .program
  | some c => .command c

/-- Whether a file has a place among the words: not at the prompt, and only once. -/
def takesFile (p : Progress) : Bool :=
  p.command != some .repl && p.file.isNone

/-- The log filter is set to a value. -/
def setLog (p : Progress) (value : Argument) : Except Stop Progress := do
  let s ← textOf value
  if p.log.isSome then .error (.misuse .repeatedOption)
  else .ok { p with log := some s, pending := .nothing }

/-- The pending value is looked at. -/
def settle (p : Progress) : Except Stop Progress :=
  match p.pending with
  | .nothing => .ok p
  | .logName => .error (.misuse .missingValue)
  | .log value => p.setLog value
  | .file value => do
    let s ← textOf value
    .ok { p with file := some s, pending := .nothing }

/-- A request that counts once the pending value is found to be right. -/
def ask (p : Progress) (stop : Stop) : Except Stop Progress := do
  let _ ← p.settle
  .error stop

/-- A plain word is the value of an option that waits for one, or the file. -/
def plain (p : Progress) (a : Argument) : Except Stop Progress :=
  if p.pending == .logName && !p.trailing then .ok { p with pending := .log a }
  else do
    let p ← p.settle
    if p.takesFile then .ok { p with pending := .file a }
    else .error (.misuse .surplusWord)

/-- An option with a long name. -/
def long (p : Progress) (name : List UInt8) (value : Option Argument) : Except Stop Progress :=
  if name == Argument.ofText "log" then do
    let p ← p.settle
    match value with
    | some v => p.setLog v
    | none => .ok { p with pending := .logName }
  else if value.isSome then .error (.misuse .unknownOption)
  else if name == Argument.ofText "help" then p.ask (.help p.topic)
  else if name == Argument.ofText "version" && p.command.isNone then p.ask .version
  else .error (.misuse .unknownOption)

/-- Options of one letter each. The first one decides. -/
def short (p : Progress) (first : UInt8) : Except Stop Progress :=
  if [first] == Argument.ofText "h" then p.ask (.help p.topic)
  else if [first] == Argument.ofText "V" && p.command.isNone then p.ask .version
  else .error (.misuse .unknownOption)

/-- The next word, which is not the name of a command. -/
def step (p : Progress) (a : Argument) : Except Stop Progress :=
  if p.trailing then p.plain a
  else
    match a.word with
    | .endOfOptions => .ok { p with trailing := true }
    | .long name value => p.long name value
    | .short first _ => p.short first
    | .plain => p.plain a

/-- All words that are left, none of which is the name of a command. -/
def steps (p : Progress) (words : List Argument) : Except Stop Progress :=
  words.foldlM step p

end Progress

/-- What the name of a command stands for. -/
inductive Named
  | command (c : Command)
  | help
  deriving DecidableEq, Repr

/-- The command of a name. It has to be spelled out. -/
def named? (a : Argument) : Option Named :=
  if a == Argument.ofText "repl" then some (.command .repl)
  else if a == Argument.ofText "tokenize" then some (.command .tokenize)
  else if a == Argument.ofText "help" then some .help
  else none

/-- The help that is asked for by the names behind the name `help`. -/
def helpOn : List Argument → Stop
  | [] => .help .program
  | [a] =>
    match named? a with
    | some (.command c) => .help (.command c)
    | some .help => .help .help
    | none => .misuse .unknownTopic
  | _ => .misuse .unknownTopic

/-- The words of a command are complete. -/
def finish (p : Progress) : Except Stop Progress := do
  let p ← p.settle
  if p.command == some .tokenize && p.file.isNone then .error (.misuse .missingFile)
  else .ok p

/-- The words of the program up to the name of a command, and the words of the command. A name is
the value of an option that waits for one, and it is plain behind the mark that ends the options. -/
def split (p : Progress) : List Argument → Except Stop (Progress × Option Progress)
  | [] => do
    let p ← p.settle
    .ok (p, none)
  | a :: words =>
    match if p.trailing || p.pending == .logName then none else named? a with
    | some .help => .error (helpOn words)
    | some (.command c) => do
      let inner ← (Progress.start (some c)).steps words
      let inner ← finish inner
      let p ← p.settle
      .ok (p, some inner)
    | none => do
      let p ← p.step a
      split p words

/-- The values of a command line. The log filter of a command goes before the one of the program. -/
def parse (words : List Argument) : Except Stop Options := do
  let (outer, inner) ← split (.start none) words
  match inner with
  | none => .ok ⟨none, outer.file, outer.log⟩
  | some inner =>
    let task := (inner.file.map Task.tokenize).getD .repl
    .ok ⟨some task, outer.file, inner.log <|> outer.log⟩

end Arguments

/-- What the values of a command line ask for. A file goes with no command but its own. -/
def Options.invocation (o : Options) : Except Stop Invocation :=
  match o.task, o.file with
  | none, some path => .ok (.file path)
  | some (.tokenize path), none => .ok (.file path)
  | some .repl, none => .ok .prompt
  | none, none => .ok .prompt
  | some _, some _ => .error (.misuse .fileAndCommand)

/-- The run that a command line asks for, by what a parser makes of it, and the text of the log
filter that it gives. -/
def Arguments.read (parse : List Argument → Except Stop Options) (words : List Argument) :
    Except Stop (Invocation × Option String) := do
  let options ← parse words
  return (← options.invocation, options.log)

end Loxeme
