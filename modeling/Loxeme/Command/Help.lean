import Loxeme.Command.Arguments

/-!
# Help texts

What the program says about itself: its version, and help on itself and its commands. The help on
the log filter shows the filter that the environment gives, and is broken into lines at blanks.

* `wrap`: a text broken into lines of a given width.
* `help`: the help on a topic.
-/

namespace Loxeme

namespace Help

/-- A text as its words, each with the blanks behind it. -/
def words (text : List Char) : List (List Char) :=
  match text with
  | [] => []
  | c :: rest =>
    match words rest with
    | [] => [[c]]
    | word :: others =>
      if c == ' ' && word.head? != some ' ' then [c] :: word :: others
      else (c :: word) :: others

/-- A text without the blanks at its end. -/
def trimRight (text : List Char) : List Char :=
  (text.reverse.dropWhile (· == ' ')).reverse

/-- Lines of words, put behind a line that is begun. A word goes on the line if the line is not
longer than the width with it, and the first word always does. -/
def wrapOnto (width : Nat) (line : List Char) : List (List Char) → List (List Char)
  | [] => [line]
  | word :: words =>
    if line.isEmpty || line.length + (trimRight word).length ≤ width then
      wrapOnto width (line ++ word) words
    else trimRight line :: wrapOnto width word words

/-- A text broken into lines at blanks, as many words on a line as the width admits. -/
def wrap (width : Nat) (text : List Char) : List (List Char) :=
  wrapOnto width [] (words text)

/-! ## The texts -/

/-- The number of columns of a help text. -/
def columns : Nat := 100

/-- The column in which the descriptions of the options begin. -/
def optionColumn : Nat := 26

/-- The help on the log filter, with the filter that the environment gives. -/
def logOption (environment : Option String) : String :=
  let description := "Log filter directives, e.g. `compilo=debug` [env: COMPILO_LOG=" ++
    environment.getD "" ++ "] [default: warn]"
  let lines := (description.toList.splitOn '\n').flatMap (wrap (columns - optionColumn))
  "      --log <LOG_FILTER>  " ++
    ("\n" ++ "".pushn ' ' optionColumn).intercalate (lines.map String.ofList) ++ "\n"

/-- The help on the program. -/
def onProgram (environment : Option String) : String :=
  "compilo scans Lox source code into tokens. Given a file it prints the file's tokens; " ++
  "without\n" ++
  "arguments it starts an interactive prompt that tokenizes every line entered\n" ++
  "\n" ++
  "Usage: compilo [OPTIONS] [SOURCE_FILE] [COMMAND]\n" ++
  "\n" ++
  "Commands:\n" ++
  "  repl      run the lox repl\n" ++
  "  tokenize  tokenize the given file and print its contents\n" ++
  "  help      Print this message or the help of the given subcommand(s)\n" ++
  "\n" ++
  "Arguments:\n" ++
  "  [SOURCE_FILE]  Source File for the program; the REPL is started if omitted\n" ++
  "\n" ++
  "Options:\n" ++
  logOption environment ++
  "  -h, --help              Print help\n" ++
  "  -V, --version           Print version\n"

/-- The help on the command for the prompt. -/
def onRepl (environment : Option String) : String :=
  "run the lox repl\n" ++
  "\n" ++
  "Usage: compilo repl [OPTIONS]\n" ++
  "\n" ++
  "Options:\n" ++
  logOption environment ++
  "  -h, --help              Print help\n"

/-- The help on the command for a file. -/
def onTokenize (environment : Option String) : String :=
  "tokenize the given file and print its contents\n" ++
  "\n" ++
  "Usage: compilo tokenize [OPTIONS] <SOURCE_FILE>\n" ++
  "\n" ++
  "Arguments:\n" ++
  "  <SOURCE_FILE>  File to scan\n" ++
  "\n" ++
  "Options:\n" ++
  logOption environment ++
  "  -h, --help              Print help\n"

/-- The help on help. -/
def onHelp : String :=
  "Print this message or the help of the given subcommand(s)\n" ++
  "\n" ++
  "Usage: compilo help [COMMAND]...\n" ++
  "\n" ++
  "Arguments:\n" ++
  "  [COMMAND]...  Print help for the subcommand(s)\n"

end Help

/-- The help on a topic. -/
def help (environment : Option String) : Topic → String
  | .program => Help.onProgram environment
  | .command .repl => Help.onRepl environment
  | .command .tokenize => Help.onTokenize environment
  | .help => Help.onHelp

/-- The name and the version of the program. -/
def versionText : String :=
  "compilo 0.1.0\n"

end Loxeme
