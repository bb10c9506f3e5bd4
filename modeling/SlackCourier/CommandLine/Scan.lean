import SlackCourier.CommandLine.Usage
import SlackCourier.CommandLine.Token

/-!
# Scanning options

The settings that were given so far, and the last one apart. That one is
*pending* until the next option or the end: only then is it seen whether its
value is missing or whether it was given before (`Scan.settle`). A value that is
part of the option itself settles it at once. An argument that is not known at
all is refused without regard to what is pending.
-/

namespace SlackCourier.CommandLine

/-- The settings given so far. -/
structure Scan where
  given : List (Setting × String) := []
  /-- The last setting, and its value if it has come. -/
  pending : Option (Setting × Option String) := none
deriving DecidableEq, Repr

namespace Scan

/-- The value of a setting. -/
def value? (scan : Scan) (setting : Setting) : Option String :=
  scan.given.lookup setting

/-- Adds the pending setting to the others. -/
def settle (scan : Scan) : Except Usage Scan :=
  match scan.pending with
  | none => .ok scan
  | some (setting, none) => .error (.missingValue setting)
  | some (setting, some value) =>
    if (scan.value? setting).isSome then .error (.repeated setting)
    else .ok { given := scan.given ++ [(setting, value)] }

/-- The pending setting that waits for its value. -/
def waiting? (scan : Scan) : Option Setting :=
  match scan.pending with
  | some (setting, none) => some setting
  | _ => none

/-- Begins a setting. -/
def start (scan : Scan) (setting : Setting) (value : Option String) : Except Usage Scan := do
  let scan ← scan.settle
  let scan := { scan with pending := some (setting, value) }
  if value.isSome then scan.settle else .ok scan

/-- Answers a question; what was given before it has to be in order. -/
def ask (scan : Scan) (page : Page) (question : Question) : Except Usage Scan := do
  let _ ← scan.settle
  match question with
  | .help => .error (.help page)
  | .version => .error .version

/-- The value of an option that is given by its letter: what follows the letter,
    without an equals sign between them, or nothing. -/
def attached : List Char → Option String
  | [] => none
  | '=' :: value => some (String.ofList value)
  | value => some (String.ofList value)

/-- What an argument with a name behind two dashes does. -/
def long (scan : Scan) (scope : Scope) (page : Page) (name : String) (value : Option String) :
    Except Usage Scan :=
  match scope.settings.find? (·.name = name), scope.questions.find? (·.name = name), value with
  | some setting, _, value => scan.start setting value
  | none, some question, none => scan.ask page question
  | none, some question, some value => .error (.surplusValue question value)
  | none, none, _ => .error (.unknownArgument ("--" ++ name))

/-- What an argument with letters behind a dash does. The first letter decides:
    it belongs to a question, or the rest is its value. -/
def short (scan : Scan) (scope : Scope) (page : Page) (letter : Char) (rest : List Char) :
    Except Usage Scan :=
  match scope.settings.find? (·.letter? = some letter),
    scope.questions.find? (·.letter = letter) with
  | some setting, _ => scan.start setting (attached rest)
  | none, some question => scan.ask page question
  | none, none => .error (.unknownArgument (String.ofList ['-', letter]))

end Scan

/-! ## Options in a row -/

/-- Scans options with their values. What is left behind them is nothing, or it
    begins with two dashes alone or with a word that is no value. -/
def scanOptions (scope : Scope) (page : Page) (scan : Scan) :
    List String → Except Usage (Scan × List String)
  | [] => .ok (scan, [])
  | argument :: rest =>
    match Token.ofText argument with
    | .escape => .ok (scan, argument :: rest)
    | .long name value => do
      scanOptions scope page (← scan.long scope page name value) rest
    | .short letter letters => do
      scanOptions scope page (← scan.short scope page letter letters) rest
    | .word value =>
      match scan.waiting? with
      | some setting =>
        scanOptions scope page { scan with pending := some (setting, some value) } rest
      | none => .ok (scan, argument :: rest)

/-! ## Arguments of a command -/

/-- Scans the arguments behind a command. There is nothing to be named without
    an option, so nothing may be left but the two dashes that end the options. -/
def scanCommand (name : CommandName) (page : Page) (arguments : List String) :
    Except Usage Scan := do
  let (scan, rest) ← scanOptions (.command name) page {} arguments
  match rest with
  | [] => scan.settle
  | ["--"] => scan.settle
  | "--" :: surplus :: _ => .error (.unknownArgument surplus)
  | word :: _ => .error (.unknownArgument word)

/-! ## Arguments of the program -/

/-- The name under which help is asked for. -/
def helpName : String := "help"

/-- The answer to the help command. -/
def answerHelp (calledAs : Option String) : List String → Usage
  | [] => .help (programPage calledAs)
  | topic :: rest =>
    let found :=
      match CommandName.ofText? topic with
      | some name => some (commandPage calledAs name)
      | none => if topic = helpName then some (helpPage calledAs) else none
    match found, rest with
    | none, _ => .unknownCommand topic
    | some page, [] => .help page
    | some _, surplus :: _ => .unknownCommand surplus

/-- Scans the arguments in front of a command, and gives the command and the
    arguments behind it. -/
def scanProgram (calledAs : Option String) (arguments : List String) :
    Except Usage (Scan × Option (CommandName × List String)) := do
  let (scan, rest) ← scanOptions .program (programPage calledAs) {} arguments
  match rest with
  | [] => .ok (scan, none)
  | ["--"] => .ok (scan, none)
  | "--" :: surplus :: _ =>
    if (CommandName.ofText? surplus).isSome || surplus = helpName then
      .error (.unknownArgument surplus)
    else .error (.unknownCommand surplus)
  | word :: rest =>
    if word = helpName then .error (answerHelp calledAs rest)
    else
      match CommandName.ofText? word with
      | some name => .ok (scan, some (name, rest))
      | none => .error (.unknownCommand word)

end SlackCourier.CommandLine
