import SlackCourier.CommandLine.Help

/-!
# Answers to a command line

A command line that names no command to carry out is answered at once: with a
help page or the version if that is what it asks for, and otherwise with what is
wrong with it. Only answers that were asked for count as success.
-/

namespace SlackCourier.CommandLine

/-- The answer to a command line that names no command to carry out. -/
inductive Usage where
  | help (page : Page)
  | version
  /-- The page for a command line on which nothing is given. -/
  | nothingGiven (page : Page)
  | unknownArgument (argument : String)
  | unknownCommand (name : String)
  | missingCommand (calledAs : Option String)
  | missingSettings (settings : List Setting)
  | missingValue (setting : Setting)
  | repeated (setting : Setting)
  | surplusValue (question : Question) (value : String)

namespace Usage

/-- Whether the answer was asked for. -/
def wasAskedFor : Usage → Bool
  | help _ => true
  | version => true
  | _ => false

/-- The exit code that goes with the answer. -/
def exitCode (usage : Usage) : Nat :=
  if usage.wasAskedFor then 0 else 1

/-- What the answer says. -/
def message : Usage → String
  | help page => page.text
  | version => versionText
  | nothingGiven page => page.text
  | unknownArgument argument => "error: unexpected argument '" ++ argument ++ "' found"
  | unknownCommand name => "error: unrecognized subcommand '" ++ name ++ "'"
  | missingCommand calledAs =>
    "error: '" ++ calledAs.getD programName
      ++ "' requires a subcommand but one was not provided\n  [subcommands: "
      ++ ", ".intercalate (CommandName.all.map CommandName.text ++ ["help"]) ++ "]"
  | missingSettings settings =>
    "error: the following required arguments were not provided:"
      ++ String.join (settings.map fun setting => "\n  " ++ setting.usage)
  | missingValue setting =>
    "error: a value is required for '" ++ setting.usage ++ "' but none was supplied"
  | repeated setting =>
    "error: the argument '" ++ setting.usage ++ "' cannot be used multiple times"
  | surplusValue question value =>
    "error: unexpected value '" ++ value ++ "' for '" ++ question.usage
      ++ "' found; no more were expected"

end Usage

end SlackCourier.CommandLine
