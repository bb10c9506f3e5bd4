import SlackCourier.CommandLine.Setting

/-!
# Help

A help page says what something is about, how it is used, and what can be set,
in sections of two columns.
-/

namespace SlackCourier.CommandLine

/-- A titled table of two columns. -/
structure Section where
  title : String
  rows : List (String × String)

namespace Section

/-- How wide the left column is. -/
def width (table : Section) : Nat :=
  table.rows.foldl (fun widest row => max widest row.1.length) 0

/-- A row with its columns two spaces apart. -/
def row (width : Nat) (cells : String × String) : String :=
  "  " ++ cells.1 ++ String.ofList (List.replicate (width - cells.1.length) ' ') ++ "  " ++ cells.2
    ++ "\n"

/-- The table as it is printed. -/
def text (table : Section) : String :=
  table.title ++ ":\n" ++ String.join (table.rows.map (row table.width))

end Section

/-- A help page. -/
structure Page where
  about : String
  usage : String
  sections : List Section

namespace Page

/-- The page as it is printed. -/
def text (page : Page) : String :=
  page.about ++ "\n\nUsage: " ++ page.usage ++ "\n\n"
    ++ "\n".intercalate (page.sections.map Section.text)

end Page

/-- The name that the program has where it is not called by another one. -/
def programName : String := "slack-cli"

/-- What the program says about its version. -/
def versionText : String := programName ++ " 0.1.0\n"

/-- What a command is about. -/
def about : CommandName → String
  | .send => "Send a message"
  | .upload => "Upload a file"

/-- What the help command is about. -/
def aboutHelp : String := "Print this message or the help of the given subcommand(s)"

/-- What a setting of a command is for. -/
def purpose (name : CommandName) : Setting → String
  | .config => "Config file path (JSON)"
  | .channel => "Channel ID"
  | .text => "Message text (read from stdin when omitted and stdin is piped)"
  | .blocks => "Message blocks (JSON string)"
  | .thread =>
    match name with
    | .send => "Thread timestamp to reply to"
    | .upload => "Thread timestamp"
  | .file => "File path"
  | .comment => "Initial comment"

/-- The letter of an option and what follows it; options without a letter are
    set in by as much. -/
def withLetter (letter : Option Char) (usage : String) : String :=
  match letter with
  | some c => String.ofList ['-', c, ',', ' '] ++ usage
  | none => "    " ++ usage

/-- The row that describes a setting. -/
def settingRow (name : CommandName) (setting : Setting) : String × String :=
  (withLetter setting.letter? setting.usage, purpose name setting)

/-- The row that describes a question. -/
def questionRow (question : Question) : String × String :=
  (withLetter (some question.letter) question.usage, "Print " ++ question.name)

/-- The options of a scope. -/
def optionRows (scope : Scope) (name : CommandName) : List (String × String) :=
  scope.settings.map (settingRow name) ++ scope.questions.map questionRow

/-- The page about the program. -/
def programPage (calledAs : Option String) : Page :=
  { about := "Send messages and upload files to Slack"
    usage := calledAs.getD programName ++ " [OPTIONS] <COMMAND>"
    sections := [
      ⟨"Commands", CommandName.all.map (fun name => (name.text, about name))
        ++ [("help", aboutHelp)]⟩,
      ⟨"Options", optionRows .program .send⟩] }

/-- The way to a command: the name of the program, if it is known, and its own. -/
def way (calledAs : Option String) (name : String) : String :=
  calledAs.elim name fun program => program ++ " " ++ name

/-- The page about a command. -/
def commandPage (calledAs : Option String) (name : CommandName) : Page :=
  { about := about name
    usage := way calledAs name.text ++ " [OPTIONS]"
      ++ String.join ((Scope.command name).required.map fun setting => " " ++ setting.usage)
    sections := [⟨"Options", optionRows (.command name) name⟩] }

/-- The page about the help command. -/
def helpPage (calledAs : Option String) : Page :=
  { about := aboutHelp
    usage := way calledAs "help" ++ " [COMMAND]..."
    sections := [⟨"Arguments", [("[COMMAND]...", "Print help for the subcommand(s)")]⟩] }

/-- The page about a scope. -/
def page (calledAs : Option String) : Scope → Page
  | .program => programPage calledAs
  | .command name => commandPage calledAs name

end SlackCourier.CommandLine
