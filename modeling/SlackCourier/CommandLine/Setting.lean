import SlackCourier.Command

/-!
# Settings

What can be set on the command line, and where. A setting is an option with a
value; in front of the command there is only the configuration, behind it there
are the settings of the command as well.
-/

namespace SlackCourier.CommandLine

/-- An option that takes a value. -/
inductive Setting where
  | config
  | channel
  | text
  | blocks
  | thread
  | file
  | comment
deriving DecidableEq, Repr

namespace Setting

/-- The name behind the two dashes. -/
def name : Setting → String
  | config => "config"
  | channel => "channel"
  | text => "text"
  | blocks => "blocks"
  | thread => "thread-ts"
  | file => "file"
  | comment => "comment"

/-- What stands for the value in a description. -/
def placeholder : Setting → String
  | config => "<CONFIG>"
  | channel => "<CHANNEL>"
  | text => "<TEXT>"
  | blocks => "<BLOCKS>"
  | thread => "<THREAD_TS>"
  | file => "<FILE>"
  | comment => "<COMMENT>"

/-- The setting as it is described. -/
def usage (setting : Setting) : String :=
  "--" ++ setting.name ++ " " ++ setting.placeholder

/-- The letter behind a single dash, for the setting that has one. -/
def letter? : Setting → Option Char
  | config => some 'c'
  | _ => none

end Setting

/-- An option that takes no value and asks for an answer instead of a command. -/
inductive Question where
  | help
  | version
deriving DecidableEq, Repr

namespace Question

/-- The name behind the two dashes. -/
def name : Question → String
  | help => "help"
  | version => "version"

/-- The letter behind a single dash. -/
def letter : Question → Char
  | help => 'h'
  | version => 'V'

/-- The question as it is described. -/
def usage (question : Question) : String :=
  "--" ++ question.name

end Question

/-- Where an option stands: in front of the command or behind it. -/
inductive Scope where
  | program
  | command (name : CommandName)
deriving DecidableEq, Repr

namespace Scope

/-- The settings of a scope, in the order in which they are described. -/
def settings : Scope → List Setting
  | program => [.config]
  | command .send => [.config, .channel, .text, .blocks, .thread]
  | command .upload => [.config, .channel, .file, .comment, .thread]

/-- The questions of a scope. -/
def questions : Scope → List Question
  | program => [.help, .version]
  | command _ => [.help]

/-- The settings without which a command is not complete. -/
def required : Scope → List Setting
  | program => []
  | command .send => [.channel]
  | command .upload => [.channel, .file]

end Scope

end SlackCourier.CommandLine
