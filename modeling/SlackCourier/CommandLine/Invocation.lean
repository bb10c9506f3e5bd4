import SlackCourier.CommandLine.Scan

/-!
# Invocations

A command line is the name under which the program is called, settings in front
of a command, the command, and settings behind it. It is either an *invocation*,
a command with the configuration to carry it out in, or answered at once. A
configuration that is given behind the command counts before one in front of it.
-/

namespace SlackCourier

/-- A command to carry out, and the configuration file to use. -/
structure Invocation where
  config : Option String
  command : Command
deriving DecidableEq, Repr

namespace CommandLine

/-- The settings that a command needs and that were not given. -/
def missing (name : CommandName) (scan : Scan) : List Setting :=
  (Scope.command name).required.filter fun setting => (scan.value? setting).isNone

/-- The command that the settings make up, if none is missing. -/
def command (name : CommandName) (scan : Scan) : Except Usage Command :=
  match name, scan.value? .channel, scan.value? .file with
  | .send, some channel, _ =>
    .ok (.send {
      channel
      text := scan.value? .text
      blocks := scan.value? .blocks
      thread := scan.value? .thread })
  | .upload, some channel, some path =>
    .ok (.upload channel path (scan.value? .comment) (scan.value? .thread))
  | _, _, _ => .error (.missingSettings (missing name scan))

/-- The name of the program in the path that it was called by. -/
def calledAs? (arguments : List String) : Option String :=
  arguments.head?.bind FilePath.fileName?

/-- What a command line asks for. -/
def parse (arguments : List String) : Except Usage Invocation := do
  let calledAs := calledAs? arguments
  let (outer, found) ← scanProgram calledAs arguments.tail
  match found with
  | some (name, rest) => do
    let inner ← scanCommand name (commandPage calledAs name) rest
    let command ← command name inner
    let outer ← outer.settle
    .ok ⟨(inner.value? .config).or (outer.value? .config), command⟩
  | none => do
    let outer ← outer.settle
    if outer.given.isEmpty then .error (.nothingGiven (programPage calledAs))
    else .error (.missingCommand calledAs)

end CommandLine

end SlackCourier
