import SlackCourier.MediaType.Known
import SlackCourier.Program

/-!
# The executable

Gathers what the program finds, in the order in which a command needs it, and
lets what was done become visible. Log records that are warnings go to the
diagnostics. There is no network stack here: the network is one that is out of
reach (`Network.unreachable`).
-/

namespace SlackCourier

/-- A network that is out of reach. -/
def Network.unreachable : Network := fun _ _ =>
  { fault? := some ["tcp connect error", "Network is unreachable (os error 101)"]
    server := .hangUp }

namespace Executable

/-- The fault in a failed attempt to read. -/
def readFault : IO.Error → ReadFault
  | .noFileOrDirectory _ _ _ => .missing
  | .inappropriateType _ 20 _ => .notDirectory
  | .inappropriateType _ 21 _ => .isDirectory
  | .invalidArgument _ 36 _ => .nameTooLong
  | error => .other (toString error)

/-- What reading the file at a path gives. -/
def readFile (path : String) : IO (Except ReadFault Octets) := do
  match ← (IO.FS.readBinFile path).toBaseIO with
  | .ok content => pure (.ok content.toList)
  | .error error => pure (.error (readFault error))

/-- The files that were read. -/
def filesOf (read : List (String × Except ReadFault Octets)) : FileSystem := fun path =>
  (read.lookup path).getD (.error .missing)

/-- Everything that is piped in. -/
partial def readAll (stream : IO.FS.Stream) (read : ByteArray) : IO ByteArray := do
  let chunk ← stream.read 65536
  if chunk.isEmpty then pure read else readAll stream (read ++ chunk)

/-- The input, read only if it is not a terminal. -/
def readInput : IO Input := do
  let stream ← IO.getStdin
  if ← stream.isTty then pure .terminal
  else pure (Input.ofOctets (← readAll stream ByteArray.empty).toList)

/-- The values of some variables. -/
def readVariables (names : List String) : IO Environment := do
  let values ← names.filterMapM fun name => do
    pure ((← IO.getEnv name).map fun value => (name, value))
  pure (Environment.ofList values)

/-- What the program finds that is needed for a command line. -/
def gather (arguments : List String) : IO Surroundings := do
  let home := (← IO.getEnv "HOME").getD ""
  let nothing : Surroundings :=
    { environment := ⟨[]⟩, home, files := filesOf [], types := MediaType.known
      input := .terminal, network := .unreachable, resolve := fun _ _ => none }
  match CommandLine.parse arguments with
  | .error _ => pure nothing
  | .ok invocation =>
    let configPaths := invocation.config.toList.map (Config.expandHome home)
    let configFiles ← configPaths.mapM fun path => do pure (path, ← readFile path)
    let environment ← readVariables [Config.baseUrlVariable]
    let config := Config.resolve (filesOf configFiles) home environment invocation.config
    let variableName := (config.result.toOption.getD {}).tokenVariable
    let environment ← readVariables [Config.baseUrlVariable, variableName]
    let found := { nothing with environment, files := filesOf configFiles }
    match Credential.resolve variableName environment.value?, invocation.command with
    | .error _, _ => pure found
    | .ok _, .send draft =>
      if draft.lacksText then pure { found with input := ← readInput } else pure found
    | .ok _, .upload _ path _ _ =>
      pure { found with files := filesOf (configFiles ++ [(path, ← readFile path)]) }

/-- Prints an outcome and gives its exit code. -/
def conclude (outcome : Outcome) : IO UInt32 := do
  for record in outcome.trace.logs do
    if record.level = .warn then IO.eprintln record.text
  (← IO.getStdout).write outcome.output.toByteArray
  (← IO.getStderr).write outcome.diagnostics.toByteArray
  pure outcome.exitCode.toUInt32

end Executable

end SlackCourier

open SlackCourier in
/-- Carries out a command line. -/
def main (arguments : List String) : IO UInt32 := do
  let arguments := CommandLine.programName :: arguments
  match (← Executable.gather arguments).start arguments with
  | .ok outcome => Executable.conclude outcome
  | .error usage =>
    if usage.wasAskedFor then IO.print usage.message else IO.eprintln usage.message
    pure usage.exitCode.toUInt32
