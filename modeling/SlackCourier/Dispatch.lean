import SlackCourier.Command
import SlackCourier.Exchange

/-!
# Carrying out commands

A command goes through stages: the credential is found, the body is built, one
call is made, and after an upload the link to the file is printed. A stage that
fails ends the run, and nothing of the later ones is done. What happened is
reported by the exit status and, after a failure, by one line of diagnostics.
-/

namespace SlackCourier

/-- Where text is printed to: it takes any text, or it has room for so many
    octets and a reason to take no more. -/
inductive Sink where
  | working
  | limited (room : Nat) (reason : String)
deriving DecidableEq, Repr

namespace Sink

/-- A sink that takes nothing. -/
def broken (reason : String) : Sink :=
  limited 0 reason

/-- What becomes visible of a text that is printed. Room may end within a character. -/
def shown (sink : Sink) (text : String) : Octets :=
  match sink with
  | working => Octets.ofText text
  | limited room _ => (Octets.ofText text).take room

/-- Why a text cannot be printed to its end, if it cannot. -/
def fault? (sink : Sink) (text : String) : Option String :=
  match sink with
  | working => none
  | limited room reason => if (Octets.ofText text).length ≤ room then none else some reason

/-- Prints a text. -/
def print (sink : Sink) (text : String) : Run Trouble Unit := do
  Run.did (.printed (sink.shown text))
  match sink.fault? text with
  | none => pure ()
  | some reason => Run.ofExcept (.error (.output reason))

end Sink

/-- The endpoints of the service. -/
structure Endpoints where
  message : String
  upload : String
deriving DecidableEq, Repr

/-- All that a command meets when it is carried out. -/
structure World where
  endpoints : Endpoints
  credential : Except Failure Credential
  input : Input
  files : FileStore
  service : Service
  output : Sink

namespace World

/-- Sends the message that a draft asks for. -/
def send (world : World) (credential : Credential) (draft : Draft) : Run Failure Unit := do
  let message ← draft.build world.input
  let octets ← Run.ofExcept message.serialize
  let envelope ← world.service.call ⟨world.endpoints.message, credential, Body.json octets⟩
  Run.log .info
    s!"Posted message to {message.channel} (ts: {envelope.timestamp?.getD untimed})"
where
  untimed : String := "-"

/-- Shares a file. -/
def share (world : World) (credential : Credential) (upload : Upload) : Run Failure Envelope := do
  let form ← upload.build world.files
  let envelope ← world.service.call
    ⟨world.endpoints.upload, credential, Body.multipart form⟩
  Run.log .info s!"Uploaded {upload.path} to {upload.channel}"
  pure envelope

/-- What is printed after an upload. -/
def confirmation (envelope : Envelope) : String :=
  match envelope.permalink? with
  | some permalink => "File uploaded: " ++ permalink ++ "\n"
  | none => "File uploaded (no permalink returned)\n"

/-- Carries out a command with a credential. -/
def carryOut (world : World) (credential : Credential) : Command → Run Trouble Unit
  | .send draft => (world.send credential draft).mapError .failure
  | .upload channel path comment thread => do
    let envelope ←
      (world.share credential (Upload.of channel path comment thread)).mapError .failure
    world.output.print (confirmation envelope)

/-- Carries out a command. -/
def execute (world : World) (command : Command) : Run Trouble Unit := do
  Run.log .info s!"Running {command.name.text} command"
  let credential ← Run.ofExcept (world.credential.mapError .failure)
  world.carryOut credential command

end World

/-! ## Outcomes -/

/-- How the program ended: what it did, and what became visible of that. -/
structure Outcome where
  exitCode : Nat
  output : Octets
  diagnostics : Octets
  trouble : Option Trouble
  trace : Trace

namespace Outcome

/-- The outcome of a run whose trouble, if there is any, is reported to a
    sink. -/
def ofRun (diagnostics : Sink) (run : Run Trouble Unit) : Outcome :=
  let trouble :=
    match run.result with
    | .ok () => none
    | .error trouble => some trouble
  { exitCode := if trouble.isNone then 0 else 1
    output := run.events.printed
    diagnostics := trouble.elim [] fun trouble => diagnostics.shown trouble.report
    trouble
    trace := run.events }

end Outcome

end SlackCourier
