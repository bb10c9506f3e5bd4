import SlackCourier.CommandLine.Invocation
import SlackCourier.Dispatch
import SlackCourier.Http.Client

/-!
# The program

From a command line to an outcome: the configuration is found, and the command
is carried out with the token of the environment, its files and the service on the
network.
-/

namespace SlackCourier

/-- All that the program finds when it is started, and what it takes from others: which
    media types go with which extensions, and which places with which locations. -/
structure Surroundings where
  environment : Environment
  home : String
  files : FileSystem
  types : MediaType.Table
  input : Input
  network : Network
  resolve : Url.Resolver
  output : Sink := .working
  diagnostics : Sink := .working

namespace Surroundings

/-- What commands meet under a configuration. -/
def world (surroundings : Surroundings) (config : Config) : World :=
  { endpoints := ⟨config.messageEndpoint, config.uploadEndpoint⟩
    credential := Credential.resolve config.tokenVariable surroundings.environment.value?
    input := surroundings.input
    files := surroundings.files.store surroundings.types
    service := Http.post surroundings.network surroundings.resolve config
    output := surroundings.output }

/-- Carries out what the command line asks for. -/
def run (surroundings : Surroundings) (invocation : Invocation) : Run Trouble Unit := do
  let config ← Config.resolve surroundings.files surroundings.home surroundings.environment
    invocation.config
  (surroundings.world config).execute invocation.command

/-- The answer to a command line, or the outcome of the command. -/
def start (surroundings : Surroundings) (arguments : List String) :
    Except CommandLine.Usage Outcome := do
  let invocation ← CommandLine.parse arguments
  .ok (Outcome.ofRun surroundings.diagnostics (surroundings.run invocation))

end Surroundings

end SlackCourier
