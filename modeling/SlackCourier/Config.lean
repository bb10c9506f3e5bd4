import SlackCourier.Environment
import SlackCourier.FileSystem
import SlackCourier.Json.Reader.Record

/-!
# Configurations

How the program finds the service. A configuration file is an object whose
members may come in any order, each at most once, or a list of the same values
in the order of the fields; what is not given has its default, and members with
other keys are skipped. After that one variable of the environment may replace
the base of all addresses.
-/

namespace SlackCourier

/-- How the program finds the service. -/
structure Config where
  baseUrl : String := "https://slack.com/api"
  tokenVariable : String := "SLACK_BOT_TOKEN"
  messageEndpoint : String := "chat.postMessage"
  uploadEndpoint : String := "files.upload"
  timeoutSeconds : Option Nat := none
deriving DecidableEq, Repr

namespace Config

open Json

/-- What has been read of a configuration. -/
structure Gathered where
  baseUrl : Option String := none
  tokenVariable : Option String := none
  messageEndpoint : Option String := none
  uploadEndpoint : Option String := none
  timeoutSeconds : Option (Option Nat) := none

/-- The configuration in which what was not read has its default. -/
def Gathered.config (gathered : Gathered) : Config :=
  let default : Config := {}
  { baseUrl := gathered.baseUrl.getD default.baseUrl
    tokenVariable := gathered.tokenVariable.getD default.tokenVariable
    messageEndpoint := gathered.messageEndpoint.getD default.messageEndpoint
    uploadEndpoint := gathered.uploadEndpoint.getD default.uploadEndpoint
    timeoutSeconds := gathered.timeoutSeconds.getD default.timeoutSeconds }

/-- Reads a member behind its key. -/
def readMember (limit : Nat) (gathered : Gathered) (key : String) : Reader Gathered := fun octets =>
  if key = "api_base_url" then do
    let (value, rest) ← readField key gathered.baseUrl (readString limit) octets
    .ok ({ gathered with baseUrl := some value }, rest)
  else if key = "token_env" then do
    let (value, rest) ← readField key gathered.tokenVariable (readString limit) octets
    .ok ({ gathered with tokenVariable := some value }, rest)
  else if key = "message_endpoint" then do
    let (value, rest) ← readField key gathered.messageEndpoint (readString limit) octets
    .ok ({ gathered with messageEndpoint := some value }, rest)
  else if key = "upload_endpoint" then do
    let (value, rest) ← readField key gathered.uploadEndpoint (readString limit) octets
    .ok ({ gathered with uploadEndpoint := some value }, rest)
  else if key = "timeout_secs" then do
    let (value, rest) ←
      readField key gathered.timeoutSeconds (readOptional (readNatural64 limit)) octets
    .ok ({ gathered with timeoutSeconds := some value }, rest)
  else do
    let ((), rest) ← readColon octets
    let ((), rest) ← skipValue limit rest
    .ok (gathered, rest)

/-- Reads the values of a list behind its opening bracket, and the end of it. -/
def readValues (limit : Nat) : Reader Gathered := fun octets => do
  let (baseUrl, rest) ← readNextItem true (readString limit) octets
  let (tokenVariable, rest) ← readNextItem false (readString limit) rest
  let (messageEndpoint, rest) ← readNextItem false (readString limit) rest
  let (uploadEndpoint, rest) ← readNextItem false (readString limit) rest
  let (timeoutSeconds, rest) ← readNextItem false (readOptional (readNatural64 limit)) rest
  let ((), rest) ← readListEnd rest
  .ok (⟨baseUrl, tokenVariable, messageEndpoint, uploadEndpoint, timeoutSeconds⟩, rest)

/-- Reads a configuration. -/
def read (limit : Nat) : Reader Config := fun octets => do
  let (found, rest) ← readFound limit octets
  match found with
  | .object => do
    let (gathered, rest) ← readObject (readMember limit) limit {} rest.tail
    .ok (gathered.config, rest)
  | .list => do
    let (gathered, rest) ← readValues limit rest.tail
    .ok (gathered.config, rest)
  | _ => .error (refuse found (.record "Config") rest)

/-- Reads a text that is nothing but a configuration. -/
def parse (text : Octets) : Except Fault Config :=
  readWhole (read text.length) text

/-- The configuration as an object. -/
def toJson (config : Config) : Json :=
  .object [
    ("api_base_url", .text config.baseUrl),
    ("token_env", .text config.tokenVariable),
    ("message_endpoint", .text config.messageEndpoint),
    ("upload_endpoint", .text config.uploadEndpoint),
    ("timeout_secs", config.timeoutSeconds.elim .null fun n => .number (.integer n))]

/-! ## Finding a configuration -/

/-- A path in which a tilde at the front, alone or before a slash, stands for
    the home directory. -/
def expandHome (home path : String) : String :=
  match path.toList with
  | ['~'] => home
  | '~' :: '/' :: rest => home ++ String.ofList ('/' :: rest)
  | _ => path

/-- Loads a configuration file. -/
def load (files : FileSystem) (home path : String) : Run Trouble Config := do
  let path := expandHome home path
  Run.did (.fileRead path)
  let text ← Run.ofExcept ((files.readText path).mapError (.config path ∘ .unreadable))
  let config ← Run.ofExcept ((parse (Octets.ofText text)).mapError (.config path ∘ .unparsable))
  Run.log .debug ("Loaded configuration from " ++ path)
  pure config

/-- The variable that replaces the base of the addresses. -/
def baseUrlVariable : String := "SLACK_API_BASE_URL"

/-- The configuration in which the variable has replaced the base of the
    addresses, if it is set and not blank. -/
def overridden (config : Config) (lookup : String → Option String) : Run Trouble Config :=
  match (lookup baseUrlVariable).filter fun url => !Text.isBlank url with
  | some url => do
    Run.log .debug ("Using API base URL from " ++ baseUrlVariable ++ ": " ++ url)
    pure { config with baseUrl := url }
  | none => pure config

/-- The configuration in the file, or the default without one, after the
    environment had its say. -/
def resolve (files : FileSystem) (home : String) (environment : Environment)
    (path : Option String) : Run Trouble Config := do
  let config ← path.elim (pure {}) (load files home)
  config.overridden environment.value?

/-- The time that a call has, in milliseconds. -/
def timeout (config : Config) : Option Nat :=
  config.timeoutSeconds.map (· * 1000)

/-! ## Addresses -/

/-- The text without the slashes at its end. -/
def dropTrailingSlashes (text : String) : String :=
  String.ofList (text.toList.reverse.dropWhile (· = '/')).reverse

/-- The text without the slashes at its front. -/
def dropLeadingSlashes (text : String) : String :=
  String.ofList (text.toList.dropWhile (· = '/'))

/-- The address of an endpoint: the base and the name of the endpoint with one
    slash between them. -/
def address (config : Config) (endpoint : String) : String :=
  dropTrailingSlashes config.baseUrl ++ "/" ++ dropLeadingSlashes endpoint

end Config

end SlackCourier
