import SlackCourier.Transport

/-!
# Failures

Everything that can go wrong while a command is carried out, as causes. No
failure is ever retried: the first one ends the command and is reported. Its
report is a chain (`Failure.chain`), which names the failure and then whatever
is behind it, down to the last cause.
-/

namespace SlackCourier

/-- Why octets cannot be read from a file or from what is piped in. -/
inductive ReadFault where
  | missing
  | notDirectory
  | isDirectory
  | nameTooLong
  | nulInName
  | notText
  | other (text : String)
deriving DecidableEq, Repr

namespace ReadFault

/-- The wording of a fault. -/
def message : ReadFault → String
  | missing => "No such file or directory (os error 2)"
  | notDirectory => "Not a directory (os error 20)"
  | isDirectory => "Is a directory (os error 21)"
  | nameTooLong => "File name too long (os error 36)"
  | nulInName => "file name contained an unexpected NUL byte"
  | notText => "stream did not contain valid UTF-8"
  | other text => text

end ReadFault

/-- A line of texts: the first in front, and every other one behind a separator. -/
theorem intercalate_cons (separator text : String) (texts : List String) :
    separator.intercalate (text :: texts) = text ++ String.join (texts.map (separator ++ ·)) := by
  induction texts generalizing text with
  | nil => simp [String.intercalate_singleton]
  | cons next others ih =>
    rw [String.intercalate_cons_cons, ih, List.map_cons, String.join_cons]
    simp only [String.append_assoc]

/-- What ends a command. -/
inductive Failure where
  | missingCredential (variableName : String)
  | missingContent
  | invalidBlocks (fault : Json.Fault)
  | fileNotFound (path : String)
  | transport (cause : TransportCause)
  | http (status : Nat) (reason body : String)
  | api (code : String)
  | unreadable (what : String) (fault : ReadFault)
  | unserializable (fault : Json.Fault)
deriving DecidableEq, Repr

namespace Failure

/-- The name of the kind of a failure. -/
def kind : Failure → String
  | missingCredential _ => "MissingCredential"
  | missingContent => "MissingContent"
  | invalidBlocks _ => "InvalidBlocksJson"
  | fileNotFound _ => "FileNotFound"
  | transport _ => "TransportError"
  | http _ _ _ => "HttpError"
  | api _ => "ApiError"
  | unreadable _ _ => "IoError"
  | unserializable _ => "SerializationError"

/-- The wording of a failure, without the causes behind it. -/
def message : Failure → String
  | missingCredential variableName => variableName ++ " environment variable is not set."
  | missingContent => "No text provided. Use --text, --blocks or pipe via stdin."
  | invalidBlocks _ => "Invalid JSON provided for --blocks"
  | fileNotFound path => "File not found: " ++ path
  | transport _ => "Transport error"
  | http status reason body => "HTTP error: " ++ toString status ++ " " ++ reason ++ "\n" ++ body
  | api code => "Slack API error: " ++ code
  | unreadable what _ => "Failed to read " ++ what
  | unserializable _ => "Failed to serialize request payload"

/-- The causes behind a failure, the nearest first. -/
def reasons : Failure → List String
  | invalidBlocks fault => [fault.message]
  | transport cause => cause.reasons
  | unreadable _ fault => [fault.message]
  | unserializable fault => [fault.message]
  | _ => []

/-- The failure and the causes behind it on one line. -/
def chain (failure : Failure) : String :=
  ": ".intercalate (failure.message :: failure.reasons)

/-- The message is in front, and then there is every cause. -/
theorem chain_eq (failure : Failure) :
    failure.chain = failure.message ++ String.join (failure.reasons.map (": " ++ ·)) :=
  intercalate_cons ..

end Failure

/-- Why a configuration file is not used. -/
inductive ConfigFault where
  | unreadable (fault : ReadFault)
  | unparsable (fault : Json.Fault)
deriving DecidableEq, Repr

/-- Why the program ends without success. -/
inductive Trouble where
  | failure (failure : Failure)
  | config (path : String) (fault : ConfigFault)
  | output (reason : String)
deriving DecidableEq, Repr

namespace Trouble

/-- The wording of the trouble, without the causes behind it. -/
def message : Trouble → String
  | failure cause => cause.message
  | config path (.unreadable _) => "Failed to read config file " ++ path
  | config path (.unparsable _) => "Failed to parse config file " ++ path
  | output reason => reason

/-- The causes behind the trouble, the nearest first. -/
def reasons : Trouble → List String
  | failure cause => cause.reasons
  | config _ (.unreadable fault) => [fault.message]
  | config _ (.unparsable fault) => [fault.message]
  | output _ => []

/-- The trouble and the causes behind it on one line. -/
def chain (trouble : Trouble) : String :=
  ": ".intercalate (trouble.message :: trouble.reasons)

/-- The message is in front, and then there is every cause. -/
theorem chain_eq (trouble : Trouble) :
    trouble.chain = trouble.message ++ String.join (trouble.reasons.map (": " ++ ·)) :=
  intercalate_cons ..

/-- The line that reports the trouble. -/
def report (trouble : Trouble) : String :=
  "Error: " ++ trouble.chain ++ "\n"

end Trouble

end SlackCourier
