import SlackCourier.Failure
import SlackCourier.Json.Reader.Record
import SlackCourier.Text.Blank

/-!
# Envelopes

What the service replies: an object that says whether the call succeeded, with
an error code if it did not, perhaps a warning, and whatever else belongs to the
call. `ok` is a truth value and has to be there; `error` and `warning` are texts
or null; none of the three may come twice. Of every other member the last value
is kept.
-/

namespace SlackCourier

/-- A reply. -/
structure Envelope where
  ok : Bool
  error : Option String
  warning : Option String
  data : Members
deriving Repr

namespace Envelope

/-- What has been read of an envelope. -/
structure Gathered where
  ok : Option Bool := none
  error : Option (Option String) := none
  warning : Option (Option String) := none
  data : Members := []

open Json

/-- Reads a member behind its key. -/
def readMember (limit : Nat) (gathered : Gathered) (key : String) : Reader Gathered := fun octets =>
  if key = "ok" then do
    let (value, rest) ← readField key gathered.ok (readBool limit) octets
    .ok ({ gathered with ok := some value }, rest)
  else if key = "error" then do
    let (value, rest) ← readField key gathered.error (readOptional (readString limit)) octets
    .ok ({ gathered with error := some value }, rest)
  else if key = "warning" then do
    let (value, rest) ← readField key gathered.warning (readOptional (readString limit)) octets
    .ok ({ gathered with warning := some value }, rest)
  else do
    let value := readValue limit (greatestDepth - 1)
    let (data, rest) ← Json.readMember value gathered.data key octets
    .ok ({ gathered with data }, rest)

/-- The envelope that was read, if it says whether the call succeeded. -/
def Gathered.envelope? (gathered : Gathered) : Option Envelope :=
  gathered.ok.map fun ok => ⟨ok, gathered.error.join, gathered.warning.join, gathered.data⟩

/-- Reads an envelope. -/
def read (limit : Nat) : Reader Envelope := fun octets => do
  let (found, rest) ← readFound limit octets
  match found with
  | .object => do
    let (gathered, rest) ← readObject (readMember limit) limit {} rest.tail
    match gathered.envelope? with
    | some envelope => .ok (envelope, rest)
    | none => .error (.before (.missingField "ok") rest)
  | _ => .error (refuse found (.record "ApiResponse") rest)

/-- Reads a reply that is nothing but an envelope. -/
def parse (reply : Octets) : Except Fault Envelope :=
  readWhole (read reply.length) reply

/-- The error code of a failed call that does not give one. -/
def unknownError : String := "unknown_error"

/-- The envelope of a successful call, or the failure that it reports. -/
def settle (envelope : Envelope) : Except Failure Envelope :=
  if envelope.ok then .ok envelope
  else .error (.api ((Text.given envelope.error).getD unknownError))

/-- The link to the file that was shared. -/
def permalink? (envelope : Envelope) : Option String := do
  let file ← Members.value? "file" envelope.data
  (← file.member? "permalink").text?

/-- The timestamp of the message that was posted. -/
def timestamp? (envelope : Envelope) : Option String := do
  (← Members.value? "ts" envelope.data).text?

end Envelope

end SlackCourier
