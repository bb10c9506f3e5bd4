import SlackCourier.Config
import SlackCourier.Exchange
import SlackCourier.Http.Delivery

/-!
# Calls over HTTP

A call is one POST to the address of its endpoint. Nothing is sent unless the
address is a URL that can be called, the headers can be sent and there is a
connection; the first of these that fails is reported. What comes back is a
failure of transport if it is not complete or no envelope, a failure of HTTP if
its status is not one of success, whatever its body says, and otherwise what the
envelope says. The login in a URL is told to the host, beside the credential; a
configured timeout is the time that the call has as a whole.
-/

namespace SlackCourier.Http

/-- What the program calls itself. -/
def userAgent : String := "slack-cli/0.1.0"

/-- Whether a text can be sent as the value of a header: it has no control
    character but the tab. -/
def isHeaderValue (text : String) : Bool :=
  text.toList.all fun c => c = '\t' || (0x20 ≤ c.toNat && c.toNat ≠ 0x7F)

/-- Where a call goes, and the header that tells the login in its address. -/
structure Target where
  url : Url
  login : Option String
deriving DecidableEq, Repr

/-- Where a call goes that has an address, provided that its headers can be sent. -/
def target (address : String) (headers : List String) : Except TransportCause Target := do
  let parsed ← (Url.parse address).mapError .invalidUrl
  if !parsed.hasHost then throw (.unsupportedUrl parsed.text)
  if !headers.all isHeaderValue then throw .invalidHeader
  let url := parsed.withoutLogin
  if !url.isCallable then throw (.unsupportedUrl url.text)
  if !url.isSendable then throw (.unsendableUrl url.text)
  pure ⟨url, parsed.basic?⟩

/-- The request of a call. -/
def request (target : Target) (call : Call) : Request :=
  { method := "POST"
    url := target.url.text
    login := target.login
    authorization := some call.credential.bearer
    contentType := some call.body.contentType
    userAgent
    body := call.body.octets }

/-- What a complete reply amounts to: what is logged about it, and the envelope
    or the failure. -/
def receive (endpoint : String) (status : Nat) (body : Octets) :
    List LogRecord × Except Failure Envelope :=
  let responded : LogRecord :=
    ⟨.debug, s!"{endpoint} responded {describe status} ({body.length} bytes)"⟩
  if !isSuccess status then
    ([responded], .error (.http status ((phrase? status).getD "") body.lossy))
  else
    match Envelope.parse body with
    | .error fault => ([responded], .error (.transport (.undecodable fault)))
    | .ok envelope =>
      let warned :=
        envelope.warning.toList.map fun warning =>
          ⟨.warn, endpoint ++ " returned warning: " ++ warning⟩
      (responded :: warned, envelope.settle)

/-- What a call comes to whose request was delivered. -/
def conclude (call : Call) (transfer : Transfer) : Exchange :=
  let requests := transfer.requests
  match transfer.result with
  | .error cause => { requests, result := .error (.transport cause) }
  | .ok reply =>
    let (observed, result) := receive call.endpoint reply.status reply.octets
    { requests, observed, result }

/-- What carries the requests of a call. -/
def carrier (network : Network) (resolve : Url.Resolver) (config : Config) : Carrier :=
  ⟨network, resolve, config.timeout⟩

/-- Makes a call over a network. -/
def post (network : Network) (resolve : Url.Resolver) (config : Config) : Service := fun call =>
  let address := config.address call.endpoint
  let announced : List LogRecord :=
    [⟨.debug, s!"POST {address} ({call.body.contentType}, {call.body.octets.length} bytes)"⟩]
  match target address [call.credential.bearer, call.body.contentType] with
  | .error cause => { announced, result := .error (.transport cause) }
  | .ok target =>
    let transfer :=
      (carrier network resolve config).pursue greatestHops target.url (request target call)
    { conclude call transfer with announced }

end SlackCourier.Http
