import SlackCourier.Http.Network
import SlackCourier.Trace
import SlackCourier.Transport

/-!
# Delivering requests

A request is sent over a network, and what comes back decides how it goes on
(`Carrier.step`): there is a reply, or there is none in time, or the reply is at
another place. Then a request for that place is sent (`Carrier.pursue`), which tells
who calls only to the same host again, and after so many places nobody follows any
longer. All of it has to be done in the time that a call has, if that is limited.
-/

namespace SlackCourier.Http

/-- What carries the requests of a call: the network, how places are found that replies
    name, and how many milliseconds there are left, if they are counted. -/
structure Carrier where
  network : Network
  resolve : Url.Resolver
  time : Option Nat

namespace Carrier

/-- Whether there is time for something. -/
def hasTime (carrier : Carrier) (duration : Nat) : Bool :=
  carrier.time.all (duration ≤ ·)

/-- What carries the requests that follow after some time. -/
def next (carrier : Carrier) (spent : Nat) : Carrier :=
  { carrier with
    network := fun turn => carrier.network (turn + 1)
    time := carrier.time.map (· - spent) }

end Carrier

/-- What comes of one request. -/
inductive Step where
  | unsent (cause : TransportCause)
  | failed (cause : TransportCause)
  | answered (reply : Reply)
  | redirected (status : Nat) (place : Url) (spent : Nat)
deriving DecidableEq, Repr

/-- What comes of a reply. Whether it is at another place is known before its content
    has come. -/
def Carrier.take (carrier : Carrier) (url : Url) (round : Round) (reply : Reply) : Step :=
  let spent := round.connecting + round.waiting
  match reply.place? carrier.resolve url with
  | some place => .redirected reply.status place spent
  | none =>
    if !carrier.hasTime (spent + round.receiving) then .failed .noEndInTime
    else
      match reply.fault? with
      | some reasons => .failed (.brokenReply reasons)
      | none => .answered reply

/-- What comes of the next request, where it goes. -/
def Carrier.step (carrier : Carrier) (url : Url) : Step :=
  let round := carrier.network 0 url
  if !carrier.hasTime round.connecting then .unsent (.noReplyInTime url.text)
  else
    match round.fault? with
    | some reasons => .unsent (.noConnection url.text reasons)
    | none =>
      if !carrier.hasTime (round.connecting + round.waiting) then
        .failed (.noReplyInTime url.text)
      else
        match round.server with
        | .noReply reasons => .failed (.noReply url.text reasons)
        | .reply reply => carrier.take url round reply

end SlackCourier.Http

namespace SlackCourier

/-- The request that follows after a redirect from one URL to another. -/
def Request.redirected (request : Request) (status : Nat) (url place : Url) : Request :=
  let kept := url.sharesHost place
  let request :=
    { request with
      url := place.text
      login := if kept then request.login else none
      authorization := if kept then request.authorization else none }
  if Http.keepsContent status then request
  else { request with method := "GET", contentType := none, body := [] }

namespace Http

/-- So many places are gone to after the first. -/
def greatestHops : Nat := 10

/-- What the delivery of a request has come to: what was sent, and the reply. -/
structure Transfer where
  requests : List Request
  result : Except TransportCause Reply

/-- Sends a request, and follows it to so many other places at most. -/
def Carrier.pursue (carrier : Carrier) (hops : Nat) (url : Url) (request : Request) : Transfer :=
  match carrier.step url with
  | .unsent cause => ⟨[], .error cause⟩
  | .failed cause => ⟨[request], .error cause⟩
  | .answered reply => ⟨[request], .ok reply⟩
  | .redirected status place spent =>
    match hops with
    | 0 => ⟨[request], .error (.tooManyRedirects url.text)⟩
    | hops + 1 =>
      if !place.isCallable then ⟨[request], .error (.unsupportedUrl place.text)⟩
      else
        let transfer :=
          (carrier.next spent).pursue hops place (request.redirected status url place)
        { transfer with requests := request :: transfer.requests }

end Http

end SlackCourier
