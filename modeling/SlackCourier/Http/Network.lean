import SlackCourier.Http.Status
import SlackCourier.Url.Basic

/-!
# Networks

The network as the requests of one call meet it, one after the other. For each of
them there is a *round*: how long connecting takes and whether it succeeds, how long
it takes until something comes back, and what that is. A server gives a reply, whose
content may be cut off, or hangs up, or sends what is no reply. It is the same for
everybody: what a round is like does not depend on who calls.
-/

namespace SlackCourier

/-- A reply: its head, and what has come of its content. What only announces a reply
    is none, and some replies have no content (`Http.isBare`). -/
structure Reply where
  status : Nat
  headers : List (String × Octets) := []
  octets : Octets := []
  /-- Why the content has not come to its end, if it has not. -/
  fault? : Option (List String) := none
  isFinal : status = 101 ∨ 200 ≤ status ∧ status ≤ 999
  isBare : Http.isBare status = true → octets = [] ∧ fault? = none
deriving DecidableEq, Repr

namespace Reply

/-- The value of the first header with a name, whatever its case. -/
def header? (reply : Reply) (name : String) : Option Octets :=
  (reply.headers.find? fun header => header.1.toLower = name).map (·.2)

/-- The place that the reply names as the one at which it is to be had. -/
def location? (reply : Reply) : Option Octets :=
  if Http.isRedirect reply.status then reply.header? "location" else none

end Reply

/-- How the place is found that a reply names, as seen from the URL that the reply comes
    from. There may be none that could stand in a request. -/
abbrev Url.Resolver := Url → Octets → Option Url

/-- The other place at which a reply from a URL is to be had, if that can be found. -/
def Reply.place? (reply : Reply) (resolve : Url.Resolver) (url : Url) : Option Url :=
  reply.location?.bind (resolve url)

/-- There is another place if the status says so, the reply names it and it is found. -/
theorem Reply.place?_eq_some_iff {reply : Reply} {resolve : Url.Resolver} {url place : Url} :
    reply.place? resolve url = some place ↔
      reply.status ∈ [301, 302, 303, 307, 308] ∧
        ∃ location, reply.header? "location" = some location ∧
          resolve url location = some place := by
  rw [place?, location?, ← List.contains_iff_mem, ← Http.isRedirect]
  cases Http.isRedirect reply.status with
  | false => simp
  | true => simp [Option.bind_eq_some_iff]

/-- What a server does with a request. -/
inductive Behaviour where
  | reply (reply : Reply)
  | noReply (reasons : List String)
deriving DecidableEq, Repr

namespace Behaviour

/-- The server hangs up. -/
def hangUp : Behaviour :=
  noReply ["connection closed before message completed"]

end Behaviour

/-- What a request meets. Durations are in milliseconds. -/
structure Round where
  connecting : Nat := 0
  /-- Why there is no connection, if there is none. -/
  fault? : Option (List String) := none
  waiting : Nat := 0
  server : Behaviour
  receiving : Nat := 0
deriving DecidableEq, Repr

/-- The network: what the requests of a call meet, in turn, where they go. -/
abbrev Network := Nat → Url → Round

end SlackCourier
