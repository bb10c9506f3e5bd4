import SlackCourier.Json.Fault

/-!
# Failures of transport

Why a call gets no reply that could be understood: its address is no URL or one
that the program does not call, a header cannot be sent, no connection is made,
nothing comes back, what comes back is cut off or comes too late, it sends the
call from place to place, or it is not what the service promises. Each cause
names the causes behind it (`TransportCause.reasons`). What lies outside of the
program, such as the network, words its own.
-/

namespace SlackCourier

/-- Why a text is no URL. -/
inductive UrlFault where
  | relativeWithoutBase
  | emptyHost
  | invalidPort
  | invalidIpv4Address
  | invalidIpv6Address
  | invalidDomainCharacter
  | invalidInternationalDomain
deriving DecidableEq, Repr

namespace UrlFault

/-- The wording of a fault. -/
def message : UrlFault → String
  | relativeWithoutBase => "relative URL without a base"
  | emptyHost => "empty host"
  | invalidPort => "invalid port number"
  | invalidIpv4Address => "invalid IPv4 address"
  | invalidIpv6Address => "invalid IPv6 address"
  | invalidDomainCharacter => "invalid domain character"
  | invalidInternationalDomain => "invalid international domain name"

end UrlFault

/-- Why no reply comes back that could be understood. -/
inductive TransportCause where
  | invalidUrl (fault : UrlFault)
  | unsupportedUrl (url : String)
  | unsendableUrl (url : String)
  | invalidHeader
  /-- There is no connection, for the reasons that the network gives. -/
  | noConnection (url : String) (reasons : List String)
  /-- What comes back over a connection, if anything does, is no reply. -/
  | noReply (url : String) (reasons : List String)
  /-- The content of a reply does not come to its end. -/
  | brokenReply (reasons : List String)
  /-- Time is up before a reply begins. -/
  | noReplyInTime (url : String)
  /-- Time is up before a reply ends. -/
  | noEndInTime
  | tooManyRedirects (url : String)
  | undecodable (fault : Json.Fault)
  | other (text : String)
deriving DecidableEq, Repr

namespace TransportCause

/-- What went wrong and why, the nearest cause first. -/
def reasons : TransportCause → List String
  | invalidUrl fault => ["builder error", fault.message]
  | unsupportedUrl url => [unbuilt url, "URL scheme is not allowed"]
  | unsendableUrl url => [unbuilt url, "Parsed Url is not a valid Uri"]
  | invalidHeader => ["builder error", "failed to parse header value"]
  | noConnection url reasons => unsent url :: "client error (Connect)" :: reasons
  | noReply url reasons => unsent url :: "client error (SendRequest)" :: reasons
  | brokenReply reasons => unread :: "error reading a body from connection" :: reasons
  | noReplyInTime url => [unsent url, timedOut]
  | noEndInTime => [unread, "request or response body error", timedOut]
  | tooManyRedirects url =>
    ["error following redirect for url (" ++ url ++ ")", "too many redirects"]
  | undecodable fault => [fault.message]
  | other text => [text]
where
  unbuilt (url : String) : String := "builder error for url (" ++ url ++ ")"
  unsent (url : String) : String := "error sending request for url (" ++ url ++ ")"
  unread : String := "error decoding response body"
  timedOut : String := "operation timed out"

end TransportCause

end SlackCourier
