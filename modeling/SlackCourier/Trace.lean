import SlackCourier.Body
import SlackCourier.Credential

/-!
# Traces

The things that the program does, one after the other: it writes to its log,
reads its input and files, makes calls, sends requests and prints. A trace can be
looked at for one kind of them (`Trace.logs`, `Trace.calls`, …).
-/

namespace SlackCourier

/-- How much a log record matters. -/
inductive Level where
  | debug
  | info
  | warn
deriving DecidableEq, Repr

/-- A line in the log. -/
structure LogRecord where
  level : Level
  text : String
deriving DecidableEq, Repr

/-- A request on the wire. Who calls is told in up to two ways, by the login in
    the address of the call and by its credential. -/
structure Request where
  method : String
  url : String
  login : Option String
  authorization : Option String
  contentType : Option String
  userAgent : String
  body : Octets
deriving DecidableEq, Repr

/-- A call of the service: the endpoint, who calls and what is sent. -/
structure Call where
  endpoint : String
  credential : Credential
  body : Body
deriving DecidableEq

/-- One thing that the program does. -/
inductive Event where
  | logged (record : LogRecord)
  | inputRead
  | fileRead (path : String)
  | called (call : Call)
  | requested (request : Request)
  | printed (octets : Octets)
deriving DecidableEq

/-- The things that were done, in order. -/
abbrev Trace := List Event

namespace Trace

/-- What was written to the log. -/
def logs (trace : Trace) : List LogRecord :=
  trace.filterMap fun
    | .logged record => some record
    | _ => none

/-- The calls that were made. -/
def calls (trace : Trace) : List Call :=
  trace.filterMap fun
    | .called call => some call
    | _ => none

/-- The requests that were sent. -/
def requests (trace : Trace) : List Request :=
  trace.filterMap fun
    | .requested request => some request
    | _ => none

/-- What was printed. -/
def printed (trace : Trace) : Octets :=
  trace.flatMap fun
    | .printed octets => octets
    | _ => []

end Trace

end SlackCourier
