import SlackCourier.Envelope
import SlackCourier.Run

/-!
# Exchanges

What comes of a call: what was logged and sent, and the envelope that came back
or why there is none. A *service* answers every call with an exchange. In a run
the call itself is noted in front of whatever the service does.
-/

namespace SlackCourier

/-- What comes of a call. -/
structure Exchange where
  /-- What was logged before anything was sent. -/
  announced : List LogRecord := []
  requests : List Request := []
  /-- What was logged after that. -/
  observed : List LogRecord := []
  result : Except Failure Envelope

namespace Exchange

/-- What was done, the call itself apart. -/
def events (exchange : Exchange) : Trace :=
  exchange.announced.map .logged ++ exchange.requests.map .requested
    ++ exchange.observed.map .logged

end Exchange

/-- What answers calls. -/
abbrev Service := Call → Exchange

namespace Service

/-- Makes a call. -/
def call (service : Service) (call : Call) : Run Failure Envelope :=
  let exchange := service call
  ⟨.called call :: exchange.events, exchange.result⟩

end Service

end SlackCourier
