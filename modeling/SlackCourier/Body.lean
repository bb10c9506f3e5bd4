import SlackCourier.Multipart.Form
import SlackCourier.Json.Printer

/-!
# Bodies

What is sent to the service: octets and what they are.
-/

namespace SlackCourier

/-- The body of a call. -/
structure Body where
  contentType : String
  octets : Octets
deriving DecidableEq, Repr

namespace Body

/-- A body that is a JSON text. -/
def json (octets : Octets) : Body :=
  ⟨"application/json; charset=utf-8", octets⟩

/-- A body that is a form. -/
def multipart (form : Form) : Body :=
  ⟨form.contentType, form.encode⟩

end Body

end SlackCourier
