import SlackCourier.Failure
import SlackCourier.Text.Blank

/-!
# Credentials

The token that authorises a call. It leaves the program only as the value of
the authorisation header (`Credential.bearer`); everywhere else it is shown as
a fixed text.
-/

namespace SlackCourier

/-- A token. -/
structure Credential where
  token : String
deriving DecidableEq

namespace Credential

/-- The value of the authorisation header. -/
def bearer (credential : Credential) : String :=
  "Bearer " ++ credential.token

/-- What is shown in the place of a credential. -/
def redacted (_credential : Credential) : String :=
  "Credential([REDACTED])"

/-- The credential in the variable with the given name. A blank value is as
    good as none. -/
def resolve (variableName : String) (lookup : String → Option String) :
    Except Failure Credential :=
  match (lookup variableName).filter fun token => !Text.isBlank token with
  | some token => .ok ⟨token⟩
  | none => .error (.missingCredential variableName)

end Credential

end SlackCourier
