import SlackCourier.Base64
import SlackCourier.Url.Host

/-!
# Authorities

What stands between two slashes and the path of a URL: the name and the password
of a user, the host, and its port. A host without a name can have neither a user
nor a port.
-/

namespace SlackCourier.Url

/-- The name and the password of a user, as they are shown. -/
structure Login where
  name : List Char := []
  password : Option (List Char) := none
deriving DecidableEq, Repr

namespace Login

/-- Whether there is nothing to show. -/
def isEmpty (login : Login) : Bool :=
  login.name.isEmpty && login.password.isNone

/-- How a login is shown in front of a host. -/
def text (login : Login) : List Char :=
  if login.isEmpty then []
  else login.name ++ login.password.elim [] (':' :: ·) ++ ['@']

/-- The login that is written in front of an at sign. An empty password is as
    good as none. -/
def parse (text : List Char) : Login :=
  let password := percentEncode isReservedInLogin ((text.dropWhile (· ≠ ':')).drop 1)
  { name := percentEncode isReservedInLogin (text.takeWhile (· ≠ ':'))
    password := if password.isEmpty then none else some password }

/-- The text that is written by codes, if their octets are one. -/
def decoded? (written : List Char) : Option String :=
  (percentDecode (Octets.ofText (String.ofList written))).text?

/-- The name and the password that can be told to the host in a header: the name has
    to be text, and it or a password that is text has to say something. -/
def told? (login : Login) : Option (String × Option String) := do
  let name ← decoded? login.name
  let password := login.password.bind decoded?
  if name.isEmpty && password.isNone then none else some (name, password)

/-- The value of the header that tells the login to the host. -/
def basic? (login : Login) : Option String :=
  login.told?.map fun (name, password) =>
    let told := name ++ ":" ++ password.getD ""
    "Basic " ++ String.ofList (Base64.encode (Octets.ofText told))

end Login

/-- Who calls which host at which port. The port is left out if it is the usual
    one. -/
structure Authority where
  login : Login := {}
  host : List Char := []
  port : Option Nat := none
deriving DecidableEq, Repr

namespace Authority

/-- How an authority is shown. -/
def text (authority : Authority) : List Char :=
  authority.login.text ++ authority.host
    ++ authority.port.elim [] fun port => ':' :: Nat.toDigits 10 port

/-! ## Reading -/

/-- Cuts a text behind its last at sign. -/
def splitLogin (text : List Char) : Option (List Char) × List Char :=
  let place := (text.reverse.takeWhile (· ≠ '@')).reverse
  match (text.reverse.dropWhile (· ≠ '@')).reverse.dropLast with
  | [] => (if place.length = text.length then none else some [], place)
  | login => (some login, place)

/-- Cuts a text in front of the first colon that is not between brackets. -/
def splitHost : (inBrackets : Bool) → List Char → List Char × List Char
  | _, [] => ([], [])
  | inBrackets, c :: rest =>
    if c = ':' && !inBrackets then ([], c :: rest)
    else
      let (host, port) := splitHost (c = '[' || (inBrackets && c ≠ ']')) rest
      (c :: host, port)

/-- Reads the port behind a colon, up to a backslash. -/
def parsePort (usual : Option Nat) : List Char → Except UrlFault (Option Nat × List Char)
  | [] => .ok (none, [])
  | _ :: text =>
    let digits := text.takeWhile (· ≠ '\\')
    match Text.number? 10 digits with
    | none => .error .invalidPort
    | some port =>
      if 65535 < port then .error .invalidPort
      else
        let isLeftOut := digits.isEmpty || usual = some port
        .ok (if isLeftOut then none else some port, text.drop digits.length)

/-- Reads an authority, and hands on what of the text belongs to the path. On the
    web a host has a name, and its usual port is known. -/
def parse (usual : Option Nat) (text : List Char) (isLast : Bool) :
    Except UrlFault (Authority × List Char) := do
  let (user, place) := splitLogin text
  if user = some [] && place.isEmpty && !isLast then throw .emptyHost
  let login := user.elim {} Login.parse
  let (name, behind) := splitHost false place
  let host ←
    if usual.isNone then parseOpaqueHost name
    else if name.isEmpty then throw .emptyHost
    else parseHost name
  if host.isEmpty && (!behind.isEmpty || !login.isEmpty) then throw .emptyHost
  let (port, rest) ← parsePort usual behind
  pure ({ login, host, port }, rest)

end Authority

end SlackCourier.Url
