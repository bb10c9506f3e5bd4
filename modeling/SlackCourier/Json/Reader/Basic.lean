import SlackCourier.Json.Fault

/-!
# Readers of JSON texts

A reader takes what it reads from the front of the octets and hands on the rest
of them. Where it stops short, it says why and how many octets it leaves
unread; only the outermost reader, which knows the whole text, turns that into
a place (`Stop.fault`). Octets that were looked at and not taken count as read
where the fault is about them (`Stop.on`), and as unread otherwise
(`Stop.before`).
-/

namespace SlackCourier.Json

/-- Why reading stops, and how many octets are left unread. -/
structure Stop where
  cause : Cause
  left : Nat
deriving DecidableEq, Repr

namespace Stop

/-- Stops in front of the octets. -/
def before (cause : Cause) (octets : Octets) : Stop :=
  ⟨cause, octets.length⟩

/-- Stops on the first of the octets, or at the end if there are none. -/
def on (cause : Cause) (octets : Octets) : Stop :=
  ⟨cause, octets.length - 1⟩

/-- Stops at the end of the text. -/
def atEnd (cause : Cause) : Stop :=
  ⟨cause, 0⟩

/-- The fault in a text that reading stops at. -/
def fault (stop : Stop) (text : Octets) : Fault :=
  ⟨stop.cause, Position.after (text.take (text.length - stop.left))⟩

end Stop

/-- Takes a value from the front of the octets and hands on the rest. -/
abbrev Reader (α : Type) := Octets → Except Stop (α × Octets)

/-- Space, tab, line feed and carriage return may stand between tokens. -/
def isBlank (octet : UInt8) : Bool :=
  octet = 0x20 || octet = 0x09 || octet = 0x0A || octet = 0x0D

/-- What follows the blanks at the front. -/
def skipBlanks (octets : Octets) : Octets :=
  octets.dropWhile isBlank

/-- Reads the rest of a word whose first octet told which word it is. -/
def readWord : List Char → Reader Unit
  | [], octets => .ok ((), octets)
  | _ :: _, [] => .error (.atEnd .endInValue)
  | letter :: word, octet :: rest =>
    if octet = letter.toUInt8 then readWord word rest
    else .error (.before .expectedWord rest)

/-- Reads the colon between a key and its value. -/
def readColon : Reader Unit := fun octets =>
  match skipBlanks octets with
  | [] => .error (.atEnd .endInObject)
  | octet :: rest =>
    if octet = ':'.toUInt8 then .ok ((), rest)
    else .error (.on .expectedColon (octet :: rest))

/-- Reads a whole text: what the reader takes, and nothing but blanks after it. -/
def readWhole (reader : Reader α) (text : Octets) : Except Fault α :=
  match reader text with
  | .error stop => .error (stop.fault text)
  | .ok (value, rest) =>
    match skipBlanks rest with
    | [] => .ok value
    | octet :: rest => .error ((Stop.on .trailingCharacters (octet :: rest)).fault text)

end SlackCourier.Json
