import SlackCourier.Json.Reader.Text
import SlackCourier.Json.Reader.Number

/-!
# Reading JSON values

The shared layer is `readFound`, which says what stands at the front: a scalar
is read, a list or an object is only recognised. Where a value of one kind is
expected, that is all there is to read. `readValue` goes into lists and objects
as well, up to a number of levels; `readList` and `readObject` are the loops
over items and members, for any reader of one item or member. The members of an
object are kept in the order of their keys, the last one for each key.

Loops run at most `limit` times. Every turn takes an octet, so the length of
the text is limit enough.
-/

namespace SlackCourier.Json

/-- Says what stands at the front. A scalar is taken; a list or an object is
    left where it stands. -/
def readFound (limit : Nat) : Reader Found := fun octets =>
  match skipBlanks octets with
  | [] => .error (.atEnd .endInValue)
  | octet :: rest =>
    if octet = 'n'.toUInt8 then do
      let ((), rest) ← readWord ['u', 'l', 'l'] rest
      .ok (.null, rest)
    else if octet = 't'.toUInt8 then do
      let ((), rest) ← readWord ['r', 'u', 'e'] rest
      .ok (.bool true, rest)
    else if octet = 'f'.toUInt8 then do
      let ((), rest) ← readWord ['a', 'l', 's', 'e'] rest
      .ok (.bool false, rest)
    else if octet = '-'.toUInt8 then do
      let (value, rest) ← readUnsigned true rest
      .ok (.number value, rest)
    else if isDigit octet then do
      let (value, rest) ← readUnsigned false (octet :: rest)
      .ok (.number value, rest)
    else if octet = '"'.toUInt8 then do
      let (value, rest) ← readText limit rest
      .ok (.text value, rest)
    else if octet = '['.toUInt8 then .ok (.list, octet :: rest)
    else if octet = '\x7b'.toUInt8 then .ok (.object, octet :: rest)
    else .error (.on .expectedValue (octet :: rest))

/-! ## Items -/

/-- Reads items up to the closing bracket, the first of them in front; those
    before it are given in reverse. -/
def readItems (item : Reader α) : (limit : Nat) → (earlier : List α) → Reader (List α)
  | 0, _, _ => .error (.atEnd .endInList)
  | limit + 1, earlier, octets => do
    let (value, rest) ← item octets
    match skipBlanks rest with
    | [] => .error (.atEnd .endInList)
    | octet :: rest =>
      if octet = ']'.toUInt8 then .ok ((value :: earlier).reverse, rest)
      else if octet = ','.toUInt8 then
        match skipBlanks rest with
        | [] => .error (.atEnd .endInValue)
        | next :: rest =>
          if next = ']'.toUInt8 then .error (.on .trailingComma (next :: rest))
          else readItems item limit (value :: earlier) (next :: rest)
      else .error (.on .expectedCommaOrListEnd (octet :: rest))

/-- Reads a list after its opening bracket. -/
def readList (item : Reader α) (limit : Nat) : Reader (List α) := fun octets =>
  match skipBlanks octets with
  | [] => .error (.atEnd .endInList)
  | octet :: rest =>
    if octet = ']'.toUInt8 then .ok ([], rest)
    else readItems item limit [] (octet :: rest)

/-! ## Members -/

/-- Reads the quote that opens a key. -/
def readKeyQuote : Reader Unit
  | [] => .error (.atEnd .endInValue)
  | octet :: rest =>
    if octet = '"'.toUInt8 then .ok ((), rest)
    else .error (.on .keyNotText (octet :: rest))

/-- Reads members up to the closing brace, the first of them in front. The
    reader of a member starts behind its key and passes on what has been
    gathered. -/
def readMembers (member : σ → String → Reader σ) : (limit : Nat) → σ → Reader σ
  | 0, _, _ => .error (.atEnd .endInObject)
  | limit + 1, gathered, octets => do
    let ((), rest) ← readKeyQuote octets
    let (key, rest) ← readText limit rest
    let (gathered, rest) ← member gathered key rest
    match skipBlanks rest with
    | [] => .error (.atEnd .endInObject)
    | octet :: rest =>
      if octet = '\x7d'.toUInt8 then .ok (gathered, rest)
      else if octet = ','.toUInt8 then
        match skipBlanks rest with
        | [] => .error (.atEnd .endInValue)
        | next :: rest =>
          if next = '\x7d'.toUInt8 then .error (.on .trailingComma (next :: rest))
          else readMembers member limit gathered (next :: rest)
      else .error (.on .expectedCommaOrObjectEnd (octet :: rest))

/-- Reads an object after its opening brace. -/
def readObject (member : σ → String → Reader σ) (limit : Nat) (start : σ) : Reader σ :=
  fun octets =>
    match skipBlanks octets with
    | [] => .error (.atEnd .endInObject)
    | octet :: rest =>
      if octet = '\x7d'.toUInt8 then .ok (start, rest)
      else readMembers member limit start (octet :: rest)

/-- Reads the value of a member and puts it among the others. -/
def readMember (value : Reader Json) (members : Members) (key : String) : Reader Members :=
  fun octets => do
    let ((), rest) ← readColon octets
    let (held, rest) ← value rest
    .ok (members.put key held, rest)

/-! ## Values -/

/-- Reads a value with at most `depth` levels of lists and objects. -/
def readValue (limit : Nat) : (depth : Nat) → Reader Json
  | depth, octets => do
    let (found, rest) ← readFound limit octets
    match found with
    | .null => .ok (.null, rest)
    | .bool value => .ok (.bool value, rest)
    | .number value => .ok (.number value, rest)
    | .text value => .ok (.text value, rest)
    | .list =>
      match depth with
      | 0 => .error (.on .nestedTooDeep rest)
      | depth + 1 => do
        let (items, rest) ← readList (readValue limit depth) limit rest.tail
        .ok (.list items, rest)
    | .object =>
      match depth with
      | 0 => .error (.on .nestedTooDeep rest)
      | depth + 1 => do
        let (members, rest) ← readObject (readMember (readValue limit depth)) limit [] rest.tail
        .ok (.object members, rest)

/-- The levels of lists and objects that a text may have. -/
def greatestDepth : Nat := 127

/-- Reads a JSON text: a value and nothing but blanks around it. -/
def parse (text : Octets) : Except Fault Json :=
  readWhole (readValue text.length greatestDepth) text

end SlackCourier.Json
