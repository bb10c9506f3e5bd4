import SlackCourier.Json.Reader.Skip

/-!
# Reading values of a fixed kind

Where a truth value, a text, a natural number or a record is expected, another
value is refused. A scalar of the wrong kind is refused after it has been read,
a list or an object in front of its bracket.
-/

namespace SlackCourier.Json

/-- Refuses a value for its kind. -/
def refuse (found : Found) (expected : Expectation) (rest : Octets) : Stop :=
  match found with
  | .number (.integer value) =>
    match expected with
    | .natural64 => .before (.wrongInteger value expected) rest
    | _ => .before (.wrongKind found expected) rest
  | _ => .before (.wrongKind found expected) rest

/-- Reads a truth value. -/
def readBool (limit : Nat) : Reader Bool := fun octets => do
  let (found, rest) ← readFound limit octets
  match found with
  | .bool value => .ok (value, rest)
  | _ => .error (refuse found .boolean rest)

/-- Reads a text. -/
def readString (limit : Nat) : Reader String := fun octets => do
  let (found, rest) ← readFound limit octets
  match found with
  | .text value => .ok (value, rest)
  | _ => .error (refuse found .text rest)

/-- Reads a natural number of 64 bits. Every integer that is not negative is
    one, for larger numbers are real. -/
def readNatural64 (limit : Nat) : Reader Nat := fun octets => do
  let (found, rest) ← readFound limit octets
  match found with
  | .number (.integer value) =>
    if 0 ≤ value then .ok (value.toNat, rest) else .error (refuse found .natural64 rest)
  | _ => .error (refuse found .natural64 rest)

/-- Reads a value that may be null. -/
def readOptional (value : Reader α) : Reader (Option α) := fun octets =>
  match skipBlanks octets with
  | octet :: rest =>
    if octet = 'n'.toUInt8 then do
      let ((), rest) ← readWord ['u', 'l', 'l'] rest
      .ok (none, rest)
    else do
      let (held, rest) ← value (octet :: rest)
      .ok (some held, rest)
  | [] => .error (.atEnd .endInValue)

/-- Reads the value of a field that may come once, behind its key. -/
def readField (name : String) (held : Option α) (value : Reader α) : Reader α := fun octets =>
  match held with
  | some _ =>
    -- The object that is given up is left at once where it ends here.
    match skipBlanks octets with
    | [] => .error (.atEnd (.repeatedField name))
    | octet :: rest =>
      if octet = '\x7d'.toUInt8 then .error (.before (.repeatedField name) rest)
      else .error (.before (.repeatedField name) (octet :: rest))
  | none => do
    let ((), rest) ← readColon octets
    value rest

/-! ## Lists of values of fixed kinds -/

/-- Reads the next item of a list, if there is one; what closes the list is left
    in front. -/
def readNextItem (isFirst : Bool) (item : Reader α) : Reader (Option α) := fun octets =>
  match skipBlanks octets with
  | [] => .error (.atEnd .endInList)
  | octet :: rest =>
    if octet = ']'.toUInt8 then .ok (none, octet :: rest)
    else if isFirst then do
      let (value, rest) ← item (octet :: rest)
      .ok (some value, rest)
    else if octet = ','.toUInt8 then
      match skipBlanks rest with
      | [] => .error (.atEnd .endInValue)
      | next :: rest =>
        if next = ']'.toUInt8 then .error (.on .trailingComma (next :: rest))
        else do
          let (value, rest) ← item (next :: rest)
          .ok (some value, rest)
    else .error (.on .expectedCommaOrListEnd (octet :: rest))

/-- Reads the end of a list all of whose items have been read. -/
def readListEnd : Reader Unit := fun octets =>
  match skipBlanks octets with
  | [] => .error (.atEnd .endInList)
  | octet :: rest =>
    if octet = ']'.toUInt8 then .ok ((), rest)
    else if octet = ','.toUInt8 then
      let rest := skipBlanks rest
      if rest.head? = some ']'.toUInt8 then .error (.on .trailingComma rest)
      else .error (.on .trailingCharacters rest)
    else .error (.on .trailingCharacters (octet :: rest))

end SlackCourier.Json
