import SlackCourier.Json.Reader.Value

/-!
# Skipping JSON values

A value that nobody asks for is skipped: its tokens have to follow the grammar,
but what they denote is not looked at. So lists and objects may be nested to
any depth, numbers may be of any size, and the characters of a text are told
apart only as far as it takes to find its end. The brackets that are still open
are kept in a list, innermost first.
-/

namespace SlackCourier.Json

/-! ## Scalars -/

/-- Skips the digits of an integer part; a zero stands alone. -/
def skipIntegerPart : Reader Unit
  | [] => .error (.atEnd .invalidNumber)
  | octet :: rest =>
    if !isDigit octet then .error (.before .invalidNumber rest)
    else if octet = '0'.toUInt8 then
      if (leadingDigits rest).isEmpty then .ok ((), rest) else .error (.on .invalidNumber rest)
    else .ok ((), dropDigits rest)

/-- Skips a fraction, if one follows. -/
def skipFraction : Reader Unit
  | [] => .ok ((), [])
  | octet :: rest =>
    if octet = '.'.toUInt8 then
      if (leadingDigits rest).isEmpty then .error (.on .invalidNumber rest)
      else .ok ((), dropDigits rest)
    else .ok ((), octet :: rest)

/-- Skips a power of ten, if one follows. -/
def skipExponent : Reader Unit
  | [] => .ok ((), [])
  | octet :: rest =>
    if octet = 'e'.toUInt8 || octet = 'E'.toUInt8 then
      let (_, rest) := readExponentSign rest
      if (leadingDigits rest).isEmpty then .error (.before .invalidNumber rest.tail)
      else .ok ((), dropDigits rest)
    else .ok ((), octet :: rest)

/-- Skips a number after its sign. -/
def skipUnsigned : Reader Unit := fun octets => do
  let ((), rest) ← skipIntegerPart octets
  let ((), rest) ← skipFraction rest
  skipExponent rest

/-- Skips one character of a text. -/
def skipChar : Reader Unit
  | [] => .error (.atEnd .endInText)
  | octet :: rest =>
    if octet = '\\'.toUInt8 then
      match rest with
      | [] => .error (.atEnd .endInText)
      | letter :: rest =>
        if (shortEscape? letter).isSome then .ok ((), rest)
        else if letter = 'u'.toUInt8 then do
          let (_, rest) ← readCodeUnit rest
          .ok ((), rest)
        else .error (.before .invalidEscape rest)
    else if octet < 0x20 then .error (.before .controlCharacter (octet :: rest))
    else .ok ((), rest)

/-- Skips a text behind its opening quote: characters up to the closing quote,
    fewer than `limit` of them. -/
def skipText : (limit : Nat) → Reader Unit
  | 0, _ => .error (.atEnd .endInText)
  | limit + 1, octets =>
    if octets.head? = some '"'.toUInt8 then .ok ((), octets.tail)
    else do
      let ((), rest) ← skipChar octets
      skipText limit rest

/-! ## Nesting -/

/-- A bracket that is open. -/
inductive Bracket where
  | list
  | object
deriving DecidableEq, Repr

namespace Bracket

/-- The octet that closes the bracket. -/
def closing : Bracket → UInt8
  | list => ']'.toUInt8
  | object => '\x7d'.toUInt8

/-- Why a text is refused that ends inside the bracket. -/
def unfinished : Bracket → Cause
  | list => .endInList
  | object => .endInObject

/-- Why a text is refused in which something else follows a value. -/
def expectedComma : Bracket → Cause
  | list => .expectedCommaOrListEnd
  | object => .expectedCommaOrObjectEnd

end Bracket

/-- Skips a scalar or an opening bracket, and says which bracket it was. -/
def skipToken (limit : Nat) : Reader (Option Bracket) := fun octets =>
  match skipBlanks octets with
  | [] => .error (.atEnd .endInValue)
  | octet :: rest => do
    if octet = '-'.toUInt8 then
      let ((), rest) ← skipUnsigned rest
      .ok (none, rest)
    else if isDigit octet then
      let ((), rest) ← skipUnsigned (octet :: rest)
      .ok (none, rest)
    else if octet = '"'.toUInt8 then
      let ((), rest) ← skipText limit rest
      .ok (none, rest)
    else
      let (found, rest) ← readFound limit (octet :: rest)
      match found with
      | .list => .ok (some .list, rest.tail)
      | .object => .ok (some .object, rest.tail)
      | _ => .ok (none, rest)

/-- After a value: closes brackets up to a comma, and gives those still open. -/
def closeBrackets : List Bracket → Reader (List Bracket)
  | [], octets => .ok ([], octets)
  | bracket :: outer, octets =>
    match skipBlanks octets with
    | [] => .error (.atEnd bracket.unfinished)
    | octet :: rest =>
      if octet = ','.toUInt8 then .ok (bracket :: outer, rest)
      else if octet = bracket.closing then closeBrackets outer rest
      else .error (.on bracket.expectedComma (octet :: rest))

/-- After an opening bracket: goes into it, unless it is closed at once. -/
def enterBracket (bracket : Bracket) (outer : List Bracket) : Reader (List Bracket) := fun octets =>
  match skipBlanks octets with
  | [] => .error (.atEnd bracket.unfinished)
  | octet :: rest =>
    if octet = bracket.closing then closeBrackets outer rest
    else .ok (bracket :: outer, octet :: rest)

/-- Skips a key and its colon. -/
def skipKey (limit : Nat) : Reader Unit := fun octets =>
  match skipBlanks octets with
  | [] => .error (.atEnd .endInObject)
  | octet :: rest => do
    let ((), rest) ← readKeyQuote (octet :: rest)
    let ((), rest) ← skipText limit rest
    readColon rest

/-- Skips a value and all that belongs to the brackets that are open around it,
    in at most `limit` tokens. -/
def skipNested : (limit : Nat) → List Bracket → Reader Unit
  | 0, _, _ => .error (.atEnd .endInValue)
  | limit + 1, brackets, octets => do
    let (opened, rest) ← skipToken limit octets
    let (brackets, rest) ←
      match opened with
      | some bracket => enterBracket bracket brackets rest
      | none => closeBrackets brackets rest
    match brackets with
    | [] => .ok ((), rest)
    | .list :: _ => skipNested limit brackets rest
    | .object :: _ => do
      let ((), rest) ← skipKey limit rest
      skipNested limit brackets rest

/-- Skips a value. -/
def skipValue (limit : Nat) : Reader Unit :=
  skipNested limit []

end SlackCourier.Json
