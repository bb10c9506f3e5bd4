import SlackCourier.Json.Reader.Basic

/-!
# Reading texts in JSON

A text stands between quotes. Its characters are written as themselves, in
UTF-8, or escaped: in short by a letter, or by the code units of UTF-16 in
hexadecimal, where a character outside the basic plane takes a pair of them. A
control character has to be escaped, and half of a pair is nothing. Octets that
are no text are a fault of the text as a whole: it is found when the text ends.
-/

namespace SlackCourier.Json

/-- The character that an octet after a backslash stands for. -/
def shortEscape? (octet : UInt8) : Option Char :=
  if octet = '"'.toUInt8 then some '"'
  else if octet = '\\'.toUInt8 then some '\\'
  else if octet = '/'.toUInt8 then some '/'
  else if octet = 'b'.toUInt8 then some '\x08'
  else if octet = 'f'.toUInt8 then some '\x0C'
  else if octet = 'n'.toUInt8 then some '\n'
  else if octet = 'r'.toUInt8 then some '\r'
  else if octet = 't'.toUInt8 then some '\t'
  else none

/-- The value of a hexadecimal digit in either case. -/
def hexDigit? (octet : UInt8) : Option Nat :=
  if '0'.toUInt8 ≤ octet && octet ≤ '9'.toUInt8 then some (octet.toNat - '0'.toNat)
  else if 'a'.toUInt8 ≤ octet && octet ≤ 'f'.toUInt8 then some (octet.toNat - 'a'.toNat + 10)
  else if 'A'.toUInt8 ≤ octet && octet ≤ 'F'.toUInt8 then some (octet.toNat - 'A'.toNat + 10)
  else none

/-- The code unit that four hexadecimal digits spell. -/
def codeUnit? (a b c d : UInt8) : Option Nat := do
  let high := (← hexDigit? a) * 16 + (← hexDigit? b)
  let low := (← hexDigit? c) * 16 + (← hexDigit? d)
  some (high * 256 + low)

/-- Reads the four digits of a code unit. -/
def readCodeUnit : Reader Nat
  | a :: b :: c :: d :: rest =>
    match codeUnit? a b c d with
    | some unit => .ok (unit, rest)
    | none => .error (.before .invalidEscape rest)
  | _ => .error (.atEnd .endInText)

/-- The first half of a pair. -/
def isHighSurrogate (unit : Nat) : Bool :=
  0xD800 ≤ unit && unit < 0xDC00

/-- The second half of a pair. -/
def isLowSurrogate (unit : Nat) : Bool :=
  0xDC00 ≤ unit && unit < 0xE000

/-- The character that a pair stands for. -/
def pairedChar (high low : Nat) : Char :=
  Char.ofNat (0x10000 + (high - 0xD800) * 0x400 + (low - 0xDC00))

/-- Reads the second half of a pair, which has to be escaped like the first. -/
def readLowSurrogate : Reader Nat
  | [] => .error (.atEnd .endInText)
  | backslash :: rest =>
    if backslash ≠ '\\'.toUInt8 then .error (.before .unfinishedSurrogatePair rest)
    else
      match rest with
      | [] => .error (.atEnd .endInText)
      | letter :: rest =>
        if letter ≠ 'u'.toUInt8 then .error (.before .unfinishedSurrogatePair rest)
        else do
          let (unit, rest) ← readCodeUnit rest
          if isLowSurrogate unit then .ok (unit, rest)
          else .error (.before .loneSurrogate rest)

/-- Reads the code units of one character, the first of them without its
    escape. -/
def readEscapedUnits : Reader Char := fun octets => do
  let (unit, rest) ← readCodeUnit octets
  if isLowSurrogate unit then .error (.before .loneSurrogate rest)
  else if isHighSurrogate unit then do
    let (low, rest) ← readLowSurrogate rest
    .ok (pairedChar unit low, rest)
  else .ok (Char.ofNat unit, rest)

/-- Reads what follows a backslash. -/
def readEscape : Reader Char
  | [] => .error (.atEnd .endInText)
  | octet :: rest =>
    match shortEscape? octet with
    | some c => .ok (c, rest)
    | none =>
      if octet = 'u'.toUInt8 then readEscapedUnits rest
      else .error (.before .invalidEscape rest)

/-- Reads what stands for one character, or one octet of a character that is
    written as itself. -/
def readPiece : Reader Octets
  | [] => .error (.atEnd .endInText)
  | octet :: rest =>
    if octet = '\\'.toUInt8 then do
      let (c, rest) ← readEscape rest
      .ok (String.utf8EncodeChar c, rest)
    else if octet < 0x20 then .error (.before .controlCharacter rest)
    else .ok ([octet], rest)

/-- Reads what stands in front of the closing quote, in fewer than `limit` pieces,
    and takes the quote; the octets before are given in reverse. -/
def readQuoted : (limit : Nat) → (earlier : Octets) → Reader Octets
  | 0, _, _ => .error (.atEnd .endInText)
  | limit + 1, earlier, octets =>
    if octets.head? = some '"'.toUInt8 then .ok (earlier.reverse, octets.tail)
    else do
      let (piece, rest) ← readPiece octets
      readQuoted limit (piece.reverse ++ earlier) rest

/-- Reads a text of fewer than `limit` pieces after its opening quote. Whether
    its octets are text is asked when all of them are there; those that are not
    then count as unread. -/
def readText (limit : Nat) : Reader String := fun octets => do
  let (held, rest) ← readQuoted limit [] octets
  match held.text? with
  | some value => .ok (value, rest)
  | none => .error (.before .invalidCodePoint (held.unexplained ++ rest))

end SlackCourier.Json
