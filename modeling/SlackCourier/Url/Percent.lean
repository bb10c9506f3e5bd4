import SlackCourier.Json.Reader.Text
import SlackCourier.Octets

/-!
# Percent signs in URLs

Octets that may not stand in a part of a URL are written as a percent sign and
two capital hexadecimal digits. Which octets those are differs from part to part
(`isReserved…`); controls and octets outside ASCII are among them everywhere.
-/

namespace SlackCourier.Url

/-- Controls and what is not ASCII. -/
def isReservedAnywhere (octet : UInt8) : Bool :=
  octet < 0x20 || 0x7E < octet

/-- What may not stand in a query. -/
def isReservedInQuery (octet : UInt8) : Bool :=
  isReservedAnywhere octet || [' ', '"', '#', '<', '>'].any (·.toUInt8 = octet)

/-- What may not stand in a query on the web. -/
def isReservedInWebQuery (octet : UInt8) : Bool :=
  isReservedInQuery octet || octet = '\''.toUInt8

/-- What may not stand in a fragment. -/
def isReservedInFragment (octet : UInt8) : Bool :=
  isReservedAnywhere octet || [' ', '"', '<', '>', Char.ofNat 0x60].any (·.toUInt8 = octet)

/-- What may not stand in a path. -/
def isReservedInPath (octet : UInt8) : Bool :=
  isReservedInFragment octet || ['#', '?', '\x7b', '\x7d'].any (·.toUInt8 = octet)

/-- What may not stand in the name or password of a user. -/
def isReservedInLogin (octet : UInt8) : Bool :=
  isReservedInPath octet
    || ['/', ':', ';', '=', '@', '[', '\\', ']', '^', '|'].any (·.toUInt8 = octet)

/-- A capital hexadecimal digit. -/
def hexDigit (n : Nat) : Char :=
  if n < 10 then Char.ofNat ('0'.toNat + n) else Char.ofNat ('A'.toNat + (n - 10))

/-- The text with its reserved octets written by their codes. -/
def percentEncode (isReserved : UInt8 → Bool) (text : List Char) : List Char :=
  (Octets.ofText (String.ofList text)).flatMap fun octet =>
    if isReserved octet then ['%', hexDigit (octet.toNat / 16), hexDigit (octet.toNat % 16)]
    else [Char.ofNat octet.toNat]

/-- The octets of a text in which codes stand for octets. -/
def percentDecode : Octets → Octets
  | [] => []
  | [octet] => [octet]
  | [first, second] => [first, second]
  | first :: a :: b :: rest =>
    match Json.hexDigit? a, Json.hexDigit? b with
    | some high, some low =>
      if first = '%'.toUInt8 then (high * 16 + low).toUInt8 :: percentDecode rest
      else first :: percentDecode (a :: b :: rest)
    | _, _ => first :: percentDecode (a :: b :: rest)

end SlackCourier.Url
