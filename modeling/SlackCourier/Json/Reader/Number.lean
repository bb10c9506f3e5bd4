import SlackCourier.Json.Reader.Basic
import SlackCourier.Binary64.Decimal

/-!
# Reading numbers in JSON

A number is read into a significand below `2 ^ 64` and a power of ten. Digits
are taken into the significand as long as it stays below that bound
(`absorb`). After the first digit that does not fit, digits before the point
only count towards the power of ten and digits behind it are dropped. A number
without a point or a power of ten is an integer where 64 bits hold it, and
every other number is real.
-/

namespace SlackCourier.Json

/-- Whether an octet is a decimal digit. -/
def isDigit (octet : UInt8) : Bool :=
  '0'.toUInt8 ≤ octet && octet ≤ '9'.toUInt8

/-- The digits at the front. -/
def leadingDigits (octets : Octets) : List Nat :=
  (octets.takeWhile isDigit).map fun octet => octet.toNat - '0'.toNat

/-- What follows the digits at the front. -/
def dropDigits (octets : Octets) : Octets :=
  octets.dropWhile isDigit

/-- Takes digits into a number as long as it stays below the bound; gives the
    number and the digits that are left. -/
def absorb (bound value : Nat) : List Nat → Nat × List Nat
  | [] => (value, [])
  | digit :: digits =>
    if value * 10 + digit < bound then absorb bound (value * 10 + digit) digits
    else (value, digit :: digits)

/-- A number without its sign, while it is read. -/
structure Numeral where
  significand : Nat
  exponent : Int
  /-- Whether it was written as an integer and its significand holds it. -/
  isExact : Bool
deriving DecidableEq, Repr

/-- Significands stay below this bound, `2 ^ 64`. -/
def significandBound : Nat := 18446744073709551616

/-- Written powers of ten stay below this bound, `2 ^ 31`. -/
def exponentBound : Nat := 2147483648

/-- Negative integers go down to this bound, `2 ^ 63`, below zero. -/
def negativeBound : Nat := 9223372036854775808

/-- Reads the digits of the integer part; a zero stands alone. -/
def readIntegerPart : Reader Numeral
  | [] => .error (.atEnd .endInValue)
  | octet :: rest =>
    if !isDigit octet then .error (.before .invalidNumber rest)
    else if octet = '0'.toUInt8 then
      match rest with
      | next :: _ =>
        if isDigit next then .error (.on .invalidNumber rest) else .ok (⟨0, 0, true⟩, rest)
      | [] => .ok (⟨0, 0, true⟩, [])
    else
      let (significand, excess) := absorb significandBound 0 (leadingDigits (octet :: rest))
      .ok (⟨significand, excess.length, excess.isEmpty⟩, dropDigits rest)

/-- Reads a fraction, if one follows. -/
def readFraction (numeral : Numeral) : Reader Numeral
  | [] => .ok (numeral, [])
  | octet :: rest =>
    if octet = '.'.toUInt8 then
      match leadingDigits rest, dropDigits rest with
      | [], [] => .error (.atEnd .endInValue)
      | [], next :: rest => .error (.on .invalidNumber (next :: rest))
      | digits, after =>
        let (significand, dropped) := absorb significandBound numeral.significand digits
        let places : Nat := digits.length - dropped.length
        .ok (⟨significand, numeral.exponent - places, false⟩, after)
    else .ok (numeral, octet :: rest)

/-- Reads the sign of a power of ten, which may be missing: whether it is
    negative. -/
def readExponentSign : Octets → Bool × Octets
  | [] => (false, [])
  | octet :: rest =>
    if octet = '+'.toUInt8 then (false, rest)
    else if octet = '-'.toUInt8 then (true, rest)
    else (false, octet :: rest)

/-- Reads a power of ten, if one follows. One past its bound leaves nothing of
    a number if it is negative, and is too much for any number but zero
    otherwise. -/
def readExponent (numeral : Numeral) : Reader Numeral
  | [] => .ok (numeral, [])
  | octet :: rest =>
    if octet = 'e'.toUInt8 || octet = 'E'.toUInt8 then
      let (negative, rest) := readExponentSign rest
      match leadingDigits rest, rest with
      | [], [] => .error (.atEnd .endInValue)
      | [], _ :: rest => .error (.before .invalidNumber rest)
      | digits, rest =>
        let after := dropDigits rest
        match absorb exponentBound 0 digits with
        | (exponent, []) =>
          let exponent : Int := exponent
          let exponent := if negative then -exponent else exponent
          .ok (⟨numeral.significand, numeral.exponent + exponent, false⟩, after)
        | (_, _ :: excess) =>
          if !negative && numeral.significand ≠ 0 then
            .error ⟨.numberOutOfRange, excess.length + after.length⟩
          else .ok (⟨0, 0, false⟩, after)
    else .ok (numeral, octet :: rest)

/-- The number that a numeral and a sign stand for. A zero is negative only as
    a real number. -/
def Numeral.number? (numeral : Numeral) (negative : Bool) : Option Number :=
  if numeral.isExact && !negative then some (.integer numeral.significand)
  else if numeral.isExact && 0 < numeral.significand && numeral.significand ≤ negativeBound then
    some (.integer (-numeral.significand))
  else do
    let value ← Binary64.ofDecimal? numeral.significand numeral.exponent
    some (.real (if negative then value.neg else value))

/-- Reads a number after its sign. -/
def readUnsigned (negative : Bool) : Reader Number := fun octets => do
  let (numeral, rest) ← readIntegerPart octets
  let (numeral, rest) ← readFraction numeral rest
  let (numeral, rest) ← readExponent numeral rest
  match numeral.number? negative with
  | some value => .ok (value, rest)
  | none => .error (.before .numberOutOfRange rest)

end SlackCourier.Json
