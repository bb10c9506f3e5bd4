/-!
# Numerals

Digits to a base of up to sixteen, in small or capital letters where ten digits
are not enough, and the numbers that they spell.
-/

namespace SlackCourier.Text

/-- The value of a digit to a base. -/
def digit? (base : Nat) (c : Char) : Option Nat :=
  let value :=
    if c.isDigit then some (c.toNat - '0'.toNat)
    else if 'a' ≤ c && c ≤ 'f' then some (c.toNat - 'a'.toNat + 10)
    else if 'A' ≤ c && c ≤ 'F' then some (c.toNat - 'A'.toNat + 10)
    else none
  value.filter (· < base)

/-- The number that digits spell; without digits it is zero. -/
def number? (base : Nat) (digits : List Char) : Option Nat :=
  digits.foldlM (fun value c => (digit? base c).map (value * base + ·)) 0

end SlackCourier.Text
