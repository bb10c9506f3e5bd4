import SlackCourier.Binary64.Basic

/-!
# Decimals read in binary64 steps

A decimal `significand · 10 ^ exponent` is read with few roundings rather than
with one: the significand is rounded to a binary64 number, the power of ten is
rounded to another, and the two are multiplied or divided. A power of ten below
the format is taken in several divisions by `10 ^ 308`. The result can differ
from the nearest number in its last bits.
-/

namespace SlackCourier.Binary64

/-- The largest power of ten that is a finite number. -/
def greatestPowerOfTen : Nat := 308

/-- The number nearest to `10 ^ n`. -/
def powerOfTen? (n : Nat) : Option Binary64 :=
  nearest? false (Nat.pow 10 n) 1

/-- The number multiplied by `10 ^ exponent`, in binary64 steps; nothing, if it
    grows past the largest finite number. -/
def timesPowerOfTen? (x : Binary64) (exponent : Int) : Option Binary64 :=
  if _h : exponent.natAbs ≤ greatestPowerOfTen then do
    let power ← powerOfTen? exponent.natAbs
    if 0 ≤ exponent then x.mul? power else x.div? power
  else if x.isZero then some x
  else if 0 ≤ exponent then none
  else do
    let power ← powerOfTen? greatestPowerOfTen
    timesPowerOfTen? (← x.div? power) (exponent + greatestPowerOfTen)
termination_by exponent.natAbs
decreasing_by simp only [greatestPowerOfTen] at *; omega

/-- The number that the decimal `significand · 10 ^ exponent` is read as. -/
def ofDecimal? (significand : Nat) (exponent : Int) : Option Binary64 := do
  (← ofNat? significand).timesPowerOfTen? exponent

end SlackCourier.Binary64
