/-!
# Binary64 numbers

The finite numbers of the binary64 format, held exactly: a sign, a significand
below `2 ^ 53` and a power of two. Every operation computes the exact result as
a ratio of naturals and rounds it once (`nearest?`), so nothing here depends on
the arithmetic of a machine. Two zeros are told apart by their sign; a result
past the largest finite number is no number.
-/

namespace SlackCourier

/-- The number `± significand · 2 ^ exponent`. -/
structure Binary64 where
  negative : Bool
  significand : Nat
  exponent : Int
deriving DecidableEq, Repr, Inhabited

namespace Binary64

/-- The power of two that subnormal numbers and zeros have. -/
def leastExponent : Int := -1074

/-- The least significand of a number that is not subnormal, `2 ^ 52`. -/
def leastNormal : Nat := 4503599627370496

/-- The power of two of the largest finite number. -/
def greatestExponent : Int := 971

/-- The natural number next to `num / den`; of two equally near ones, the even
    one. -/
def roundHalfEven (num den : Nat) : Nat :=
  let quotient := num / den
  let twice := 2 * (num % den)
  if twice < den then quotient
  else if den < twice then quotient + 1
  else quotient + quotient % 2

/-- The ratio `num / den / 2 ^ exponent`, as numerator and denominator. -/
def shifted (num den : Nat) (exponent : Int) : Nat × Nat :=
  if 0 ≤ exponent then (num, den * Nat.pow 2 exponent.toNat)
  else (num * Nat.pow 2 (-exponent).toNat, den)

/-- The power of two at which `num / den` has a significand of 53 bits, or the
    least one there is. -/
def exponentOf (num den : Nat) : Int :=
  -- With this power the quotient lies strictly between `2 ^ 51` and `2 ^ 53`.
  let guess : Int := (num.log2 : Int) - den.log2 - 52
  let (n, d) := shifted num den guess
  max (if n < leastNormal * d then guess - 1 else guess) leastExponent

/-- The number nearest to `± num / den`; of two equally near ones, the one with
    an even significand. -/
def nearest? (negative : Bool) (num den : Nat) : Option Binary64 :=
  if num = 0 then some ⟨negative, 0, leastExponent⟩
  else
    let exponent := exponentOf num den
    let (n, d) := shifted num den exponent
    let significand := roundHalfEven n d
    let (significand, exponent) :=
      if significand = 2 * leastNormal then (leastNormal, exponent + 1) else (significand, exponent)
    if greatestExponent < exponent then none else some ⟨negative, significand, exponent⟩

/-- The number nearest to a natural number. -/
def ofNat? (n : Nat) : Option Binary64 :=
  nearest? false n 1

/-- The magnitude of the number as a ratio of naturals. -/
def ratio (x : Binary64) : Nat × Nat :=
  shifted x.significand 1 (-x.exponent)

/-- Whether the number is one of the two zeros. -/
def isZero (x : Binary64) : Bool :=
  x.significand = 0

/-- The number with the other sign. -/
def neg (x : Binary64) : Binary64 :=
  { x with negative := !x.negative }

/-- The product of two numbers, unless it is past the largest one. -/
def mul? (x y : Binary64) : Option Binary64 :=
  let (a, b) := x.ratio
  let (c, d) := y.ratio
  nearest? (x.negative != y.negative) (a * c) (b * d)

/-- The quotient of two numbers; nothing is divided by zero. -/
def div? (x y : Binary64) : Option Binary64 :=
  let (a, b) := x.ratio
  let (c, d) := y.ratio
  if c = 0 then none else nearest? (x.negative != y.negative) (a * d) (b * c)

end Binary64

end SlackCourier
