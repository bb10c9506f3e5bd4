import SlackCourier.Binary64.Basic

/-!
# Shortest decimals

The fewest decimal digits that identify a binary64 number. The numbers that
round to a given one form an interval; for one digit, two digits and so on, the
two decimals with that many digits next to the number are tested for lying in
it. The first length at which one does wins, and there the nearer of the two.
-/

namespace SlackCourier.Binary64

/-- A decimal `digits · 10 ^ exponent`. -/
structure Decimal where
  digits : Nat
  exponent : Int
deriving DecidableEq, Repr

/-- Whether `10 ^ k ≤ num / den`. -/
def reachesPowerOfTen (num den : Nat) (k : Int) : Bool :=
  if 0 ≤ k then den * Nat.pow 10 k.toNat ≤ num else den ≤ num * Nat.pow 10 (-k).toNat

/-- The greatest `k` with `10 ^ k ≤ num / den`, for a ratio of binary64 size. -/
def magnitude (num den : Nat) : Int :=
  -- The logarithms to base two give a `k` that is too small by at most four.
  let guess : Int := ((num.log2 : Int) - den.log2 - 1) * 30103 / 100000 - 1
  guess + ((List.range 4).filter fun (i : Nat) => reachesPowerOfTen num den (guess + 1 + i)).length

/-- The ratio `num / den / 10 ^ k`, as numerator and denominator. -/
def tenfold (num den : Nat) (k : Int) : Nat × Nat :=
  if 0 ≤ k then (num, den * Nat.pow 10 k.toNat) else (num * Nat.pow 10 (-k).toNat, den)

/-- The bounds of the reals that round to the number, in quarters of its last
    binary place, and the number itself in the same unit. The interval below a
    power of two is half as wide as the one above it. -/
def quarters (x : Binary64) : Nat × Nat × Nat :=
  let below := if x.significand = leastNormal ∧ leastExponent < x.exponent then 1 else 2
  (4 * x.significand - below, 4 * x.significand, 4 * x.significand + 2)

/-- The decimal with `count` digits that identifies the number and is nearest
    to it, if one identifies it. -/
def identifiedBy? (x : Binary64) (count : Nat) : Option Decimal :=
  let (low, value, high) := x.quarters
  -- Everything is measured in `unit = numerator / denominator`.
  let (numerator, denominator) := shifted 1 1 (-(x.exponent - 2))
  let place : Int := magnitude (value * numerator) denominator + 1 - count
  let (num, den) := tenfold numerator denominator place
  let inside (digits : Nat) : Bool :=
    if x.significand % 2 = 0 then low * num ≤ digits * den && digits * den ≤ high * num
    else low * num < digits * den && digits * den < high * num
  let below := value * num / den
  let nearest := roundHalfEven (value * num) den
  if inside nearest then some ⟨nearest, place⟩
  else if inside below then some ⟨below, place⟩
  else if inside (below + 1) then some ⟨below + 1, place⟩
  else none

/-- The shortest decimal that identifies the number. Seventeen digits always
    do. -/
def shortest (x : Binary64) : Decimal :=
  if x.isZero then ⟨0, 0⟩
  else ((List.range 17).findSome? fun i => x.identifiedBy? (i + 1)).getD ⟨0, 0⟩

end SlackCourier.Binary64
