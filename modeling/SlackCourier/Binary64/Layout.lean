import SlackCourier.Binary64.Shortest

/-!
# Laying out a decimal

How the shortest decimal of a number becomes characters: with a point inside
its digits where the number is of moderate size, with a power of ten otherwise.
Where one form ends and the other begins is for the format that the number is
written in to say (`Layout`).
-/

namespace SlackCourier.Binary64

/-- Which numbers are written without a power of ten: those whose decimal point
    stands at one of these positions, counted from the front of the digits. -/
structure Layout where
  leastPoint : Int
  greatestPoint : Int
deriving DecidableEq, Repr

/-- The decimal digits of a natural number. -/
def digitsOf (n : Nat) : List Char :=
  Nat.toDigits 10 n

/-- Drops the zeros at the end of the digits; they belong to the exponent. -/
def stripZeros (digits : List Char) : List Char :=
  (digits.reverse.dropWhile (· = '0')).reverse

/-- The digits with a point after the first `point` of them; an integer is
    marked by one place of zero. -/
def positional (digits : List Char) (point : Int) : List Char :=
  if point ≤ 0 then
    '0' :: '.' :: (List.replicate (-point).toNat '0' ++ digits)
  else
    let count := point.toNat
    if digits.length ≤ count then
      digits ++ List.replicate (count - digits.length) '0' ++ ['.', '0']
    else
      digits.take count ++ '.' :: digits.drop count

/-- The digits with a point after the first of them, and the power of ten. -/
def scientific (digits : List Char) (point : Int) : List Char :=
  let mantissa :=
    match digits with
    | first :: second :: rest => first :: '.' :: second :: rest
    | short => short
  let exponent := point - 1
  let sign := if exponent < 0 then '-' else '+'
  mantissa ++ 'e' :: sign :: digitsOf exponent.natAbs

/-- The characters of a number in a layout. -/
def Layout.write (layout : Layout) (x : Binary64) : List Char :=
  let sign := if x.negative then ['-'] else []
  if x.isZero then sign ++ ['0', '.', '0']
  else
    let decimal := x.shortest
    let digits := digitsOf decimal.digits
    let point : Int := digits.length + decimal.exponent
    let shown := stripZeros digits
    sign ++
      if layout.leastPoint ≤ point ∧ point ≤ layout.greatestPoint then positional shown point
      else scientific shown point

end SlackCourier.Binary64
