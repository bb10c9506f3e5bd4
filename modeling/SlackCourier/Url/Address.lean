import SlackCourier.Text.Numeral
import SlackCourier.Text.Split

/-!
# Addresses

A host may be given by its address instead of a name. Addresses of version 4 are
read from one to four numbers in any of three bases, addresses of version 6 from
groups of hexadecimal digits, a run of zeros left out. Each is shown in one form:
version 4 in decimal, version 6 without its longest run of zeros.
-/

namespace SlackCourier.Url

open Text (split join number?)

/-! ## Version 4 -/

/-- A number in an address: hexadecimal behind `0x`, octal behind another zero,
    decimal otherwise. -/
def part? : List Char → Option Nat
  | [] => none
  | '0' :: 'x' :: digits | '0' :: 'X' :: digits => number? 16 digits
  | '0' :: d :: digits => number? 8 (d :: digits)
  | digits => number? 10 digits

/-- The labels of a name without the empty one behind a last dot. -/
def labels (name : List Char) : List (List Char) :=
  let pieces := split '.' name
  if 1 < pieces.length && pieces.getLast? = some [] then pieces.dropLast else pieces

/-- Whether the last label of a name is a number. -/
def endsInNumber (name : List Char) : Bool :=
  match (labels name).getLast? with
  | none => false
  | some label =>
    (label ≠ [] && label.all Char.isDigit) ||
      match label with
      | '0' :: 'x' :: digits | '0' :: 'X' :: digits => (number? 16 digits).isSome
      | _ => false

/-- The address whose parts are given, the last part standing for all octets
    that are left. -/
def ofParts? : (count : Nat) → List Nat → Option Nat
  | count + 1, [last] => if last < Nat.pow 256 (count + 1) then some last else none
  | count + 1, part :: parts =>
    if part < 256 then (ofParts? count parts).map (part * Nat.pow 256 count + ·) else none
  | _, _ => none

/-- The address of version 4 that a name is. -/
def ipv4? (name : List Char) : Option Nat := do
  ofParts? 4 (← (labels name).mapM part?)

/-- An address of version 4 in decimal. -/
def writeIpv4 (address : Nat) : List Char :=
  join '.' <| [3, 2, 1, 0].map fun place => Nat.toDigits 10 (address / Nat.pow 256 place % 256)

/-! ## Version 6 -/

/-- A number of an address of version 4 inside one of version 6: in decimal, up
    to 255, without leading zeros. -/
def octet? (digits : List Char) : Option Nat :=
  if digits = [] || (digits.head? = some '0' && digits ≠ ['0']) then none
  else (number? 10 digits).filter (· < 256)

/-- The pieces between colons as numbers of 16 bits; the last of them may be an
    address of version 4. -/
def groups? : List (List Char) → Option (List Nat)
  | [] => some []
  | [piece] =>
    if piece.contains '.' then do
      match ← (split '.' piece).mapM octet? with
      | [a, b, c, d] => some [a * 256 + b, c * 256 + d]
      | _ => none
    else do some [← group? piece]
  | piece :: pieces => do some ((← group? piece) :: (← groups? pieces))
where
  group? (digits : List Char) : Option Nat :=
    if digits = [] || 4 < digits.length then none else number? 16 digits

/-- The pieces in front of a double colon and those behind it. -/
def splitDouble : List Char → Option (List Char × List Char)
  | ':' :: ':' :: rest => some ([], rest)
  | c :: rest => (splitDouble rest).map fun (front, back) => (c :: front, back)
  | [] => none

/-- The eight numbers of an address of version 6. -/
def ipv6? (text : List Char) : Option (List Nat) := do
  match splitDouble text with
  | none =>
    let groups ← groups? (split ':' text)
    if groups.length = 8 then some groups else none
  | some (front, back) =>
    guard (!front.contains '.')
    let front ← if front = [] then some [] else groups? (split ':' front)
    let back ← if back = [] then some [] else groups? (split ':' back)
    if front.length + back.length < 8 then
      some (front ++ List.replicate (8 - front.length - back.length) 0 ++ back)
    else none

/-- Where the longest run of at least two zeros begins, and how long it is. -/
def longestZeros (groups : List Nat) : Nat × Nat :=
  (List.range groups.length).foldl
    (fun (start, length) i =>
      let here := ((groups.drop i).takeWhile (· = 0)).length
      if max length 1 < here then (i, here) else (start, length))
    (0, 0)

/-- An address of version 6 with its longest run of zeros left out. -/
def writeIpv6 (groups : List Nat) : List Char :=
  let write (groups : List Nat) := join ':' (groups.map (Nat.toDigits 16))
  let (start, length) := longestZeros groups
  if length = 0 then write groups
  else write (groups.take start) ++ [':', ':'] ++ write (groups.drop (start + length))

end SlackCourier.Url
