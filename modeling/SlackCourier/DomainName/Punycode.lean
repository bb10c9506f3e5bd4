/-!
# Names outside ASCII

A label of a name that has characters outside ASCII is written with the
letters, digits and hyphens of ASCII alone: first the ASCII characters of the
label, then where the others go. They are inserted in the order of their code
points, and each insertion is written as a number that says how many insertions
are passed over. The digits of these numbers have weights that follow the size
of the numbers before (`adapted`).

`encode` writes a label so, and `decode?` reads one.
-/

namespace SlackCourier.DomainName.Punycode

/-- The letters and digits that stand for the numbers below 36. -/
def digit (n : Nat) : Char :=
  if n < 26 then Char.ofNat ('a'.toNat + n) else Char.ofNat ('0'.toNat + (n - 26))

/-- The least number that a digit has to reach for another one to follow. -/
def threshold (bias place : Nat) : Nat :=
  min 26 (max 1 (36 * (place + 1) - bias))

/-- The digits of a number, in at most `limit` places. -/
def digits (bias : Nat) : (limit place number : Nat) → List Char
  | 0, _, _ => []
  | limit + 1, place, number =>
    let least := threshold bias place
    if number < least then [digit number]
    else
      digit (least + (number - least) % (36 - least))
        :: digits bias limit (place + 1) ((number - least) / (36 - least))

/-- Divides a number down, and counts the places that this takes. -/
def scaled : (limit number places : Nat) → Nat × Nat
  | 0, number, places => (number, places)
  | limit + 1, number, places =>
    if 455 < number then scaled limit (number / 35) (places + 1) else (number, places)

/-- The bias after a number, when `written` characters are in place. -/
def adapted (number written : Nat) (isFirst : Bool) : Nat :=
  let damped := if isFirst then number / 700 else number / 2
  let (number, places) := scaled damped (damped + damped / written) 0
  36 * places + 36 * number / (number + 38)

/-- How far the insertions have come. -/
structure Progress where
  output : List Char
  passed : Nat := 0
  bias : Nat := 72
  written : Nat
  isFirst : Bool := true

/-- Passes one character of the label while a code point is inserted. -/
def Progress.pass (codePoint : Nat) (progress : Progress) (c : Char) : Progress :=
  if c.toNat < codePoint then { progress with passed := progress.passed + 1 }
  else if c.toNat = codePoint then
    { output := progress.output ++ digits progress.bias (progress.passed + 1) 0 progress.passed
      passed := 0
      bias := adapted progress.passed (progress.written + 1) progress.isFirst
      written := progress.written + 1
      isFirst := false }
  else progress

/-- Inserts code points in ascending order, each wherever the label has it;
    `next` is the least that is not passed yet. -/
def insertAll (label : List Char) : (next : Nat) → List Nat → Progress → Progress
  | _, [], progress => progress
  | next, codePoint :: rest, progress =>
    let skipped := (codePoint - next) * (progress.written + 1)
    let progress :=
      label.foldl (Progress.pass codePoint) { progress with passed := progress.passed + skipped }
    insertAll label (codePoint + 1) rest { progress with passed := progress.passed + 1 }

/-- A label in letters, digits and hyphens. -/
def encode (label : List Char) : List Char :=
  let basic := label.filter (·.toNat < 0x80)
  let others := ((label.map Char.toNat).filter (0x80 ≤ ·)).mergeSort.eraseDups
  let start := if basic.isEmpty then [] else basic ++ ['-']
  (insertAll label 0x80 others { output := start, written := basic.length }).output

/-! ## Reading -/

/-- The number that a letter or digit stands for. -/
def digitValue? (c : Char) : Option Nat :=
  if c.isLower then some (c.toNat - 'a'.toNat)
  else if c.isUpper then some (c.toNat - 'A'.toNat)
  else if c.isDigit then some (c.toNat - '0'.toNat + 26)
  else none

/-- Numbers, and the weights of their digits, are less than this. -/
def numberLimit : Nat := 4294967296

/-- How far reading has come: the characters that are in place, the next
    insertion passed over nothing, and the digits of the number that is being
    read. -/
structure Reading where
  output : List Char
  codePoint : Nat := 0x80
  /-- Where the insertion before left off. -/
  start : Nat := 0
  /-- Where the next insertion goes, as far as its number has been read. -/
  position : Nat := 0
  weight : Nat := 1
  digits : Nat := 0
  bias : Nat := 72

/-- Inserts a character where the number that has been read says. -/
def Reading.insert? (reading : Reading) : Option Reading :=
  let count := reading.output.length + 1
  let codePoint := reading.codePoint + reading.position / count
  let place := reading.position % count
  if h : codePoint.isValidChar then
    some {
      output := reading.output.insertIdx place (Char.ofNatAux codePoint h)
      codePoint
      start := place + 1
      position := place + 1
      bias := adapted (reading.position - reading.start) count (reading.start = 0) }
  else none

/-- Reads one digit of a number; the number ends with the first digit that is
    less than its threshold. -/
def Reading.next? (reading : Reading) (c : Char) : Option Reading := do
  let value ← digitValue? c
  let position := reading.position + value * reading.weight
  let least := threshold reading.bias reading.digits
  let weight := reading.weight * (36 - least)
  guard (position < numberLimit)
  if value < least then Reading.insert? { reading with position := position }
  else do
    guard (weight < numberLimit)
    some { reading with
      position := position
      weight := weight
      digits := reading.digits + 1 }

/-- The ASCII characters in front of the last hyphen, and the digits behind it.
    A hyphen in front of everything separates nothing. -/
def splitBasic (text : List Char) : List Char × List Char :=
  match (text.reverse.dropWhile (· ≠ '-')).reverse.dropLast with
  | [] => ([], text)
  | basic => (basic, (text.reverse.takeWhile (· ≠ '-')).reverse)

/-- The label that letters, digits and hyphens stand for. -/
def decode? (text : List Char) : Option (List Char) := do
  let (basic, digits) := splitBasic text
  let reading ← digits.foldlM Reading.next? { output := basic }
  guard (reading.digits = 0)
  some reading.output

end SlackCourier.DomainName.Punycode
