import SlackCourier.Json.Fault

/-!
# Writing JSON values

A value is written without blanks, the members of an object in the order in
which it has them. In a text only the quote, the backslash and the control
characters are escaped: in short where there is a letter for it, and otherwise
by four hexadecimal digits in lower case.
-/

namespace SlackCourier.Json

/-- The hexadecimal digit of a number below sixteen. -/
def hexDigit (n : Nat) : Char :=
  if n < 10 then Char.ofNat ('0'.toNat + n) else Char.ofNat ('a'.toNat + (n - 10))

/-- The letter that escapes a character in short, if there is one. -/
def escapeLetter? (c : Char) : Option Char :=
  if c = '"' then some '"'
  else if c = '\\' then some '\\'
  else if c = '\x08' then some 'b'
  else if c = '\x0C' then some 'f'
  else if c = '\n' then some 'n'
  else if c = '\r' then some 'r'
  else if c = '\t' then some 't'
  else none

/-- How a character is written in a text. -/
def writeChar (c : Char) : List Char :=
  match escapeLetter? c with
  | some letter => ['\\', letter]
  | none =>
    if c.toNat < 0x20 then ['\\', 'u', '0', '0', hexDigit (c.toNat / 16), hexDigit (c.toNat % 16)]
    else [c]

/-- A text between quotes. -/
def writeText (text : String) : List Char :=
  '"' :: text.toList.flatMap writeChar ++ ['"']

/-- Words with a comma between any two of them. -/
def separated : List (List Char) → List Char
  | [] => []
  | [word] => word
  | word :: words => word ++ ',' :: separated words

mutual

/-- The characters of a value. -/
def write : Json → List Char
  | null => ['n', 'u', 'l', 'l']
  | bool true => ['t', 'r', 'u', 'e']
  | bool false => ['f', 'a', 'l', 's', 'e']
  | number value => value.chars
  | text value => writeText value
  | list items => '[' :: separated (writeItems items) ++ [']']
  | object members => '\x7b' :: separated (writeMembers members) ++ ['\x7d']

/-- The characters of every item. -/
def writeItems : List Json → List (List Char)
  | [] => []
  | item :: items => write item :: writeItems items

/-- The characters of every member. -/
def writeMembers : List (String × Json) → List (List Char)
  | [] => []
  | member :: members => writeMember member :: writeMembers members

/-- The characters of a member. -/
def writeMember : String × Json → List Char
  | (key, value) => writeText key ++ ':' :: write value

end

/-- A value as text. -/
def print (value : Json) : String :=
  String.ofList value.write

/-- A value as octets. -/
def toOctets (value : Json) : Octets :=
  Octets.ofText value.print

/-- Writes a value. There is no value that could not be written. -/
def serialize (value : Json) : Except Fault Octets :=
  .ok value.toOctets

end SlackCourier.Json
