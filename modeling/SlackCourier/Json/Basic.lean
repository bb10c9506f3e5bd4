import SlackCourier.Binary64.Layout

/-!
# JSON values

A JSON value as the program holds it. Integers of 64 bits are exact and every
other number is a binary64 number. An object is a list of members;
`Members.put` keeps such a list in the order of its keys with one member for
each key, the later one where a key comes twice.

Keys are ordered by their code points, which is also the order of their UTF-8
forms.
-/

namespace SlackCourier

/-- A number in a JSON value. -/
inductive Number where
  | integer (value : Int)
  | real (value : Binary64)
deriving DecidableEq, Repr

/-- A JSON value. -/
inductive Json where
  | null
  | bool (value : Bool)
  | number (value : Number)
  | text (value : String)
  | list (items : List Json)
  | object (members : List (String × Json))
deriving Repr, Inhabited

/-- The members of a JSON object. -/
abbrev Members := List (String × Json)

namespace Members

/-- Puts a member in its place among members in the order of their keys, over
    the one with the same key. -/
def put (key : String) (value : Json) : Members → Members
  | [] => [(key, value)]
  | (other, held) :: rest =>
    if key < other then (key, value) :: (other, held) :: rest
    else if key = other then (key, value) :: rest
    else (other, held) :: put key value rest

/-- The value of the first member with the key. -/
def value? (key : String) : Members → Option Json
  | [] => none
  | (other, value) :: rest => if key = other then some value else value? key rest

end Members

namespace Json

/-- The value of a member, where the value is an object that has it. -/
def member? (key : String) : Json → Option Json
  | object members => Members.value? key members
  | _ => none

/-- The text, where the value is one. -/
def text? : Json → Option String
  | text value => some value
  | _ => none

end Json

namespace Number

/-- Reals are written with the point between the fifth place before their first
    digit and the sixteenth after it, and with a power of ten otherwise. -/
def layout : Binary64.Layout := ⟨-4, 16⟩

/-- The characters of a number. -/
def chars : Number → List Char
  | integer value =>
    (if value < 0 then ['-'] else []) ++ Binary64.digitsOf value.natAbs
  | real value => layout.write value

end Number

end SlackCourier
