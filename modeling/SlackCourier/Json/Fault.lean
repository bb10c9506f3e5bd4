import SlackCourier.Json.Basic
import SlackCourier.Text.Quoted
import SlackCourier.Octets

/-!
# Faults in JSON texts

Why a JSON text is refused, and where. A *fault* is a cause together with the
place that the reader had come to: lines are counted from one, columns are the
octets read on the line. The wording of every cause is in `Cause.message`.
-/

namespace SlackCourier.Json

/-- What stands in a text where something else was expected. -/
inductive Found where
  | null
  | bool (value : Bool)
  | number (value : Number)
  | text (value : String)
  | list
  | object
deriving DecidableEq, Repr

/-- What a value is expected to be where its kind is fixed. -/
inductive Expectation where
  | boolean
  | text
  | natural64
  | record (name : String)
deriving DecidableEq, Repr

/-- Why a JSON text is refused. -/
inductive Cause where
  | endInValue
  | endInList
  | endInObject
  | endInText
  | expectedValue
  | expectedWord
  | expectedColon
  | expectedCommaOrListEnd
  | expectedCommaOrObjectEnd
  | keyNotText
  | trailingComma
  | trailingCharacters
  | invalidNumber
  | numberOutOfRange
  | invalidEscape
  | controlCharacter
  | loneSurrogate
  | unfinishedSurrogatePair
  | invalidCodePoint
  | nestedTooDeep
  | wrongKind (found : Found) (expected : Expectation)
  | wrongInteger (value : Int) (expected : Expectation)
  | missingField (name : String)
  | repeatedField (name : String)
deriving DecidableEq, Repr

namespace Found

/-- How a diagnostic names it. -/
def message : Found → String
  | null => "null"
  | bool value => s!"boolean `{value}`"
  | number (.integer value) => s!"integer `{value}`"
  | number (.real value) => "floating point `" ++ String.ofList (Number.real value).chars ++ "`"
  | text value => "string " ++ Text.quoted value
  | list => "sequence"
  | object => "map"

end Found

namespace Expectation

/-- How a diagnostic names it. -/
def message : Expectation → String
  | boolean => "a boolean"
  | text => "a string"
  | natural64 => "u64"
  | record name => "struct " ++ name

end Expectation

namespace Cause

/-- The wording of a cause. -/
def message : Cause → String
  | endInValue => "EOF while parsing a value"
  | endInList => "EOF while parsing a list"
  | endInObject => "EOF while parsing an object"
  | endInText => "EOF while parsing a string"
  | expectedValue => "expected value"
  | expectedWord => "expected ident"
  | expectedColon => "expected `:`"
  | expectedCommaOrListEnd => "expected `,` or `]`"
  | expectedCommaOrObjectEnd => "expected `,` or `\x7d`"
  | keyNotText => "key must be a string"
  | trailingComma => "trailing comma"
  | trailingCharacters => "trailing characters"
  | invalidNumber => "invalid number"
  | numberOutOfRange => "number out of range"
  | invalidEscape => "invalid escape"
  | controlCharacter => "control character (\\u0000-\\u001F) found while parsing a string"
  | loneSurrogate => "lone leading surrogate in hex escape"
  | unfinishedSurrogatePair => "unexpected end of hex escape"
  | invalidCodePoint => "invalid unicode code point"
  | nestedTooDeep => "recursion limit exceeded"
  | wrongKind found expected =>
    "invalid type: " ++ found.message ++ ", expected " ++ expected.message
  | wrongInteger value expected =>
    "invalid value: " ++ (Found.number (.integer value)).message ++ ", expected "
      ++ expected.message
  | missingField name => s!"missing field `{name}`"
  | repeatedField name => s!"duplicate field `{name}`"

end Cause

/-- A place in a text: the line, and the octets read on it. -/
structure Position where
  line : Nat
  column : Nat
deriving DecidableEq, Repr

namespace Position

/-- The place after some octets. -/
def after (read : Octets) : Position :=
  { line := read.count 0x0A + 1
    column := (read.reverse.takeWhile (· ≠ 0x0A)).length }

end Position

/-- A cause and the place at which it was met. -/
structure Fault where
  cause : Cause
  position : Position
deriving DecidableEq, Repr

namespace Fault

/-- The cause and its place. -/
def message (fault : Fault) : String :=
  s!"{fault.cause.message} at line {fault.position.line} column {fault.position.column}"

end Fault

end SlackCourier.Json
