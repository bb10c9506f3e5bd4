/-!
# Tokens of a command line

The arguments of a program are told apart by how they begin: with two dashes
comes the name of an option, perhaps with its value behind an equals sign; with
one dash come letters of options; two dashes alone end the options. Anything
else is a word, a single dash and the empty argument among them.
-/

namespace SlackCourier.CommandLine

/-- An argument, told apart by how it begins. -/
inductive Token where
  | escape
  | long (name : String) (value : Option String)
  | short (letter : Char) (rest : List Char)
  | word (text : String)
deriving DecidableEq, Repr

namespace Token

/-- The option behind two dashes. -/
def ofLong (chars : List Char) : Token :=
  let name := String.ofList (chars.takeWhile (· ≠ '='))
  match chars.dropWhile (· ≠ '=') with
  | [] => .long name none
  | _ :: value => .long name (some (String.ofList value))

/-- Tells an argument apart. -/
def ofText (text : String) : Token :=
  match text.toList with
  | ['-', '-'] => .escape
  | '-' :: '-' :: chars => ofLong chars
  | '-' :: letter :: rest => .short letter rest
  | _ => .word text

end Token

end SlackCourier.CommandLine
