import SlackCourier.FilePath

/-!
# Media types

The media type of a file is guessed from the extension of its name, by a table that
the program takes from others. Extensions are compared without regard to case, by
full case folding: besides the capital letters there are a few characters that fold
to small ASCII letters.
-/

namespace SlackCourier.MediaType

/-- The type of octets about which nothing is known. -/
def unknown : String := "application/octet-stream"

/-- The small ASCII letters that a character folds to, or the character where it
    folds to none. -/
def foldChar (c : Char) : List Char :=
  match c with
  | 'ſ' => ['s']
  | '\u212A' => ['k']
  | 'ß' | 'ẞ' => ['s', 's']
  | 'ﬀ' => ['f', 'f']
  | 'ﬁ' => ['f', 'i']
  | 'ﬂ' => ['f', 'l']
  | 'ﬃ' => ['f', 'f', 'i']
  | 'ﬄ' => ['f', 'f', 'l']
  | 'ﬅ' | 'ﬆ' => ['s', 't']
  | c => [c.toLower]

/-- An extension without regard to case. -/
def fold (extension : String) : String :=
  String.ofList (extension.toList.flatMap foldChar)

/-- Which types go with which extensions. Extensions are looked up without regard to
    case, that is, folded. -/
abbrev Table := String → Option String

/-- The type that goes with an extension. -/
def ofExtension (types : Table) (extension : String) : String :=
  (types (fold extension)).getD unknown

/-- The type that goes with a file name. -/
def ofFileName (types : Table) (name : String) : String :=
  (FilePath.extension? name).elim unknown (ofExtension types)

end SlackCourier.MediaType
