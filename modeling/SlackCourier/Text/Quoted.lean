import SlackCourier.Text.Invisible

/-!
# Quoted text in diagnostics

A diagnostic that quotes a text shows it on one line and shows all of it:
quotes and backslashes are escaped, the common controls have short escapes, and
every other character that cannot be seen appears as its code point.
-/

namespace SlackCourier.Text

/-- How a character is shown between quotes. -/
def quotedChar (c : Char) : List Char :=
  match c with
  | '"' => ['\\', '"']
  | '\\' => ['\\', '\\']
  | '\n' => ['\\', 'n']
  | '\r' => ['\\', 'r']
  | '\t' => ['\\', 't']
  | '\x00' => ['\\', '0']
  | c =>
    if isInvisible c then ['\\', 'u', '\x7b'] ++ Nat.toDigits 16 c.toNat ++ ['\x7d'] else [c]

/-- The text between quotes. -/
def quoted (text : String) : String :=
  String.ofList ('"' :: text.toList.flatMap quotedChar ++ ['"'])

end SlackCourier.Text
