import SlackCourier.Text.Numeral
import SlackCourier.Text.Split

/-!
# Tables of characters

What is true of many characters is written down in lines of words. Code points
are hexadecimal and ascend.

* *Ranges* say which characters have a property. A word is a code point, or the
  first and the last one of a range: `30-39 5f`.
* *Spellings* say which text stands for a character. A word with a colon names
  a character and spells it, and the words after it spell the next characters:
  `bc:31+2044+34 31+2044+32`.

A table speaks of nothing but what is in it: a character that it does not
mention lacks the property, or stands for itself.
-/

namespace SlackCourier.Text

/-- The words of some lines. -/
def words (lines : List String) : List (List Char) :=
  lines.flatMap fun line => split ' ' line.toList

/-! ## Ranges -/

/-- Ranges of code points, each with its first and its last one. -/
abbrev Ranges := List (Nat × Nat)

/-- The range that a word spells. -/
def rangeOfWord? (word : List Char) : Option (Nat × Nat) :=
  match (split '-' word).mapM (number? 16) with
  | some [only] => some (only, only)
  | some [first, last] => some (first, last)
  | _ => none

/-- The ranges in some lines. -/
def Ranges.ofLines (lines : List String) : Ranges :=
  (words lines).filterMap rangeOfWord?

/-- Whether a character is in one of the ranges. -/
def Ranges.contains (ranges : Ranges) (c : Char) : Bool :=
  ranges.any fun (first, last) => first ≤ c.toNat && c.toNat ≤ last

/-! ## Spellings -/

/-- Runs of consecutive characters, each with its first code point and the texts
    that stand for the characters. -/
abbrev Spellings := List (Nat × List (List Char))

/-- The text that a word spells, code point by code point. -/
def textOfWord (word : List Char) : List Char :=
  ((split '+' word).filterMap (number? 16)).map Char.ofNat

/-- Puts a word in front of runs and of the texts that belong to the run before
    them. -/
def Spellings.prepend (word : List Char) :
    Spellings × List (List Char) → Spellings × List (List Char)
  | (runs, texts) =>
    match split ':' word with
    | [first, text] => (((number? 16 first).getD 0, textOfWord text :: texts) :: runs, [])
    | _ => (runs, textOfWord word :: texts)

/-- The spellings in some lines. -/
def Spellings.ofLines (lines : List String) : Spellings :=
  ((words lines).foldr Spellings.prepend ([], [])).1

/-- The text that stands for a character. -/
def Spellings.text? (spellings : Spellings) (c : Char) : Option (List Char) :=
  spellings.findSome? fun (first, texts) =>
    if first ≤ c.toNat then texts[c.toNat - first]? else none

/-- The first character that a text stands for. -/
def Spellings.char? (spellings : Spellings) (text : List Char) : Option Char :=
  spellings.findSome? fun (first, texts) =>
    (texts.idxOf? text).map fun i => Char.ofNat (first + i)

end SlackCourier.Text
