import SlackCourier.DomainName.Folding
import SlackCourier.DomainName.Punycode
import SlackCourier.Text.Composed
import SlackCourier.Text.Direction
import SlackCourier.Text.Joining

/-!
# Labels

The labels of a name stand between its dots. A label of folded and composed text
is one that can be used (`isUsable`) if it has no character that stands for
something else, begins with no mark, and asks letters to join or not to join only
where they could. In a name with letters from right to left, every label has to
be written in one direction (`keepsDirection`).

A label outside ASCII has a written form in ASCII (`written?`), which begins with
`xn--`. Where that form is given, the label is read from it (`read?`), and only if
a folded name could have it.
-/

namespace SlackCourier.DomainName

open Text (Direction combiningClass composed isMark isNonspacingMark joinsNext joinsPrevious)

/-- A part of a name. -/
abbrev Label := List Char

namespace Label

/-- Whether a character is one of ASCII. -/
def isAscii (c : Char) : Bool :=
  c.toNat < 0x80

/-! ## Usable labels -/

/-- Asks for letters that do not join. -/
def nonjoiner : Char := '\u200C'

/-- Asks for letters that join. -/
def joiner : Char := '\u200D'

/-- Whether there is a consonant without its vowel in front; what is in front is
    given in reverse. -/
def followsVirama (earlier : List Char) : Bool :=
  earlier.head?.any (combiningClass · = Text.viramaClass)

/-- Whether the letters around would join; marks do not count. -/
def isBetweenJoining (earlier later : List Char) : Bool :=
  (earlier.dropWhile isNonspacingMark).head?.any joinsNext
    && (later.dropWhile isNonspacingMark).head?.any joinsPrevious

/-- Whether a character has an effect between those around it, if it is one that
    only has an effect. -/
def hasEffect (earlier : List Char) (c : Char) (later : List Char) : Bool :=
  if c = joiner then followsVirama earlier
  else if c = nonjoiner then followsVirama earlier || isBetweenJoining earlier later
  else true

/-- Whether all characters have an effect; those in front are given in reverse. -/
def haveEffect : (earlier : List Char) → List Char → Bool
  | _, [] => true
  | earlier, c :: later => hasEffect earlier c later && haveEffect (c :: earlier) later

/-- Whether a label of folded and composed text can be used. -/
def isUsable (label : Label) : Bool :=
  label.all isFolded && !label.head?.any isMark && haveEffect [] label

/-! ## Direction -/

/-- Whether a label has anything that is written from right to left. -/
def turnsLeft (label : Label) : Bool :=
  label.any fun c => [.rightToLeft, .arabicNumber].contains (Direction.ofChar c)

/-- Whether a label is written in one direction: it begins with a letter, has no
    letters of the other direction, ends in a letter or a number, and has numbers
    that go with its letters, all of one kind. -/
def keepsDirection (label : Label) : Bool :=
  let directions := label.map Direction.ofChar
  let ending := (directions.reverse.dropWhile (· = .mark)).head?
  match directions with
  | [] => true
  | .leftToRight :: rest =>
    !rest.contains .rightToLeft && !rest.contains .arabicNumber
      && [some .leftToRight, some .europeanNumber].contains ending
  | .rightToLeft :: rest =>
    !rest.contains .leftToRight && !(rest.contains .europeanNumber && rest.contains .arabicNumber)
      && [some .rightToLeft, some .europeanNumber, some .arabicNumber].contains ending
  | _ => false

/-! ## Written forms -/

/-- What the written form of a label outside ASCII begins with. -/
def mark : List Char := ['x', 'n', '-', '-']

/-- The characters that a label outside ASCII may have, if it is to be written. -/
def writtenLimit : Nat := 1000

/-- The characters that a written form may have behind its mark. -/
def readLimit : Nat := 2000

/-- The label that a written form in small letters stands for. -/
def ofWritten? (text : List Char) : Option Label := do
  guard (text.all isAscii && text.length ≤ readLimit)
  let label ← Punycode.decode? text
  guard (!label.all isAscii && composed label = label)
  some label

/-- The label that a part of a folded and composed name is or stands for. -/
def read? (text : List Char) : Option Label :=
  match mark.isPrefixOf? text with
  | some written => ofWritten? written
  | none => some text

/-- The form of a part of a name in ASCII. -/
def written? (text : List Char) : Option (List Char) :=
  if text.all isAscii then some text
  else if text.length ≤ writtenLimit then some (mark ++ Punycode.encode text)
  else none

end Label

end SlackCourier.DomainName
