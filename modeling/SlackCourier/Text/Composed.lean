import SlackCourier.Text.CombiningClass
import SlackCourier.Text.Composite

/-!
# Composed text

Texts that look the same may be written in several ways: with composites or with
their parts, and with marks in one order or another. The *composed* form is one
of them. All composites are taken apart, marks whose order says nothing are put
in the order of their classes, and every mark that can be reached by the
character before it is joined to it.

Characters that merely stand for another one are not replaced here.
-/

namespace SlackCourier.Text

/-- The parts of a character, where composites of composites go `depth` levels
    down. -/
def parts : (depth : Nat) → Char → List Char
  | 0, c => [c]
  | depth + 1, c =>
    match pair? c with
    | some (first, second) => parts depth first ++ [second]
    | none => [c]

/-- The levels that composites of composites have. -/
def compositeDepth : Nat := 3

/-- Puts a character behind others, which are given in reverse: a mark goes in
    front of the marks of higher classes. -/
def place (c : Char) : List Char → List Char
  | [] => [c]
  | last :: earlier =>
    if combiningClass c ≠ 0 && combiningClass c < combiningClass last then
      last :: place c earlier
    else c :: last :: earlier

/-- The text in parts, its marks in the order of their classes. -/
def decomposed (text : List Char) : List Char :=
  ((text.flatMap (parts compositeDepth)).foldl (fun earlier c => place c earlier) []).reverse

/-- Joins the characters to the one in front of them as far as they reach it.
    Those that do not are between them, in reverse; a mark is kept from it by a
    mark of its own class, and what is no mark by any. -/
def joined (front : Char) : (between : List Char) → List Char → List Char
  | between, [] => front :: between.reverse
  | between, c :: rest =>
    let reaches := between.all fun mark => combiningClass mark < combiningClass c
    match if reaches then composite? front c else none with
    | some composite => joined composite between rest
    | none =>
      if combiningClass c = 0 then front :: between.reverse ++ joined c [] rest
      else joined front (c :: between) rest

/-- The composed form of a text. -/
def composed (text : List Char) : List Char :=
  match decomposed text with
  | [] => []
  | front :: rest => joined front [] rest

end SlackCourier.Text
