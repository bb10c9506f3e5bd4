/-!
# Blank and empty text

A text is blank if it has nothing but white space in it, where white space is
what the Unicode property of that name says. Characters that are merely
invisible, such as the zero-width space, are not white space.

Where a text may be left out, an empty one counts as left out (`given`).
-/

namespace SlackCourier.Text

/-- The characters with the property White_Space. -/
def isWhiteSpace (c : Char) : Bool :=
  let n := c.toNat
  (0x09 ≤ n && n ≤ 0x0D) || n == 0x20 || n == 0x85 || n == 0xA0 || n == 0x1680
    || (0x2000 ≤ n && n ≤ 0x200A) || n == 0x2028 || n == 0x2029 || n == 0x202F || n == 0x205F
    || n == 0x3000

/-- Whether the text holds nothing but white space. -/
def isBlank (text : String) : Bool :=
  text.toList.all isWhiteSpace

/-- An optional text that is left out if it is empty. -/
def given (text : Option String) : Option String :=
  text.filter fun text => !text.isEmpty

theorem given_eq_some_iff {text : Option String} {content : String} :
    given text = some content ↔ text = some content ∧ content ≠ "" := by
  rw [given, Option.filter_eq_some_iff, Bool.not_eq_true', ← Bool.not_eq_true,
    String.isEmpty_iff]

theorem given_eq_none_iff {text : Option String} :
    given text = none ↔ text = none ∨ text = some "" := by
  cases text with
  | none => exact iff_of_true rfl (.inl rfl)
  | some content => simp [given, Option.filter_eq_none_iff]

end SlackCourier.Text
