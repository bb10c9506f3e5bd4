import SlackCourier.Octets

/-!
# Base64

Octets as text (RFC 4648): of every three octets the bits are dealt out six by six,
and every six of them are shown by one character. Where the octets come to an end
within three, equals signs stand for the characters that are missing.
-/

namespace SlackCourier.Base64

/-- The character that shows six bits. -/
def digit (sextet : Nat) : Char :=
  if sextet < 26 then Char.ofNat ('A'.toNat + sextet)
  else if sextet < 52 then Char.ofNat ('a'.toNat + (sextet - 26))
  else if sextet < 62 then Char.ofNat ('0'.toNat + (sextet - 52))
  else if sextet = 62 then '+'
  else '/'

/-- The characters that show some octets. -/
def encode : Octets → List Char
  | [] => []
  | [a] => [digit (a.toNat / 4), digit (a.toNat % 4 * 16), '=', '=']
  | [a, b] =>
    [digit (a.toNat / 4), digit (a.toNat % 4 * 16 + b.toNat / 16), digit (b.toNat % 16 * 4), '=']
  | a :: b :: c :: rest =>
    digit (a.toNat / 4) :: digit (a.toNat % 4 * 16 + b.toNat / 16)
      :: digit (b.toNat % 16 * 4 + c.toNat / 64) :: digit (c.toNat % 64) :: encode rest

end SlackCourier.Base64
