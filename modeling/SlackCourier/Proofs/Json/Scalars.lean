import SlackCourier.Json.Reader.Value
import SlackCourier.Proofs.Json.Spelling
import SlackCourier.Proofs.Steps

/-!
# Texts and integers are read back

However a text is spelled, it is read back; a character may take several turns of
the loop, but not more than it has octets, so the length of the text is limit
enough. An integer of 64 bits is read back in front of anything that does not go on
with it (`EndsNumber`): a digit, a point or a power of ten would.

* `readText_of_spells`, `readUnsigned_digits`: texts and integers are read back.
-/

namespace SlackCourier.Json

variable {octets held rest : Octets} {c : Char} {limit : Nat}

/-! ## Digits -/

/-- Nothing that goes on with a number stands in front. -/
def EndsNumber : Octets → Prop
  | [] => True
  | octet :: _ =>
    isDigit octet = false ∧ octet ≠ '.'.toUInt8 ∧ octet ≠ 'e'.toUInt8 ∧ octet ≠ 'E'.toUInt8

theorem EndsNumber.takeWhile_isDigit (he : EndsNumber rest) : rest.takeWhile isDigit = [] := by
  cases rest with
  | nil => rfl
  | cons octet rest => rw [List.takeWhile_cons, he.1]; rfl

theorem EndsNumber.dropDigits_eq (he : EndsNumber rest) : dropDigits rest = rest := by
  cases rest with
  | nil => rfl
  | cons octet rest => rw [dropDigits, List.dropWhile_cons, he.1]; rfl

/-- A digit is one octet, which is a digit of the same value. -/
theorem isDigit_toUInt8 (h : c.isDigit) :
    String.utf8EncodeChar c = [c.toUInt8] ∧ isDigit c.toUInt8 ∧ c.toUInt8.toNat = c.toNat := by
  have hd : ∀ n < 58, 48 ≤ n → String.utf8EncodeChar (Char.ofNat n) = [(Char.ofNat n).toUInt8] ∧
      isDigit (Char.ofNat n).toUInt8 ∧ (Char.ofNat n).toUInt8.toNat = n := by
    -- There are ten of them.
    decide
  rw [Char.isDigit, Bool.and_eq_true, decide_eq_true_iff, decide_eq_true_iff] at h
  have hl : 48 ≤ c.toNat := h.1
  have hu : c.toNat ≤ 57 := h.2
  have hc := hd c.toNat (Nat.lt_succ_of_le hu) hl
  rwa [Char.ofNat_toNat] at hc

theorem encode_digits {digits : List Char} (h : ∀ c ∈ digits, c.isDigit) :
    encode digits = digits.map Char.toUInt8 := by
  induction digits with
  | nil => rfl
  | cons c digits ih =>
    obtain ⟨hc, hd⟩ := List.forall_mem_cons.mp h
    rw [encode_cons, (isDigit_toUInt8 hc).1, ih hd, List.map_cons, List.singleton_append]

theorem leadingDigits_encode {digits : List Char} (h : ∀ c ∈ digits, c.isDigit)
    (he : EndsNumber rest) :
    leadingDigits (encode digits ++ rest) = digits.map fun c => c.toNat - '0'.toNat := by
  rw [leadingDigits, encode_digits h, List.takeWhile_append_of_pos, he.takeWhile_isDigit,
    List.append_nil, List.map_map]
  · refine List.map_congr_left fun c hc => ?_
    exact congrArg (· - _) (isDigit_toUInt8 (h c hc)).2.2
  · exact List.forall_mem_map.mpr fun c hc => (isDigit_toUInt8 (h c hc)).2.1

theorem dropDigits_encode {digits : List Char} (h : ∀ c ∈ digits, c.isDigit)
    (he : EndsNumber rest) : dropDigits (encode digits ++ rest) = rest := by
  rw [dropDigits, encode_digits h, List.dropWhile_append_of_pos]
  · exact he.dropDigits_eq
  · exact List.forall_mem_map.mpr fun c hc => (isDigit_toUInt8 (h c hc)).2.1

theorem le_ofDigitChars (digits : List Char) (value : Nat) :
    value ≤ Nat.ofDigitChars 10 digits value := by
  induction digits generalizing value with
  | nil => exact Nat.le_refl value
  | cons c digits ih =>
    rw [Nat.ofDigitChars_cons]
    exact Nat.le_trans (by omega) (ih _)

/-- Digits are taken as a whole if what they spell is below the bound. -/
theorem absorb_digits {digits : List Char} {bound value : Nat}
    (h : Nat.ofDigitChars 10 digits value < bound) :
    absorb bound value (digits.map fun c => c.toNat - '0'.toNat) =
      (Nat.ofDigitChars 10 digits value, []) := by
  induction digits generalizing value with
  | nil => rfl
  | cons c digits ih =>
    rw [Nat.ofDigitChars_cons] at h ⊢
    rw [List.map_cons, absorb, Nat.mul_comm value, if_pos, ih h]
    exact Nat.lt_of_le_of_lt (le_ofDigitChars digits _) h

/-- Only zero is written with a zero in front. -/
theorem toDigits_eq_cons {n : Nat} (h : n ≠ 0) :
    ∃ first digits, Nat.toDigits 10 n = first :: digits ∧ first ≠ '0' := by
  induction n using Nat.strongRecOn with
  | ind n ih =>
    by_cases hn : n < 10
    · exact ⟨_, [], Nat.toDigits_of_lt_base hn, fun hz => h (Nat.digitChar_eq_zero.mp hz)⟩
    · obtain ⟨first, digits, hd, hf⟩ := ih (n / 10) (by omega) (by omega)
      refine ⟨first, digits ++ [(n % 10).digitChar], ?_, hf⟩
      rw [Nat.toDigits_of_base_le (by decide) (by omega), hd, List.cons_append]

theorem exists_digitsOf_of_ne_zero {n : Nat} (h : n ≠ 0) :
    ∃ first digits, Binary64.digitsOf n = first :: digits ∧
      encode (first :: digits) = first.toUInt8 :: encode digits ∧
      (∀ c ∈ first :: digits, c.isDigit) ∧ isDigit first.toUInt8 ∧
      first.toUInt8 ≠ '0'.toUInt8 := by
  obtain ⟨first, digits, hf, hne⟩ := toDigits_eq_cons h
  have hd : ∀ c ∈ first :: digits, c.isDigit :=
    fun c hc => Nat.isDigit_of_mem_toDigits (by decide) (by decide) (hf ▸ hc)
  obtain ⟨hw, hi, ht⟩ := isDigit_toUInt8 (hd first List.mem_cons_self)
  refine ⟨first, digits, hf, ?_, hd, hi, fun hz => hne (Char.toNat_inj.mp ?_)⟩
  · rw [encode_cons, hw]
    rfl
  · rw [← ht, hz]
    rfl

/-- The digits of a natural number are read back if a significand holds it. -/
theorem readIntegerPart_digits {n : Nat} (h : n < significandBound) (he : EndsNumber rest) :
    readIntegerPart (encode (Binary64.digitsOf n) ++ rest) = .ok (⟨n, 0, true⟩, rest) := by
  by_cases hz : n = 0
  · subst hz
    -- A zero stands alone, and what follows it is no digit.
    show readIntegerPart ('0'.toUInt8 :: rest) = _
    cases rest with
    | nil => rfl
    | cons next rest =>
      have hn : isDigit next = false := he.1
      unfold readIntegerPart
      dsimp only
      rw [if_neg (by decide), if_pos rfl, hn, if_neg Bool.false_ne_true]
  · -- Any other number begins with another digit, and all of its digits are taken.
    obtain ⟨first, digits, hf, ho, hd, hi, hne⟩ := exists_digitsOf_of_ne_zero hz
    have hv : Nat.ofDigitChars 10 (first :: digits) 0 = n := hf ▸ Nat.ofDigitChars_ten_toDigits
    rw [hf, ho, List.cons_append]
    unfold readIntegerPart
    dsimp only
    rw [hi, if_neg (by decide), if_neg hne, ← List.cons_append, ← ho, leadingDigits_encode hd he,
      absorb_digits (hv.symm ▸ h),
      dropDigits_encode (fun c hc => hd c (List.mem_cons_of_mem _ hc)) he, hv]
    rfl

/-- The octets of a natural number begin with a digit. -/
theorem exists_encode_digits (n : Nat) :
    ∃ first digits, encode (Binary64.digitsOf n) = first :: digits ∧ isDigit first := by
  obtain ⟨c, digits, hd⟩ := List.exists_cons_of_ne_nil (Nat.toDigits_ne_nil (n := n) (b := 10))
  have hi : c.isDigit :=
    Nat.isDigit_of_mem_toDigits (by decide) (by decide) (hd ▸ List.mem_cons_self)
  obtain ⟨hw, ho, -⟩ := isDigit_toUInt8 hi
  exact ⟨c.toUInt8, encode digits, by rw [Binary64.digitsOf, hd, encode_cons, hw]; rfl, ho⟩

theorem ne_of_isDigit {octet other : UInt8} (h : isDigit octet) (ho : isDigit other = false) :
    octet ≠ other := by
  rintro rfl
  rw [h] at ho
  cases ho

theorem readFraction_of_ends (he : EndsNumber rest) (numeral : Numeral) :
    readFraction numeral rest = .ok (numeral, rest) := by
  cases rest with
  | nil => rfl
  | cons octet rest => rw [readFraction, if_neg he.2.1]

theorem readExponent_of_ends (he : EndsNumber rest) (numeral : Numeral) :
    readExponent numeral rest = .ok (numeral, rest) := by
  cases rest with
  | nil => rfl
  | cons octet rest =>
    rw [readExponent, if_neg]
    simp [he.2.2.1, he.2.2.2]

/-- A significand and a sign are put together to the integer that they came from. -/
theorem number?_of_integer {value : Int} (hl : -0x8000000000000000 ≤ value) :
    (⟨value.natAbs, 0, true⟩ : Numeral).number? (value < 0) = some (.integer value) := by
  by_cases hs : value < 0
  · have hp : value ≠ 0 := by omega
    have hb : value.natAbs ≤ negativeBound := by
      rw [negativeBound]
      omega
    have hv : -(value.natAbs : Int) = value := by omega
    simp only [Numeral.number?, hs, decide_true, Bool.not_true, Bool.and_false, Bool.false_eq_true,
      if_false, Int.natAbs_pos, hp, ne_eq, not_false_eq_true, hb, Bool.and_true, if_true, hv]
  · have hv : (value.natAbs : Int) = value := by omega
    simp only [Numeral.number?, hs, decide_false, Bool.not_false, Bool.and_true, if_true, hv]

/-- Behind its sign an integer is read back. -/
theorem readUnsigned_digits {value : Int} (hl : -0x8000000000000000 ≤ value)
    (hu : value < 0x10000000000000000) (he : EndsNumber rest) :
    readUnsigned (value < 0) (encode (Binary64.digitsOf value.natAbs) ++ rest) =
      .ok (.integer value, rest) := by
  have hn : value.natAbs < significandBound := by
    rw [significandBound]
    omega
  rw [readUnsigned, readIntegerPart_digits hn he, ok_bind]
  dsimp only
  rw [readFraction_of_ends he, ok_bind]
  dsimp only
  rw [readExponent_of_ends he, ok_bind]
  dsimp only
  rw [number?_of_integer hl]

/-! ## Escapes -/

theorem hexDigit?_of_spells {n : Nat} {octet : UInt8} (hn : n < 16) (h : SpellsDigit n octet) :
    hexDigit? octet = some n := by
  have hd : ∀ n < 16, hexDigit? (hexDigit n).toUInt8 = some n ∧
      hexDigit? (hexDigit n).toUpper.toUInt8 = some n := by
    decide
  cases h with
  | lower => exact (hd n hn).1
  | upper => exact (hd n hn).2

theorem shortEscape?_of_mem :
    ∀ escape ∈ shortEscapes, shortEscape? escape.1.toUInt8 = some escape.2 := by
  decide

/-- An escaped code unit is read back. -/
theorem readCodeUnit_of_spells {unit : Nat} (hu : unit < 0x10000) (h : SpellsUnit unit octets) :
    ∃ digits, octets = '\\'.toUInt8 :: 'u'.toUInt8 :: digits ∧
      ∀ rest, readCodeUnit (digits ++ rest) = .ok (unit, rest) := by
  obtain @⟨a, b, c, d, ha, hb, hc, hd⟩ := h
  have hs : codeUnit? a b c d = some unit := by
    rw [codeUnit?, hexDigit?_of_spells (by omega) ha, hexDigit?_of_spells (by omega) hb,
      hexDigit?_of_spells (by omega) hc, hexDigit?_of_spells (by omega) hd]
    refine congrArg some ?_
    omega
  refine ⟨[a, b, c, d], rfl, fun rest => ?_⟩
  show readCodeUnit (a :: b :: c :: d :: rest) = _
  rw [readCodeUnit, hs]

theorem not_isSurrogate (c : Char) (h : c.toNat < 0x10000) :
    isLowSurrogate c.toNat = false ∧ isHighSurrogate c.toNat = false := by
  have hv : c.toNat < 0xD800 ∨ 0xDFFF < c.toNat ∧ c.toNat < 0x110000 := c.valid
  rw [isLowSurrogate, isHighSurrogate, Bool.and_eq_false_iff, Bool.and_eq_false_iff]
  simp only [decide_eq_false_iff_not]
  omega

/-- A character of the basic plane is read back from its code unit. -/
theorem readEscapedUnits_of_unit (h : c.toNat < 0x10000)
    (hr : readCodeUnit octets = .ok (c.toNat, rest)) : readEscapedUnits octets = .ok (c, rest) := by
  obtain ⟨hl, hh⟩ := not_isSurrogate c h
  rw [readEscapedUnits, hr]
  show (if isLowSurrogate c.toNat then _ else _) = _
  rw [hl, hh, if_neg Bool.false_ne_true, if_neg Bool.false_ne_true, Char.ofNat_toNat]

/-- The second half of a pair is read back. -/
theorem readLowSurrogate_of_unit {unit : Nat} (h : isLowSurrogate unit)
    (hr : readCodeUnit octets = .ok (unit, rest)) :
    readLowSurrogate ('\\'.toUInt8 :: 'u'.toUInt8 :: octets) = .ok (unit, rest) := by
  rw [readLowSurrogate, if_neg (by decide)]
  dsimp only
  rw [if_neg (by decide), hr, ok_bind]
  dsimp only
  rw [if_pos h]

/-- Any other character is read back from the two halves of its pair. -/
theorem readEscapedUnits_of_pair {after : Octets} (h : 0x10000 ≤ c.toNat)
    (hh : readCodeUnit octets = .ok (0xD800 + (c.toNat - 0x10000) / 0x400,
      '\\'.toUInt8 :: 'u'.toUInt8 :: after))
    (hl : readCodeUnit after = .ok (0xDC00 + (c.toNat - 0x10000) % 0x400, rest)) :
    readEscapedUnits octets = .ok (c, rest) := by
  have hv : c.toNat < 0xD800 ∨ 0xDFFF < c.toNat ∧ c.toNat < 0x110000 := c.valid
  have hhigh : isHighSurrogate (0xD800 + (c.toNat - 0x10000) / 0x400) = true := by
    rw [isHighSurrogate, Bool.and_eq_true, decide_eq_true_iff, decide_eq_true_iff]
    omega
  have hnot : isLowSurrogate (0xD800 + (c.toNat - 0x10000) / 0x400) = false := by
    rw [isLowSurrogate, Bool.and_eq_false_iff, decide_eq_false_iff_not]
    omega
  have hlow : isLowSurrogate (0xDC00 + (c.toNat - 0x10000) % 0x400) = true := by
    rw [isLowSurrogate, Bool.and_eq_true, decide_eq_true_iff, decide_eq_true_iff]
    omega
  -- The halves are put together to the number that they were cut from.
  have hp : pairedChar (0xD800 + (c.toNat - 0x10000) / 0x400)
      (0xDC00 + (c.toNat - 0x10000) % 0x400) = c := by
    rw [pairedChar, show 0x10000 + (0xD800 + (c.toNat - 0x10000) / 0x400 - 0xD800) * 0x400 +
      (0xDC00 + (c.toNat - 0x10000) % 0x400 - 0xDC00) = c.toNat by omega, Char.ofNat_toNat]
  rw [readEscapedUnits, hh, ok_bind]
  dsimp only
  rw [hnot, if_neg Bool.false_ne_true, if_pos hhigh, readLowSurrogate_of_unit hlow hl, ok_bind]
  dsimp only
  rw [hp]

/-! ## Characters -/

/-- A turn of the loop over a text takes a piece. -/
theorem readQuoted_of_piece {piece : Octets} (hq : octets.head? ≠ some '"'.toUInt8)
    (h : readPiece octets = .ok (piece, rest)) (limit : Nat) (earlier : Octets) :
    readQuoted (limit + 1) earlier octets = readQuoted limit (piece.reverse ++ earlier) rest := by
  rw [readQuoted, if_neg hq, h, ok_bind]

/-- Octets that stand for themselves are taken one by one. -/
theorem readQuoted_of_plain
    (h : ∀ octet ∈ octets, octet ≠ '"'.toUInt8 ∧ octet ≠ '\\'.toUInt8 ∧ ¬ octet < 0x20)
    (limit : Nat) (earlier rest : Octets) :
    readQuoted (limit + octets.length) earlier (octets ++ rest) =
      readQuoted limit (octets.reverse ++ earlier) rest := by
  induction octets generalizing earlier with
  | nil => rfl
  | cons octet octets ih =>
    obtain ⟨⟨hq, hb, hc⟩, ho⟩ := List.forall_mem_cons.mp h
    have hp : readPiece (octet :: (octets ++ rest)) = .ok ([octet], octets ++ rest) := by
      rw [readPiece, if_neg hb, if_neg hc]
    have hh : (octet :: (octets ++ rest)).head? ≠ some '"'.toUInt8 :=
      fun hh => hq (Option.some.inj hh)
    rw [List.length_cons, ← Nat.add_assoc, List.cons_append, readQuoted_of_piece hh hp, ih ho,
      List.reverse_singleton, ← List.append_assoc, ← List.reverse_cons]

/-- Of a character that stands for itself no octet means anything else. -/
theorem plain_of_mem_encode (hs : 0x20 ≤ c.toNat) (hq : c ≠ '"') (hb : c ≠ '\\') :
    ∀ octet ∈ String.utf8EncodeChar c,
      octet ≠ '"'.toUInt8 ∧ octet ≠ '\\'.toUInt8 ∧ ¬ octet < 0x20 := by
  intro octet ho
  -- An octet that is ASCII is the character itself, for longer forms have none.
  have hc (hl : octet < 0x80) : c.toNat = octet.toNat := Octets.toNat_of_mem_encode hl ho
  refine ⟨?_, ?_, fun hl => ?_⟩
  · rintro rfl
    exact hq (Char.toNat_inj.mp (hc (by decide)))
  · rintro rfl
    exact hb (Char.toNat_inj.mp (hc (by decide)))
  · have hn : octet.toNat < 32 := hl
    have hc := hc (UInt8.lt_trans hl (by decide))
    omega

/-- An escape is taken in one turn. -/
theorem readQuoted_of_escape (h : ∀ rest, readEscape (octets ++ rest) = .ok (c, rest))
    (limit : Nat) (earlier rest : Octets) :
    readQuoted (limit + 1) earlier ('\\'.toUInt8 :: octets ++ rest) =
      readQuoted limit ((String.utf8EncodeChar c).reverse ++ earlier) rest := by
  have hq : ('\\'.toUInt8 :: octets ++ rest).head? ≠ some '"'.toUInt8 :=
    fun hq => absurd (Option.some.inj hq) (by decide)
  refine readQuoted_of_piece hq ?_ limit earlier
  rw [List.cons_append, readPiece, if_pos rfl, h, ok_bind]

/-- However a character is spelled, it is taken in no more turns than it has octets. -/
theorem readQuoted_of_spellsChar (h : SpellsChar c octets) :
    ∃ turns ≤ octets.length, ∀ limit earlier rest,
      readQuoted (limit + turns) earlier (octets ++ rest) =
        readQuoted limit ((String.utf8EncodeChar c).reverse ++ earlier) rest := by
  cases h with
  | plain hs hq hb =>
    exact ⟨_, Nat.le_refl _, readQuoted_of_plain (plain_of_mem_encode hs hq hb)⟩
  | @short letter hm =>
    refine ⟨1, by simp, readQuoted_of_escape fun rest => ?_⟩
    rw [List.singleton_append, readEscape, shortEscape?_of_mem _ hm]
  | unit hc hu =>
    obtain ⟨digits, rfl, hr⟩ := readCodeUnit_of_spells hc hu
    refine ⟨1, by simp, readQuoted_of_escape fun rest => ?_⟩
    exact readEscapedUnits_of_unit hc (hr rest)
  | pair hc hh hl =>
    have hv : c.toNat < 0xD800 ∨ 0xDFFF < c.toNat ∧ c.toNat < 0x110000 := c.valid
    obtain ⟨digits, rfl, hr⟩ := readCodeUnit_of_spells (by omega) hh
    obtain ⟨digits', rfl, hr'⟩ := readCodeUnit_of_spells (by omega) hl
    refine ⟨1, by simp, readQuoted_of_escape fun rest => ?_⟩
    have hd := hr ('\\'.toUInt8 :: 'u'.toUInt8 :: digits' ++ rest)
    rw [← List.append_assoc] at hd
    exact readEscapedUnits_of_pair hc hd (hr' rest)

/-! ## Texts -/

theorem readQuoted_of_spells {chars : List Char} (h : SpellsChars chars held) :
    ∃ turns ≤ held.length, ∀ limit earlier rest,
      readQuoted (limit + turns) earlier (held ++ rest) =
        readQuoted limit ((encode chars).reverse ++ earlier) rest := by
  induction h with
  | nil => exact ⟨0, Nat.le_refl 0, fun _ _ _ => rfl⟩
  | cons hc _ ih =>
    obtain ⟨turns, ht, hr⟩ := readQuoted_of_spellsChar hc
    obtain ⟨turns', ht', hr'⟩ := ih
    refine ⟨turns' + turns, ?_, fun limit earlier rest => ?_⟩
    · rw [List.length_append]
      omega
    · rw [← Nat.add_assoc, List.append_assoc, hr, hr', encode_cons, List.reverse_append,
        List.append_assoc]

/-- However a text is spelled, it is read back. -/
theorem readText_of_spells {text : String} (h : SpellsChars text.toList held)
    (hl : held.length < limit) (rest : Octets) :
    readText limit (held ++ '"'.toUInt8 :: rest) = .ok (text, rest) := by
  obtain ⟨turns, ht, hr⟩ := readQuoted_of_spells h
  -- The last turn takes the quote.
  obtain ⟨left, rfl⟩ : ∃ left, limit = left + 1 + turns := ⟨limit - 1 - turns, by omega⟩
  have hq : readQuoted (left + 1) ((encode text.toList).reverse ++ []) ('"'.toUInt8 :: rest) =
      .ok (Octets.ofText text, rest) := by
    rw [readQuoted, List.head?_cons, if_pos rfl, List.append_nil, List.reverse_reverse]
    rfl
  rw [readText, hr, hq, ok_bind]
  dsimp only
  rw [Octets.text?_ofText]

end SlackCourier.Json
