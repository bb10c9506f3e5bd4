import SlackCourier.Json.Reader.Skip
import SlackCourier.Proofs.Json.Reading

/-!
# Values are skipped

A value that nobody asks for is skipped token by token, with the brackets that are still
open in a list. Whatever its depth, behind it skipping goes on with the brackets that were
open before it (`resume`), and where none was, it is done. So a list is skipped if its
items are, with one more bracket open, and values by induction on how they are spelled.

Every turn takes a token, so a value costs no more turns than it has octets (`Skips`).

* `reads_skipValue`: however a value is spelled, it is skipped.
-/

namespace SlackCourier.Json

variable {octets held front rest : Octets} {c : Char} {limit : Nat}

/-! ## Integers -/

/-- The digits of an integer are skipped in front of anything that does not go on with
    it. -/
theorem skipIntegerPart_digits (n : Nat) (he : EndsNumber rest) :
    skipIntegerPart (encode (Binary64.digitsOf n) ++ rest) = .ok ((), rest) := by
  by_cases hz : n = 0
  · subst hz
    -- A zero stands alone, and what follows it is no digit.
    show skipIntegerPart ('0'.toUInt8 :: rest) = _
    have hl : leadingDigits rest = [] := by
      rw [leadingDigits, he.takeWhile_isDigit]
      rfl
    rw [skipIntegerPart, if_neg (by decide), if_pos rfl, hl]
    rfl
  · obtain ⟨first, digits, hf, ho, hd, hi, hne⟩ := exists_digitsOf_of_ne_zero hz
    rw [hf, ho, List.cons_append, skipIntegerPart, hi, if_neg (by decide), if_neg hne,
      dropDigits_encode (fun c hc => hd c (List.mem_cons_of_mem _ hc)) he]

theorem skipUnsigned_digits (n : Nat) (he : EndsNumber rest) :
    skipUnsigned (encode (Binary64.digitsOf n) ++ rest) = .ok ((), rest) := by
  have hf : skipFraction rest = .ok ((), rest) := by
    cases rest with
    | nil => rfl
    | cons octet rest => rw [skipFraction, if_neg he.2.1]
  have hx : skipExponent rest = .ok ((), rest) := by
    cases rest with
    | nil => rfl
    | cons octet rest =>
      rw [skipExponent, if_neg]
      simp [he.2.2.1, he.2.2.2]
  rw [skipUnsigned, skipIntegerPart_digits n he, ok_bind]
  dsimp only
  rw [hf, ok_bind]
  exact hx

/-! ## Texts -/

/-- A turn of the loop over a text takes a character. -/
theorem skipText_of_char (hq : octets.head? ≠ some '"'.toUInt8)
    (h : skipChar octets = .ok ((), rest)) (limit : Nat) :
    skipText (limit + 1) octets = skipText limit rest := by
  rw [skipText, if_neg hq, h, ok_bind]

/-- Octets that stand for themselves are skipped one by one. -/
theorem skipText_of_plain
    (h : ∀ octet ∈ octets, octet ≠ '"'.toUInt8 ∧ octet ≠ '\\'.toUInt8 ∧ ¬ octet < 0x20)
    (limit : Nat) (rest : Octets) :
    skipText (limit + octets.length) (octets ++ rest) = skipText limit rest := by
  induction octets with
  | nil => rfl
  | cons octet octets ih =>
    obtain ⟨⟨hq, hb, hc⟩, ho⟩ := List.forall_mem_cons.mp h
    have hs : skipChar (octet :: (octets ++ rest)) = .ok ((), octets ++ rest) := by
      unfold skipChar
      dsimp only
      rw [if_neg hb, if_neg hc]
    have hh : (octet :: (octets ++ rest)).head? ≠ some '"'.toUInt8 :=
      fun hh => hq (Option.some.inj hh)
    rw [List.length_cons, ← Nat.add_assoc, List.cons_append, skipText_of_char hh hs, ih ho]

/-- An escape is skipped in one turn. -/
theorem skipText_of_escape (h : skipChar ('\\'.toUInt8 :: octets ++ rest) = .ok ((), rest))
    (limit : Nat) :
    skipText (limit + 1) ('\\'.toUInt8 :: octets ++ rest) = skipText limit rest := by
  have hq : ('\\'.toUInt8 :: octets ++ rest).head? ≠ some '"'.toUInt8 :=
    fun hq => absurd (Option.some.inj hq) (by decide)
  exact skipText_of_char hq h limit

/-- An escaped code unit is skipped in one turn, whatever it stands for. -/
theorem skipText_of_unit {unit : Nat} (hu : unit < 0x10000) (h : SpellsUnit unit octets)
    (limit : Nat) (rest : Octets) :
    skipText (limit + 1) (octets ++ rest) = skipText limit rest := by
  obtain ⟨digits, rfl, hr⟩ := readCodeUnit_of_spells hu h
  refine skipText_of_escape ?_ limit
  rw [List.cons_append, List.cons_append, skipChar, if_pos rfl]
  dsimp only
  rw [if_neg (by decide), if_pos rfl, hr, ok_bind]

/-- However a character is spelled, it is skipped in no more turns than it has octets; the
    two halves of a pair take a turn each. -/
theorem skipText_of_spellsChar (h : SpellsChar c octets) :
    ∃ turns ≤ octets.length, ∀ limit rest,
      skipText (limit + turns) (octets ++ rest) = skipText limit rest := by
  cases h with
  | plain hs hq hb => exact ⟨_, Nat.le_refl _, skipText_of_plain (plain_of_mem_encode hs hq hb)⟩
  | @short letter hm =>
    refine ⟨1, by simp, fun limit rest => skipText_of_escape ?_ limit⟩
    rw [List.cons_append, List.singleton_append, skipChar, if_pos rfl]
    dsimp only
    rw [shortEscape?_of_mem _ hm]
    rfl
  | unit hc hu =>
    refine ⟨1, ?_, skipText_of_unit hc hu⟩
    cases hu
    simp
  | pair hc hh hl =>
    have hv : c.toNat < 0xD800 ∨ 0xDFFF < c.toNat ∧ c.toNat < 0x110000 := c.valid
    refine ⟨2, ?_, fun limit rest => ?_⟩
    · cases hh
      simp
    · rw [List.append_assoc, skipText_of_unit (by omega) hh, skipText_of_unit (by omega) hl]

theorem skipText_of_spellsChars {chars : List Char} (h : SpellsChars chars held) :
    ∃ turns ≤ held.length, ∀ limit rest,
      skipText (limit + turns) (held ++ rest) = skipText limit rest := by
  induction h with
  | nil => exact ⟨0, Nat.le_refl 0, fun _ _ => rfl⟩
  | cons hc _ ih =>
    obtain ⟨turns, ht, hs⟩ := skipText_of_spellsChar hc
    obtain ⟨turns', ht', hs'⟩ := ih
    refine ⟨turns' + turns, ?_, fun limit rest => ?_⟩
    · rw [List.length_append]
      omega
    · rw [← Nat.add_assoc, List.append_assoc, hs, hs']

/-- However a text is spelled, it is skipped. -/
theorem skipText_of_spells {chars : List Char} (h : SpellsChars chars held)
    (hl : held.length < limit) (rest : Octets) :
    skipText limit (held ++ '"'.toUInt8 :: rest) = .ok ((), rest) := by
  obtain ⟨turns, ht, hs⟩ := skipText_of_spellsChars h
  -- The last turn takes the quote.
  obtain ⟨left, rfl⟩ : ∃ left, limit = left + 1 + turns := ⟨limit - 1 - turns, by omega⟩
  rw [hs, skipText, List.head?_cons, if_pos rfl, List.tail_cons]

/-! ## Brackets -/

variable {bracket : Bracket} {outer brackets : List Bracket}

/-- Skips what is left of the brackets that are open, a value or a member in front. -/
def descend (limit : Nat) : List Bracket → Reader Unit
  | [], octets => .ok ((), octets)
  | .list :: outer, octets => skipNested limit (.list :: outer) octets
  | .object :: outer, octets => do
    let ((), rest) ← skipKey limit octets
    skipNested limit (.object :: outer) rest

/-- How skipping goes on behind a value. -/
def resume (limit : Nat) (brackets : List Bracket) : Reader Unit := fun octets => do
  let (brackets, rest) ← closeBrackets brackets octets
  descend limit brackets rest

/-- A turn takes a token, and goes into the bracket that it opens or on behind it. -/
theorem skipNested_succ (limit : Nat) (brackets : List Bracket) (octets : Octets) :
    skipNested (limit + 1) brackets octets = skipToken limit octets >>= fun (opened, rest) =>
      match opened with
      | some bracket => enterBracket bracket brackets rest >>= fun (brackets, rest) =>
        descend limit brackets rest
      | none => resume limit brackets rest := by
  rw [skipNested]
  refine congrArg _ (funext fun found => ?_)
  -- Behind either token, what is open is left to `descend`.
  rcases found with ⟨_ | bracket, rest⟩
  · refine congrArg (bind (closeBrackets brackets rest)) (funext fun found => ?_)
    rcases found with ⟨_ | ⟨_ | _, outer⟩, rest⟩ <;> rfl
  · refine congrArg (bind (enterBracket bracket brackets rest)) (funext fun found => ?_)
    rcases found with ⟨_ | ⟨_ | _, outer⟩, rest⟩ <;> rfl

theorem resume_nil (limit : Nat) (octets : Octets) : resume limit [] octets = .ok ((), octets) :=
  rfl

theorem resume_of_comma (hs : skipBlanks front = ','.toUInt8 :: rest) :
    resume limit (bracket :: outer) front = descend limit (bracket :: outer) rest := by
  rw [resume, closeBrackets, hs]
  rfl

theorem resume_of_closing (hs : skipBlanks front = bracket.closing :: rest) :
    resume limit (bracket :: outer) front = resume limit outer rest := by
  have hc : bracket.closing ≠ ','.toUInt8 := by cases bracket <;> decide
  rw [resume, closeBrackets, hs]
  dsimp only
  rw [if_neg hc, if_pos rfl]
  rfl

/-- From the start the octets are skipped, with blanks in front or not, and skipping goes on
    behind them with the brackets that are open there. No more turns are taken than there
    are octets. -/
def Skips (start : Nat → Reader Unit) (brackets : List Bracket) (octets : Octets) : Prop :=
  ∀ limit front rest, octets.length ≤ limit → skipBlanks front = skipBlanks (octets ++ rest) →
    EndsNumber rest →
    ∃ left after, limit ≤ left + octets.length ∧ skipBlanks after = skipBlanks rest ∧
      start limit front = resume left brackets after

theorem Skips.padded {core : Octets} {start : Nat → Reader Unit}
    (h : Skips start brackets core) (hp : Padded core octets) : Skips start brackets octets := by
  obtain ⟨before, after, hb, ha, rfl⟩ := hp
  intro limit front rest hl hf he
  simp only [List.length_append] at hl
  rw [List.append_assoc, skipBlanks_append hb, List.append_assoc] at hf
  obtain ⟨left, behind, ht, hs, hr⟩ := h limit front (after ++ rest) (by omega) hf (.append ha he)
  refine ⟨left, behind, ?_, by rw [hs, skipBlanks_append ha], hr⟩
  simp only [List.length_append]
  omega

/-- A token that opens no bracket is skipped in one turn. -/
theorem Skips.of_token (hne : octets ≠ [])
    (h : ∀ limit front rest, octets.length ≤ limit + 1 →
      skipBlanks front = skipBlanks (octets ++ rest) → EndsNumber rest →
      skipToken limit front = .ok (none, rest)) (brackets : List Bracket) :
    Skips (skipNested · brackets) brackets octets := by
  intro limit front rest hl hf he
  have ho := List.length_pos_iff.mpr hne
  obtain ⟨limit, rfl⟩ := Nat.exists_eq_add_one_of_ne_zero (Nat.ne_of_gt (Nat.lt_of_lt_of_le ho hl))
  refine ⟨limit, rest, by omega, rfl, ?_⟩
  dsimp only
  rw [skipNested_succ, h limit front rest hl hf he]
  rfl

/-! ### Tokens -/

theorem skipToken_null (hf : skipBlanks front = Octets.ofText "null" ++ rest) :
    skipToken limit front = .ok (none, rest) := by
  rw [skipToken, hf]
  rfl

theorem skipToken_true (hf : skipBlanks front = Octets.ofText "true" ++ rest) :
    skipToken limit front = .ok (none, rest) := by
  rw [skipToken, hf]
  rfl

theorem skipToken_false (hf : skipBlanks front = Octets.ofText "false" ++ rest) :
    skipToken limit front = .ok (none, rest) := by
  rw [skipToken, hf]
  rfl

theorem skipToken_integer (value : Int) (he : EndsNumber rest)
    (hf : skipBlanks front = encode (Number.chars (.integer value)) ++ rest) :
    skipToken limit front = .ok (none, rest) := by
  have hs := skipUnsigned_digits value.natAbs he
  rw [skipToken, hf, Number.chars]
  by_cases hn : value < 0
  · have hm : encode ('-' :: Binary64.digitsOf value.natAbs) ++ rest =
        '-'.toUInt8 :: (encode (Binary64.digitsOf value.natAbs) ++ rest) := rfl
    rw [if_pos hn, List.singleton_append, hm]
    dsimp only
    rw [if_pos rfl, hs, ok_bind]
  · -- The first octet is a digit, and no sign.
    obtain ⟨first, digits, hd, hi⟩ := exists_encode_digits value.natAbs
    rw [hd, List.cons_append] at hs
    rw [if_neg hn, List.nil_append, hd, List.cons_append]
    dsimp only
    rw [if_neg (ne_of_isDigit hi (by decide)), if_pos hi, hs, ok_bind]

theorem skipToken_text {chars : List Char} (h : SpellsChars chars held)
    (hl : held.length < limit)
    (hf : skipBlanks front = '"'.toUInt8 :: (held ++ '"'.toUInt8 :: rest)) :
    skipToken limit front = .ok (none, rest) := by
  rw [skipToken, hf]
  dsimp only
  rw [if_neg (by decide), if_neg (by decide), if_pos rfl, skipText_of_spells h hl, ok_bind]

/-- The octet that opens the bracket. -/
def Bracket.opening : Bracket → UInt8
  | list => '['.toUInt8
  | object => '\x7b'.toUInt8

theorem Bracket.isBlank_opening (bracket : Bracket) : isBlank bracket.opening = false := by
  cases bracket <;> decide

theorem Bracket.isBlank_closing (bracket : Bracket) : isBlank bracket.closing = false := by
  cases bracket <;> decide

theorem skipToken_opening (hf : skipBlanks front = bracket.opening :: rest) :
    skipToken limit front = .ok (some bracket, rest) := by
  rw [skipToken, hf]
  cases bracket <;> rfl

/-! ### Lists and objects -/

/-- A turn of the loop goes into the bracket that opens. -/
theorem skipNested_of_opening (hf : skipBlanks front = bracket.opening :: rest)
    (limit : Nat) (brackets : List Bracket) :
    skipNested (limit + 1) brackets front =
      enterBracket bracket brackets rest >>= fun (brackets, rest) =>
        descend limit brackets rest := by
  rw [skipNested_succ, skipToken_opening hf, ok_bind]

/-- A list or an object with nothing in it is skipped in one turn. -/
theorem Skips.of_empty {blanks : Octets} (hb : AreBlank blanks) (bracket : Bracket)
    (brackets : List Bracket) :
    Skips (skipNested · brackets) brackets
      (bracket.opening :: (blanks ++ [bracket.closing])) := by
  intro limit front rest hl hf he
  rw [List.length_cons] at hl
  obtain ⟨limit, rfl⟩ := Nat.exists_eq_add_one_of_ne_zero (Nat.ne_of_gt (Nat.lt_of_lt_of_le
    (Nat.succ_pos _) hl))
  rw [List.cons_append, skipBlanks_cons bracket.isBlank_opening, List.append_assoc,
    List.singleton_append] at hf
  refine ⟨limit, rest, by rw [List.length_cons]; omega, rfl, ?_⟩
  dsimp only
  rw [skipNested_of_opening hf, enterBracket, skipBlanks_append hb,
    skipBlanks_cons bracket.isBlank_closing]
  dsimp only
  rw [if_pos rfl]
  rfl

/-- Items or members with commas between them are skipped up to the closing bracket. -/
theorem exists_descend_eq_resume {words : List Octets} (hne : words ≠ [])
    (h : ∀ word ∈ words, Skips (descend · (bracket :: outer)) (bracket :: outer) word)
    (hl : (commaSeparated words).length ≤ limit)
    (hf : skipBlanks front = skipBlanks (commaSeparated words ++ bracket.closing :: rest)) :
    ∃ left, limit ≤ left + (commaSeparated words).length ∧
      descend limit (bracket :: outer) front = resume left outer rest := by
  induction words generalizing limit front with
  | nil => exact absurd rfl hne
  | cons word words ih =>
    obtain ⟨hw, hws⟩ := List.forall_mem_cons.mp h
    cases words with
    | nil =>
      rw [commaSeparated_singleton] at hl hf ⊢
      have he : EndsNumber (bracket.closing :: rest) := by
        cases bracket
        · exact endsNumber_bracket rest
        · exact endsNumber_brace rest
      obtain ⟨left, after, ht, hs, hr⟩ := hw limit front _ hl hf he
      rw [skipBlanks_cons bracket.isBlank_closing] at hs
      exact ⟨left, ht, hr.trans (resume_of_closing hs)⟩
    | cons next words =>
      rw [commaSeparated_cons, List.length_append, List.length_cons] at hl
      rw [commaSeparated_cons, List.append_assoc, List.cons_append] at hf
      obtain ⟨left, after, ht, hs, hr⟩ := hw limit front _ (by omega) hf (endsNumber_comma _)
      rw [skipBlanks_cons (by decide)] at hs
      have hl' : (commaSeparated (next :: words)).length ≤ left := by omega
      obtain ⟨left', ht', hr'⟩ := ih (List.cons_ne_nil _ _) hws hl' rfl
      refine ⟨left', ?_, hr.trans ((resume_of_comma hs).trans hr')⟩
      rw [commaSeparated_cons, List.length_append, List.length_cons]
      omega

/-- A list or an object is skipped if what is in it is, with one more bracket open. -/
theorem Skips.of_words {words : List Octets} (hne : words ≠ [])
    (hb : Begins (commaSeparated words))
    (h : ∀ word ∈ words, Skips (descend · (bracket :: brackets)) (bracket :: brackets) word) :
    Skips (skipNested · brackets) brackets
      (bracket.opening :: (commaSeparated words ++ [bracket.closing])) := by
  intro limit front rest hl hf he
  rw [List.length_cons, List.length_append] at hl
  obtain ⟨limit, rfl⟩ := Nat.exists_eq_add_one_of_ne_zero (Nat.ne_of_gt (Nat.lt_of_lt_of_le
    (Nat.succ_pos _) hl))
  rw [List.cons_append, skipBlanks_cons bracket.isBlank_opening, List.append_assoc,
    List.singleton_append] at hf
  obtain ⟨octet, after, ho, hl', hc⟩ := hb (bracket.closing :: rest)
  have hn : octet ≠ bracket.closing := by cases bracket <;> assumption
  obtain ⟨left, ht, hr⟩ : ∃ left, limit ≤ left + (commaSeparated words).length ∧
      descend limit (bracket :: brackets)
        (skipBlanks (commaSeparated words ++ bracket.closing :: rest)) =
          resume left brackets rest :=
    exists_descend_eq_resume hne h (by omega) (skipBlanks_skipBlanks _)
  refine ⟨left, rest, ?_, rfl, ?_⟩
  · rw [List.length_cons, List.length_append]
    omega
  dsimp only
  rw [skipNested_of_opening hf, enterBracket, ho]
  dsimp only
  rw [if_neg hn, ok_bind, ← ho]
  exact hr

/-- A member is skipped if its value is. -/
theorem Skips.of_member {spelled : SpelledMember}
    (hk : ∃ core, SpellsText spelled.key core ∧ Padded core spelled.keyOctets)
    (hv : Skips (skipNested · (.object :: outer)) (.object :: outer) spelled.valueOctets) :
    Skips (descend · (.object :: outer)) (.object :: outer) spelled.octets := by
  intro limit front rest hl hf he
  obtain ⟨core, @⟨held, hh⟩, before, behind, hb, ha, ho⟩ := hk
  rw [SpelledMember.octets, ho] at hl hf
  simp only [List.length_append, List.length_cons, List.length_nil] at hl
  have hs : skipKey limit front = .ok ((), spelled.valueOctets ++ rest) := by
    rw [skipKey, hf]
    simp only [List.append_assoc, List.cons_append, List.nil_append]
    rw [skipBlanks_append hb, skipBlanks_cons (by decide)]
    dsimp only
    rw [readKeyQuote, if_pos rfl, ok_bind]
    dsimp only
    rw [skipText_of_spells hh (by omega), ok_bind]
    exact readColon_of_colon (skipBlanks_append ha _)
  obtain ⟨left, after, ht, hs', hr⟩ :=
    hv limit (spelled.valueOctets ++ rest) rest (by omega) rfl he
  refine ⟨left, after, ?_, hs', ?_⟩
  · rw [SpelledMember.octets, List.length_append, List.length_cons]
    omega
  · dsimp only
    rw [descend, hs, ok_bind]
    exact hr

/-! ## Values -/

/-- However a value is spelled, it is skipped, whatever brackets are open around it. -/
theorem skips_of_spells {value : Json} (h : Spells value octets) (brackets : List Bracket) :
    Skips (skipNested · brackets) brackets octets := by
  induction h generalizing brackets with
  | null =>
    refine .of_token (by decide) (fun limit front rest _ hf _ => ?_) brackets
    exact skipToken_null hf
  | true =>
    refine .of_token (by decide) (fun limit front rest _ hf _ => ?_) brackets
    exact skipToken_true hf
  | false =>
    refine .of_token (by decide) (fun limit front rest _ hf _ => ?_) brackets
    exact skipToken_false hf
  | @integer value =>
    rw [ofText_toString]
    have hs := starts_integer value
    refine .of_token ?_ (fun limit front rest _ hf he => ?_) brackets
    · intro hn
      rw [hn] at hs
      exact hs
    · rw [hs.skipBlanks_append] at hf
      exact skipToken_integer value he hf
  | text ht =>
    obtain @⟨held, hh⟩ := ht
    refine .of_token (List.cons_ne_nil _ _) (fun limit front rest hl hf _ => ?_) brackets
    rw [List.length_cons, List.length_append, List.length_singleton] at hl
    rw [List.cons_append, skipBlanks_cons (by decide), List.append_assoc] at hf
    exact skipToken_text hh (by omega) hf
  | emptyList hb => exact .of_empty hb .list brackets
  | @list items hne hi ih =>
    have hw : ∀ word ∈ items.map Prod.snd, Skips (descend · (.list :: brackets))
        (.list :: brackets) word :=
      List.forall_mem_map.mpr fun item hm => ih item hm (.list :: brackets)
    obtain ⟨item, items, rfl⟩ := List.exists_cons_of_ne_nil hne
    exact .of_words (List.cons_ne_nil _ _)
      ((hi item List.mem_cons_self).begins.commaSeparated _) hw
  | emptyObject hb => exact .of_empty hb .object brackets
  | @object members hne hk _ ih =>
    have hw : ∀ word ∈ members.map SpelledMember.octets, Skips (descend · (.object :: brackets))
        (.object :: brackets) word :=
      List.forall_mem_map.mpr fun spelled hm => .of_member (hk spelled hm) (ih spelled hm _)
    obtain ⟨first, members, rfl⟩ := List.exists_cons_of_ne_nil hne
    exact .of_words (List.cons_ne_nil _ _)
      ((SpelledMember.begins (hk first List.mem_cons_self)).commaSeparated _) hw
  | padded _ hp ih => exact (ih brackets).padded hp

/-- However a value is spelled, it is skipped, at any depth. -/
theorem reads_skipValue {value : Json} (h : Spells value octets) (hl : octets.length ≤ limit) :
    Reads (skipValue limit) octets () where
  begins := h.begins
  reads front rest hf he := by
    obtain ⟨left, after, -, hs, hr⟩ := skips_of_spells h [] limit front rest hl hf he
    exact ⟨after, hr.trans (resume_nil left after), hs⟩

end SlackCourier.Json
