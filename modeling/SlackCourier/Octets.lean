/-!
# Octets

What travels, what a file holds and what is piped in are *octets*; what people
write is text. Text becomes octets in one way (`ofText`, UTF-8), and octets are
text in at most one way (`text?`). Where octets have to be shown although they
may be no text, `lossy` puts one replacement character in the place of every
stretch that no character explains.

* `text?_eq_some_iff`: the octets that are text are exactly the UTF-8 forms of
  texts.
* `firstChar?_encode_append`: a character in front of other octets is read as
  that character.
-/

namespace SlackCourier

/-- A sequence of octets. -/
abbrev Octets := List UInt8

namespace Octets

/-- The UTF-8 form of a text: the forms of its characters, one after the other. -/
def ofText (text : String) : Octets :=
  text.toList.flatMap String.utf8EncodeChar

/-- The text that the octets are the UTF-8 form of, if they are one. -/
def text? (octets : Octets) : Option String :=
  String.fromUTF8? octets.toByteArray

theorem ofText_ofList (chars : List Char) :
    ofText (String.ofList chars) = chars.flatMap String.utf8EncodeChar := by
  rw [ofText, String.toList_ofList]

theorem ofText_append (text other : String) :
    ofText (text ++ other) = ofText text ++ ofText other := by
  rw [ofText, String.toList_append, List.flatMap_append, ofText, ofText]

theorem ofText_ne_nil {text : String} (h : text ≠ "") : ofText text ≠ [] := by
  rw [ofText, Ne, List.flatMap_eq_nil_iff]
  intro hn
  refine h (String.toList_eq_nil_iff.1 (List.eq_nil_iff_forall_not_mem.2 fun c hc => ?_))
  exact String.utf8EncodeChar_ne_nil (hn c hc)

theorem ofText_toByteArray (text : String) : (ofText text).toByteArray = text.toUTF8 := by
  conv => rhs; rw [← String.ofList_toList (s := text)]
  rw [String.toUTF8_eq_toByteArray]
  rfl

theorem text?_ofText (text : String) : text? (ofText text) = some text := by
  rw [text?, ofText_toByteArray, String.toUTF8_eq_toByteArray, String.fromUTF8?,
    dif_pos text.isValidUTF8]
  rfl

theorem ofText_inj {text other : String} : ofText text = ofText other ↔ text = other := by
  refine ⟨fun h => ?_, congrArg ofText⟩
  have ht := congrArg text? h
  rw [text?_ofText, text?_ofText] at ht
  exact Option.some.inj ht

theorem ofText_of_text? {octets : Octets} {text : String} (h : text? octets = some text) :
    ofText text = octets := by
  rw [text?, String.fromUTF8?] at h
  split at h
  · rw [Option.some.injEq] at h
    have hb : (ofText text).toByteArray = octets.toByteArray := by
      rw [ofText_toByteArray, String.toUTF8_eq_toByteArray, ← h]
      rfl
    have hd := congrArg (·.data.toList) hb
    simpa only [List.data_toByteArray] using hd
  · contradiction

/-- The octets are text exactly when they are the UTF-8 form of it. -/
theorem text?_eq_some_iff {octets : Octets} {text : String} :
    text? octets = some text ↔ octets = ofText text :=
  ⟨fun h => (ofText_of_text? h).symm, fun h => h ▸ text?_ofText text⟩

/-! ## Octets of ASCII -/

/-- An ASCII octet stands for a character of its own. -/
theorem toNat_of_mem_encode {octet : UInt8} {c : Char} (ho : octet < 0x80)
    (h : octet ∈ String.utf8EncodeChar c) : c.toNat = octet.toNat := by
  have hn : octet.toNat < 128 := ho
  have hc : c.toNat = c.val.toNat := rfl
  have high : ∀ n : Nat, 128 ≤ n → n < 256 → octet ≠ UInt8.ofNat n := by
    rintro n hl hh rfl
    rw [UInt8.toNat_ofNat', Nat.mod_eq_of_lt hh] at hn
    omega
  rw [String.utf8EncodeChar] at h
  split at h
  · rw [List.mem_singleton] at h
    rw [h, UInt8.toNat_ofNat']
    omega
  · -- Of longer forms no octet is ASCII.
    split at h
    · simp only [List.mem_cons, List.not_mem_nil, or_false] at h
      rcases h with h | h <;> exact absurd h (high _ (by omega) (by omega))
    · split at h
      · simp only [List.mem_cons, List.not_mem_nil, or_false] at h
        rcases h with h | h | h <;> exact absurd h (high _ (by omega) (by omega))
      · simp only [List.mem_cons, List.not_mem_nil, or_false] at h
        rcases h with h | h | h | h <;> exact absurd h (high _ (by omega) (by omega))

/-- An ASCII octet that is in the form of a text stands for a character of the
    text. -/
theorem not_mem_ofText {octet : UInt8} (ho : octet < 0x80) {text : String}
    (h : Char.ofNat octet.toNat ∉ text.toList) : octet ∉ ofText text := by
  intro hm
  obtain ⟨c, hc, hm⟩ := List.mem_flatMap.1 hm
  rw [← toNat_of_mem_encode ho hm, Char.ofNat_toNat] at h
  exact h hc

/-! ## Character by character -/

/-- The character that the octets begin with, if they begin with one. -/
def firstChar? (octets : Octets) : Option Char :=
  (octets.take 4).toByteArray.utf8DecodeChar? 0

theorem firstChar?_encode_append (c : Char) (rest : Octets) :
    firstChar? (String.utf8EncodeChar c ++ rest) = some c := by
  have hc : (String.utf8EncodeChar c).length ≤ 4 := by
    rw [String.length_utf8EncodeChar]
    exact c.utf8Size_le_four
  rw [firstChar?, List.take_append, List.take_of_length_le hc, List.toByteArray_append]
  exact ByteArray.utf8DecodeChar?_utf8EncodeChar_append

/-- The octets from the first one on that begins no character. -/
def unexplained : Octets → Octets
  | [] => []
  | octet :: rest =>
    match firstChar? (octet :: rest) with
    | some c => unexplained (rest.drop (c.utf8Size - 1))
    | none => octet :: rest
termination_by octets => octets.length
decreasing_by simp only [List.length_drop, List.length_cons]; omega

/-- Octets that only continue a character. -/
def isContinuation (octet : UInt8) : Bool :=
  0x80 ≤ octet && octet < 0xC0

/-- How many octets continue a character that starts with the given one, and
    between which bounds the first of them lies. The bounds keep out overlong
    forms, surrogates and what lies past the last code point. -/
def continuations (lead : UInt8) : Option (Nat × UInt8 × UInt8) :=
  if lead < 0xC2 then none
  else if lead < 0xE0 then some (1, 0x80, 0xBF)
  else if lead = 0xE0 then some (2, 0xA0, 0xBF)
  else if lead = 0xED then some (2, 0x80, 0x9F)
  else if lead < 0xF0 then some (2, 0x80, 0xBF)
  else if lead = 0xF0 then some (3, 0x90, 0xBF)
  else if lead < 0xF4 then some (3, 0x80, 0xBF)
  else if lead = 0xF4 then some (3, 0x80, 0x8F)
  else none

/-- How many octets after `lead` still belong to the character that `lead`
    announces, where that character is not completed. -/
def spoiledTail (lead : UInt8) (rest : Octets) : Nat :=
  match continuations lead, rest with
  | some (count, low, high), second :: others =>
    if low ≤ second && second ≤ high then
      1 + ((others.take (count - 1)).takeWhile isContinuation).length
    else 0
  | _, _ => 0

/-- The characters of the octets, with U+FFFD for every longest stretch that
    starts like a character and does not complete one. -/
def lossyChars : Octets → List Char
  | [] => []
  | octet :: rest =>
    match firstChar? (octet :: rest) with
    | some c => c :: lossyChars (rest.drop (c.utf8Size - 1))
    | none => '\uFFFD' :: lossyChars (rest.drop (spoiledTail octet rest))
termination_by octets => octets.length
decreasing_by all_goals simp only [List.length_drop, List.length_cons]; omega

/-- The octets as text, as well as they can be shown. -/
def lossy (octets : Octets) : String :=
  String.ofList (lossyChars octets)

end Octets

end SlackCourier
