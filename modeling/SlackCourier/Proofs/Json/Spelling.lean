import SlackCourier.Json.Printer
import SlackCourier.Json.Reader.Basic
import SlackCourier.Proofs.Json.Shape

/-!
# How JSON values are spelled

The grammar of JSON texts, as the octets that spell a value (`Spells`). There may
be blanks around every value and around every key, the members of an object are in
the order in which they are spelled, and there are several spellings of most
characters (`SpellsChar`): a character stands for itself, for itself behind a
backslash or with a letter there, or it is given by its code units in UTF-16, whose
digits are in either case. An integer has one spelling.

* `spells_toOctets`: what is written for a value spells it.
-/

namespace SlackCourier.Json

/-! ## Blanks -/

/-- Nothing but blanks. -/
def AreBlank (octets : Octets) : Prop :=
  ∀ octet ∈ octets, isBlank octet

instance : DecidablePred AreBlank :=
  fun octets => List.decidableBAll (isBlank ·) octets

/-- The octets are the given ones with blanks around them. -/
def Padded (core octets : Octets) : Prop :=
  ∃ before after, AreBlank before ∧ AreBlank after ∧ octets = before ++ (core ++ after)

theorem areBlank_nil : AreBlank [] :=
  fun _ h => absurd h List.not_mem_nil

theorem Padded.refl (core : Octets) : Padded core core :=
  ⟨[], [], areBlank_nil, areBlank_nil, (List.append_nil core).symm⟩

/-! ## Texts -/

/-- The letters behind a backslash, and what they stand for. -/
def shortEscapes : List (Char × Char) :=
  [('"', '"'), ('\\', '\\'), ('/', '/'), ('b', '\x08'), ('f', '\x0C'), ('n', '\n'), ('r', '\r'),
    ('t', '\t')]

/-- A hexadecimal digit in either case. -/
inductive SpellsDigit (n : Nat) : UInt8 → Prop
  | lower : SpellsDigit n (hexDigit n).toUInt8
  | upper : SpellsDigit n (hexDigit n).toUpper.toUInt8

/-- A code unit, escaped. -/
inductive SpellsUnit (unit : Nat) : Octets → Prop
  | mk {a b c d : UInt8} :
    SpellsDigit (unit / 0x1000) a → SpellsDigit (unit / 0x100 % 0x10) b →
    SpellsDigit (unit / 0x10 % 0x10) c → SpellsDigit (unit % 0x10) d →
    SpellsUnit unit ['\\'.toUInt8, 'u'.toUInt8, a, b, c, d]

/-- A character of a text. -/
inductive SpellsChar (c : Char) : Octets → Prop
  | plain : 0x20 ≤ c.toNat → c ≠ '"' → c ≠ '\\' → SpellsChar c (String.utf8EncodeChar c)
  | short {letter : Char} :
    (letter, c) ∈ shortEscapes → SpellsChar c ['\\'.toUInt8, letter.toUInt8]
  | unit {octets : Octets} : c.toNat < 0x10000 → SpellsUnit c.toNat octets → SpellsChar c octets
  | pair {high low : Octets} :
    0x10000 ≤ c.toNat → SpellsUnit (0xD800 + (c.toNat - 0x10000) / 0x400) high →
    SpellsUnit (0xDC00 + (c.toNat - 0x10000) % 0x400) low → SpellsChar c (high ++ low)

/-- Characters, one after the other. -/
inductive SpellsChars : List Char → Octets → Prop
  | nil : SpellsChars [] []
  | cons {c : Char} {chars : List Char} {first rest : Octets} :
    SpellsChar c first → SpellsChars chars rest → SpellsChars (c :: chars) (first ++ rest)

/-- A text between its quotes. -/
inductive SpellsText (text : String) : Octets → Prop
  | mk {held : Octets} :
    SpellsChars text.toList held → SpellsText text ('"'.toUInt8 :: (held ++ ['"'.toUInt8]))

/-! ## Values -/

/-- Octets with a comma between any two of them. -/
def commaSeparated (words : List Octets) : Octets :=
  [','.toUInt8].intercalate words

theorem commaSeparated_singleton (word : Octets) : commaSeparated [word] = word :=
  List.intercalate_singleton

theorem commaSeparated_cons (word next : Octets) (words : List Octets) :
    commaSeparated (word :: next :: words) =
      word ++ ','.toUInt8 :: commaSeparated (next :: words) := by
  rw [commaSeparated, List.intercalate_cons_cons, List.append_assoc]
  rfl

theorem length_le_commaSeparated {word : Octets} {words : List Octets} (h : word ∈ words) :
    word.length ≤ (commaSeparated words).length := by
  induction words with
  | nil => cases h
  | cons first words ih =>
    cases words with
    | nil =>
      obtain rfl := List.mem_singleton.mp h
      exact Nat.le_of_eq (congrArg List.length (commaSeparated_singleton _).symm)
    | cons next words =>
      rw [commaSeparated_cons, List.length_append, List.length_cons]
      obtain rfl | h := List.mem_cons.mp h
      · exact Nat.le_add_right _ _
      · exact Nat.le_trans (ih h) (by omega)

/-- A key of an object and its value, each with its spelling. -/
structure SpelledMember where
  key : String
  value : Json
  keyOctets : Octets
  valueOctets : Octets

namespace SpelledMember

/-- The member that is spelled. -/
def member (spelled : SpelledMember) : String × Json :=
  (spelled.key, spelled.value)

/-- The spelling of the member. -/
def octets (spelled : SpelledMember) : Octets :=
  spelled.keyOctets ++ ':'.toUInt8 :: spelled.valueOctets

end SpelledMember

/-- The octets spell the value. -/
inductive Spells : Json → Octets → Prop
  | null : Spells .null (Octets.ofText "null")
  | true : Spells (.bool true) (Octets.ofText "true")
  | false : Spells (.bool false) (Octets.ofText "false")
  | integer {value : Int} :
    -0x8000000000000000 ≤ value → value < 0x10000000000000000 →
    Spells (.number (.integer value)) (Octets.ofText (toString value))
  | text {value : String} {octets : Octets} :
    SpellsText value octets → Spells (.text value) octets
  | emptyList {blanks : Octets} :
    AreBlank blanks → Spells (.list []) ('['.toUInt8 :: (blanks ++ [']'.toUInt8]))
  | list {items : List (Json × Octets)} :
    items ≠ [] → (∀ item ∈ items, Spells item.1 item.2) →
    Spells (.list (items.map Prod.fst))
      ('['.toUInt8 :: (commaSeparated (items.map Prod.snd) ++ [']'.toUInt8]))
  | emptyObject {blanks : Octets} :
    AreBlank blanks → Spells (.object []) ('\x7b'.toUInt8 :: (blanks ++ ['\x7d'.toUInt8]))
  | object {members : List SpelledMember} :
    members ≠ [] →
    (∀ member ∈ members, ∃ core, SpellsText member.key core ∧ Padded core member.keyOctets) →
    (∀ member ∈ members, Spells member.value member.valueOctets) →
    Spells (.object (members.map SpelledMember.member))
      ('\x7b'.toUInt8 ::
        (commaSeparated (members.map SpelledMember.octets) ++ ['\x7d'.toUInt8]))
  | padded {value : Json} {core octets : Octets} :
    Spells value core → Padded core octets → Spells value octets

/-! ## What is written -/

/-- The octets of characters. -/
def encode (chars : List Char) : Octets :=
  chars.flatMap String.utf8EncodeChar

theorem toOctets_eq_encode (value : Json) : value.toOctets = encode value.write := by
  rw [toOctets, print, Octets.ofText_ofList, encode]

theorem encode_append (chars chars' : List Char) :
    encode (chars ++ chars') = encode chars ++ encode chars' :=
  List.flatMap_append

theorem encode_cons (c : Char) (chars : List Char) :
    encode (c :: chars) = String.utf8EncodeChar c ++ encode chars :=
  List.flatMap_cons

theorem encode_separated (words : List (List Char)) :
    encode (separated words) = commaSeparated (words.map encode) := by
  induction words with
  | nil => rfl
  | cons word words ih =>
    cases words with
    | nil => exact (commaSeparated_singleton _).symm
    | cons next words =>
      rw [separated, encode_append, encode_cons, ih, List.map_cons, List.map_cons, List.map_cons,
        commaSeparated_cons]
      · rfl
      · exact List.cons_ne_nil _ _

theorem write_list (items : List Json) :
    write (.list items) = '[' :: separated (items.map write) ++ [']'] := by
  have hi : writeItems items = items.map write := by
    induction items with
    | nil => rfl
    | cons item items ih => rw [writeItems, ih, List.map_cons]
  rw [write, hi]

theorem write_object (members : Members) :
    write (.object members) = '\x7b' :: separated (members.map writeMember) ++ ['\x7d'] := by
  have hm : writeMembers members = members.map writeMember := by
    induction members with
    | nil => rfl
    | cons member members ih => rw [writeMembers, ih, List.map_cons]
  rw [write, hm]

theorem toString_toList (value : Int) :
    (toString value).toList = (Number.integer value).chars := by
  cases value with
  | ofNat n => simp [Number.chars, Binary64.digitsOf, toString, Int.repr, Nat.repr]
  | negSucc n =>
    simp [Number.chars, Binary64.digitsOf, toString, Int.repr, Nat.repr, Int.negSucc_lt_zero]

theorem encode_hexDigit : ∀ n < 16, encode [hexDigit n] = [(hexDigit n).toUInt8] := by
  decide

/-- A control character without a letter is written with its code. -/
theorem spellsUnit_control {unit : Nat} (h : unit < 0x20) :
    SpellsUnit unit (encode ['\\', 'u', '0', '0', hexDigit (unit / 16), hexDigit (unit % 16)]) := by
  have hu : encode ['\\', 'u', '0', '0', hexDigit (unit / 16), hexDigit (unit % 16)] =
      ['\\'.toUInt8, 'u'.toUInt8, (hexDigit 0).toUInt8, (hexDigit 0).toUInt8,
        (hexDigit (unit / 16)).toUInt8, (hexDigit (unit % 16)).toUInt8] := by
    rw [show ['\\', 'u', '0', '0', hexDigit (unit / 16), hexDigit (unit % 16)] =
      ['\\', 'u', '0', '0'] ++ ([hexDigit (unit / 16)] ++ [hexDigit (unit % 16)]) from rfl,
      encode_append, encode_append, encode_hexDigit _ (by omega), encode_hexDigit _ (by omega)]
    rfl
  -- The two digits in front are zeros.
  have ha : unit / 0x1000 = 0 := by omega
  have hb : unit / 0x100 % 0x10 = 0 := by omega
  have hc : unit / 0x10 % 0x10 = unit / 0x10 := by omega
  have hd : SpellsUnit unit _ := .mk .lower .lower .lower .lower
  rwa [ha, hb, hc, ← hu] at hd

theorem mem_shortEscapes {c letter : Char} (h : escapeLetter? c = some letter) :
    (letter, c) ∈ shortEscapes := by
  unfold escapeLetter? at h
  repeat' split at h
  all_goals cases h
  all_goals subst c; decide

theorem encode_of_mem_shortEscapes :
    ∀ escape ∈ shortEscapes, encode [escape.1] = [escape.1.toUInt8] := by
  decide

theorem spellsChar_writeChar (c : Char) : SpellsChar c (encode (writeChar c)) := by
  rw [writeChar]
  cases h : escapeLetter? c with
  | some letter =>
    have hm := mem_shortEscapes h
    have he : encode ['\\', letter] = '\\'.toUInt8 :: encode [letter] := rfl
    dsimp only
    rw [he, encode_of_mem_shortEscapes _ hm]
    exact .short hm
  | none =>
    dsimp only
    split
    · next hc => exact .unit (by omega) (spellsUnit_control hc)
    · next hc =>
      rw [encode, List.flatMap_singleton]
      refine .plain (by omega) ?_ ?_
      · rintro rfl
        cases h
      · rintro rfl
        cases h

theorem spellsText_writeText (text : String) : SpellsText text (encode (writeText text)) := by
  have hs (chars : List Char) : SpellsChars chars (encode (chars.flatMap writeChar)) := by
    induction chars with
    | nil => exact .nil
    | cons c chars ih =>
      rw [List.flatMap_cons, encode_append]
      exact .cons (spellsChar_writeChar c) ih
  rw [writeText, encode_append, encode_cons]
  exact .mk (hs text.toList)

namespace SpelledMember

/-- A member as it is written. -/
def written (member : String × Json) : SpelledMember :=
  ⟨member.1, member.2, encode (writeText member.1), encode member.2.write⟩

theorem octets_written (member : String × Json) :
    (written member).octets = encode (writeMember member) := by
  rw [writeMember, encode_append, encode_cons]
  rfl

end SpelledMember

/-- What is written for a value spells it. -/
theorem spells_toOctets {value : Json} (h : value.IsIntegral) : Spells value value.toOctets := by
  rw [toOctets_eq_encode]
  induction h with
  | null => exact .null
  | bool value => cases value with
    | true => exact .true
    | false => exact .false
  | number hl hu =>
    rw [write, ← toString_toList]
    exact .integer hl hu
  | text value =>
    rw [write]
    exact .text (spellsText_writeText value)
  | @list items h ih =>
    have hw : encode ('[' :: separated (items.map write) ++ [']']) =
        '['.toUInt8 :: (commaSeparated (items.map (encode ∘ write)) ++ [']'.toUInt8]) := by
      rw [encode_append, encode_cons, encode_separated, List.map_map]
      rfl
    rw [write_list, hw]
    by_cases hne : items = []
    · subst hne
      exact .emptyList areBlank_nil
    · let spelled := items.map fun item => (item, encode item.write)
      have hs : Spells (.list (spelled.map Prod.fst)) _ :=
        .list (fun hn => hne (List.map_eq_nil_iff.mp hn)) (List.forall_mem_map.mpr ih)
      rw [List.map_map, List.map_map] at hs
      rwa [show items.map (Prod.fst ∘ fun item => (item, encode item.write)) = items from
        List.map_id items] at hs
  | @object members h ih =>
    have hw : encode ('\x7b' :: separated (members.map writeMember) ++ ['\x7d']) =
        '\x7b'.toUInt8 :: (commaSeparated (members.map (encode ∘ writeMember))
          ++ ['\x7d'.toUInt8]) := by
      rw [encode_append, encode_cons, encode_separated, List.map_map]
      rfl
    rw [write_object, hw]
    by_cases hne : members = []
    · subst hne
      exact .emptyObject areBlank_nil
    · let spelled := members.map SpelledMember.written
      have hs : Spells (.object (spelled.map SpelledMember.member)) _ :=
        .object (fun hn => hne (List.map_eq_nil_iff.mp hn))
          (List.forall_mem_map.mpr fun member _ => ⟨_, spellsText_writeText member.1, .refl _⟩)
          (List.forall_mem_map.mpr ih)
      rw [List.map_map, List.map_map] at hs
      rwa [show members.map (SpelledMember.member ∘ SpelledMember.written) = members from
        List.map_id members, show SpelledMember.octets ∘ SpelledMember.written =
          encode ∘ writeMember from funext SpelledMember.octets_written] at hs

end SlackCourier.Json
