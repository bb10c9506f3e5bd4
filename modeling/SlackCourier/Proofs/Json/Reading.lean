import Mathlib.Data.List.DropRight
import SlackCourier.Proofs.Json.Scalars

/-!
# Values are read back

Between two tokens the reader and the grammar do not meet: blanks that belong to
the spelling of a value may still stand in front when its reader is done. So what
is read is compared up to blanks in front (`Reads`). Lists and objects are read
back with any reader that reads their items back (`readList_of_reads`) or answers
for their members (`readObject_of_answers`), and values by induction on how they are
spelled.

* `parse_of_spells`: however a value is spelled, it is read back with the members of
  its objects in order, if it is not too deep.
* `parse_toOctets`: so is what is written for it.
-/

namespace SlackCourier.Json

variable {α σ : Type} {octets core front rest : Octets} {limit : Nat}

/-! ## Blanks -/

theorem skipBlanks_append (h : AreBlank octets) (rest : Octets) :
    skipBlanks (octets ++ rest) = skipBlanks rest :=
  List.dropWhile_append_of_pos h

theorem skipBlanks_cons {octet : UInt8} (h : isBlank octet = false) (rest : Octets) :
    skipBlanks (octet :: rest) = octet :: rest := by
  rw [skipBlanks, List.dropWhile_cons, h]
  rfl

theorem skipBlanks_skipBlanks (octets : Octets) :
    skipBlanks (skipBlanks octets) = skipBlanks octets :=
  List.dropWhile_idempotent isBlank octets

theorem endsNumber_comma (rest : Octets) : EndsNumber (','.toUInt8 :: rest) :=
  ⟨by decide, by decide, by decide, by decide⟩

theorem endsNumber_bracket (rest : Octets) : EndsNumber (']'.toUInt8 :: rest) :=
  ⟨by decide, by decide, by decide, by decide⟩

theorem endsNumber_brace (rest : Octets) : EndsNumber ('\x7d'.toUInt8 :: rest) :=
  ⟨by decide, by decide, by decide, by decide⟩

theorem EndsNumber.of_isBlank {octet : UInt8} (h : isBlank octet) (rest : Octets) :
    EndsNumber (octet :: rest) := by
  simp only [isBlank, Bool.or_eq_true, decide_eq_true_iff] at h
  obtain ((rfl | rfl) | rfl) | rfl := h <;> exact ⟨by decide, by decide, by decide, by decide⟩

theorem EndsNumber.append (h : AreBlank octets) (he : EndsNumber rest) :
    EndsNumber (octets ++ rest) := by
  cases octets with
  | nil => exact he
  | cons octet octets => exact .of_isBlank (h octet List.mem_cons_self) _

/-! ## Reading up to blanks -/

/-- Behind any blanks stands something that closes neither a list nor an object. -/
def Begins (octets : Octets) : Prop :=
  ∀ rest, ∃ octet after, skipBlanks (octets ++ rest) = octet :: after ∧
    octet ≠ ']'.toUInt8 ∧ octet ≠ '\x7d'.toUInt8

/-- The reader takes the value from the octets, with blanks in front or not, and
    leaves what follows them, up to blanks in front. What follows must not go on with
    a number. -/
structure Reads (reader : Reader α) (octets : Octets) (value : α) : Prop where
  begins : Begins octets
  reads : ∀ front rest, skipBlanks front = skipBlanks (octets ++ rest) → EndsNumber rest →
    ∃ after, reader front = .ok (value, after) ∧ skipBlanks after = skipBlanks rest

/-- Something other than a blank is in front, and it closes nothing. -/
def Starts : Octets → Prop
  | [] => False
  | octet :: _ => isBlank octet = false ∧ octet ≠ ']'.toUInt8 ∧ octet ≠ '\x7d'.toUInt8

theorem Starts.of_cons {octet : UInt8} (hb : isBlank octet = false) (hl : octet ≠ ']'.toUInt8)
    (ho : octet ≠ '\x7d'.toUInt8) (octets : Octets) : Starts (octet :: octets) :=
  ⟨hb, hl, ho⟩

theorem Starts.skipBlanks_append (h : Starts octets) (rest : Octets) :
    skipBlanks (octets ++ rest) = octets ++ rest := by
  cases octets with
  | nil => exact h.elim
  | cons octet octets => exact skipBlanks_cons h.1 _

theorem Starts.begins (h : Starts octets) : Begins octets := by
  intro rest
  rw [h.skipBlanks_append]
  cases octets with
  | nil => exact h.elim
  | cons octet octets => exact ⟨octet, octets ++ rest, rfl, h.2⟩

theorem Begins.append (h : Begins octets) (rest : Octets) : Begins (octets ++ rest) :=
  fun rest' => by
    rw [List.append_assoc]
    exact h (rest ++ rest')

theorem Begins.padded (h : Begins core) (hp : Padded core octets) : Begins octets := by
  obtain ⟨before, after, hb, -, rfl⟩ := hp
  intro rest
  rw [List.append_assoc, skipBlanks_append hb, List.append_assoc]
  exact h (after ++ rest)

/-- Blanks around a value make no difference. -/
theorem Reads.padded {reader : Reader α} {value : α} (h : Reads reader core value)
    (hp : Padded core octets) : Reads reader octets value where
  begins := h.begins.padded hp
  reads front rest hf he := by
    obtain ⟨before, after, hb, ha, rfl⟩ := hp
    rw [List.append_assoc, skipBlanks_append hb, List.append_assoc] at hf
    obtain ⟨after', hr, hs⟩ := h.reads front (after ++ rest) hf (.append ha he)
    exact ⟨after', hr, by rw [hs, skipBlanks_append ha]⟩

/-! ## Reading what may be refused -/

/-- What comes of reading: the value and what follows it, up to blanks in front, or a
    refusal where there is no value to be read. -/
inductive Yields (rest : Octets) : Except Stop (α × Octets) → Option α → Prop
  | value {value : α} {after : Octets} :
    skipBlanks after = skipBlanks rest → Yields rest (.ok (value, after)) (some value)
  | refusal {stop : Stop} : Yields rest (.error stop) none

/-- One thing is read after the other, unless it is refused. -/
theorem Yields.bind {rest' : Octets} {result : Except Stop (α × Octets)} {answer : Option α}
    {next : α × Octets → Except Stop (σ × Octets)} {answer' : α → Option σ}
    (h : Yields rest result answer)
    (hn : ∀ value after, skipBlanks after = skipBlanks rest →
      Yields rest' (next (value, after)) (answer' value)) :
    Yields rest' (result >>= next) (answer >>= answer') := by
  cases h with
  | value hs => exact hn _ _ hs
  | refusal => exact .refusal

theorem Yields.congr {rest' : Octets} {result : Except Stop (α × Octets)} {answer : Option α}
    (h : Yields rest result answer) (hs : skipBlanks rest = skipBlanks rest') :
    Yields rest' result answer := by
  cases h with
  | value ha => exact .value (ha.trans hs)
  | refusal => exact .refusal

theorem Yields.of_some {result : Except Stop (α × Octets)} {value : α}
    (h : Yields rest result (some value)) :
    ∃ after, result = .ok (value, after) ∧ skipBlanks after = skipBlanks rest := by
  cases h with
  | value hs => exact ⟨_, rfl, hs⟩

/-- The reader takes the answer from the octets, with blanks in front or not, or refuses
    them if there is none. What follows must not go on with a number. -/
structure Answers (reader : Reader α) (octets : Octets) (answer : Option α) : Prop where
  begins : Begins octets
  yields : ∀ front rest, skipBlanks front = skipBlanks (octets ++ rest) → EndsNumber rest →
    Yields rest (reader front) answer

theorem Reads.answers {reader : Reader α} {value : α} (h : Reads reader octets value) :
    Answers reader octets (some value) where
  begins := h.begins
  yields front rest hf he := by
    obtain ⟨after, hr, hs⟩ := h.reads front rest hf he
    rw [hr]
    exact .value hs

/-! ## Lists -/

theorem Begins.commaSeparated {word : Octets} (h : Begins word) (words : List Octets) :
    Begins (commaSeparated (word :: words)) := by
  cases words with
  | nil => rwa [commaSeparated_singleton]
  | cons next words =>
    rw [commaSeparated_cons]
    exact h.append _

/-- Items with commas between them are read up to the closing bracket. -/
theorem readItems_of_reads {item : Reader α} {words : List (Octets × α)} (hne : words ≠ [])
    (h : ∀ word ∈ words, Reads item word.1 word.2)
    (hl : (commaSeparated (words.map Prod.fst)).length < limit) (earlier : List α)
    (hf : skipBlanks front =
      skipBlanks (commaSeparated (words.map Prod.fst) ++ ']'.toUInt8 :: rest)) :
    readItems item limit earlier front = .ok (earlier.reverse ++ words.map Prod.snd, rest) := by
  induction words generalizing limit earlier front with
  | nil => exact absurd rfl hne
  | cons word words ih =>
    obtain ⟨limit, rfl⟩ := Nat.exists_eq_add_one_of_ne_zero (Nat.ne_of_gt (Nat.zero_lt_of_lt hl))
    obtain ⟨hw, hws⟩ := List.forall_mem_cons.mp h
    cases words with
    | nil =>
      -- The bracket follows the last item, perhaps behind blanks that are its own.
      rw [List.map_singleton, commaSeparated_singleton] at hf
      obtain ⟨after, hr, hs⟩ := hw.reads front _ hf (endsNumber_bracket rest)
      rw [skipBlanks_cons (by decide)] at hs
      rw [readItems, hr, ok_bind]
      dsimp only
      rw [hs]
      dsimp only
      rw [if_pos rfl, List.reverse_cons]
      rfl
    | cons next words =>
      rw [List.map_cons, List.map_cons, commaSeparated_cons, List.length_append,
        List.length_cons] at hl
      rw [List.map_cons, List.map_cons, commaSeparated_cons, List.append_assoc,
        List.cons_append] at hf
      obtain ⟨after, hr, hs⟩ := hw.reads front _ hf (endsNumber_comma _)
      rw [skipBlanks_cons (by decide)] at hs
      -- What follows the comma is an item, and no bracket that would close the list.
      obtain ⟨octet, after', hb, hc, -⟩ :=
        (hws next List.mem_cons_self).begins.commaSeparated (words.map Prod.fst)
          (']'.toUInt8 :: rest)
      have hn : skipBlanks (octet :: after') = skipBlanks
          (commaSeparated ((next :: words).map Prod.fst) ++ ']'.toUInt8 :: rest) := by
        rw [← hb, skipBlanks_skipBlanks, List.map_cons]
      have ih := ih (List.cons_ne_nil _ _) hws (Nat.lt_of_le_of_lt (Nat.le_add_left _ _)
        (Nat.lt_of_succ_lt_succ hl)) (word.2 :: earlier) hn
      rw [readItems, hr, ok_bind]
      dsimp only
      rw [hs]
      dsimp only
      rw [if_neg (by decide), if_pos rfl, hb]
      dsimp only
      rw [if_neg hc, ih, List.reverse_cons, List.append_assoc]
      rfl

theorem readList_of_reads {item : Reader α} {words : List (Octets × α)} (hne : words ≠ [])
    (h : ∀ word ∈ words, Reads item word.1 word.2)
    (hl : (commaSeparated (words.map Prod.fst)).length < limit) (rest : Octets) :
    readList item limit (commaSeparated (words.map Prod.fst) ++ ']'.toUInt8 :: rest) =
      .ok (words.map Prod.snd, rest) := by
  obtain ⟨octet, after, hb, hc, -⟩ : ∃ octet after,
      skipBlanks (commaSeparated (words.map Prod.fst) ++ ']'.toUInt8 :: rest) = octet :: after ∧
        octet ≠ ']'.toUInt8 ∧ octet ≠ '\x7d'.toUInt8 := by
    obtain ⟨word, words, rfl⟩ := List.exists_cons_of_ne_nil hne
    exact (h word List.mem_cons_self).begins.commaSeparated _ _
  rw [readList, hb]
  dsimp only
  rw [if_neg hc, readItems_of_reads hne h hl [] (by rw [← hb, skipBlanks_skipBlanks])]
  rfl

/-! ## Objects -/

/-- Behind any blanks the key stands between its quotes. -/
theorem readKey_of_padded {key : String} (hs : SpellsText key core) (hp : Padded core octets)
    (hl : octets.length ≤ limit) (rest : Octets) :
    ∃ opened after, skipBlanks (octets ++ rest) = '"'.toUInt8 :: opened ∧
      readText limit opened = .ok (key, after) ∧ skipBlanks after = skipBlanks rest := by
  obtain ⟨before, after, hb, ha, rfl⟩ := hp
  obtain @⟨held, hh⟩ := hs
  simp only [List.length_append, List.length_cons, List.length_nil] at hl
  refine ⟨held ++ '"'.toUInt8 :: (after ++ rest), after ++ rest, ?_,
    readText_of_spells hh (by omega) _, skipBlanks_append ha rest⟩
  rw [List.append_assoc, skipBlanks_append hb, List.cons_append, List.cons_append,
    skipBlanks_cons (by decide), List.append_assoc, List.append_assoc]
  rfl

/-- Behind the key the reader of a member takes the member, or refuses it. -/
structure AnswersMember (member : σ → String → Reader σ) (step : σ → String × Json → Option σ)
    (spelled : SpelledMember) : Prop where
  key : ∃ core, SpellsText spelled.key core ∧ Padded core spelled.keyOctets
  value : ∀ gathered, Answers (member gathered spelled.key) (':'.toUInt8 :: spelled.valueOctets)
    (step gathered spelled.member)

theorem SpelledMember.begins {member : SpelledMember}
    (h : ∃ core, SpellsText member.key core ∧ Padded core member.keyOctets) :
    Begins member.octets := by
  obtain ⟨core, hs, hp⟩ := h
  have hc : Begins core := by
    cases hs
    exact Starts.begins (.of_cons (by decide) (by decide) (by decide) _)
  exact (hc.padded hp).append _

/-- How reading goes on behind a member. -/
def goOn (member : σ → String → Reader σ) (limit : Nat) (gathered : σ) : Reader σ := fun octets =>
  match skipBlanks octets with
  | [] => .error (.atEnd .endInObject)
  | octet :: rest =>
    if octet = '\x7d'.toUInt8 then .ok (gathered, rest)
    else if octet = ','.toUInt8 then
      match skipBlanks rest with
      | [] => .error (.atEnd .endInValue)
      | next :: rest =>
        if next = '\x7d'.toUInt8 then .error (.on .trailingComma (next :: rest))
        else readMembers member limit gathered (next :: rest)
    else .error (.on .expectedCommaOrObjectEnd (octet :: rest))

theorem goOn_of_brace {member : σ → String → Reader σ} {gathered : σ}
    (hs : skipBlanks front = '\x7d'.toUInt8 :: rest) :
    goOn member limit gathered front = .ok (gathered, rest) := by
  rw [goOn, hs]
  rfl

theorem goOn_of_comma {member : σ → String → Reader σ} {gathered : σ} {next : UInt8}
    {after : Octets} (hs : skipBlanks front = ','.toUInt8 :: rest)
    (hn : skipBlanks rest = next :: after) (hne : next ≠ '\x7d'.toUInt8) :
    goOn member limit gathered front = readMembers member limit gathered (next :: after) := by
  rw [goOn, hs]
  dsimp only
  rw [if_neg (by decide), if_pos rfl, hn]
  dsimp only
  rw [if_neg hne]

/-- A turn of the loop takes the key and hands on to the reader of the member. -/
theorem readMembers_of_first (member : σ → String → Reader σ) {first : SpelledMember}
    (h : ∃ core, SpellsText first.key core ∧ Padded core first.keyOctets)
    (hl : first.keyOctets.length ≤ limit) (gathered : σ) (rest : Octets) :
    ∃ behind, skipBlanks behind = skipBlanks (':'.toUInt8 :: first.valueOctets ++ rest) ∧
      readMembers member (limit + 1) gathered (skipBlanks (first.octets ++ rest)) =
        member gathered first.key behind >>= fun (gathered, rest) =>
          goOn member limit gathered rest := by
  obtain ⟨core, hs, hp⟩ := h
  obtain ⟨opened, behind, ho, hk, hb⟩ := readKey_of_padded hs hp hl
    (':'.toUInt8 :: first.valueOctets ++ rest)
  refine ⟨behind, hb, ?_⟩
  rw [SpelledMember.octets, List.append_assoc, ho, readMembers, readKeyQuote, if_pos rfl, ok_bind]
  dsimp only
  rw [hk, ok_bind]
  rfl

/-- Members with commas between them are read up to the closing brace, each of them with
    what was gathered before, until one is refused. -/
theorem readMembers_of_answers {member : σ → String → Reader σ}
    {step : σ → String × Json → Option σ} {members : List SpelledMember} (hne : members ≠ [])
    (h : ∀ spelled ∈ members, AnswersMember member step spelled)
    (hl : (commaSeparated (members.map SpelledMember.octets)).length < limit) (gathered : σ)
    (rest : Octets) :
    Yields rest
      (readMembers member limit gathered (skipBlanks
        (commaSeparated (members.map SpelledMember.octets) ++ '\x7d'.toUInt8 :: rest)))
      ((members.map SpelledMember.member).foldlM step gathered) := by
  induction members generalizing limit gathered with
  | nil => exact absurd rfl hne
  | cons first members ih =>
    obtain ⟨limit, rfl⟩ := Nat.exists_eq_add_one_of_ne_zero (Nat.ne_of_gt (Nat.zero_lt_of_lt hl))
    obtain ⟨hf, hm⟩ := List.forall_mem_cons.mp h
    have hk : first.keyOctets.length ≤ first.octets.length := by
      rw [SpelledMember.octets, List.length_append]
      exact Nat.le_add_right _ _
    rw [List.map_cons] at hl
    rw [List.map_cons, List.map_cons, List.foldlM_cons]
    cases members with
    | nil =>
      rw [List.map_nil, commaSeparated_singleton] at hl
      rw [List.map_nil, commaSeparated_singleton]
      obtain ⟨behind, hb, hr⟩ := readMembers_of_first member hf.key
        (Nat.le_trans hk (Nat.le_of_lt_succ hl)) gathered ('\x7d'.toUInt8 :: rest)
      rw [hr]
      refine ((hf.value gathered).yields behind _ hb (endsNumber_brace rest)).bind ?_
      intro next after hs
      rw [skipBlanks_cons (by decide)] at hs
      dsimp only
      rw [goOn_of_brace hs]
      exact .value rfl
    | cons next members =>
      rw [List.map_cons, commaSeparated_cons, List.length_append, List.length_cons] at hl
      have hkl : first.keyOctets.length ≤ limit := by omega
      obtain ⟨behind, hb, hr⟩ := readMembers_of_first member hf.key hkl gathered
        (','.toUInt8 :: (commaSeparated (next.octets :: members.map SpelledMember.octets)
          ++ '\x7d'.toUInt8 :: rest))
      rw [List.map_cons, commaSeparated_cons, List.append_assoc, List.cons_append, hr]
      refine ((hf.value gathered).yields behind _ hb (endsNumber_comma _)).bind ?_
      intro gathered' after hs
      -- What follows the comma is a member, and no brace that would close the object.
      obtain ⟨octet, after', hn, -, hc⟩ :=
        (SpelledMember.begins (hm next List.mem_cons_self).key).commaSeparated
          (members.map SpelledMember.octets) ('\x7d'.toUInt8 :: rest)
      have ih := ih (List.cons_ne_nil _ _) hm (Nat.lt_of_le_of_lt (Nat.le_add_left _ _)
        (Nat.lt_of_succ_lt_succ hl)) gathered'
      rw [skipBlanks_cons (by decide)] at hs
      rw [List.map_cons, hn] at ih
      dsimp only
      rwa [goOn_of_comma hs hn hc]

theorem readObject_of_answers {member : σ → String → Reader σ}
    {step : σ → String × Json → Option σ} {members : List SpelledMember} (hne : members ≠ [])
    (h : ∀ spelled ∈ members, AnswersMember member step spelled)
    (hl : (commaSeparated (members.map SpelledMember.octets)).length < limit) (start : σ)
    (rest : Octets) :
    Yields rest
      (readObject member limit start
        (commaSeparated (members.map SpelledMember.octets) ++ '\x7d'.toUInt8 :: rest))
      ((members.map SpelledMember.member).foldlM step start) := by
  have hm := readMembers_of_answers hne h hl start rest
  obtain ⟨octet, after, hb, -, hc⟩ : ∃ octet after,
      skipBlanks (commaSeparated (members.map SpelledMember.octets) ++ '\x7d'.toUInt8 :: rest) =
        octet :: after ∧ octet ≠ ']'.toUInt8 ∧ octet ≠ '\x7d'.toUInt8 := by
    obtain ⟨first, members, rfl⟩ := List.exists_cons_of_ne_nil hne
    exact (SpelledMember.begins (h first List.mem_cons_self).key).commaSeparated _ _
  rw [hb] at hm
  rw [readObject, hb]
  dsimp only
  rwa [if_neg hc]

/-! ## Scalars -/

/-- Blanks in front of a value make no difference. -/
theorem readFound_skipBlanks (octets : Octets) :
    readFound limit (skipBlanks octets) = readFound limit octets := by
  rw [readFound, readFound, skipBlanks_skipBlanks]

theorem readFound_null (hf : skipBlanks front = Octets.ofText "null" ++ rest) :
    readFound limit front = .ok (.null, rest) := by
  rw [readFound, hf]
  rfl

theorem readFound_true (hf : skipBlanks front = Octets.ofText "true" ++ rest) :
    readFound limit front = .ok (.bool true, rest) := by
  rw [readFound, hf]
  rfl

theorem readFound_false (hf : skipBlanks front = Octets.ofText "false" ++ rest) :
    readFound limit front = .ok (.bool false, rest) := by
  rw [readFound, hf]
  rfl

theorem readFound_text (hf : skipBlanks front = '"'.toUInt8 :: octets) {text : String}
    (h : readText limit octets = .ok (text, rest)) :
    readFound limit front = .ok (.text text, rest) := by
  rw [readFound, hf]
  dsimp only
  rw [if_neg (by decide), if_neg (by decide), if_neg (by decide), if_neg (by decide),
    if_neg (by decide), if_pos rfl, h, ok_bind]

theorem readFound_list (hf : skipBlanks front = '['.toUInt8 :: rest) :
    readFound limit front = .ok (.list, '['.toUInt8 :: rest) := by
  rw [readFound, hf]
  rfl

theorem readFound_object (hf : skipBlanks front = '\x7b'.toUInt8 :: rest) :
    readFound limit front = .ok (.object, '\x7b'.toUInt8 :: rest) := by
  rw [readFound, hf]
  rfl

/-- An integer is found with its sign and its digits. -/
theorem readFound_integer {value : Int} (hl : -0x8000000000000000 ≤ value)
    (hu : value < 0x10000000000000000) (he : EndsNumber rest)
    (hf : skipBlanks front = encode (Number.chars (.integer value)) ++ rest) :
    readFound limit front = .ok (.number (.integer value), rest) := by
  have hr := readUnsigned_digits hl hu he
  rw [readFound, hf, Number.chars]
  by_cases hs : value < 0
  · rw [decide_eq_true hs] at hr
    have hm : encode ('-' :: Binary64.digitsOf value.natAbs) ++ rest =
        '-'.toUInt8 :: (encode (Binary64.digitsOf value.natAbs) ++ rest) := rfl
    rw [if_pos hs, List.singleton_append, hm]
    dsimp only
    rw [if_neg (by decide), if_neg (by decide), if_neg (by decide), if_pos rfl, hr, ok_bind]
  · rw [decide_eq_false hs] at hr
    -- The first octet is a digit, so none of the other cases applies.
    obtain ⟨first, digits, hd, hi⟩ := exists_encode_digits value.natAbs
    rw [hd, List.cons_append] at hr
    rw [if_neg hs, List.nil_append, hd, List.cons_append]
    dsimp only
    rw [if_neg (ne_of_isDigit hi (by decide)), if_neg (ne_of_isDigit hi (by decide)),
      if_neg (ne_of_isDigit hi (by decide)), if_neg (ne_of_isDigit hi (by decide)), if_pos hi, hr,
      ok_bind]

theorem ofText_toString (value : Int) :
    Octets.ofText (toString value) = encode (Number.chars (.integer value)) := by
  rw [← toString_toList]
  rfl

theorem starts_integer (value : Int) : Starts (encode (Number.chars (.integer value))) := by
  rw [Number.chars]
  split
  · exact .of_cons (by decide) (by decide) (by decide) _
  · obtain ⟨first, digits, hd, hi⟩ := exists_encode_digits value.natAbs
    rw [List.nil_append, hd]
    refine ⟨Bool.eq_false_iff.mpr fun hb => ?_, ne_of_isDigit hi (by decide),
      ne_of_isDigit hi (by decide)⟩
    exact Bool.false_ne_true ((EndsNumber.of_isBlank hb digits).1.symm.trans hi)

/-! ## Values -/

/-- What is found of a value. -/
def found : Json → Found
  | null => .null
  | bool value => .bool value
  | number value => .number value
  | text value => .text value
  | list _ => .list
  | object _ => .object

/-- The value that was found, if it is a scalar. -/
def Found.scalar? : Found → Option Json
  | null => some .null
  | bool value => some (.bool value)
  | number value => some (.number value)
  | text value => some (.text value)
  | list => none
  | object => none

/-- Nothing that spells a value begins like the end of a list or of an object. -/
theorem Spells.begins {value : Json} (h : Spells value octets) : Begins octets := by
  induction h with
  | @integer value =>
    rw [ofText_toString]
    exact (starts_integer value).begins
  | text ht =>
    cases ht
    exact Starts.begins (.of_cons (by decide) (by decide) (by decide) _)
  | padded _ hp ih => exact ih.padded hp
  | _ => exact Starts.begins (.of_cons (by decide) (by decide) (by decide) _)

/-- However a value is spelled, it is found. A scalar is taken, and a list or an object is
    left where it stands. -/
theorem readFound_of_spells {value : Json} (h : Spells value octets) (hl : octets.length ≤ limit)
    (hf : skipBlanks front = skipBlanks (octets ++ rest)) (he : EndsNumber rest) :
    ∃ after, readFound limit front = .ok (value.found, after) ∧
      (value.found.scalar? = some value → skipBlanks after = skipBlanks rest) ∧
      (value.found.scalar? = none → after = skipBlanks front) := by
  induction h generalizing rest with
  | null => exact ⟨rest, readFound_null hf, fun _ => rfl, nofun⟩
  | true => exact ⟨rest, readFound_true hf, fun _ => rfl, nofun⟩
  | false => exact ⟨rest, readFound_false hf, fun _ => rfl, nofun⟩
  | @integer value hn hu =>
    -- Only here it matters that nothing goes on with a number behind it.
    rw [ofText_toString, (starts_integer value).skipBlanks_append] at hf
    exact ⟨rest, readFound_integer hn hu he hf, fun _ => rfl, nofun⟩
  | text ht =>
    obtain @⟨held, hh⟩ := ht
    rw [List.length_cons, List.length_append, List.length_singleton] at hl
    rw [List.cons_append, skipBlanks_cons (by decide), List.append_assoc] at hf
    exact ⟨rest, readFound_text hf (readText_of_spells hh (by omega) rest), fun _ => rfl, nofun⟩
  | emptyList =>
    rw [List.cons_append, skipBlanks_cons (by decide)] at hf
    exact ⟨_, readFound_list hf, nofun, fun _ => hf.symm⟩
  | list =>
    rw [List.cons_append, skipBlanks_cons (by decide)] at hf
    exact ⟨_, readFound_list hf, nofun, fun _ => hf.symm⟩
  | emptyObject =>
    rw [List.cons_append, skipBlanks_cons (by decide)] at hf
    exact ⟨_, readFound_object hf, nofun, fun _ => hf.symm⟩
  | object =>
    rw [List.cons_append, skipBlanks_cons (by decide)] at hf
    exact ⟨_, readFound_object hf, nofun, fun _ => hf.symm⟩
  | padded _ hp ih =>
    obtain ⟨before, after, hb, ha, rfl⟩ := hp
    simp only [List.length_append] at hl
    rw [List.append_assoc, skipBlanks_append hb, List.append_assoc] at hf
    obtain ⟨after', hr, hs, hc⟩ := ih (by omega) hf (.append ha he)
    exact ⟨after', hr, fun h => by rw [hs h, skipBlanks_append ha], hc⟩

theorem readValue_of_scalar {found : Found} {value : Json} {depth : Nat}
    (h : readFound limit octets = .ok (found, rest))
    (hf : found.scalar? = some value) : readValue limit depth octets = .ok (value, rest) := by
  rw [readValue, h, ok_bind]
  cases found <;> cases hf <;> rfl

theorem readValue_of_object {members : Members} {depth : Nat}
    (h : readFound limit octets = .ok (.object, front))
    (hm : readObject (readMember (readValue limit depth)) limit [] front.tail =
      .ok (members, rest)) :
    readValue limit (depth + 1) octets = .ok (.object members, rest) := by
  rw [readValue, h, ok_bind]
  dsimp only
  rw [hm, ok_bind]

/-- A scalar is read back at any depth. -/
theorem Reads.of_scalar {value : Json} (h : Spells value octets) (hl : octets.length ≤ limit)
    (hv : value.found.scalar? = some value) {depth : Nat} :
    Reads (readValue limit depth) octets value where
  begins := h.begins
  reads front rest hf he := by
    obtain ⟨after, hr, hs, -⟩ := readFound_of_spells h hl hf he
    exact ⟨after, readValue_of_scalar hr hv, hs hv⟩

/-- A list is read back if its items are, one level further down. -/
theorem Reads.of_list {items : List Json} {depth : Nat}
    (h : ∀ rest, readList (readValue limit depth) limit (octets ++ rest) = .ok (items, rest)) :
    Reads (readValue limit (depth + 1)) ('['.toUInt8 :: octets) (.list items) where
  begins := Starts.begins (.of_cons (by decide) (by decide) (by decide) _)
  reads front rest hf _ := by
    refine ⟨rest, ?_, rfl⟩
    rw [readValue, readFound_list (hf.trans (skipBlanks_cons (by decide) _)), ok_bind]
    dsimp only [List.tail_cons]
    rw [show octets.append rest = octets ++ rest from rfl, h, ok_bind]

/-- An object is read back if its members are, one level further down. -/
theorem Reads.of_object {members : Members} {depth : Nat}
    (h : ∀ rest, Yields rest
      (readObject (readMember (readValue limit depth)) limit [] (octets ++ rest))
      (some members)) :
    Reads (readValue limit (depth + 1)) ('\x7b'.toUInt8 :: octets) (.object members) where
  begins := Starts.begins (.of_cons (by decide) (by decide) (by decide) _)
  reads front rest hf _ := by
    obtain ⟨after, hr, hs⟩ := (h rest).of_some
    exact ⟨after, readValue_of_object
      (readFound_object (hf.trans (skipBlanks_cons (by decide) _))) hr, hs⟩

theorem readColon_of_colon (hf : skipBlanks front = skipBlanks (':'.toUInt8 :: rest)) :
    readColon front = .ok ((), rest) := by
  rw [readColon, hf, skipBlanks_cons (by decide)]
  rfl

theorem begins_colon (octets : Octets) : Begins (':'.toUInt8 :: octets) :=
  Starts.begins (.of_cons (by decide) (by decide) (by decide) _)

/-- Behind a key the value of a member is put among the others. -/
theorem Reads.of_member {reader : Reader Json} {value : Json} (h : Reads reader octets value)
    (key : String) (gathered : Members) :
    Reads (readMember reader gathered key) (':'.toUInt8 :: octets) (gathered.put key value) where
  begins := begins_colon octets
  reads front rest hf he := by
    obtain ⟨after, hr, hs⟩ := h.reads (octets ++ rest) rest rfl he
    refine ⟨after, ?_, hs⟩
    rw [List.cons_append] at hf
    rw [readMember, readColon_of_colon hf, ok_bind]
    dsimp only
    rw [hr, ok_bind]

/-- However a value is spelled, it is read back with the members of its objects in
    order. -/
theorem reads_of_spells {value : Json} (h : Spells value octets) {depth : Nat}
    (hd : value.depth ≤ depth) (hl : octets.length ≤ limit) :
    Reads (readValue limit depth) octets value.ordered := by
  induction h generalizing depth with
  | null => exact .of_scalar .null hl rfl
  | true => exact .of_scalar .true hl rfl
  | false => exact .of_scalar .false hl rfl
  | integer hn hu => exact .of_scalar (.integer hn hu) hl rfl
  | text ht => exact .of_scalar (.text ht) hl rfl
  | @emptyList blanks hb =>
    obtain ⟨depth, rfl⟩ := Nat.exists_eq_add_one_of_ne_zero (Nat.ne_of_gt hd)
    refine .of_list fun rest => ?_
    rw [readList, List.append_assoc, skipBlanks_append hb, List.singleton_append,
      skipBlanks_cons (by decide)]
    rfl
  | @list items hne _ ih =>
    obtain ⟨depth, rfl⟩ := Nat.exists_eq_add_one_of_ne_zero (Nat.ne_of_gt (Nat.zero_lt_of_lt hd))
    rw [List.length_cons, List.length_append, List.length_singleton] at hl
    -- The items are read one level further down, each from a part of the octets.
    let words := items.map fun item => (item.2, item.1.ordered)
    have ho : words.map Prod.fst = items.map Prod.snd := List.map_map
    have hv : words.map Prod.snd = (items.map Prod.fst).map ordered := by
      rw [List.map_map, List.map_map]
      rfl
    have hw : ∀ word ∈ words, Reads (readValue limit depth) word.1 word.2 := by
      refine List.forall_mem_map.mpr fun item hi => ih item hi ?_ ?_
      · have := depth_lt_of_mem_items (List.mem_map_of_mem (f := Prod.fst) hi)
        omega
      · have := length_le_commaSeparated (List.mem_map_of_mem (f := Prod.snd) hi)
        omega
    have hn : words ≠ [] := fun hn => hne (List.map_eq_nil_iff.mp hn)
    have hs : (commaSeparated (words.map Prod.fst)).length < limit := by
      rw [ho]
      omega
    rw [ordered_list, ← hv, ← ho]
    refine .of_list fun rest => ?_
    rw [List.append_assoc, List.singleton_append]
    exact readList_of_reads hn hw hs rest
  | @emptyObject blanks hb =>
    obtain ⟨depth, rfl⟩ := Nat.exists_eq_add_one_of_ne_zero (Nat.ne_of_gt hd)
    refine .of_object fun rest => ?_
    rw [readObject, List.append_assoc, skipBlanks_append hb, List.singleton_append,
      skipBlanks_cons (by decide)]
    exact .value rfl
  | @object members hne hk _ ih =>
    obtain ⟨depth, rfl⟩ := Nat.exists_eq_add_one_of_ne_zero (Nat.ne_of_gt (Nat.zero_lt_of_lt hd))
    rw [List.length_cons, List.length_append, List.length_singleton] at hl
    -- So are the members, and each of them is put among those before it.
    let step (gathered : Members) (member : String × Json) : Option Members :=
      some (gathered.put member.1 member.2.ordered)
    have hm : ∀ spelled ∈ members,
        AnswersMember (readMember (readValue limit depth)) step spelled := by
      refine fun spelled hs =>
        ⟨hk spelled hs, fun gathered => (Reads.of_member (ih spelled hs ?_ ?_) _ _).answers⟩
      · have := depth_lt_of_mem_members (List.mem_map_of_mem (f := SpelledMember.member) hs)
        exact Nat.le_of_lt_succ (Nat.lt_of_lt_of_le this hd)
      · have := length_le_commaSeparated (List.mem_map_of_mem (f := SpelledMember.octets) hs)
        rw [SpelledMember.octets, List.length_append, List.length_cons] at this
        omega
    have hg : (members.map SpelledMember.member).foldlM step [] = some (Members.gather
        ((members.map SpelledMember.member).map fun member => (member.1, ordered member.2))) := by
      rw [Members.gather, List.foldl_map]
      exact List.foldlM_pure
    rw [ordered_object]
    refine .of_object fun rest => ?_
    rw [List.append_assoc, List.singleton_append, ← hg]
    exact readObject_of_answers hne hm (by omega) [] rest
  | padded _ hp ih =>
    refine (ih hd ?_).padded hp
    obtain ⟨before, after, -, -, rfl⟩ := hp
    simp only [List.length_append] at hl
    omega

/-- A whole text is read if nothing but blanks is left of it. -/
theorem readWhole_eq_ok_iff {reader : Reader α} {text : Octets} {value : α} :
    readWhole reader text = .ok value ↔
      ∃ rest, reader text = .ok (value, rest) ∧ skipBlanks rest = [] := by
  rw [readWhole]
  split
  · next stop hr => simp [hr]
  · next held rest hr =>
    split
    · next hs => simp [hr, hs]
    · next hs => simp [hr, hs]

/-- However a value is spelled, it is read back with the members of its objects in
    order, if it is not too deep. -/
theorem parse_of_spells {value : Json} (h : Spells value octets)
    (hd : value.depth ≤ greatestDepth) : parse octets = .ok value.ordered := by
  obtain ⟨after, hr, hs⟩ :=
    (reads_of_spells h hd (Nat.le_refl _)).reads octets [] (by rw [List.append_nil]) trivial
  exact readWhole_eq_ok_iff.mpr ⟨after, hr, hs⟩

/-- What is written for a value is read back with the members of its objects in order,
    if its numbers are integers and it is not too deep. -/
theorem parse_toOctets {value : Json} (h : value.IsIntegral) (hd : value.depth ≤ greatestDepth) :
    parse value.toOctets = .ok value.ordered :=
  parse_of_spells (spells_toOctets h) hd

end SlackCourier.Json
