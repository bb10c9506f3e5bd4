import SlackCourier.Json.Reader.Record
import SlackCourier.Proofs.Json.Fields
import SlackCourier.Proofs.Json.Reading

/-!
# Records are read field by field

Where a value of a fixed kind is expected, it is read if it is of that kind and refused
otherwise, however it is spelled. All such readers look at what was found
(`readFound_of_spells`) and answer by it. A field answers like its value, unless it has
come before, an object answers like its members, one after the other
(`readObject_of_spells`), and so does a list like its items, where these stand for fields
(`yields_readNextItem`).

* `Yields.readWhole_eq_ok_iff`: a text that is nothing but a record is read as what the
  record answers.
* `exists_readObject_eq_ok`: where the members of a record are read, so are those of any
  object (`Narrows`), so what is read as a record is an object.
-/

namespace SlackCourier.Json

variable {α σ : Type} {octets front rest : Octets} {limit : Nat} {value : Json}

/-! ## Kinds of values -/

/-- The truth value, where the value is one. -/
def bool? : Json → Option Bool
  | bool value => some value
  | _ => none

/-- The natural number, where the value is one. -/
def natural? : Json → Option Nat
  | number (.integer value) => if 0 ≤ value then some value.toNat else none
  | _ => none

/-- Nothing, where the value is null, and otherwise what it is of the kind. -/
def orNull (kind : Json → Option α) : Json → Option (Option α)
  | null => some none
  | value => (kind value).map some

theorem text?_eq_some_iff {value : Json} {text : String} :
    value.text? = some text ↔ value = .text text := by
  cases value <;> simp [text?]

theorem natural?_eq_some_iff {value : Json} {n : Nat} :
    value.natural? = some n ↔ value = .number (.integer n) := by
  constructor
  · intro h
    match value with
    | number (.integer value) =>
      rw [natural?] at h
      split at h
      · next hn =>
        cases h
        rw [Int.toNat_of_nonneg hn]
      · cases h
  · rintro rfl
    rfl

theorem exists_orNull_eq_some_iff {kind : Json → Option α} {value : Json} :
    (∃ held, value.orNull kind = some held) ↔ value = .null ∨ ∃ held, kind value = some held := by
  cases value with
  | null => exact iff_of_true ⟨none, rfl⟩ (.inl rfl)
  | _ => simp [orNull]

/-- What is read may be turned into something else. -/
theorem Yields.map {result : Except Stop (α × Octets)} {answer : Option α}
    (h : Yields rest result answer) (f : α → σ) :
    Yields rest (result >>= fun read => .ok (f read.1, read.2)) (answer.map f) := by
  cases h with
  | value hs => exact .value hs
  | refusal => exact .refusal

theorem answers_readBool (h : Spells value octets) (hl : octets.length ≤ limit) :
    Answers (readBool limit) octets value.bool? where
  begins := h.begins
  yields front rest hf he := by
    obtain ⟨after, hr, hs, -⟩ := readFound_of_spells h hl hf he
    rw [readBool, hr, ok_bind]
    cases value with
    | bool value => exact .value (hs rfl)
    | _ => exact .refusal

theorem answers_readString (h : Spells value octets) (hl : octets.length ≤ limit) :
    Answers (readString limit) octets value.text? where
  begins := h.begins
  yields front rest hf he := by
    obtain ⟨after, hr, hs, -⟩ := readFound_of_spells h hl hf he
    rw [readString, hr, ok_bind]
    cases value with
    | text value => exact .value (hs rfl)
    | _ => exact .refusal

theorem answers_readNatural64 (h : Spells value octets) (hl : octets.length ≤ limit) :
    Answers (readNatural64 limit) octets value.natural? where
  begins := h.begins
  yields front rest hf he := by
    obtain ⟨after, hr, hs, -⟩ := readFound_of_spells h hl hf he
    rw [readNatural64, hr, ok_bind]
    cases value with
    | number value =>
      cases value with
      | integer value =>
        dsimp only [found, natural?]
        split
        · exact .value (hs rfl)
        · exact .refusal
      | real value => exact .refusal
    | _ => exact .refusal

/-! ### Values that may be null -/

/-- Null is found where its first letter stands, and nowhere else. -/
theorem readFound_eq_ok_cases {found : Found} (h : readFound limit front = .ok (found, rest)) :
    ∃ octet behind, skipBlanks front = octet :: behind ∧
      (octet = 'n'.toUInt8 ∧ found = .null ∧ readWord ['u', 'l', 'l'] behind = .ok ((), rest) ∨
        octet ≠ 'n'.toUInt8 ∧ found ≠ .null) := by
  rw [readFound] at h
  split at h
  · cases h
  · next octet behind hf =>
    refine ⟨octet, behind, hf, ?_⟩
    split at h
    · next ho =>
      obtain ⟨⟨⟨⟩, after⟩, hw, h⟩ := bind_eq_ok_iff.mp h
      cases h
      exact .inl ⟨ho, rfl, hw⟩
    · next ho =>
      refine .inr ⟨ho, ?_⟩
      rintro rfl
      -- None of the other values is found as null.
      repeat' split at h
      all_goals first
        | cases h
        | obtain ⟨_, -, h⟩ := bind_eq_ok_iff.mp h
          cases h

theorem readOptional_of_null {reader : Reader α} (h : readFound limit front = .ok (.null, rest)) :
    readOptional reader front = .ok (none, rest) := by
  obtain ⟨octet, behind, hf, ⟨ho, -, hw⟩ | ⟨-, hn⟩⟩ := readFound_eq_ok_cases h
  · rw [readOptional, hf]
    dsimp only
    rw [if_pos ho, hw, ok_bind]
  · exact absurd rfl hn

theorem readOptional_of_ne_null {reader : Reader α} {found : Found}
    (h : readFound limit front = .ok (found, rest)) (hn : found ≠ .null) :
    readOptional reader front =
      reader (skipBlanks front) >>= fun (value, rest) => .ok (some value, rest) := by
  obtain ⟨octet, behind, hf, ⟨-, hn', -⟩ | ⟨ho, -⟩⟩ := readFound_eq_ok_cases h
  · exact absurd hn' hn
  · rw [readOptional, hf]
    dsimp only
    rw [if_neg ho]

/-- A value that may be null is answered for if the value is. -/
theorem answers_readOptional {reader : Reader α} {kind : Json → Option α}
    (h : Spells value octets) (hl : octets.length ≤ limit)
    (hr : Answers reader octets (kind value)) :
    Answers (readOptional reader) octets (value.orNull kind) where
  begins := h.begins
  yields front rest hf he := by
    obtain ⟨after, ho, hs, -⟩ := readFound_of_spells h hl hf he
    have hv := (hr.yields (skipBlanks front) rest (by rw [skipBlanks_skipBlanks, hf]) he).map some
    cases value with
    | null =>
      rw [readOptional_of_null ho]
      exact .value (hs rfl)
    | _ =>
      rw [readOptional_of_ne_null ho nofun]
      exact hv

/-! ## Fields -/

/-- A field answers like its value, unless it has come before. -/
theorem Answers.field {reader : Reader α} {answer : Option α} (h : Answers reader octets answer)
    (name : String) (held : Option α) :
    Answers (readField name held reader) (':'.toUInt8 :: octets) (unlessHeld held answer) where
  begins := begins_colon octets
  yields front rest hf he := by
    cases held with
    | some value =>
      rw [readField]
      split
      · exact .refusal
      · split <;> exact .refusal
    | none =>
      rw [readField, readColon_of_colon hf, ok_bind]
      exact h.yields _ rest rfl he

theorem Answers.map {reader : Reader α} {answer : Option α} (h : Answers reader octets answer)
    (f : α → σ) :
    Answers (fun octets => reader octets >>= fun read => .ok (f read.1, read.2)) octets
      (answer.map f) where
  begins := h.begins
  yields front rest hf he := (h.yields front rest hf he).map f

/-! ## Records -/

/-- However an object is spelled, it is found, and it answers like its members, one after
    the other. -/
theorem readObject_of_spells {members : Members} {member : σ → String → Reader σ}
    {step : σ → String × Json → Option σ} (h : Spells (.object members) octets)
    (hl : octets.length ≤ limit)
    (hm : ∀ key value octets, (key, value) ∈ members → Spells value octets →
      octets.length ≤ limit → ∀ gathered,
      Answers (member gathered key) (':'.toUInt8 :: octets) (step gathered (key, value)))
    (start : σ) (hf : skipBlanks front = skipBlanks (octets ++ rest)) :
    ∃ behind, readFound limit front = .ok (.object, behind) ∧
      Yields rest (readObject member limit start behind.tail) (members.foldlM step start) := by
  generalize hv : Json.object members = value at h
  induction h generalizing rest with
  | @emptyObject blanks hb =>
    cases hv
    rw [List.cons_append, skipBlanks_cons (by decide)] at hf
    refine ⟨_, readFound_object hf, ?_⟩
    rw [List.tail_cons, readObject, List.append_assoc, skipBlanks_append hb,
      List.singleton_append, skipBlanks_cons (by decide)]
    exact .value rfl
  | @object spelled hne hk hs =>
    cases hv
    rw [List.length_cons, List.length_append, List.length_singleton] at hl
    rw [List.cons_append, skipBlanks_cons (by decide)] at hf
    refine ⟨_, readFound_object hf, ?_⟩
    rw [List.tail_cons, List.append_assoc, List.singleton_append]
    refine readObject_of_answers hne (fun first hm' => ⟨hk first hm', fun gathered => ?_⟩)
      (by omega) start rest
    refine hm first.key first.value first.valueOctets
      (List.mem_map_of_mem (f := SpelledMember.member) hm') (hs first hm') ?_ gathered
    have := length_le_commaSeparated (List.mem_map_of_mem (f := SpelledMember.octets) hm')
    rw [SpelledMember.octets, List.length_append, List.length_cons] at this
    omega
  | padded _ hp ih =>
    obtain ⟨before, after, hb, ha, rfl⟩ := hp
    simp only [List.length_append] at hl
    rw [List.append_assoc, skipBlanks_append hb, List.append_assoc] at hf
    obtain ⟨behind, hr, hy⟩ := ih (by omega) hf hv
    exact ⟨behind, hr, hy.congr (skipBlanks_append ha rest)⟩
  | _ => cases hv

/-! ## Lists of values -/

/-- The items with a comma in front of each. -/
def following (words : List Octets) : Octets :=
  words.flatMap (','.toUInt8 :: ·)

/-- The items that are left of a list: a comma is in front of each but the first. -/
def itemsLeft (isFirst : Bool) (words : List Octets) : Octets :=
  if isFirst then commaSeparated words else following words

theorem commaSeparated_cons_following (word : Octets) (words : List Octets) :
    commaSeparated (word :: words) = word ++ following words := by
  induction words generalizing word with
  | nil => rw [commaSeparated_singleton, following, List.flatMap_nil, List.append_nil]
  | cons next words ih => rw [commaSeparated_cons, ih, following, following, List.flatMap_cons]; rfl

theorem endsNumber_following (words : List Octets) (rest : Octets) :
    EndsNumber (following words ++ ']'.toUInt8 :: rest) := by
  cases words with
  | nil => exact endsNumber_bracket rest
  | cons word words => exact endsNumber_comma _

/-- What the first of the values is of the kind; nothing if there is none. -/
def first? (kind : Json → Option α) : List Json → Option (Option α)
  | [] => some none
  | value :: _ => (kind value).map some

theorem first?_eq_some_iff {kind : Json → Option α} {values : List Json} {held : Option α} :
    first? kind values = some held ↔ AtMostOnce kind values.head?.toList held := by
  cases values with
  | nil =>
    constructor
    · rintro ⟨⟩
      exact .absent
    · rintro ⟨⟩
      rfl
  | cons value values =>
    rw [first?, List.head?_cons, Option.toList_some, Option.map_eq_some_iff]
    constructor
    · rintro ⟨held, hk, rfl⟩
      exact .once hk
    · rintro (_ | hk)
      exact ⟨_, hk, rfl⟩

/-- The next item is answered for, and none where the list ends. -/
theorem yields_readNextItem {reader : Reader α} {kind : Json → Option α}
    {items : List (Json × Octets)} (isFirst : Bool)
    (h : ∀ item ∈ items, Answers reader item.2 (kind item.1))
    (hf : skipBlanks front =
      skipBlanks (itemsLeft isFirst (items.map Prod.snd) ++ ']'.toUInt8 :: rest)) :
    Yields (following (items.tail.map Prod.snd) ++ ']'.toUInt8 :: rest)
      (readNextItem isFirst reader front) (first? kind (items.map Prod.fst)) := by
  cases items with
  | nil =>
    have hn : itemsLeft isFirst [] = [] := by cases isFirst <;> rfl
    rw [List.map_nil, hn, List.nil_append, skipBlanks_cons (by decide)] at hf
    rw [readNextItem, hf]
    dsimp only
    rw [if_pos rfl]
    exact .value rfl
  | cons item items =>
    have ha := h item List.mem_cons_self
    obtain ⟨octet, after, ho, hc, -⟩ :=
      ha.begins (following (items.map Prod.snd) ++ ']'.toUInt8 :: rest)
    have hy := (ha.yields (octet :: after) _ (by rw [← ho, skipBlanks_skipBlanks])
      (endsNumber_following (items.map Prod.snd) rest)).map some
    rw [readNextItem, hf]
    cases isFirst with
    | true =>
      rw [itemsLeft, if_pos rfl, List.map_cons, commaSeparated_cons_following, List.append_assoc,
        ho]
      dsimp only
      rw [if_neg hc, if_pos rfl]
      exact hy
    | false =>
      have hl : itemsLeft false ((item :: items).map Prod.snd) ++ ']'.toUInt8 :: rest =
          ','.toUInt8 :: (item.2 ++ (following (items.map Prod.snd) ++ ']'.toUInt8 :: rest)) := by
        rw [itemsLeft, if_neg Bool.false_ne_true, List.map_cons, following, List.flatMap_cons,
          List.append_assoc]
        rfl
      rw [hl, skipBlanks_cons (by decide)]
      dsimp only
      rw [if_neg (by decide), if_neg Bool.false_ne_true, if_pos rfl, ho]
      dsimp only
      rw [if_neg hc]
      exact hy

/-- A list ends where no item is left. -/
theorem yields_readListEnd {words : List Octets}
    (hf : skipBlanks front = skipBlanks (following words ++ ']'.toUInt8 :: rest)) :
    Yields rest (readListEnd front) (if words = [] then some () else none) := by
  rw [readListEnd, hf]
  cases words with
  | nil =>
    rw [following, List.flatMap_nil, List.nil_append, skipBlanks_cons (by decide)]
    exact .value rfl
  | cons word words =>
    rw [following, List.flatMap_cons, List.cons_append, List.cons_append,
      skipBlanks_cons (by decide)]
    dsimp only
    rw [if_neg (by decide), if_pos rfl]
    split <;> exact .refusal

/-- However a list is spelled, it is found, and its items follow with commas between
    them. -/
theorem exists_items_of_spells {items : List Json} (h : Spells (.list items) octets)
    (hl : octets.length ≤ limit) (hf : skipBlanks front = skipBlanks (octets ++ rest)) :
    ∃ spelled : List (Json × Octets), spelled.map Prod.fst = items ∧
      (∀ item ∈ spelled, Spells item.1 item.2 ∧ item.2.length ≤ limit) ∧
      ∃ behind after, readFound limit front = .ok (.list, behind) ∧
        skipBlanks behind.tail =
          skipBlanks (commaSeparated (spelled.map Prod.snd) ++ ']'.toUInt8 :: after) ∧
        skipBlanks after = skipBlanks rest := by
  generalize hv : Json.list items = value at h
  induction h generalizing rest with
  | @emptyList blanks hb =>
    cases hv
    rw [List.cons_append, skipBlanks_cons (by decide)] at hf
    refine ⟨[], rfl, fun _ h => absurd h List.not_mem_nil, _, rest, readFound_list hf, ?_, rfl⟩
    rw [List.tail_cons, List.append_assoc, skipBlanks_append hb]
    rfl
  | @list spelled hne hs =>
    cases hv
    rw [List.length_cons, List.length_append, List.length_singleton] at hl
    rw [List.cons_append, skipBlanks_cons (by decide)] at hf
    refine ⟨spelled, rfl, fun item hm => ⟨hs item hm, ?_⟩, _, rest, readFound_list hf, ?_, rfl⟩
    · have := length_le_commaSeparated (List.mem_map_of_mem (f := Prod.snd) hm)
      omega
    · rw [List.tail_cons, List.append_assoc, List.singleton_append]
  | padded _ hp ih =>
    obtain ⟨before, after, hb, ha, rfl⟩ := hp
    simp only [List.length_append] at hl
    rw [List.append_assoc, skipBlanks_append hb, List.append_assoc] at hf
    obtain ⟨spelled, hi, hs, behind, after', hr, hc, hn⟩ := ih (by omega) hf hv
    exact ⟨spelled, hi, hs, behind, after', hr, hc, hn.trans (skipBlanks_append ha rest)⟩
  | _ => cases hv

/-! ## Whole texts -/

/-- A text that is nothing but what a reader answers for. -/
theorem Yields.readWhole_eq_ok_iff {reader : Reader α} {answer : Option α} {text : Octets}
    {value : α} (h : Yields [] (reader text) answer) :
    readWhole reader text = .ok value ↔ answer = some value := by
  rw [Json.readWhole_eq_ok_iff]
  generalize reader text = result at h
  cases h with
  | @value held after hs =>
    constructor
    · rintro ⟨rest, hr, -⟩
      cases hr
      rfl
    · rintro ⟨⟩
      exact ⟨after, rfl, hs⟩
  | refusal =>
    refine iff_of_false ?_ nofun
    rintro ⟨rest, hr, -⟩
    cases hr

/-! ## What is read is there -/

/-- What the reader takes, the reader of values takes too, at the same depth. -/
def Narrows (limit depth : Nat) (reader : Reader α) : Prop :=
  ∀ octets value rest, reader octets = .ok (value, rest) →
    ∃ held, readValue limit depth octets = .ok (held, rest)

variable {depth : Nat}

theorem narrows_readBool : Narrows limit depth (readBool limit) := by
  intro octets value rest h
  obtain ⟨⟨found, behind⟩, hr, h⟩ := bind_eq_ok_iff.mp h
  cases found with
  | bool value =>
    cases h
    exact ⟨.bool value, readValue_of_scalar hr rfl⟩
  | _ => cases h

theorem narrows_readString : Narrows limit depth (readString limit) := by
  intro octets value rest h
  obtain ⟨⟨found, behind⟩, hr, h⟩ := bind_eq_ok_iff.mp h
  cases found with
  | text value =>
    cases h
    exact ⟨.text value, readValue_of_scalar hr rfl⟩
  | _ => cases h

theorem Narrows.optional {reader : Reader α} (h : Narrows limit depth reader) :
    Narrows limit depth (readOptional reader) := by
  intro octets value rest hr
  rw [readOptional] at hr
  split at hr
  · next octet behind hs =>
    split at hr
    · next ho =>
      obtain ⟨⟨⟨⟩, after⟩, hw, hr⟩ := bind_eq_ok_iff.mp hr
      cases hr
      have hn : readFound limit octets = .ok (.null, rest) := by
        rw [readFound, hs]
        dsimp only
        rw [if_pos ho, hw, ok_bind]
      exact ⟨.null, readValue_of_scalar hn rfl⟩
    · obtain ⟨⟨held, after⟩, hv, hr⟩ := bind_eq_ok_iff.mp hr
      cases hr
      obtain ⟨json, hj⟩ := h _ _ _ hv
      refine ⟨json, ?_⟩
      rw [← hs, readValue, readFound_skipBlanks] at hj
      rw [readValue, hj]
  · cases hr

/-- What a field takes behind its key, a member of any object takes too. -/
theorem Narrows.field {reader : Reader α} (h : Narrows limit depth reader) {name key : String}
    {held : Option α} {value : α} (hr : readField name held reader octets = .ok (value, rest))
    (members : Members) :
    ∃ next, readMember (readValue limit depth) members key octets = .ok (next, rest) := by
  unfold readField at hr
  split at hr
  · split at hr
    · cases hr
    · split at hr <;> cases hr
  · obtain ⟨⟨⟨⟩, behind⟩, hc, hr⟩ := bind_eq_ok_iff.mp hr
    obtain ⟨json, hj⟩ := h _ _ _ hr
    refine ⟨members.put key json, ?_⟩
    rw [readMember, hc, ok_bind]
    dsimp only
    rw [hj, ok_bind]

/-- Where every member is taken that another reader takes, so is the object. -/
theorem exists_readMembers_eq_ok {τ : Type} {member : σ → String → Reader σ}
    {member' : τ → String → Reader τ}
    (hm : ∀ gathered gathered' key octets next rest, member gathered key octets = .ok (next, rest) →
      ∃ next', member' gathered' key octets = .ok (next', rest))
    {gathered final : σ} (gathered' : τ)
    (h : readMembers member limit gathered octets = .ok (final, rest)) :
    ∃ final', readMembers member' limit gathered' octets = .ok (final', rest) := by
  induction limit generalizing gathered gathered' octets with
  | zero => cases h
  | succ limit ih =>
    rw [readMembers] at h
    obtain ⟨⟨⟨⟩, behindQuote⟩, hq, h⟩ := bind_eq_ok_iff.mp h
    obtain ⟨⟨key, behindKey⟩, hk, h⟩ := bind_eq_ok_iff.mp h
    obtain ⟨⟨next, behindValue⟩, hv, h⟩ := bind_eq_ok_iff.mp h
    obtain ⟨next', hv'⟩ := hm gathered gathered' key behindKey next behindValue hv
    rw [readMembers, hq, ok_bind]
    dsimp only at h ⊢
    rw [hk, ok_bind]
    dsimp only
    rw [hv', ok_bind]
    dsimp only
    -- Only where the object is closed or another member follows is anything read.
    split at h
    · cases h
    split at h
    · next hb =>
      cases h
      exact ⟨next', if_pos hb⟩
    · next hb =>
      rw [if_neg hb]
      split at h
      · next hc =>
        rw [if_pos hc]
        split at h
        · cases h
        split at h
        · cases h
        · next hn =>
          rw [if_neg hn]
          exact ih next' h
      · cases h

theorem exists_readObject_eq_ok {τ : Type} {member : σ → String → Reader σ}
    {member' : τ → String → Reader τ}
    (hm : ∀ gathered gathered' key octets next rest, member gathered key octets = .ok (next, rest) →
      ∃ next', member' gathered' key octets = .ok (next', rest))
    {start final : σ} (start' : τ)
    (h : readObject member limit start octets = .ok (final, rest)) :
    ∃ final', readObject member' limit start' octets = .ok (final', rest) := by
  rw [readObject] at h ⊢
  split at h
  · cases h
  split at h
  · next hb =>
    cases h
    exact ⟨start', if_pos hb⟩
  · next hb =>
    rw [if_neg hb]
    exact exists_readMembers_eq_ok hm start' h

end SlackCourier.Json
