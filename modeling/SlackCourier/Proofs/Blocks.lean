import SlackCourier.Proofs.Building
import SlackCourier.Proofs.Json.Arrangement
import SlackCourier.Proofs.Json.Record
import SlackCourier.Proofs.Payload

/-!
# What blocks denote

The blocks of a message are told as a JSON text, and sent as what that text denotes. How
they were spelled is lost where they are read, so with two texts of one value the same is
built, told and sent (`Draft.build_withBlocks`).

Whether there are blocks at all is asked of the text, before it is read, and of the
value, after it was read, but never of what the value is. So `null` counts as blocks, and
a message may be sent that has nothing else.

* `Draft.buildsAlike_of_isTextOf`: every text of a value is read as that value, and drafts
  with two such texts build the same message.
* `Draft.build_lacksContent_iff`: what is built has content, unless the blocks are `null` and
  no text is found.
-/

namespace SlackCourier

/-! ## Null -/

namespace Json

variable {octets rest : Octets}

theorem readWord_eq_ok_iff {word : List Char} :
    readWord word octets = .ok ((), rest) ↔ octets = word.map Char.toUInt8 ++ rest := by
  induction word generalizing octets with
  | nil =>
    rw [readWord, List.map_nil, List.nil_append]
    exact ⟨fun h => by cases h; rfl, fun h => by rw [h]⟩
  | cons letter word ih =>
    cases octets with
    | nil => exact iff_of_false nofun nofun
    | cons octet octets =>
      rw [readWord, List.map_cons, List.cons_append, List.cons.injEq]
      split
      · next h => rw [ih, and_iff_right h]
      · next h => exact iff_of_false nofun fun hn => h hn.1

theorem areBlank_of_skipBlanks (h : skipBlanks octets = []) : AreBlank octets :=
  List.dropWhile_eq_nil_iff.mp h

/-- A value that is null was found as null, and nothing of it was left to read. -/
theorem readFound_of_readValue_null {limit depth : Nat}
    (h : readValue limit depth octets = .ok (.null, rest)) :
    readFound limit octets = .ok (.null, rest) := by
  rw [readValue] at h
  obtain ⟨⟨found, behind⟩, hf, hr⟩ := bind_eq_ok_iff.mp h
  cases found with
  | null =>
    cases hr
    exact hf
  | list =>
    cases depth with
    | zero => cases hr
    | succ depth =>
      obtain ⟨items, -, hr⟩ := bind_eq_ok_iff.mp hr
      cases hr
  | object =>
    cases depth with
    | zero => cases hr
    | succ depth =>
      obtain ⟨members, -, hr⟩ := bind_eq_ok_iff.mp hr
      cases hr
  | _ => cases hr

/-- What is found as null is the word, with blanks in front of it. -/
theorem eq_of_readFound_null {limit : Nat} (h : readFound limit octets = .ok (.null, rest)) :
    octets = octets.takeWhile isBlank ++ (Octets.ofText "null" ++ rest) := by
  obtain ⟨octet, behind, hb, ⟨rfl, -, hw⟩ | ⟨-, hn⟩⟩ := readFound_eq_ok_cases h
  · have hs : skipBlanks octets = Octets.ofText "null" ++ rest := by
      rw [hb, readWord_eq_ok_iff.mp hw]
      rfl
    rw [← hs]
    exact List.takeWhile_append_dropWhile.symm
  · exact absurd rfl hn

/-- Nothing is read as null but the word, with blanks around it. -/
theorem parse_eq_null_iff : parse octets = .ok .null ↔ Padded (Octets.ofText "null") octets := by
  constructor
  · intro h
    obtain ⟨rest, hr, hs⟩ := readWhole_eq_ok_iff.mp h
    exact ⟨octets.takeWhile isBlank, rest, fun _ => List.mem_takeWhile_imp,
      areBlank_of_skipBlanks hs, eq_of_readFound_null (readFound_of_readValue_null hr)⟩
  · intro h
    exact parse_of_spells (.padded .null h) (Nat.zero_le _)

end Json

/-! ## Texts of one value -/

namespace Message

/-- Every text of a value is read as that value, in order. -/
theorem parseBlocks_of_isTextOf {value : Json} (hk : value.HasDistinctKeys)
    (hd : value.depth ≤ Json.greatestDepth) {text : String}
    (h : value.IsTextOf (Octets.ofText text)) : parseBlocks text = .ok value.ordered := by
  rw [parseBlocks, Json.parse_of_isTextOf hk hd h]
  rfl

theorem ne_empty_of_parseBlocks {text : String} {value : Json}
    (h : parseBlocks text = .ok value) : text ≠ "" := by
  rintro rfl
  rw [parseBlocks, mapError_eq_ok_iff, Json.parse, Json.readWhole, Json.readValue] at h
  cases h

end Message

namespace Draft

variable {draft : Draft} {input : Input} {text : String} {value : Json}

/-- Blocks that are read are content, whatever they denote. -/
theorem withContent_of_parseBlocks (hb : draft.blocks = some text)
    (h : Message.parseBlocks text = .ok value) (found : Option String) :
    draft.withContent found =
      .ok ⟨draft.channel, Text.given found, some value, Text.given draft.thread⟩ := by
  have hne := Message.ne_empty_of_parseBlocks h
  have hc : ¬ draft.LacksContent found := fun hl => Text.not_isLeftOut hb hne hl.2
  have hm : (Text.given draft.blocks).mapM Message.parseBlocks = .ok (some value) :=
    mapM_parseBlocks_eq_ok_iff.mpr (.parsed hb hne h)
  rw [withContent_of_content hc, hm]
  rfl

/-- With blocks that are read, a draft builds a message from the text that is found and from
    what the blocks denote. -/
theorem build_withBlocks (h : Message.parseBlocks text = .ok value) (draft : Draft)
    (input : Input) :
    (draft.withBlocks text).build input =
      ⟨draft.readings input, (draft.readText input).result.map fun found =>
        ⟨draft.channel, Text.given found, some value, Text.given draft.thread⟩⟩ := by
  refine Run.ext (events_build _ _) ?_
  rw [result_build, funext (withContent_of_parseBlocks rfl h)]
  show (draft.readText input).result >>= _ = _
  cases (draft.readText input).result <;> rfl

end Draft

/-- What a command to send does depends on nothing of its draft but what is built from it. -/
theorem World.execute_send_congr {world : World} {draft draft' : Draft}
    (h : draft.build world.input = draft'.build world.input) :
    world.execute (.send draft) = world.execute (.send draft') := by
  have hc (credential : Credential) :
      world.carryOut credential (.send draft) = world.carryOut credential (.send draft') := by
    show (world.send credential draft).mapError Trouble.failure = _
    rw [send, h]
    rfl
  rw [execute, execute]
  simp only [hc]
  rfl

namespace Draft

variable {value : Json}

/-- The drafts build the same message, with the same blocks. -/
structure BuildsAlike (draft draft' : Draft) (input : Input) (blocks : Json) : Prop where
  /-- The same is read and logged for them, and comes of them. -/
  build : draft.build input = draft'.build input
  /-- If the text can be found, there is a message, and it is sent in the same octets. -/
  message : ∀ found, draft.Finds input (.ok found) → ∃ message message',
    (draft.build input).result = .ok message ∧ (draft'.build input).result = .ok message' ∧
      message = message' ∧ message.blocks = some blocks ∧
      message.payload.toOctets = message'.payload.toOctets
  /-- So the commands to send them do the same. -/
  execute : ∀ world : World, world.input = input →
    world.execute (.send draft) = world.execute (.send draft')

/-- Every text of a value is read as the value, in order, and drafts with two such texts
    build the same message. -/
theorem buildsAlike_of_isTextOf (hk : value.HasDistinctKeys) (hd : value.depth ≤ 127) :
    (∀ text, value.IsTextOf (Octets.ofText text) →
        ∃ read, Message.parseBlocks text = .ok read ∧ read = value.ordered ∧
          value.Rearranges read ∧ read.IsOrdered) ∧
      ∀ first second, value.IsTextOf (Octets.ofText first) →
        value.IsTextOf (Octets.ofText second) → ∀ (draft : Draft) (input : Input),
          BuildsAlike (draft.withBlocks first) (draft.withBlocks second) input value.ordered := by
  constructor
  · intro text h
    have hp := Message.parseBlocks_of_isTextOf hk hd h
    exact ⟨_, hp, rfl, Json.rearranges_ordered hk,
      (Json.isOrdered_of_parse (mapError_eq_ok_iff.mp hp)).1⟩
  · intro first second hf hs draft input
    have hf := Message.parseBlocks_of_isTextOf hk hd hf
    have hs := Message.parseBlocks_of_isTextOf hk hd hs
    have hb (input : Input) :
        (draft.withBlocks first).build input = (draft.withBlocks second).build input := by
      rw [build_withBlocks hf, build_withBlocks hs]
    constructor
    case build => exact hb input
    case message =>
      intro found h
      have hr : ((draft.withBlocks first).build input).result =
          .ok ⟨draft.channel, Text.given found, some value.ordered, Text.given draft.thread⟩ := by
        rw [result_build_of_finds h, ok_bind, withContent_of_parseBlocks rfl hf]
        rfl
      exact ⟨_, _, hr, hb input ▸ hr, rfl, rfl, rfl⟩
    case execute =>
      rintro world -
      exact World.execute_send_congr (hb world.input)

end Draft

/-- The members are swapped, a key and a character outside the basic plane are escaped, and
    there are blanks wherever they may be. -/
theorem Json.isTextOf_swapped :
    IsTextOf (.list [.object [("a", .text "𝄞/"), ("b", .number (.integer 0xFFFFFFFFFFFFFFFF))]])
      (Octets.ofText
        "\t[\x7b\"b\"\r\n: 18446744073709551615,\"\\u0061\":\"\\uD834\\udd1E\\/\"\x7d ]\n") := by
  let a : SpelledMember :=
    ⟨"a", .text "𝄞/", Octets.ofText "\"\\u0061\"", Octets.ofText "\"\\uD834\\udd1E\\/\""⟩
  let b : SpelledMember :=
    ⟨"b", .number (.integer 0xFFFFFFFFFFFFFFFF), Octets.ofText "\"b\"\r\n",
      Octets.ofText " 18446744073709551615"⟩
  have hr : Rearranges (.object [a.member, b.member]) (.object [b.member, a.member]) :=
    @Rearranges.object [⟨a.key, a.value, a.value⟩, ⟨b.key, b.value, b.value⟩] _
      (List.forall_mem_cons.mpr ⟨.text _, List.forall_mem_singleton.mpr (.number _)⟩)
      (.swap _ _ _)
  refine ⟨.list [.object [b.member, a.member]],
    @Rearranges.list [(_, _)] (List.forall_mem_singleton.mpr hr), ?_⟩
  have hka : SpellsText a.key a.keyOctets := by
    have hc : SpellsChars "a".toList _ :=
      .cons (.unit (show Char.toNat 'a' < _ by decide) (.mk .lower .lower .lower .lower)) .nil
    exact .mk hc
  have hkb : SpellsText b.key (Octets.ofText "\"b\"") := by
    have hc : SpellsChars "b".toList _ :=
      .cons (.plain (show _ ≤ Char.toNat 'b' by decide) (by decide) (by decide)) .nil
    exact .mk hc
  have hva : Spells a.value a.valueOctets := by
    have hp : SpellsChar '𝄞' _ :=
      .pair (by decide) (.mk .upper .lower .lower .lower) (.mk .lower .lower .lower .upper)
    have hs : SpellsChar '/' _ := @SpellsChar.short '/' '/' (by decide)
    have hc : SpellsChars "𝄞/".toList _ := .cons hp (.cons hs .nil)
    exact .text (.mk hc)
  have hvb : Spells b.value b.valueOctets :=
    .padded (.integer (by decide) (by decide))
      ⟨Octets.ofText " ", [], by decide, areBlank_nil, by decide⟩
  have hb : Padded (Octets.ofText "\"b\"") b.keyOctets :=
    ⟨[], Octets.ofText "\r\n", areBlank_nil, by decide, rfl⟩
  have ho : Spells (.object [b.member, a.member]) _ :=
    @Spells.object [b, a] (List.cons_ne_nil _ _)
      (List.forall_mem_cons.mpr ⟨⟨_, hkb, hb⟩, List.forall_mem_singleton.mpr ⟨_, hka, .refl _⟩⟩)
      (List.forall_mem_cons.mpr ⟨hvb, List.forall_mem_singleton.mpr hva⟩)
  have hp : Spells (.object [b.member, a.member])
      (Octets.ofText
        "\x7b\"b\"\r\n: 18446744073709551615,\"\\u0061\":\"\\uD834\\udd1E\\/\"\x7d ") :=
    .padded ho ⟨[], Octets.ofText " ", areBlank_nil, by decide, by decide⟩
  have hl : Spells (.list [.object [b.member, a.member]]) _ :=
    @Spells.list [(_, _)] (List.cons_ne_nil _ _) (List.forall_mem_singleton.mpr hp)
  exact .padded hl ⟨Octets.ofText "\t", Octets.ofText "\n", by decide, by decide, by decide⟩

namespace Draft

/-- The second text is another text of what the first is a text of. -/
theorem buildsAlike_swapped :
    let value : Json :=
      .list [.object [("a", .text "𝄞/"), ("b", .number (.integer 0xFFFFFFFFFFFFFFFF))]]
    let first := "[\x7b\"a\":\"𝄞/\",\"b\":18446744073709551615\x7d]"
    let second :=
      "\t[\x7b\"b\"\r\n: 18446744073709551615,\"\\u0061\":\"\\uD834\\udd1E\\/\"\x7d ]\n"
    value.HasDistinctKeys ∧ value.depth ≤ 127 ∧ value.IsTextOf (Octets.ofText first) ∧
      value.IsTextOf (Octets.ofText second) ∧
      BuildsAlike (Draft.withBlocks { channel := "C1" } first)
        (Draft.withBlocks { channel := "C1" } second) .terminal value := by
  intro value first second
  have hk : value.HasDistinctKeys := by
    refine .list (List.forall_mem_singleton.mpr (.object (by decide) ?_))
    exact List.forall_mem_cons.mpr ⟨.text _, List.forall_mem_singleton.mpr (.number _)⟩
  have hd : value.depth ≤ 127 := by decide
  have hi : value.IsIntegral := by
    refine .list (List.forall_mem_singleton.mpr (.object (List.forall_mem_cons.mpr ⟨.text _, ?_⟩)))
    exact List.forall_mem_singleton.mpr (.number (by decide) (by decide))
  have hf : value.IsTextOf (Octets.ofText first) :=
    ⟨value, Json.rearranges_ordered hk, Json.spells_toOctets hi⟩
  have hs : value.IsTextOf (Octets.ofText second) := Json.isTextOf_swapped
  exact ⟨hk, hd, hf, hs, (buildsAlike_of_isTextOf hk hd).2 first second hf hs _ .terminal⟩

end Draft

/-! ## Content -/

namespace Message

/-- The payload has a text that is not empty, or blocks that are not null. -/
def HasContent (message : Message) : Prop :=
  (∃ text, message.payload.member? "text" = some (.text text) ∧ text ≠ "") ∨
    ∃ blocks, message.payload.member? "blocks" = some blocks ∧ blocks ≠ .null

theorem hasContent_iff (message : Message) :
    message.HasContent ↔ (∃ text, message.text = some text ∧ text ≠ "") ∨
      ∃ blocks, message.blocks = some blocks ∧ blocks ≠ .null := by
  have ht : message.payload.member? "text" = message.text.map .text := by
    show Members.value? "text" message.members = _
    simp [members, Members.value?_append, Members.value?_cons, value?_optionalMember]
  have hb : message.payload.member? "blocks" = message.blocks := by
    show Members.value? "blocks" message.members = _
    simp [members, Members.value?_append, Members.value?_cons, value?_optionalMember]
  rw [HasContent, ht, hb]
  simp

theorem parseBlocks_eq_null_iff {text : String} :
    parseBlocks text = .ok .null ↔ Json.Padded (Octets.ofText "null") (Octets.ofText text) := by
  rw [parseBlocks, mapError_eq_ok_iff, Json.parse_eq_null_iff]

end Message

namespace Draft

variable {draft : Draft} {input : Input} {found : Option String} {message : Message}

/-- The blocks of the draft are the word for null, with blanks around it. -/
def HasNullBlocks (draft : Draft) : Prop :=
  ∃ text, draft.blocks = some text ∧ Json.Padded (Octets.ofText "null") (Octets.ofText text)

/-- Null blocks are content where the message is built, and none in the payload. -/
theorem withContent_of_nullBlocks (hb : draft.HasNullBlocks) (hl : Text.IsLeftOut found) :
    ∃ message, draft.withContent found = .ok message ∧ ¬ message.HasContent := by
  obtain ⟨text, ht, hp⟩ := hb
  refine ⟨_, withContent_of_parseBlocks ht (Message.parseBlocks_eq_null_iff.mpr hp) found, ?_⟩
  rw [Text.given_eq_none_iff.mpr hl, Message.hasContent_iff]
  rintro (⟨_, ⟨⟩, -⟩ | ⟨_, ⟨⟩, hn⟩)
  exact hn rfl

/-- A message without content is asked for by null blocks and nothing else. -/
theorem AsksFor.isLeftOut_and_hasNullBlocks (h : draft.AsksFor found message)
    (hc : ¬ draft.LacksContent found) (hm : ¬ message.HasContent) :
    Text.IsLeftOut found ∧ draft.HasNullBlocks := by
  rw [Message.hasContent_iff, not_or, not_exists, not_exists] at hm
  have hl : Text.IsLeftOut found := by
    by_contra hn
    obtain ⟨text, ht⟩ := Option.ne_none_iff_exists'.mp fun hn' => hn (.inl hn')
    have hne : text ≠ "" := fun he => hn (.inr (he ▸ ht))
    exact hm.1 text ⟨(h.text text).mpr ⟨ht, hne⟩, hne⟩
  refine ⟨hl, ?_⟩
  generalize hb : message.blocks = blocks at hm
  obtain hn | ⟨ht, hne, hp⟩ := hb ▸ h.blocks
  · exact absurd ⟨hl, hn⟩ hc
  · have hv := Classical.not_not.mp fun hv => hm.2 _ ⟨rfl, hv⟩
    exact ⟨_, ht, Message.parseBlocks_eq_null_iff.mp (hv ▸ hp)⟩

/-- A message that has no content is built from null blocks where no text is found, and from
    nothing else. -/
theorem build_lacksContent_iff (draft : Draft) (input : Input) :
    (∃ message, (draft.build input).result = .ok message ∧ ¬ message.HasContent) ↔
      draft.HasNullBlocks ∧ ∃ found, draft.Finds input (.ok found) ∧ Text.IsLeftOut found := by
  constructor
  · rintro ⟨message, hm, hn⟩
    obtain ⟨found, hf⟩ := draft.exists_finds input
    rw [result_build_of_finds hf] at hm
    cases found with
    | error failure => cases hm
    | ok found =>
      rw [ok_bind] at hm
      have hs := draft.settles_withContent found
      have hc : ¬ draft.LacksContent found := by
        rw [← hs.missing, hm]
        exact nofun
      obtain he | ⟨_, he⟩ | ⟨_, he, ha⟩ := hs.built
      · rw [he] at hm
        cases hm
      · rw [he] at hm
        cases hm
      · cases he.symm.trans hm
        obtain ⟨hl, hb⟩ := ha.isLeftOut_and_hasNullBlocks hc hn
        exact ⟨hb, found, hf, hl⟩
  · rintro ⟨hb, found, hf, hl⟩
    rw [result_build_of_finds hf]
    exact withContent_of_nullBlocks hb hl

/-- At a terminal, with no text. -/
theorem build_lacksContent_null :
    ∃ message, (Draft.build { channel := "C1", blocks := some "null" } .terminal).result =
      .ok message ∧ ¬ message.HasContent := by
  let draft : Draft := { channel := "C1", blocks := some "null" }
  have hb : draft.HasNullBlocks := ⟨"null", rfl, .refl _⟩
  have hl : Text.IsLeftOut draft.text := .inl rfl
  rw [result_build_of_finds (.nothing hl)]
  exact withContent_of_nullBlocks hb (.inl rfl)

end Draft

end SlackCourier
