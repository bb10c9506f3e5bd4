import SlackCourier.Message
import SlackCourier.Proofs.Json.Canonical
import SlackCourier.Proofs.Json.Reading

/-!
# What a payload carries

A message is sent as an object whose members come in the order in which they are
told: the channel, the text, the blocks, the thread. The reader puts them in the
order of their keys, so what a payload carries is not where its members stand but
which value is under which key (`Message.value?_gather_members`).

* `Message.parse_payload`: the payload of a message is read back.
* `Message.parseBlocks_print_of_parseBlocks`: blocks that were read are written in a
  form that is read as the same again.
* `Message.carries_payload`: it carries what was told, as far as it is given and not
  empty, and nothing else.
-/

namespace SlackCourier

/-! ## Members -/

namespace Members

theorem value?_map (f : Json → Json) (members : Members) (key : String) :
    value? key (members.map fun member => (member.1, f member.2)) =
      (value? key members).map f := by
  induction members with
  | nil => rfl
  | cons member members ih =>
    rw [List.map_cons, value?_cons, value?_cons, ih]
    split <;> rfl

end Members

namespace Message

variable {channel : String} {text thread : Option String} {blocks : Option Json}
  {message : Message}

/-- The members that are sent for a message. -/
def members (message : Message) : Members :=
  ("channel", .text message.channel) :: optionalMember "text" (message.text.map .text)
    ++ optionalMember "blocks" message.blocks
    ++ optionalMember "thread_ts" (message.thread.map .text)

theorem payload_eq (message : Message) : message.payload = .object message.members := rfl

theorem value?_optionalMember (key key' : String) (value : Option Json) :
    Members.value? key (optionalMember key' value) = if key = key' then value else none := by
  cases value with
  | none => exact (ite_self none).symm
  | some value => exact Members.value?_cons _

theorem reverse_optionalMember (key : String) (value : Option Json) :
    (optionalMember key value).reverse = optionalMember key value := by
  cases value <;> rfl

/-- Every key comes once, so its value is the last one. -/
theorem value?_reverse_members (message : Message) (key : String) :
    Members.value? key message.members.reverse =
      if key = "channel" then some (.text message.channel)
      else if key = "text" then message.text.map .text
      else if key = "blocks" then message.blocks
      else if key = "thread_ts" then message.thread.map .text
      else none := by
  simp only [members, List.reverse_append, List.reverse_cons, reverse_optionalMember,
    Members.value?_append, Members.value?_cons, value?_optionalMember]
  -- The four keys differ, so at most one of the parts has the key.
  by_cases hc : key = "channel"
  · subst hc
    rfl
  by_cases ht : key = "text"
  · subst ht
    cases message.text <;> rfl
  by_cases hb : key = "blocks"
  · subst hb
    cases message.blocks <;> rfl
  by_cases hd : key = "thread_ts"
  · subst hd
    cases message.thread <;> rfl
  simp only [hc, ht, hb, hd, if_false]
  rfl

/-- What holds of texts and of the blocks holds of the values of all members. -/
theorem forall_mem_members {p : Json → Prop} (ht : ∀ text, p (.text text))
    (hb : ∀ value, message.blocks = some value → p value) :
    ∀ member ∈ message.members, p member.2 := by
  have ho (key : String) (text : Option String) :
      ∀ member ∈ optionalMember key (text.map .text), p member.2 := by
    cases text with
    | none => exact fun _ h => absurd h List.not_mem_nil
    | some text => exact List.forall_mem_singleton.mpr (ht text)
  have hv : ∀ member ∈ optionalMember "blocks" message.blocks, p member.2 := by
    cases h : message.blocks with
    | none => exact fun _ h => absurd h List.not_mem_nil
    | some value => exact List.forall_mem_singleton.mpr (hb value h)
  rw [members, List.forall_mem_append, List.forall_mem_append, List.forall_mem_cons]
  exact ⟨⟨⟨ht _, ho _ _⟩, hv⟩, ho _ _⟩

/-! ## Reading -/

/-- Blocks that can be sent: their numbers are integers, and around them there is
    room for one level more. -/
structure IsSendable (blocks : Json) : Prop where
  isIntegral : blocks.IsIntegral
  depth : blocks.depth < Json.greatestDepth

/-- What is read of a payload: the members that were sent, gathered. -/
def received (message : Message) : Members :=
  Members.gather (message.members.map fun member => (member.1, member.2.ordered))

/-- The payload of a message is read back. -/
theorem parse_payload (h : ∀ value, message.blocks = some value → IsSendable value) :
    Json.parse message.payload.toOctets = .ok (.object message.received) := by
  have hi : message.payload.IsIntegral :=
    .object (forall_mem_members .text fun value hv => (h value hv).isIntegral)
  have hd : message.payload.depth ≤ Json.greatestDepth :=
    Json.depth_object_le (forall_mem_members (fun _ => Nat.zero_le _)
      fun value hv => Nat.le_of_lt_succ (h value hv).depth)
  rw [Json.parse_toOctets hi hd, payload_eq, Json.ordered_object]
  rfl

theorem value?_received (message : Message) (key : String) :
    Members.value? key message.received =
      (Members.value? key message.members.reverse).map Json.ordered := by
  rw [received, Members.value?_gather, ← List.map_reverse, Members.value?_map]

/-- The members of the object that is to be sent for a channel and for what is given
    besides: a text and a thread if they are not empty, blocks if there are any, and
    nothing else. -/
structure Carries (channel : String) (text : Option String) (blocks : Option Json)
    (thread : Option String) (members : Members) : Prop where
  isOrdered : members.IsOrdered
  channel : members.value? "channel" = some (.text channel)
  text : ∀ value, members.value? "text" = some value ↔
    ∃ content, text = some content ∧ content ≠ "" ∧ value = .text content
  blocks : members.value? "blocks" = blocks
  thread : ∀ value, members.value? "thread_ts" = some value ↔
    ∃ content, thread = some content ∧ content ≠ "" ∧ value = .text content
  nothingElse : ∀ key, key ∉ ["channel", "text", "blocks", "thread_ts"] →
    members.value? key = none

theorem map_given_eq_some_iff {text : Option String} {value : Json} :
    ((Text.given text).map Json.text).map Json.ordered = some value ↔
      ∃ content, text = some content ∧ content ≠ "" ∧ value = .text content := by
  rw [Option.map_map, Option.map_eq_some_iff]
  simp only [Text.given_eq_some_iff, and_assoc]
  exact exists_congr fun content => and_congr_right fun _ => and_congr_right fun _ => eq_comm

/-- What is read of a payload carries what was told of its message. -/
theorem carries_received (h : of? channel text blocks thread = .ok message)
    (hb : ∀ value, blocks = some value → value.IsOrdered) :
    Carries channel text blocks thread message.received := by
  obtain ⟨-, rfl⟩ := of?_eq_ok_iff.mp h
  constructor
  case isOrdered => exact Members.isOrdered_gather _
  case channel =>
    rw [value?_received, value?_reverse_members]
    rfl
  case text =>
    intro value
    rw [value?_received, value?_reverse_members]
    exact map_given_eq_some_iff
  case blocks =>
    rw [value?_received, value?_reverse_members]
    -- Blocks that are in order are read back as they were given.
    show blocks.map Json.ordered = blocks
    cases blocks with
    | none => rfl
    | some value => exact congrArg some (hb value rfl).ordered_eq
  case thread =>
    intro value
    rw [value?_received, value?_reverse_members]
    exact map_given_eq_some_iff
  case nothingElse =>
    intro key hk
    simp only [List.mem_cons, List.not_mem_nil, or_false, not_or] at hk
    obtain ⟨hc, ht, hb, hd⟩ := hk
    rw [value?_received, value?_reverse_members, if_neg hc, if_neg ht, if_neg hb, if_neg hd]
    rfl

/-- Blocks that are written are read back. -/
theorem parseBlocks_print {value : Json} (hi : value.IsIntegral)
    (hd : value.depth ≤ Json.greatestDepth) : parseBlocks value.print = .ok value.ordered := by
  rw [parseBlocks, show Octets.ofText value.print = value.toOctets from rfl,
    Json.parse_toOctets hi hd]
  rfl

/-- Blocks that were read are written in a form that is read as the same again. -/
theorem parseBlocks_print_of_parseBlocks {text : String} {value : Json}
    (h : parseBlocks text = .ok value) (hi : value.IsIntegral) :
    parseBlocks value.print = .ok value := by
  obtain ⟨ho, hd⟩ := Json.isOrdered_of_parse (mapError_eq_ok_iff.mp h)
  rw [parseBlocks_print hi hd, ho.ordered_eq]

/-- Whatever is told of a message, its payload carries that and is read back. The
    object around the blocks takes one of the levels that they may have alone. -/
theorem carries_payload (h : of? channel text blocks thread = .ok message)
    (hb : ∀ value, blocks = some value → value.IsOrdered ∧ value.IsIntegral ∧ value.depth ≤ 127) :
    (∀ value, blocks = some value → parseBlocks value.print = .ok value) ∧
      ((∀ value, blocks = some value → value.depth ≤ 126) →
        ∃ members, Json.parse message.payload.toOctets = .ok (.object members) ∧
          Carries channel text blocks thread members) := by
  constructor
  · intro value hv
    obtain ⟨ho, hi, hd⟩ := hb value hv
    rw [parseBlocks_print hi hd, ho.ordered_eq]
  · intro hd
    have hm : message.blocks = blocks := congrArg Message.blocks (of?_eq_ok_iff.mp h).2
    have hs : ∀ value, message.blocks = some value → IsSendable value := fun value hv =>
      ⟨(hb value (hm ▸ hv)).2.1, Nat.lt_succ_of_le (hd value (hm ▸ hv))⟩
    exact ⟨_, parse_payload hs, carries_received h fun value hv => (hb value hv).1⟩

/-- Escapes, the greatest and the least integer, and an empty thread. -/
theorem carries_payload_extremes :
    let blocks : Json :=
      .list [.object [("\x00", .number (.integer (-0x8000000000000000))), ("\"\\",
        .number (.integer 0xFFFFFFFFFFFFFFFF))], .list [], .null]
    let message : Message := ⟨"C1", some "\x1F\r\n\"\\𝄞", some blocks, none⟩
    of? "C1" (some "\x1F\r\n\"\\𝄞") (some blocks) (some "") = .ok message ∧
      ∃ members, Json.parse message.payload.toOctets = .ok (.object members) ∧
        Carries "C1" (some "\x1F\r\n\"\\𝄞") (some blocks) (some "") members := by
  intro blocks message
  have hm : of? "C1" (some "\x1F\r\n\"\\𝄞") (some blocks) (some "") = .ok message := rfl
  have ho : blocks.IsOrdered := by
    refine .list (List.forall_mem_cons.mpr ⟨.object ?_ ?_, List.forall_mem_cons.mpr
      ⟨.list fun _ h => absurd h List.not_mem_nil, List.forall_mem_singleton.mpr .null⟩⟩)
    · unfold Members.IsOrdered
      decide
    · exact List.forall_mem_cons.mpr ⟨.number _, List.forall_mem_singleton.mpr (.number _)⟩
  have hi : blocks.IsIntegral := by
    refine .list (List.forall_mem_cons.mpr ⟨.object ?_, List.forall_mem_cons.mpr
      ⟨.list fun _ h => absurd h List.not_mem_nil, List.forall_mem_singleton.mpr .null⟩⟩)
    exact List.forall_mem_cons.mpr ⟨.number (by decide) (by decide),
      List.forall_mem_singleton.mpr (.number (by decide) (by decide))⟩
  have hd : blocks.depth = 2 := rfl
  refine ⟨hm, (carries_payload hm ?_).2 ?_⟩
  · rintro _ ⟨⟩
    exact ⟨ho, hi, by rw [hd]; decide⟩
  · rintro _ ⟨⟩
    rw [hd]
    decide

end Message

end SlackCourier
