import SlackCourier.Proofs.Building
import SlackCourier.Proofs.Payload

/-!
# What is piped in is sent as it is

Between the input and the wire a text is decoded, taken for a text that was not
given, written as JSON and encoded again. None of these steps drops, trims or
replaces anything: read from the one body that is sent, the text has the octets that
were piped in.

* `World.sends_piped`: octets that are text are sent as they are; octets that are not,
  or none at all where there is nothing else, are refused before anybody is called.
-/

namespace SlackCourier

/-! ## Building messages -/

namespace Draft

variable {draft : Draft} {octets : Octets}

/-- A draft without a text is built from the text that is piped in. -/
theorem result_build_of_text (h : Text.given draft.text = none) {text : String}
    (ht : octets = Octets.ofText text) :
    (draft.build (.ofOctets octets)).result = draft.withContent (some text) := by
  rw [result_build, Input.ofOctets, Octets.text?_eq_some_iff.mpr ht, result_readText_piped h]
  rfl

/-- Octets that are no text are refused, whatever else the draft has. -/
theorem result_build_of_notText (h : Text.given draft.text = none) (ht : octets.text? = none) :
    (draft.build (.ofOctets octets)).result = .error (.unreadable "stdin" .notText) := by
  rw [result_build, Input.ofOctets, ht, result_readText_piped h]
  rfl

/-- With a text that is not empty a message is built, if the blocks are blocks. -/
theorem withContent_of_text {text : String} (ht : text ≠ "") {blocks : Option Json}
    (hb : (Text.given draft.blocks).mapM Message.parseBlocks = .ok blocks) :
    draft.withContent (some text) =
      .ok ⟨draft.channel, some text, blocks, Text.given draft.thread⟩ := by
  have hg : Text.given (some text) = some text := Text.given_eq_some_iff.mpr ⟨rfl, ht⟩
  rw [withContent, hb, hg]
  exact Message.of?_eq_ok_iff.mpr ⟨.inl (by rw [hg]; exact Option.some_ne_none _), by rw [hg]⟩

theorem withContent_of_nothing (hb : Text.given draft.blocks = none) :
    draft.withContent (some "") = .error .missingContent := by
  rw [withContent, hb]
  rfl

/-- The blocks are left out, or they are blocks that can be sent. -/
def HasSendableBlocks (draft : Draft) : Prop :=
  ∀ text, draft.blocks = some text → text ≠ "" →
    ∃ blocks, Message.parseBlocks text = .ok blocks ∧ Message.IsSendable blocks

theorem HasSendableBlocks.mapM (h : draft.HasSendableBlocks) :
    ∃ blocks, (Text.given draft.blocks).mapM Message.parseBlocks = .ok blocks ∧
      ∀ value, blocks = some value → Message.IsSendable value := by
  cases hg : Text.given draft.blocks with
  | none => exact ⟨none, rfl, nofun⟩
  | some text =>
    obtain ⟨hb, hne⟩ := Text.given_eq_some_iff.mp hg
    obtain ⟨blocks, hp, hs⟩ := h text hb hne
    refine ⟨some blocks, ?_, ?_⟩
    · show Message.parseBlocks text >>= _ = _
      rw [hp]
      rfl
    · rintro _ ⟨⟩
      exact hs

end Draft

/-! ## Sending -/

theorem Body.octets_json (octets : Octets) : (json octets).octets = octets := rfl

namespace World

variable {world : World} {credential : Credential} {draft : Draft} {octets : Octets}

theorem call_send (hc : world.credential = .ok credential) (draft : Draft) :
    world.call (.send draft) = (draft.build world.input).result.map fun message =>
      ⟨world.endpoints.message, credential, Body.json message.payload.toOctets⟩ := by
  rw [call, hc, body]
  cases (draft.build world.input).result <;> rfl

/-- A message that cannot be built is the end of the run, and nobody is called. -/
theorem execute_of_unbuilt (hc : world.credential = .ok credential) {failure : Failure}
    (h : (draft.build world.input).result = .error failure) :
    (world.execute (.send draft)).events.calls = [] ∧
      (world.execute (.send draft)).result = .error (.failure failure) := by
  have he : world.call (.send draft) = .error failure := by
    rw [call_send hc, h]
    rfl
  rw [execute_eq_staged, calls_staged, result_staged, told_of_call_error he, he]
  exact ⟨rfl, rfl⟩

/-- A message that is built is sent in one call, with its payload as the body. -/
theorem execute_of_built (hc : world.credential = .ok credential) {message : Message}
    (h : (draft.build world.input).result = .ok message) :
    ∃ call, (world.execute (.send draft)).events.calls = [call] ∧
      call.body.octets = message.payload.toOctets := by
  refine ⟨⟨world.endpoints.message, credential, Body.json message.payload.toOctets⟩, ?_,
    Body.octets_json _⟩
  rw [execute_eq_staged, calls_staged, call_send hc, h]
  rfl

end World

/-- What a command comes to that sends a draft without a text, with octets piped in. -/
structure Draft.SendsPiped (draft : Draft) (octets : Octets) (run : Run Trouble Unit) : Prop where
  /-- A text is sent as it is: its octets are those that were piped in. -/
  sent : ∀ text, octets = Octets.ofText text → octets ≠ [] → draft.HasSendableBlocks →
    ∃ call value, run.events.calls = [call] ∧ Json.parse call.body.octets = .ok value ∧
      ∃ received, value.member? "text" = some (.text received) ∧ Octets.ofText received = octets
  /-- What is no text is refused, whatever the blocks are. -/
  refused : (∀ text, octets ≠ Octets.ofText text) →
    run.events.calls = [] ∧ run.result = .error (.failure (.unreadable "stdin" .notText))
  /-- Nothing is refused where there are no blocks. -/
  missing : octets = [] → draft.blocks = none ∨ draft.blocks = some "" →
    run.events.calls = [] ∧ run.result = .error (.failure .missingContent)

/-- What is piped in is sent octet by octet, or refused. -/
theorem World.sends_piped {world : World} {credential : Credential} {draft : Draft}
    {octets : Octets} (hc : world.credential = .ok credential)
    (hi : world.input = .ofOctets octets) (ht : draft.text = none ∨ draft.text = some "") :
    draft.SendsPiped octets (world.execute (.send draft)) := by
  have hg := Text.given_eq_none_iff.mpr ht
  constructor
  case sent =>
    intro text ho hne hb
    have hn : text ≠ "" := by
      rintro rfl
      exact hne ho
    obtain ⟨blocks, hm, hs⟩ := hb.mapM
    -- The message has the text that was decoded, and so has what is read of its payload.
    let message : Message := ⟨draft.channel, some text, blocks, Text.given draft.thread⟩
    have hd : (draft.build world.input).result = .ok message := by
      rw [hi, Draft.result_build_of_text hg ho, Draft.withContent_of_text hn hm]
    have hp : Json.parse message.payload.toOctets = .ok (.object message.received) :=
      Message.parse_payload hs
    have hr : Members.value? "text" message.received = some (.text text) := by
      rw [Message.value?_received, Message.value?_reverse_members]
      rfl
    obtain ⟨call, he, ho'⟩ := execute_of_built hc hd
    exact ⟨call, .object message.received, he, by rw [ho', hp], text, hr, ho.symm⟩
  case refused =>
    intro hn
    -- The octets are decoded before the blocks are looked at.
    have hu : octets.text? = none :=
      Option.eq_none_iff_forall_ne_some.mpr fun text h => hn text (Octets.text?_eq_some_iff.mp h)
    exact execute_of_unbuilt hc (hi ▸ Draft.result_build_of_notText hg hu)
  case missing =>
    intro ho hb
    have hd := (Draft.result_build_of_text hg (ho.trans rfl : octets = Octets.ofText "")).trans
      (Draft.withContent_of_nothing (Text.given_eq_none_iff.mpr hb))
    exact execute_of_unbuilt hc (hi ▸ hd)

/-- A byte order mark, a lone carriage return, a control character and the line feed
    at the end are sent like anything else. -/
theorem World.sends_piped_controls :
    let octets : Octets := [0xEF, 0xBB, 0xBF, 0x0D, 0x00, 0x20, 0x0A]
    let world : World :=
      { endpoints := ⟨"chat.postMessage", "files.upload"⟩
        credential := .ok ⟨"xoxb-1"⟩
        input := .ofOctets octets
        files := fun path => { result := .error (.fileNotFound path) }
        service := fun _ => { result := .error .missingContent }
        output := .working }
    let run := world.execute (.send { channel := "C1", text := some "", blocks := some "" })
    ∃ call value, run.events.calls = [call] ∧ Json.parse call.body.octets = .ok value ∧
      ∃ received, value.member? "text" = some (.text received) ∧
        Octets.ofText received = octets := by
  intro octets world run
  have hs : Draft.SendsPiped { channel := "C1", text := some "", blocks := some "" } octets run :=
    World.sends_piped rfl rfl (.inr rfl)
  refine hs.sent "\uFEFF\r\x00 \n" (by decide) (by decide) ?_
  rintro text ⟨⟩ hne
  exact absurd rfl hne

end SlackCourier
