import SlackCourier.Proofs.Outcome

/-!
# From drafts to messages

A draft is looked at twice: where it is built, as it was told, and where the message
is made, with its text found and its blocks parsed. Both ask whether there is any
content, of different data, and both leave out what is empty. So the text matters
only as far as it is given (`Draft.withContent_congr`), and what passes the first
question passes the second.

* `Draft.result_build`: the result of building a message, without what is done for it.
* `Draft.build_decides`: when the input is read, which of several faults is reported,
  and which message is built if there is none.
-/

namespace SlackCourier

/-- There is no text, or an empty one. -/
def Text.IsLeftOut (text : Option String) : Prop :=
  text = none ∨ text = some ""

theorem Text.not_isLeftOut {text : Option String} {content : String} (h : text = some content)
    (hne : content ≠ "") : ¬ IsLeftOut text := by
  rintro (hn | he)
  · rw [hn] at h
    cases h
  · rw [he] at h
    exact hne (Option.some.inj h).symm

namespace Message

variable {channel : String} {text text' thread thread' : Option String} {blocks : Option Json}

/-- Texts that are empty make the same message as none. -/
theorem of?_congr (h : Text.given text = Text.given text')
    (ht : Text.given thread = Text.given thread') :
    of? channel text blocks thread = of? channel text' blocks thread' := by
  rw [of?, of?, h, ht]

end Message

namespace Draft

variable {draft : Draft} {input : Input} {text text' : Option String}

/-! ## The text -/

theorem lacksText_eq_true_iff : draft.lacksText = true ↔ Text.IsLeftOut draft.text := by
  rw [lacksText, Option.isNone_iff_eq_none, Text.given_eq_none_iff, Text.IsLeftOut]

/-- What is piped in is the text of a draft that has none. -/
theorem result_readText_piped (h : Text.given draft.text = none) (content : Except Failure String) :
    (draft.readText (.piped content)).result = content.map some := by
  have hl : draft.lacksText = true := by
    rw [lacksText, h]
    rfl
  simp only [readText, hl]
  cases content <;> rfl

/-- Nothing is asked of a terminal. -/
theorem result_readText_terminal (draft : Draft) :
    (draft.readText .terminal).result = .ok draft.text := by
  cases h : draft.lacksText <;> simp only [readText, h] <;> rfl

/-- A text that was given is the text of the draft, whatever is piped in. -/
theorem result_readText_given (h : ¬ Text.IsLeftOut draft.text) (input : Input) :
    (draft.readText input).result = .ok draft.text := by
  have hl : draft.lacksText = false := Bool.eq_false_iff.mpr fun hl =>
    h (lacksText_eq_true_iff.mp hl)
  cases input <;> simp only [readText, hl] <;> rfl

/-! ## The message -/

/-- The message that is built from a draft once its text is known. -/
def withContent (draft : Draft) (text : Option String) : Except Failure Message :=
  if (Text.given text).isNone && (Text.given draft.blocks).isNone then .error .missingContent
  else do
    let blocks ← (Text.given draft.blocks).mapM Message.parseBlocks
    Message.of? draft.channel text blocks draft.thread

/-- A message is built from the text that is found and from nothing else that is read. -/
theorem result_build (draft : Draft) (input : Input) :
    (draft.build input).result = (draft.readText input).result >>= draft.withContent := by
  rw [build, Run.result_bind]
  congr 1
  funext text
  rw [withContent]
  dsimp only
  by_cases h : ((Text.given text).isNone && (Text.given draft.blocks).isNone) = true
  · rw [if_pos h, if_pos h]
    rfl
  · rw [if_neg h, if_neg h, Run.result_bind]
    rfl

/-- An empty text counts as none. -/
theorem withContent_congr (h : Text.given text = Text.given text') :
    draft.withContent text = draft.withContent text' := by
  simp only [withContent, h, Message.of?_congr h rfl]

/-! ## What is decided -/

/-- What is found of the text of a draft: the text that was given, and otherwise what is
    piped in, if that can be read, and nothing at a terminal. -/
inductive Finds (draft : Draft) : Input → Except Failure (Option String) → Prop
  | given {input : Input} {text : String} :
    draft.text = some text → text ≠ "" → Finds draft input (.ok (some text))
  | read {text : String} :
    Text.IsLeftOut draft.text → Finds draft (.piped (.ok text)) (.ok (some text))
  | unread {failure : Failure} :
    Text.IsLeftOut draft.text → Finds draft (.piped (.error failure)) (.error failure)
  | nothing : Text.IsLeftOut draft.text → Finds draft .terminal (.ok none)

/-- What is sent as the blocks of a draft: nothing if they are left out, and otherwise what
    they denote. -/
inductive Encloses (draft : Draft) : Option Json → Prop
  | nothing : Text.IsLeftOut draft.blocks → Encloses draft none
  | parsed {text : String} {blocks : Json} :
    draft.blocks = some text → text ≠ "" → Message.parseBlocks text = .ok blocks →
    Encloses draft (some blocks)

/-- The blocks of a draft are not left out, and the fault in them is that. -/
def HasFaultyBlocks (draft : Draft) (fault : Json.Fault) : Prop :=
  ∃ text, draft.blocks = some text ∧ text ≠ "" ∧ Json.parse (Octets.ofText text) = .error fault

/-- There is nothing to send: the text that was found and the blocks are both left out. -/
def LacksContent (draft : Draft) (text : Option String) : Prop :=
  Text.IsLeftOut text ∧ Text.IsLeftOut draft.blocks

/-- The message that a draft asks for with the text that was found. -/
structure AsksFor (draft : Draft) (text : Option String) (message : Message) : Prop where
  channel : message.channel = draft.channel
  text : ∀ content, message.text = some content ↔ text = some content ∧ content ≠ ""
  blocks : draft.Encloses message.blocks
  thread : ∀ content, message.thread = some content ↔ draft.thread = some content ∧ content ≠ ""

/-- What a draft comes to with the text that was found. -/
structure Settles (draft : Draft) (text : Option String) (result : Except Failure Message) :
    Prop where
  /-- That there is no content is told before anything is told of the blocks. -/
  missing : result = .error .missingContent ↔ draft.LacksContent text
  /-- Blocks that are none are refused, also next to a text. -/
  invalid : ∀ fault, result = .error (.invalidBlocks fault) ↔ draft.HasFaultyBlocks fault
  /-- Nothing else is wrong with a draft. -/
  built : result = .error .missingContent ∨ (∃ fault, result = .error (.invalidBlocks fault)) ∨
    ∃ message, result = .ok message ∧ draft.AsksFor text message
  /-- What has content is not found to have none when the message is made. -/
  madeOf : ∀ blocks, ¬ draft.LacksContent text → draft.Encloses blocks →
    Message.of? draft.channel text blocks draft.thread ≠ .error .missingContent

/-- What building a message comes to, and what is read for it. -/
structure Decides (draft : Draft) (input : Input) (run : Run Failure Message) : Prop where
  /-- The input is read once where no text was given, unless it is a terminal. -/
  asked : ∀ content, Text.IsLeftOut draft.text → input = .piped content →
    run.events.reads = [.inputRead]
  unasked : ¬ Text.IsLeftOut draft.text ∨ input = .terminal → run.events.reads = []
  /-- Input that cannot be read is the first fault, whatever the blocks are. -/
  failed : ∀ failure, draft.Finds input (.error failure) → run.result = .error failure
  /-- Only the input can be unreadable. -/
  unreadable : ∀ what fault, run.result = .error (.unreadable what fault) ↔
    draft.Finds input (.error (.unreadable what fault))
  /-- With a text, or without one, the rest of the draft decides. -/
  settled : ∀ text, draft.Finds input (.ok text) → draft.Settles text run.result

theorem exists_finds (draft : Draft) (input : Input) : ∃ found, draft.Finds input found := by
  by_cases h : Text.IsLeftOut draft.text
  · cases input with
    | terminal => exact ⟨_, .nothing h⟩
    | piped content =>
      cases content with
      | ok text => exact ⟨_, .read h⟩
      | error failure => exact ⟨_, .unread h⟩
  · obtain ⟨text, ht⟩ := Option.ne_none_iff_exists'.mp fun hn => h (.inl hn)
    exact ⟨_, .given ht fun he => h (.inr (he ▸ ht))⟩

theorem result_build_of_finds {found : Except Failure (Option String)}
    (h : draft.Finds input found) : (draft.build input).result = found >>= draft.withContent := by
  rw [result_build]
  cases h with
  | @given input text ht hne =>
    rw [result_readText_given (Text.not_isLeftOut ht hne), ht]
  | read hl => rw [result_readText_piped (Text.given_eq_none_iff.mpr hl)]; rfl
  | unread hl => rw [result_readText_piped (Text.given_eq_none_iff.mpr hl)]; rfl
  | nothing hl =>
    -- The draft may have an empty text, which counts as none.
    rw [result_readText_terminal, ok_bind, ok_bind]
    exact withContent_congr (Text.given_eq_none_iff.mpr hl)

/-- Blocks are enclosed if they are parsed. -/
theorem mapM_parseBlocks_eq_ok_iff {blocks : Option Json} :
    (Text.given draft.blocks).mapM Message.parseBlocks = .ok blocks ↔ draft.Encloses blocks := by
  constructor
  · intro h
    cases hg : Text.given draft.blocks with
    | none =>
      rw [hg] at h
      cases h
      exact .nothing (Text.given_eq_none_iff.mp hg)
    | some text =>
      rw [hg] at h
      obtain ⟨value, hv, h⟩ := bind_eq_ok_iff.mp h
      cases h
      obtain ⟨hb, hne⟩ := Text.given_eq_some_iff.mp hg
      exact .parsed hb hne hv
  · intro h
    cases h with
    | nothing hl =>
      rw [Text.given_eq_none_iff.mpr hl]
      rfl
    | parsed hb hne hp =>
      rw [Text.given_eq_some_iff.mpr ⟨hb, hne⟩]
      show Message.parseBlocks _ >>= _ = _
      rw [hp]
      rfl

/-- They are refused if they are not left out and have a fault. -/
theorem mapM_parseBlocks_eq_error_iff {failure : Failure} :
    (Text.given draft.blocks).mapM Message.parseBlocks = .error failure ↔
      ∃ fault, failure = .invalidBlocks fault ∧ draft.HasFaultyBlocks fault := by
  constructor
  · intro h
    cases hg : Text.given draft.blocks with
    | none =>
      rw [hg] at h
      cases h
    | some text =>
      obtain ⟨hb, hne⟩ := Text.given_eq_some_iff.mp hg
      rw [hg, show Option.mapM _ _ = (Message.parseBlocks text >>= _) from rfl,
        Message.parseBlocks] at h
      cases hp : Json.parse (Octets.ofText text) with
      | ok blocks =>
        rw [hp] at h
        cases h
      | error fault =>
        rw [hp] at h
        cases h
        exact ⟨fault, rfl, text, hb, hne, hp⟩
  · rintro ⟨fault, rfl, text, hb, hne, hp⟩
    rw [Text.given_eq_some_iff.mpr ⟨hb, hne⟩]
    show Message.parseBlocks text >>= _ = _
    rw [Message.parseBlocks, hp]
    rfl

/-- What the draft encloses is something where its blocks are not left out, so the message
    has content if the draft has. -/
theorem of?_of_encloses {blocks : Option Json} (hc : ¬ draft.LacksContent text)
    (hb : draft.Encloses blocks) :
    Message.of? draft.channel text blocks draft.thread =
      .ok ⟨draft.channel, Text.given text, blocks, Text.given draft.thread⟩ := by
  refine Message.of?_eq_ok_iff.mpr ⟨?_, rfl⟩
  cases hb with
  | nothing hl => exact .inl fun hn => hc ⟨Text.given_eq_none_iff.mp hn, hl⟩
  | parsed => exact .inr (Option.some_ne_none _)

/-- The first question finds that there is no content. -/
theorem isNone_and_isNone_iff :
    ((Text.given text).isNone && (Text.given draft.blocks).isNone) = true ↔
      draft.LacksContent text := by
  rw [Bool.and_eq_true, Option.isNone_iff_eq_none, Option.isNone_iff_eq_none,
    Text.given_eq_none_iff, Text.given_eq_none_iff]
  rfl

theorem withContent_of_lacksContent (hc : draft.LacksContent text) :
    draft.withContent text = .error .missingContent := by
  rw [withContent, if_pos (isNone_and_isNone_iff.mpr hc)]

/-- With content, all depends on the blocks. -/
theorem withContent_of_content (hc : ¬ draft.LacksContent text) :
    draft.withContent text = ((Text.given draft.blocks).mapM Message.parseBlocks).map fun blocks =>
      ⟨draft.channel, Text.given text, blocks, Text.given draft.thread⟩ := by
  rw [withContent, if_neg fun h => hc (isNone_and_isNone_iff.mp h)]
  cases h : (Text.given draft.blocks).mapM Message.parseBlocks with
  | ok blocks => exact of?_of_encloses hc (mapM_parseBlocks_eq_ok_iff.mp h)
  | error failure => rfl

/-- Once the text is known, the draft settles what it comes to. -/
theorem settles_withContent (draft : Draft) (text : Option String) :
    draft.Settles text (draft.withContent text) := by
  by_cases hc : draft.LacksContent text
  · rw [withContent_of_lacksContent hc]
    refine ⟨iff_of_true rfl hc, fun fault => iff_of_false nofun ?_, .inl rfl,
      fun _ hn => absurd hc hn⟩
    rintro ⟨blocks, hb, hne, -⟩
    exact Text.not_isLeftOut hb hne hc.2
  · have hm : ∀ blocks, ¬ draft.LacksContent text → draft.Encloses blocks →
        Message.of? draft.channel text blocks draft.thread ≠ .error .missingContent := by
      intro blocks _ hb
      rw [of?_of_encloses hc hb]
      exact nofun
    rw [withContent_of_content hc]
    cases h : (Text.given draft.blocks).mapM Message.parseBlocks with
    | ok blocks =>
      refine ⟨iff_of_false nofun hc, fun fault => iff_of_false nofun fun hf => ?_,
        .inr (.inr ⟨_, rfl, rfl, fun _ => Text.given_eq_some_iff,
          mapM_parseBlocks_eq_ok_iff.mp h, fun _ => Text.given_eq_some_iff⟩), hm⟩
      rw [mapM_parseBlocks_eq_error_iff.mpr ⟨fault, rfl, hf⟩] at h
      cases h
    | error failure =>
      obtain ⟨fault, rfl, hf⟩ := mapM_parseBlocks_eq_error_iff.mp h
      refine ⟨iff_of_false nofun hc, fun fault' => ⟨?_, fun hf' => ?_⟩,
        .inr (.inl ⟨fault, rfl⟩), hm⟩
      · rintro ⟨⟩
        exact hf
      · rw [mapM_parseBlocks_eq_error_iff.mpr ⟨fault', rfl, hf'⟩] at h
        cases h
        rfl

theorem reads_readings_piped (hl : Text.IsLeftOut draft.text) (content : Except Failure String) :
    Trace.reads (draft.readings (.piped content)) = [.inputRead] := by
  rw [readings, if_pos (lacksText_eq_true_iff.mpr hl)]
  rfl

theorem reads_readings_of_unasked (h : ¬ Text.IsLeftOut draft.text ∨ input = .terminal) :
    Trace.reads (draft.readings input) = [] := by
  cases input with
  | terminal => rfl
  | piped content =>
    have hl := h.resolve_right nofun
    rw [readings, if_neg fun hn => hl (lacksText_eq_true_iff.mp hn)]
    rfl

/-- Building a message reads the input where it has to, reports the first fault, and gives
    the message that was asked for if there is none. -/
theorem build_decides (draft : Draft) (input : Input) :
    draft.Decides input (draft.build input) where
  asked content hl hi := by
    rw [events_build, hi, reads_readings_piped hl]
  unasked h := by
    rw [events_build, reads_readings_of_unasked h]
  failed failure h := result_build_of_finds h
  unreadable what fault := by
    refine ⟨fun hr => ?_, fun h => result_build_of_finds h⟩
    obtain ⟨found, hf⟩ := draft.exists_finds input
    rw [result_build_of_finds hf] at hr
    cases found with
    | error failure =>
      cases hr
      exact hf
    | ok text =>
      -- With a text the result is one of three others.
      obtain h | ⟨_, h⟩ | ⟨_, h, -⟩ := (draft.settles_withContent text).built <;>
      · rw [ok_bind, h] at hr
        cases hr
  settled text h := by
    rw [result_build_of_finds h]
    exact draft.settles_withContent text

end Draft

end SlackCourier
