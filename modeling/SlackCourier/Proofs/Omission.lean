import SlackCourier.Proofs.Building

/-!
# Empty options count as left out

An option that is given and empty makes no difference: wherever the options of a
command are used, what is empty is left out first, be it a text, blocks, a thread or a
comment. A text that is empty is also looked for in the input, like one that was not
given. So a command does the same as the command without its empty options
(`World.execute_withoutEmpty`), whatever it meets.

* `Outcome.ofRun_withoutEmpty`: both come to the same outcome.
-/

namespace SlackCourier

/-- The text, unless it is empty. -/
def Text.unlessEmpty (text : Option String) : Option String :=
  if text = some "" then none else text

theorem Text.given_unlessEmpty (text : Option String) : given (unlessEmpty text) = given text := by
  rw [unlessEmpty]
  split
  · next h =>
    rw [h]
    rfl
  · rfl

/-! ## Drafts -/

namespace Draft

variable (draft : Draft) (input : Input)

/-- The draft without its empty options. -/
def withoutEmpty : Draft :=
  { channel := draft.channel
    text := Text.unlessEmpty draft.text
    blocks := Text.unlessEmpty draft.blocks
    thread := Text.unlessEmpty draft.thread }

theorem lacksText_withoutEmpty : draft.withoutEmpty.lacksText = draft.lacksText := by
  rw [lacksText, lacksText, withoutEmpty, Text.given_unlessEmpty]

/-- The input is read for the one draft if it is for the other. -/
theorem readings_withoutEmpty : draft.withoutEmpty.readings input = draft.readings input := by
  cases input with
  | terminal => rfl
  | piped content => rw [readings, readings, lacksText_withoutEmpty]

variable {draft input}

/-- And the same text is found. -/
theorem finds_withoutEmpty {found : Except Failure (Option String)} (h : draft.Finds input found) :
    draft.withoutEmpty.Finds input found := by
  have hl (hl : Text.IsLeftOut draft.text) : Text.IsLeftOut draft.withoutEmpty.text := by
    refine Text.given_eq_none_iff.mp ?_
    rw [withoutEmpty, Text.given_unlessEmpty, Text.given_eq_none_iff]
    exact hl
  cases h with
  | given ht hne =>
    refine .given ?_ hne
    rw [withoutEmpty, Text.unlessEmpty, if_neg, ht]
    exact fun he => Text.not_isLeftOut ht hne (.inr he)
  | read h => exact .read (hl h)
  | unread h => exact .unread (hl h)
  | nothing h => exact .nothing (hl h)

variable (draft input)

theorem withContent_withoutEmpty (text : Option String) :
    draft.withoutEmpty.withContent text = draft.withContent text := by
  have ht (blocks : Option Json) :
      Message.of? draft.channel text blocks (Text.unlessEmpty draft.thread) =
        Message.of? draft.channel text blocks draft.thread :=
    Message.of?_congr rfl (Text.given_unlessEmpty draft.thread)
  simp only [withContent, withoutEmpty, Text.given_unlessEmpty, ht]

theorem build_withoutEmpty : draft.withoutEmpty.build input = draft.build input := by
  have he : (draft.withoutEmpty.build input).events = (draft.build input).events := by
    rw [events_build, events_build, readings_withoutEmpty]
  have hr : (draft.withoutEmpty.build input).result = (draft.build input).result := by
    obtain ⟨found, hf⟩ := draft.exists_finds input
    rw [result_build_of_finds hf, result_build_of_finds (finds_withoutEmpty hf),
      funext draft.withContent_withoutEmpty]
  exact Run.ext he hr

end Draft

/-! ## Commands -/

namespace Command

/-- The command without its empty options. -/
def withoutEmpty : Command → Command
  | send draft => send draft.withoutEmpty
  | upload channel path comment thread =>
    upload channel path (Text.unlessEmpty comment) (Text.unlessEmpty thread)

theorem name_withoutEmpty (command : Command) : command.withoutEmpty.name = command.name := by
  cases command <;> rfl

end Command

theorem Upload.of_unlessEmpty (channel path : String) (comment thread : Option String) :
    of channel path (Text.unlessEmpty comment) (Text.unlessEmpty thread) =
      of channel path comment thread := by
  rw [of, of, Text.given_unlessEmpty, Text.given_unlessEmpty]

namespace World

variable (world : World)

theorem carryOut_withoutEmpty (credential : Credential) (command : Command) :
    world.carryOut credential command.withoutEmpty = world.carryOut credential command := by
  cases command with
  | send draft =>
    rw [Command.withoutEmpty, carryOut, carryOut, send, send, Draft.build_withoutEmpty]
  | upload channel path comment thread =>
    rw [Command.withoutEmpty, carryOut, carryOut, Upload.of_unlessEmpty]

/-- A command does the same without its empty options. -/
theorem execute_withoutEmpty (command : Command) :
    world.execute command.withoutEmpty = world.execute command := by
  rw [execute, execute, Command.name_withoutEmpty]
  simp only [carryOut_withoutEmpty]

end World

/-- A command comes to the same without its empty options: the same calls, the same
    output and diagnostics, the same exit code and the same log. -/
theorem Outcome.ofRun_withoutEmpty (world : World) (diagnostics : Sink) (command : Command) :
    ofRun diagnostics (world.execute command.withoutEmpty) =
      ofRun diagnostics (world.execute command) := by
  rw [World.execute_withoutEmpty]

end SlackCourier
