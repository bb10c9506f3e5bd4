import SlackCourier.Failure
import SlackCourier.Json.Printer
import SlackCourier.Json.Reader.Value
import SlackCourier.Text.Blank

/-!
# Messages

A message for a channel: a text, blocks, or both, and the thread that it
replies to, if any. It is sent as one JSON object (`Message.payload`), which has
a member for what the message has and for nothing else.
-/

namespace SlackCourier

/-- A message. -/
structure Message where
  channel : String
  text : Option String
  blocks : Option Json
  thread : Option String
deriving Repr

namespace Message

/-- The message with the given content. Empty texts count as left out, and a
    message without text and blocks is none. -/
def of? (channel : String) (text : Option String) (blocks : Option Json) (thread : Option String) :
    Except Failure Message :=
  let text := Text.given text
  if text.isNone && blocks.isNone then .error .missingContent
  else .ok ⟨channel, text, blocks, Text.given thread⟩

theorem of?_eq_ok_iff {channel : String} {text thread : Option String} {blocks : Option Json}
    {message : Message} :
    of? channel text blocks thread = .ok message ↔
      (Text.given text ≠ none ∨ blocks ≠ none) ∧
        message = ⟨channel, Text.given text, blocks, Text.given thread⟩ := by
  rw [of?]
  cases Text.given text <;> cases blocks <;> simp [eq_comm]

/-- Reads the blocks of a message. -/
def parseBlocks (text : String) : Except Failure Json :=
  (Json.parse (Octets.ofText text)).mapError .invalidBlocks

/-- A member, if there is a value for it. -/
def optionalMember (key : String) (value : Option Json) : Members :=
  value.toList.map (key, ·)

/-- The object that is sent. -/
def payload (message : Message) : Json :=
  .object <|
    ("channel", .text message.channel) :: optionalMember "text" (message.text.map .text)
      ++ optionalMember "blocks" message.blocks
      ++ optionalMember "thread_ts" (message.thread.map .text)

/-- The object that is sent, as the octets that are sent. -/
def serialize (message : Message) : Except Failure Octets :=
  message.payload.serialize.mapError .unserializable

/-- Every message can be sent. -/
theorem serialize_eq (message : Message) : message.serialize = .ok message.payload.toOctets :=
  rfl

end Message

end SlackCourier
