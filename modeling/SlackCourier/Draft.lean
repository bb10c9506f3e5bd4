import SlackCourier.Message
import SlackCourier.Run

/-!
# Drafts

A draft is a message as it was asked for, with nothing checked. Its text may
also be piped in: the input is read where the draft has no text and the input
is no terminal. Building a message from a draft fails for the first of these
that is wrong: the input cannot be read, there is neither text nor blocks, the
blocks are no JSON.
-/

namespace SlackCourier

/-- Where a text can be read from that was not given: nowhere, if the input is a
    terminal, and otherwise from what is piped in, if that can be read. -/
inductive Input where
  | terminal
  | piped (content : Except Failure String)
deriving Repr

namespace Input

/-- The input into which octets are piped. -/
def ofOctets (octets : Octets) : Input :=
  .piped <|
    match octets.text? with
    | some text => .ok text
    | none => .error (.unreadable "stdin" .notText)

end Input

/-- A message as it was asked for. -/
structure Draft where
  channel : String
  text : Option String := none
  blocks : Option String := none
  thread : Option String := none
deriving DecidableEq, Repr

namespace Draft

/-- The draft with a text. -/
def withText (draft : Draft) (text : String) : Draft :=
  { draft with text := some text }

/-- The draft with blocks. -/
def withBlocks (draft : Draft) (blocks : String) : Draft :=
  { draft with blocks := some blocks }

/-- The draft with a thread. -/
def withThread (draft : Draft) (thread : String) : Draft :=
  { draft with thread := some thread }

/-- Whether there is no text, or an empty one. -/
def lacksText (draft : Draft) : Bool :=
  (Text.given draft.text).isNone

/-- The text of the message: the one that was given or the one that is piped in. -/
def readText (draft : Draft) (input : Input) : Run Failure (Option String) :=
  match draft.lacksText, input with
  | true, .piped content => do
    Run.log .debug "No --text given, reading message body from stdin"
    Run.did .inputRead
    let text ← Run.ofExcept content
    pure (some text)
  | _, _ => pure draft.text

/-- The message that was asked for. -/
def build (draft : Draft) (input : Input) : Run Failure Message := do
  let text ← draft.readText input
  let blocks := Text.given draft.blocks
  if (Text.given text).isNone && blocks.isNone then Run.ofExcept (.error .missingContent)
  else
    let blocks ← Run.ofExcept (blocks.mapM Message.parseBlocks)
    Run.ofExcept (Message.of? draft.channel text blocks draft.thread)

end Draft

end SlackCourier
