import SlackCourier.Draft
import SlackCourier.Upload

/-!
# Commands

What the program can be told to do: send a message, or upload a file. Options
that may be left out are kept as they were given; what counts as left out is
decided where they are used.
-/

namespace SlackCourier

/-- The names of the commands. -/
inductive CommandName where
  | send
  | upload
deriving DecidableEq, Repr

namespace CommandName

/-- All names, in the order in which they are described. -/
def all : List CommandName := [send, upload]

/-- The name as it is written. -/
def text : CommandName → String
  | send => "send"
  | upload => "upload"

/-- The command with a name. -/
def ofText? (text : String) : Option CommandName :=
  all.find? fun name => name.text = text

end CommandName

/-- What the program is told to do. -/
inductive Command where
  | send (draft : Draft)
  | upload (channel path : String) (comment thread : Option String)
deriving DecidableEq, Repr

namespace Command

/-- The name of a command. -/
def name : Command → CommandName
  | send _ => .send
  | upload _ _ _ _ => .upload

end Command

end SlackCourier
