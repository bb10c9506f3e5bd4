import SlackCourier.Run

/-!
# Uploads

A file that is to be shared in a channel. It is sent as a form with the channel,
the thread and the comment, as far as they are given, and the file.
-/

namespace SlackCourier

/-- What came of looking for a file: what was logged, and the file. -/
structure FileLookup where
  logs : List LogRecord := []
  result : Except Failure LocalFile

/-- Where files are looked for. -/
abbrev FileStore := String → FileLookup

namespace FileStore

/-- Loads a file. -/
def load (files : FileStore) (path : String) : Run Failure LocalFile :=
  let lookup := files path
  ⟨.fileRead path :: lookup.logs.map .logged, lookup.result⟩

end FileStore

/-- A file that is to be shared. -/
structure Upload where
  channel : String
  path : String
  comment : Option String
  thread : Option String
deriving DecidableEq, Repr

namespace Upload

/-- The upload that was asked for; empty texts count as left out. -/
def of (channel path : String) (comment thread : Option String) : Upload :=
  ⟨channel, path, Text.given comment, Text.given thread⟩

/-- The form with a file. -/
def form (upload : Upload) (file : LocalFile) : Form :=
  let form : Form := {}
  form.addField "channels" upload.channel
    |>.addOptionalField "thread_ts" upload.thread
    |>.addOptionalField "initial_comment" upload.comment
    |>.setFile (FilePart.ofLocalFile "file" file)

/-- Loads the file and lays out the form. -/
def build (upload : Upload) (files : FileStore) : Run Failure Form := do
  let file ← files.load upload.path
  Run.log .debug
    s!"Loaded {file.name} ({file.content.length} bytes, {file.mediaType})"
  pure (upload.form file)

end Upload

end SlackCourier
