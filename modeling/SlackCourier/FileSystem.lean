import SlackCourier.FilePath
import SlackCourier.Upload

/-!
# File systems

What reading a file gives, for every path: octets, or why there are none.
-/

namespace SlackCourier

/-- What reading the file at a path gives. -/
abbrev FileSystem := String → Except ReadFault Octets

namespace FileSystem

/-- The text in a file. -/
def readText (files : FileSystem) (path : String) : Except ReadFault String := do
  match (← files path).text? with
  | some text => .ok text
  | none => .error .notText

/-- Looks for files to share. A file that is missing is told apart from one that
    cannot be read. -/
def store (files : FileSystem) (types : MediaType.Table) : FileStore := fun path =>
  match files path with
  | .ok content =>
    { logs := [⟨.debug, s!"Read {content.length} bytes from {path}"⟩]
      result := .ok (LocalFile.ofPath types path content) }
  | .error .missing => { result := .error (.fileNotFound path) }
  | .error fault => { result := .error (.unreadable ("file " ++ path) fault) }

end FileSystem

end SlackCourier
