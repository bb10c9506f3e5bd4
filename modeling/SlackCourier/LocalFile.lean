import SlackCourier.MediaType
import SlackCourier.Octets

/-!
# Local files

A file that has been read: the name under which it is shared, its media type
and its content. Nothing of the directory that it was found in is kept.
-/

namespace SlackCourier

/-- A file that has been read. -/
structure LocalFile where
  name : String
  mediaType : String
  content : Octets
deriving DecidableEq, Repr

namespace LocalFile

/-- The content found under a path. A path without a file name stands for the
    name as a whole, and nothing is guessed from it. -/
def ofPath (types : MediaType.Table) (path : String) (content : Octets) : LocalFile :=
  match FilePath.fileName? path with
  | some name => ⟨name, MediaType.ofFileName types name, content⟩
  | none => ⟨path, MediaType.unknown, content⟩

/-- The content is kept as it is. -/
theorem content_ofPath (types : MediaType.Table) (path : String) (content : Octets) :
    (ofPath types path content).content = content := by
  rw [ofPath]
  cases FilePath.fileName? path <;> rfl

end LocalFile

end SlackCourier
