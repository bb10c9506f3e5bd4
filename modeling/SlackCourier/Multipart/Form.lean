import SlackCourier.Multipart.Escape
import SlackCourier.LocalFile

/-!
# Forms

A form is a boundary, the fields in the order in which they were added, and at
most one file, which comes last. It is sent as one part for each of them, with
the boundary in front of every part and after the last. Values and contents are
sent as they are; nothing is escaped in them.
-/

namespace SlackCourier

namespace Multipart

/-- The end of a line. -/
def lineBreak : Octets := [0x0D, 0x0A]

/-- A text on a line of its own. -/
def line (text : String) : Octets :=
  Octets.ofText text ++ lineBreak

/-- What stands in front of a part: header lines, of which there may be several,
    between the boundary and an empty line. -/
def heading (boundary : String) (headers : List String) : Octets :=
  line ("--" ++ boundary) ++ headers.flatMap line ++ lineBreak

/-- A part with its boundary. -/
def part (boundary : String) (headers : List String) (content : Octets) : Octets :=
  heading boundary headers ++ content ++ lineBreak

/-- What stands after the last part. -/
def closing (boundary : String) : Octets :=
  line ("--" ++ boundary ++ "--")

end Multipart

/-- The file in a form. -/
structure FilePart where
  fieldName : String
  fileName : String
  contentType : String
  content : Octets
deriving DecidableEq, Repr

namespace FilePart

/-- A local file under a field name. -/
def ofLocalFile (fieldName : String) (file : LocalFile) : FilePart :=
  ⟨fieldName, file.name, file.mediaType, file.content⟩

end FilePart

namespace Multipart

/-- The part of a field. -/
def fieldPart (boundary : String) (field : String × String) : Octets :=
  part boundary ["Content-Disposition: form-data; name=\"" ++ escape field.1 ++ "\""]
    (Octets.ofText field.2)

/-- The part of a file. -/
def filePart (boundary : String) (file : FilePart) : Octets :=
  part boundary
    ["Content-Disposition: form-data; name=\"" ++ escape file.fieldName ++ "\"; filename=\""
        ++ escape file.fileName ++ "\"",
      "Content-Type: " ++ file.contentType]
    file.content

/-- The octets of fields and a file. -/
def encode (boundary : String) (fields : List (String × String)) (file : Option FilePart) :
    Octets :=
  fields.flatMap (fieldPart boundary) ++ file.elim [] (filePart boundary) ++ closing boundary

end Multipart

/-- A form. -/
structure Form where
  boundary : String := "----SlackCLIFormBoundary"
  fields : List (String × String) := []
  file : Option FilePart := none
deriving DecidableEq, Repr

namespace Form

/-- The form with one more field. -/
def addField (form : Form) (name value : String) : Form :=
  { form with fields := form.fields ++ [(name, value)] }

/-- The form with one more field, if there is a value for it. -/
def addOptionalField (form : Form) (name : String) (value : Option String) : Form :=
  value.elim form (form.addField name)

/-- The form with a file in the place of the one it had. -/
def setFile (form : Form) (file : FilePart) : Form :=
  { form with file := some file }

/-- The type that announces the boundary. -/
def contentType (form : Form) : String :=
  "multipart/form-data; boundary=" ++ form.boundary

/-- The octets of the form. -/
def encode (form : Form) : Octets :=
  Multipart.encode form.boundary form.fields form.file

end Form

/-! ## Histories -/

/-- One thing that is done to a form. -/
inductive FormStep where
  | field (name value : String)
  | optionalField (name : String) (value : Option String)
  | file (part : FilePart)
deriving DecidableEq, Repr

namespace FormStep

/-- The form after the step. -/
def apply (form : Form) : FormStep → Form
  | field name value => form.addField name value
  | optionalField name value => form.addOptionalField name value
  | file part => form.setFile part

/-- The field that the step adds, if it adds one. -/
def field? : FormStep → Option (String × String)
  | field name value => some (name, value)
  | optionalField name value => value.map (name, ·)
  | file _ => none

/-- The file that the step puts into the form, if it puts one there. -/
def file? : FormStep → Option FilePart
  | file part => some part
  | _ => none

end FormStep

/-- A form with a boundary, after some steps. -/
def Form.build (boundary : String) (steps : List FormStep) : Form :=
  steps.foldl FormStep.apply { boundary }

end SlackCourier
