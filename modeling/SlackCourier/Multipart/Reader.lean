import SlackCourier.Multipart.Form
import SlackCourier.Text.Split

/-!
# Reading forms

A strict reader of forms, for a known boundary. The octets begin with the
boundary; behind every boundary there is either the end mark, and nothing after
it, or a part: header lines up to the first empty line, and a content up to the
first boundary on a line of its own (`delimiter`). The headers of a part are
kept as they come. Of a disposition the parameters are read, each up to its
closing quote and as it stands between the quotes (`Multipart.escape`); a
content type is taken as it is.
-/

namespace SlackCourier.Multipart

/-- What stands in front of the first occurrence of a mark, and what follows
    it. -/
def cut? [BEq α] (mark : List α) : List α → Option (List α × List α)
  | [] => if mark.isEmpty then some ([], []) else none
  | x :: rest =>
    if mark.isPrefixOf (x :: rest) then some ([], (x :: rest).drop mark.length)
    else (cut? mark rest).map fun (front, back) => (x :: front, back)

/-! ## Headers -/

/-- A header of a part. -/
inductive Header where
  | disposition (parameters : List (String × String))
  | contentType (value : String)
  | other (name value : String)
deriving DecidableEq, Repr

/-- The lines of a text; there is always one. -/
def splitLines : List Char → List (List Char)
  | [] => [[]]
  | '\r' :: '\n' :: rest => [] :: splitLines rest
  | c :: rest =>
    match splitLines rest with
    | [] => [[c]]
    | first :: others => (c :: first) :: others

/-- Reads parameters, at most `limit` of them: each has a semicolon in front,
    and a value between quotes. -/
def parameters? : (limit : Nat) → List Char → Option (List (String × String))
  | _, [] => some []
  | 0, _ => none
  | limit + 1, text => do
    let (name, rest) ← cut? ['=', '"'] (← [';', ' '].isPrefixOf? text)
    let (value, rest) ← cut? ['"'] rest
    let others ← parameters? limit rest
    some ((String.ofList name, String.ofList value) :: others)

/-- Reads a header line: a name, which may be in either case, a colon and a
    space, and a value. -/
def header? (line : List Char) : Option Header := do
  let (name, value) ← cut? [':', ' '] line
  if name.map Char.toLower = "content-disposition".toList then do
    let rest ← "form-data".toList.isPrefixOf? value
    some (.disposition (← parameters? rest.length rest))
  else if name.map Char.toLower = "content-type".toList then
    some (.contentType (String.ofList value))
  else some (.other (String.ofList name) (String.ofList value))

/-! ## Parts -/

/-- A part as it was received. -/
structure Received where
  headers : List Header
  content : Octets
deriving DecidableEq, Repr

/-- What ends a content: the boundary on a line of its own. -/
def delimiter (boundary : String) : Octets :=
  lineBreak ++ Octets.ofText ("--" ++ boundary)

/-- Reads what follows a boundary: the end, or parts with boundaries between
    them, at most `limit` of them. -/
def parts? (boundary : String) : (limit : Nat) → Octets → Option (List Received)
  | 0, _ => none
  | limit + 1, octets =>
    match (Octets.ofText "--").isPrefixOf? octets with
    | some rest => if rest = lineBreak then some [] else none
    | none => do
      let (block, rest) ← cut? (lineBreak ++ lineBreak) (← lineBreak.isPrefixOf? octets)
      let headers ← (splitLines (← Octets.text? block).toList).mapM header?
      let (content, rest) ← cut? (delimiter boundary) rest
      let others ← parts? boundary limit rest
      some (⟨headers, content⟩ :: others)

/-- Reads a form. -/
def read? (boundary : String) (octets : Octets) : Option (List Received) := do
  parts? boundary octets.length (← (Octets.ofText ("--" ++ boundary)).isPrefixOf? octets)

/-- The boundary that a content type announces. -/
def boundaryOf? (contentType : String) : Option String :=
  (Text.split ';' contentType.toList).findSome? fun item =>
    ("boundary=".toList.isPrefixOf? (item.dropWhile (· = ' '))).map String.ofList

/-- The boundary is read off the type of a form, unless it would end there. -/
theorem boundaryOf?_contentType {boundary : String} (h : ';' ∉ boundary.toList) :
    boundaryOf? ("multipart/form-data; boundary=" ++ boundary) = some boundary := by
  have hc : ("multipart/form-data; boundary=" ++ boundary).toList =
      "multipart/form-data".toList ++ ';' :: (" boundary=".toList ++ boundary.toList) := by
    rw [String.toList_append]
    rfl
  have hb : ';' ∉ " boundary=".toList ++ boundary.toList := by
    rw [List.mem_append, not_or]
    exact ⟨by decide, h⟩
  rw [boundaryOf?, hc, Text.split_append_cons, Text.split_of_not_mem (by decide),
    Text.split_of_not_mem hb]
  -- Only the second item begins as it has to.
  show ((some boundary.toList).map String.ofList) = some boundary
  rw [Option.map_some, String.ofList_toList]

end SlackCourier.Multipart
