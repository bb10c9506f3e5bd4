import SlackCourier.Text.Split
import SlackCourier.Url.Percent

/-!
# Paths

A path is a list of segments. Single dots lead nowhere and double dots one
segment back, also where dots are written by their codes, but never out of the
root or of a drive. A path that ends in dots ends in a slash.

The first segment of the path of a file may be a drive, which is a letter and a
colon; a bar is as good as the colon there. Slashes in front of everything count
as one for files.
-/

namespace SlackCourier.Url

open Text (split join)

/-- Whether a segment is a drive. -/
def isDrive : List Char → Bool
  | [letter, sign] => letter.isAlpha && (sign = ':' || sign = '|')
  | _ => false

/-- A drive with its colon. -/
def normalDrive (segment : List Char) : List Char :=
  if isDrive segment then segment.take 1 ++ [':'] else segment

/-- A segment in which codes for dots are dots, as far as it takes to tell
    whether it is one of the two that lead somewhere else. -/
def undotted : List Char → List Char
  | '%' :: '2' :: 'e' :: rest | '%' :: '2' :: 'E' :: rest => '.' :: undotted rest
  | c :: rest => c :: undotted rest
  | [] => []

/-- The segments without the last one, which are given in reverse; a drive
    stays. -/
def parent : List (List Char) → List (List Char)
  | [] => []
  | last :: earlier => if isDrive last then last :: earlier else earlier

/-- Follows the segments of a path; those followed so far are in reverse. Where
    there are drives, the first segment may be one. -/
def followed (hasDrives : Bool) : (earlier : List (List Char)) → List (List Char) →
    List (List Char)
  | earlier, [] => earlier.reverse
  | earlier, segment :: rest =>
    let leads := undotted segment = ['.'] || undotted segment = ['.', '.']
    let earlier' :=
      if undotted segment = ['.'] then earlier
      else if undotted segment = ['.', '.'] then parent earlier
      else
        let written := percentEncode isReservedInPath segment
        (if hasDrives && earlier.isEmpty then normalDrive written else written) :: earlier
    if rest.isEmpty && leads then ([] :: earlier').reverse
    else followed hasDrives earlier' rest

/-- The path that has the segments. -/
def pathOf (segments : List (List Char)) : List Char :=
  '/' :: join '/' segments

/-- The segments of a path, of which a slash in front is no part. -/
def segments : List Char → List (List Char)
  | '/' :: rest => split '/' rest
  | text => split '/' text

/-- A path as it is shown. -/
def normalPath (text : List Char) : List Char :=
  pathOf (followed false [] (segments text))

end SlackCourier.Url
