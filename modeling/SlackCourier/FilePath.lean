import SlackCourier.Text.Split

/-!
# Names in paths

A path is a text whose components are separated by slashes. Empty components
and those that are a single dot lead nowhere. A path has a file name if a
component is left and the last one left does not lead upwards.
-/

namespace SlackCourier.FilePath

/-- Whether a component leads somewhere. -/
def isStep (component : List Char) : Bool :=
  component ≠ [] && component ≠ ['.']

/-- The components of a path that lead somewhere. -/
def steps (path : String) : List (List Char) :=
  (Text.split '/' path.toList).filter isStep

/-- The file name in a path. -/
def fileName? (path : String) : Option String :=
  match (steps path).getLast? with
  | none => none
  | some name => if name = ['.', '.'] then none else some (String.ofList name)

/-- The extension of a file name: what follows its last dot, unless that dot is
    the first character of the name. -/
def extension? (name : String) : Option String :=
  let reversed := name.toList.reverse
  match reversed.dropWhile (· ≠ '.') with
  | _ :: _ :: _ => some (String.ofList (reversed.takeWhile (· ≠ '.')).reverse)
  | _ => none

end SlackCourier.FilePath
