import SlackCourier.FileSystem

/-!
# Disks

What can be read from a disk, as seen from the current directory: the files and
directories below it. Above it there are directories, but nothing is known to be
in them. A path is walked component by component (`Disk.step`), and every
component but the last has to lead to a directory.
-/

namespace SlackCourier

/-- What a path leads to. -/
inductive Node where
  | file (content : Octets)
  | directory
deriving DecidableEq, Repr

/-- A place below the current directory, as the names on the way to it. -/
abbrev Place := List String

/-- What there is below the current directory. -/
structure Disk where
  entries : List (Place × Node)
deriving Repr

namespace Disk

/-- What is at a place. Whatever has something below it is a directory. -/
def node? (disk : Disk) (place : Place) : Option Node :=
  match disk.entries.lookup place with
  | some node => some node
  | none =>
    if place.isEmpty || disk.entries.any (fun entry => place.isPrefixOf entry.1) then
      some .directory
    else none

/-- Where a walk has come to: a place, or one of the directories above. -/
inductive Location where
  | inside (place : Place)
  | outside
deriving DecidableEq, Repr

/-- Names may be this many octets long. -/
def greatestNameLength : Nat := 255

/-- Paths have to be shorter than this many octets. -/
def pathLengthBound : Nat := 4096

/-- Goes to the entry with a name. -/
def enter (disk : Disk) (location : Location) (name : String) : Except ReadFault Location :=
  if greatestNameLength < name.utf8ByteSize then .error .nameTooLong
  else
    match location with
    | .outside => .error .missing
    | .inside place =>
      match disk.node? (place ++ [name]) with
      | some _ => .ok (.inside (place ++ [name]))
      | none => .error .missing

/-- Goes up. -/
def leave : Location → Location
  | .outside => .outside
  | .inside place => if place.isEmpty then .outside else .inside place.dropLast

/-- Whether a walk may go on from here. -/
def isDirectory (disk : Disk) : Location → Bool
  | .outside => true
  | .inside place => disk.node? place = some .directory

/-- Follows one component of a path. -/
def step (disk : Disk) (location : Location) (component : String) : Except ReadFault Location :=
  if !disk.isDirectory location then .error .notDirectory
  else if component = "" || component = "." then .ok location
  else if component = ".." then .ok (leave location)
  else disk.enter location component

/-- What reading the file gives that a path leads to. -/
def files (disk : Disk) : FileSystem := fun path =>
  if path.toList.contains '\x00' then .error .nulInName
  else if path = "" then .error .missing
  else if pathLengthBound ≤ path.utf8ByteSize then .error .nameTooLong
  else do
    let start : Location := if path.toList.head? = some '/' then .outside else .inside []
    let components := (Text.split '/' path.toList).map String.ofList
    match ← components.foldlM disk.step start with
    | .outside => .error .isDirectory
    | .inside place =>
      match disk.node? place with
      | some (.file content) => .ok content
      | _ => .error .isDirectory

end Disk

end SlackCourier
