import SlackCourier.DomainName.Label
import SlackCourier.Text.Split

/-!
# Names of hosts

The name of a host is what people type; what is looked up is one form of it in
ASCII (`ascii?`). The name is folded and composed, cut at its dots, and each of
its labels is written in ASCII. A name has no such form if a label cannot be used
or a character is forbidden.
-/

namespace SlackCourier.DomainName

open Text (split join)

/-- Whether a character would make something other than a name of the text around
    it. -/
def isForbidden (c : Char) : Bool :=
  c.toNat ≤ 0x20 || c.toNat = 0x7F ||
    ['#', '%', '/', ':', '<', '>', '?', '@', '[', '\\', ']', '^', '|'].contains c

/-- A name in the one writing that counts, if all its characters may stand in a
    name. -/
def normal? (name : List Char) : Option (List Char) := do
  let normal := Text.composed (← name.mapM folded?).flatten
  guard (!normal.any isForbidden)
  some normal

/-- Whether labels can be used together. -/
def areUsable (labels : List Label) : Bool :=
  labels.all Label.isUsable
    && (!labels.any Label.turnsLeft || labels.all Label.keepsDirection)

/-- The form of a name in ASCII. -/
def ascii? (name : List Char) : Option (List Char) := do
  let pieces := split '.' (← normal? name)
  guard (areUsable (← pieces.mapM Label.read?))
  some (join '.' (← pieces.mapM Label.written?))

end SlackCourier.DomainName
