/-!
# Environments

What the program finds set. An environment is a list of texts `name=value`. A name
may hold an equals sign itself, so a text alone does not tell where its name ends;
who asks for a variable does.
-/

namespace SlackCourier

/-- The texts `name=value` in their order. -/
structure Environment where
  entries : List String
deriving DecidableEq, Repr

namespace Environment

/-- The environment in which variables have the given values. -/
def ofList (entries : List (String × String)) : Environment :=
  ⟨entries.map fun (name, value) => name ++ "=" ++ value⟩

/-- The value of a variable: what follows its name and an equals sign in the
    first text that begins so. The empty name and a name with a NUL name no
    variable. -/
def value? (environment : Environment) (name : String) : Option String :=
  if name = "" ∨ '\x00' ∈ name.toList then none
  else environment.entries.findSome? fun entry =>
    ((name.toList ++ ['=']).isPrefixOf? entry.toList).map String.ofList

end Environment

end SlackCourier
