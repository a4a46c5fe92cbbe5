import Rigor.Json.Finite

/-!
# Values carried back

A response that reports issues carries back the values at fault. Members whose names start with
`_sa` are reserved for the storage layer: `echo` leaves them out, wherever they stand in a value.
-/

namespace Rigor.Service

/-- A member name that is not carried back. -/
def isReserved (name : String) : Bool :=
  "_sa".toList.isPrefixOf name.toList

mutual

/-- The value as it is carried back. -/
def echo : Json → Json
  | .arr items => .arr (echoItems items)
  | .obj members => .obj (echoMembers members)
  | value => value

/-- The items as they are carried back. -/
def echoItems : List Json → List Json
  | [] => []
  | item :: rest => echo item :: echoItems rest

/-- The members that are carried back. -/
def echoMembers : List (String × Json) → List (String × Json)
  | [] => []
  | (name, value) :: rest =>
    if isReserved name then echoMembers rest else (name, echo value) :: echoMembers rest

end

end Rigor.Service
