import Rigor.Json.Basic

/-!
# Numbers that JSON lacks

JSON has no notation for infinity and for the undefined number. `isFinite` tells the values that are
free of both; `blankNonFinite` puts null in their place.
-/

namespace Rigor.Json

mutual

/-- Every number in the value is finite. -/
def isFinite : Json → Bool
  | .float value => value.isFinite
  | .arr items => areFinite items
  | .obj members => membersFinite members
  | _ => true

/-- Every number in the items is finite. -/
def areFinite : List Json → Bool
  | [] => true
  | item :: rest => isFinite item && areFinite rest

/-- Every number in the members is finite. -/
def membersFinite : List (String × Json) → Bool
  | [] => true
  | (_, value) :: rest => isFinite value && membersFinite rest

end

mutual

/-- The value with null for every number that is not finite. -/
def blankNonFinite : Json → Json
  | .float value => if value.isFinite then .float value else .null
  | .arr items => .arr (blankItems items)
  | .obj members => .obj (blankMembers members)
  | value => value

/-- The items with null for every number that is not finite. -/
def blankItems : List Json → List Json
  | [] => []
  | item :: rest => blankNonFinite item :: blankItems rest

/-- The members with null for every number that is not finite. -/
def blankMembers : List (String × Json) → List (String × Json)
  | [] => []
  | (key, value) :: rest => (key, blankNonFinite value) :: blankMembers rest

end

end Rigor.Json
