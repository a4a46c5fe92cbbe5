import Rigor.Json.Basic

/-!
# Samples

A sample is the value that a schema is inferred from: a JSON value, or one of two further things,
the mark of an absent value and a value outside the grammar.
-/

namespace Rigor

/-- A sample value. -/
inductive Sample where
  | null
  /-- The mark of an absent value. -/
  | undefined
  | bool (value : Bool)
  | int (value : Int)
  | float (value : Binary64)
  | str (text : String)
  | arr (items : List Sample)
  | obj (members : List (String × Sample))
  /-- A value that the grammar of samples does not know. -/
  | foreign
  deriving Inhabited

namespace Sample

mutual

/-- A JSON value as a sample. -/
def ofJson : Json → Sample
  | .null => .null
  | .bool value => .bool value
  | .int value => .int value
  | .float value => .float value
  | .str text => .str text
  | .arr items => .arr (ofItems items)
  | .obj members => .obj (ofMembers members)

/-- The items of an array as samples. -/
def ofItems : List Json → List Sample
  | [] => []
  | item :: rest => ofJson item :: ofItems rest

/-- The members of an object as samples. -/
def ofMembers : List (String × Json) → List (String × Sample)
  | [] => []
  | (key, value) :: rest => (key, ofJson value) :: ofMembers rest

end

/-- How the mark of an absent value is shown. -/
def undefinedText : String := "UNDEFINED"

/-- The mark of an absent value counts as false. -/
def undefinedTruth : Bool := false

end Sample

end Rigor
