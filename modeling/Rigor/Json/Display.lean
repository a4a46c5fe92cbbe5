import Rigor.Json.Basic
import Rigor.Number.Shortest
import Rigor.Text.Join
import Rigor.Text.Quoted

/-!
# Values inside messages

Messages and reports show a value in a notation of their own: texts in the quotes of `Text.quoted`,
a comma and a space between elements, the constants as `None`, `True` and `False`. A text that
stands alone is inserted as it is (`plain`).
-/

namespace Rigor.Json

mutual

/-- A value as messages show it. -/
def display : Json → String
  | .null => "None"
  | .bool value => if value then "True" else "False"
  | .int value => Text.decimal value
  | .float value => value.text
  | .str text => Text.quoted text
  | .arr items => "[" ++ Text.joinWith ", " (displayItems items) ++ "]"
  | .obj members => "\x7b" ++ Text.joinWith ", " (displayMembers members) ++ "\x7d"

/-- Each item as messages show it. -/
def displayItems : List Json → List String
  | [] => []
  | item :: rest => display item :: displayItems rest

/-- Each member as messages show it. -/
def displayMembers : List (String × Json) → List String
  | [] => []
  | (key, value) :: rest => (Text.quoted key ++ ": " ++ display value) :: displayMembers rest

end

/-- A value as a report shows it: texts without quotes. -/
def plain : Json → String
  | .str text => text
  | value => display value

end Rigor.Json
