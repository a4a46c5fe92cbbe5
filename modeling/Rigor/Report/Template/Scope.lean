import Rigor.Report.Template.Basic
import Rigor.Report.Template.Member
import Rigor.Table
import Rigor.Text.Decomposition

/-!
# Scopes

What the names in a template stand for. The template as a whole and the body of every loop are
*sections*. A section has the names that it is given, such as that of the elements of its loop, and
the names that it reads and no section around it has; a name of the second sort gets its value when
the section is entered.

The spellings of a name that have one compatibility decomposition share one variable in a section,
so all of them have the value that came last (`Scope.settle`).
-/

namespace Rigor.Report.Template

/-- What the names in a template stand for. -/
structure Scope where
  /-- The values that sections look up. -/
  known : Table String Value
  /-- The values of the names that the open sections have, the innermost section first. -/
  held : Table String Value

/-- The names that every template knows. -/
def engineNames : Table String Value :=
  [("range", .kind .range), ("dict", .kind .mapping), ("lipsum", .function "generate_lorem_ipsum"),
    ("cycler", .kind .cycler), ("joiner", .kind .joiner), ("namespace", .kind .holder)]

/-- The name of the template itself. -/
def pageName : String := "self"

namespace Scope

/-- A name that gets a value when a section is entered. -/
structure Assignment where
  /-- The name. -/
  name : String
  /-- The value; `unset` if the name was looked up in vain. -/
  value : Value
  /-- The section is given the name and does not look it up. -/
  isGiven : Bool

/-- The variable that a name stands for in its section. -/
def Assignment.slot (a : Assignment) : List Char :=
  Text.decompose a.name.toList

/-- The value of the last of several assignments to a variable. -/
def lastValue (slot : List Char) (assignments : List Assignment) : Value :=
  ((assignments.reverse.find? (·.slot == slot)).map Assignment.value).getD .unset

/-- The values of the names of a section after some assignments. A name that was looked up in vain
has no value. -/
def settle (assignments : List Assignment) : Table String Value :=
  assignments.map fun a =>
    match a.isGiven, lastValue a.slot assignments with
    | false, .unset => (a.name, .absent)
    | _, value => (a.name, value)

/-- The names that a section looks up: those that it reads and that nothing else gives it. -/
def lookups (scope : Scope) (given : Table String Value) (body : List Node) : List String :=
  (body.flatMap Node.reads).eraseDups.filter fun name =>
    !Table.has given name && !Table.has scope.held name

/-- The scope of a section with the given names. -/
def enter (scope : Scope) (given : Table String Value) (body : List Node) : Scope :=
  let assignments := given.map (fun (name, value) => ⟨name, value, true⟩)
    ++ (scope.lookups given body).map fun name =>
      ⟨name, (Table.get? scope.known name).getD .unset, false⟩
  { scope with held := settle assignments ++ scope.held }

/-- The scope of a template. The template itself has a name if the template reads it. -/
def ofTemplate (values : Table String Json) (nodes : List Node) : Scope :=
  let known := values.map (fun (name, value) => (name, .data value)) ++ engineNames
  let given := if readsFree pageName nodes then [(pageName, .page)] else []
  enter ⟨known, []⟩ given nodes

/-- The value of a name. -/
def find (scope : Scope) (name : String) : Value :=
  (Table.get? scope.held name).getD .absent

end Scope

end Rigor.Report.Template
