import Rigor.Report.Template.Scope
import Rigor.Text.Case

/-!
# Printing templates

`Printing.nodes` prints the parts of a template. Values are inserted as they are. Printing keeps the
cursors of the open loops, which it moves when a loop goes on, and when a loop or a filter goes
through a cursor.
-/

namespace Rigor.Report.Template

/-- An action that knows the cursors of the open loops and can fail. -/
abbrev Printing := StateT Cursors (Except Fault)

namespace Printing

/-- The text of a value that stands alone. -/
def plain (value : Value) : Printing String :=
  return plainWith (← get).textAt value

/-! ### Parts -/

/-- A part of a value. -/
def part (value : Value) : Part → Printing Value
  | .item position => value.item position
  | .member name => do
    match value with
    | .cursor place =>
      match (← get).member? place name with
      | some (value, cursors) => set cursors; return value
      | none => value.ask name
    | value => value.ask name

/-- The value reached by following parts. -/
def follow (value : Value) : List Part → Printing Value
  | [] => return value
  | step :: path => do follow (← part value step) path

/-! ### Elements -/

/-- The texts of the elements of a list. -/
def eachItem (print : Value → Printing String) : List Value → Printing (List String)
  | [] => return []
  | value :: rest => do
    let text ← print value
    let texts ← eachItem print rest
    return text :: texts

/-- The texts of at most the given number of elements that are left to the cursor at a place. -/
def eachTaken (place : Nat) (print : Value → Printing String) : Nat → Printing (List String)
  | 0 => return []
  | bound + 1 => do
    match (← get).advance place with
    | (none, cursors) => set cursors; return []
    | (some value, cursors) =>
      set cursors
      let text ← print value
      let texts ← eachTaken place print bound
      return text :: texts

/-- The texts of the elements that are left to the cursor at a place. -/
def eachLeft (place : Nat) (print : Value → Printing String) : Printing (List String) := do
  eachTaken place print ((← get).left place)

/-- The texts of the elements of a value. -/
def each (value : Value) (print : Value → Printing String) : Printing (List String) := do
  match value with
  | .cursor place => eachLeft place fun value => print (.tuple [value, .cursor place])
  | value => eachItem print (← value.elements)

/-- Where a cursor for the elements of a value takes them from, and how many there are. -/
def sourceOf (value : Value) : Printing (Source × Nat) := do
  match value with
  | .cursor place => return (.cursor place, (((← get).find? place).map Cursor.count).getD 0)
  | value =>
    let items ← value.elements
    return (.items items, items.length)

/-- The texts of the elements of a value, with a cursor that goes along. -/
def eachWithCursor (value : Value) (print : Nat → Value → Printing String) :
    Printing (List String) := do
  let (source, count) ← sourceOf value
  let outer ← get
  set (Cursor.start source count :: outer)
  let texts ← eachLeft outer.length (print outer.length)
  modify List.tail
  return texts

/-! ### References -/

/-- A value after a filter. -/
def filter (value : Value) : Filter → Printing Value
  | .upper => return .ofText (Text.toUpper (← plain value))
  | .bullets => do
    let texts ← each value fun item => return "- " ++ (← plain item)
    return .ofText (Text.joinWith "\n" texts)

/-- A value after several filters. -/
def filterAll (value : Value) : List Filter → Printing Value
  | [] => return value
  | first :: rest => do filterAll (← filter value first) rest

/-- The value of a constant. -/
def constant : Constant → Value
  | .none => .data .null
  | .yes => .data (.bool true)
  | .no => .data (.bool false)

/-- The value that a reference starts from. -/
def start (scope : Scope) : Origin → Value
  | .name name => scope.find name
  | .constant value => constant value

/-- The value that is referred to. -/
def resolve (scope : Scope) (source : Reference) : Printing Value := do
  filterAll (← follow (start scope source.origin) source.path) source.filters

/-! ### Parts of templates -/

mutual

/-- The text of a part. -/
def node (scope : Scope) : Node → Printing String
  | .text chars => return String.ofList chars
  | .print source => do plain (← resolve scope source)
  | .loop item source body => do
    let value ← resolve scope source
    let texts ←
      if readsCursor body then
        eachWithCursor value fun place value =>
          nodes (scope.enter [(item, value), (cursorName, .cursor place)] body) body
      else
        each value fun value => nodes (scope.enter [(item, value)] body) body
    return Text.joinWith "" texts

/-- The text of several parts. -/
def nodes (scope : Scope) : List Node → Printing String
  | [] => return ""
  | first :: rest => do
    let text ← node scope first
    return text ++ (← nodes scope rest)

end

end Printing

end Rigor.Report.Template
