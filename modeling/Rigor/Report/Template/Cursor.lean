import Rigor.Report.Template.Value
import Rigor.Text.Decimal

/-!
# Cursors of loops

A cursor takes the elements of a value one after the other and knows where it is. What it takes can
come from another cursor: then each element is that cursor's next element together with the cursor,
and both cursors move on.

The cursors of the loops that are open form a list, the innermost first. A cursor is named by its
place, the number of cursors outside it, and takes from cursors outside it only, so every operation
is a recursion on that list.

* `Cursors.advance`: take the next element.
* `Cursors.peek`: look at the next element; the cursor holds it until it is taken.
* `Cursors.left`: no more elements than these can be taken.
-/

namespace Rigor.Report.Template

/-- Where a cursor takes its elements from. -/
inductive Source where
  /-- From a list of values. -/
  | items (left : List Value)
  /-- From the cursor at a place further out. -/
  | cursor (place : Nat)

/-- The state of a loop that a template can ask about. -/
structure Cursor where
  /-- Where the next elements come from. -/
  source : Source
  /-- How many elements there are. -/
  count : Nat
  /-- How many elements have been taken. -/
  taken : Nat
  /-- The element before the present one. -/
  before : Option Value
  /-- The present element. -/
  current : Option Value
  /-- The next element, if the cursor has looked at it. -/
  after : Option Value

namespace Cursor

/-- A cursor in front of the first element. -/
def start (source : Source) (count : Nat) : Cursor :=
  ⟨source, count, 0, none, none, none⟩

/-- The cursor at a new element. -/
def moveTo (c : Cursor) (value : Value) : Cursor :=
  { c with taken := c.taken + 1, before := c.current, current := some value, after := none }

/-- The text of a cursor. -/
def text (c : Cursor) : String :=
  "<LoopContext " ++ Text.decimal c.taken ++ "/" ++ Text.decimal c.count ++ ">"

end Cursor

/-- The cursors of the loops that are open, the innermost first. -/
abbrev Cursors := List Cursor

namespace Cursors

/-- The cursor at a place. -/
def find? : Cursors → Nat → Option Cursor
  | [], _ => none
  | c :: outer, place => if place = outer.length then some c else find? outer place

/-- The text of the cursor at a place. -/
def textAt (cursors : Cursors) (place : Nat) : String :=
  match find? cursors place with
  | some c => c.text
  | none => ""

/-- The next element of the cursor at a place, and the cursors after it has been taken. -/
def advance : Cursors → Nat → Option Value × Cursors
  | [], _ => (none, [])
  | c :: outer, place =>
    if place = outer.length then
      match c.after, c.source with
      | some value, _ => (some value, c.moveTo value :: outer)
      | none, .items [] => (none, c :: outer)
      | none, .items (value :: left) =>
        (some value, { c.moveTo value with source := .items left } :: outer)
      | none, .cursor further =>
        match advance outer further with
        | (some value, outer) =>
          let pair := .tuple [value, .cursor further]
          (some pair, c.moveTo pair :: outer)
        | (none, outer) => (none, c :: outer)
    else
      let (value, outer) := advance outer place
      (value, c :: outer)

/-- The next element of the cursor at a place, and the cursors after it has been looked at. -/
def peek : Cursors → Nat → Option Value × Cursors
  | [], _ => (none, [])
  | c :: outer, place =>
    if place = outer.length then
      match c.after, c.source with
      | some value, _ => (some value, c :: outer)
      | none, .items [] => (none, c :: outer)
      | none, .items (value :: left) =>
        (some value, { c with source := .items left, after := some value } :: outer)
      | none, .cursor further =>
        match advance outer further with
        | (some value, outer) =>
          let pair := .tuple [value, .cursor further]
          (some pair, { c with after := some pair } :: outer)
        | (none, outer) => (none, c :: outer)
    else
      let (value, outer) := peek outer place
      (value, c :: outer)

/-- A bound on the elements that the cursor at a place can still take. -/
def left : Cursors → Nat → Nat
  | [], _ => 0
  | c :: outer, place =>
    if place = outer.length then
      let held := if c.after.isSome then 1 else 0
      match c.source with
      | .items values => held + values.length
      | .cursor further => held + left outer further
    else
      left outer place

/-- What the cursor at a place says under a name, and the cursors after it has been asked. -/
def member? (cursors : Cursors) (place : Nat) (name : String) : Option (Value × Cursors) :=
  let stay (value : Value) : Option (Value × Cursors) := some (value, cursors)
  (find? cursors place).bind fun c =>
    match name with
    | "index" => stay (.data (.int c.taken))
    | "index0" => stay (.data (.int (c.taken - 1)))
    | "revindex" => stay (.data (.int (c.count - (c.taken - 1))))
    | "revindex0" => stay (.data (.int (c.count - c.taken)))
    | "first" => stay (.data (.bool (c.taken == 1)))
    | "length" => stay (.data (.int c.count))
    | "depth" => stay (.data (.int 1))
    | "depth0" => stay (.data (.int 0))
    | "previtem" => stay (if c.taken = 1 then .absent else c.before.getD .absent)
    | "last" =>
      let (value, cursors) := peek cursors place
      some (.data (.bool value.isNone), cursors)
    | "nextitem" =>
      let (value, cursors) := peek cursors place
      some (value.getD .absent, cursors)
    | "_before" => stay (c.before.getD .unset)
    | "_current" => stay (c.current.getD .unset)
    | "_after" => stay (c.after.getD .unset)
    | "_last_changed_value" => stay .unset
    | "_length" => stay (.data .null)
    | "_recurse" => stay (.data .null)
    | "_undefined" => stay (.kind .absent)
    | _ => none

end Cursors

end Rigor.Report.Template
