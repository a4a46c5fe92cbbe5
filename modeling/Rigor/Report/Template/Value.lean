import Rigor.Json.Display
import Rigor.Report.Template.Kind

/-!
# Values in templates

What a reference in a template can come to: a value of the report, or one of the things that come
with the template engine. Every value has a kind and a text. The text of a cursor changes as its
loop goes on, so texts are given relative to those of the cursors.
-/

namespace Rigor.Report.Template

/-- A value at hand in a template. -/
inductive Value where
  /-- There is no value. -/
  | absent
  /-- What a name holds that was never given a value. -/
  | unset
  /-- A value of the report. -/
  | data (value : Json)
  /-- Several values in one. -/
  | tuple (items : List Value)
  /-- The cursor of a loop, given by the number of cursors outside it. -/
  | cursor (place : Nat)
  /-- A kind. -/
  | kind (named : Kind)
  /-- A kind with an argument; `spread` marks one that stands for its arguments. -/
  | applied (base : Kind) (argument : Json) (spread : Bool)
  /-- A member that `adder` gives to the kind of `owner`. -/
  | member (owner : Value) (adder : Kind) (name : String) (form : Form)
  /-- The same, asked of the kind and not of a value. -/
  | mark (adder : Kind) (name : String) (form : Form)
  /-- A function. -/
  | function (name : String)
  /-- The template itself. -/
  | page

/-- The name of the function that stands in for the members of form `refusal`. -/
def refusalName : String := "_fail_with_undefined_error"

/-- The kind of a value of the report. -/
def kindOfData : Json → Kind
  | .null => .nothing
  | .bool _ => .truth
  | .int _ => .integer
  | .float _ => .object
  | .str _ => .text
  | .arr _ => .list
  | .obj _ => .mapping

/-- The kind of a member of a value. -/
def kindOfMember : Form → Kind
  | .operator => .operator
  | .method => .method
  | .refusal => .method
  | _ => .operation

/-- The kind of a member of a kind. -/
def kindOfMark : Form → Kind
  | .operation => .operationMark
  | .operator => .operatorMark
  | .field => .fieldMark
  | .cell => .cellMark
  | .property => .property
  | _ => .function

namespace Value

/-- A value that may be absent. -/
def ofOption : Option Json → Value
  | none => .absent
  | some value => .data value

/-- The kind of a value. -/
def kindOf : Value → Kind
  | .absent => .absent
  | .unset => .unset
  | .data value => kindOfData value
  | .tuple _ => .tuple
  | .cursor _ => .cursor
  | .kind _ => .kind
  | .applied _ _ _ => .applied
  | .member _ _ _ form => kindOfMember form
  | .mark _ _ form => kindOfMark form
  | .function _ => .function
  | .page => .page

end Value

/-- Where something is held in memory, which the texts of operations end with. The digits mean
nothing; there are always as many. -/
def whereabouts : String := " at 0x7f0000000000"

/-- The text of a member of a value of kind `k` whose text is `owner`. -/
def memberText (owner : String) (k adder : Kind) (name : String) : Form → String
  | .operator => "<method-wrapper '" ++ name ++ "' of " ++ k.name ++ " object" ++ whereabouts ++ ">"
  | .method => "<bound method " ++ adder.name ++ "." ++ name ++ " of " ++ owner ++ ">"
  | .refusal => "<bound method " ++ adder.name ++ "." ++ refusalName ++ " of " ++ owner ++ ">"
  | _ => "<built-in method " ++ name ++ " of " ++ k.name ++ " object" ++ whereabouts ++ ">"

/-- The text of a member of a kind. -/
def markText (adder : Kind) (name : String) : Form → String
  | .operation => "<method '" ++ name ++ "' of '" ++ adder.name ++ "' objects>"
  | .operator => "<slot wrapper '" ++ name ++ "' of '" ++ adder.name ++ "' objects>"
  | .field => "<attribute '" ++ name ++ "' of '" ++ adder.name ++ "' objects>"
  | .cell => "<member '" ++ name ++ "' of '" ++ adder.name ++ "' objects>"
  | .property => "<property object" ++ whereabouts ++ ">"
  | _ => "<function " ++ adder.name ++ "." ++ name ++ whereabouts ++ ">"

/-- The texts of the items of a tuple in its brackets; a single item has a comma after it. -/
def tupleText : List String → String
  | [only] => "(" ++ only ++ ",)"
  | texts => "(" ++ Text.joinWith ", " texts ++ ")"

mutual

/-- The text of a value inside another; `cursorText` gives those of the cursors. -/
def displayWith (cursorText : Nat → String) : Value → String
  | .absent => "Undefined"
  | .unset => "missing"
  | .data value => value.display
  | .tuple items => tupleText (displayAllWith cursorText items)
  | .cursor place => cursorText place
  | .kind k => "<class '" ++ k.title ++ "'>"
  | .applied k argument spread =>
    (if spread then "*" else "") ++ k.name ++ "[" ++ argument.display ++ "]"
  | .member owner adder name form =>
    memberText (displayWith cursorText owner) owner.kindOf adder name form
  | .mark adder name form => markText adder name form
  | .function name => "<function " ++ name ++ whereabouts ++ ">"
  | .page => "<TemplateReference None>"

/-- The texts of several values. -/
def displayAllWith (cursorText : Nat → String) : List Value → List String
  | [] => []
  | value :: rest => displayWith cursorText value :: displayAllWith cursorText rest

end

/-- The text of a value that stands alone: no text where there is no value, and texts without
quotes. -/
def plainWith (cursorText : Nat → String) : Value → String
  | .absent => ""
  | .data value => value.plain
  | value => displayWith cursorText value

end Rigor.Report.Template
