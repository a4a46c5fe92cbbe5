import Rigor.Fault
import Rigor.Report.Template.Cursor

/-!
# Parts and elements of values

* `Value.ask`: what a value says under a name. It may know a fact under that name; else its kind may
  have a member of that name; else an object of the report may have a member of its own. Only an
  absent value answers with a fault.
* `Value.item`: what a value has at a position.
* `Value.elements`: what a loop over a value goes through. The elements of a cursor are not among
  them, for they depend on the other cursors.
-/

namespace Rigor.Report.Template

/-- A text as a value. -/
def Value.ofText (text : String) : Value :=
  .data (.str text)

/-! ### Facts -/

/-- What an integer says of itself: it is a fraction and a complex number as well. -/
def integerFact? (n : Int) : String → Option Value
  | "numerator" => some (.data (.int n))
  | "denominator" => some (.data (.int 1))
  | "real" => some (.data (.int n))
  | "imag" => some (.data (.int 0))
  | _ => none

/-- What the kind of cursors says of a cursor that has taken nothing yet. -/
def freshCursorFact? : String → Option Value
  | "index0" => some (.data (.int (-1)))
  | "_length" => some (.data .null)
  | "_before" => some .unset
  | "_current" => some .unset
  | "_after" => some .unset
  | "_last_changed_value" => some .unset
  | _ => none

/-- What a kind says of itself. -/
def kindFact? (k : Kind) : String → Option Value
  | "__class__" => some (.kind .kind)
  | "__doc__" => some (.ofText "")
  | "__name__" => some (.ofText k.name)
  | "__qualname__" => some (.ofText k.name)
  | "__module__" => some (.ofText (k.home?.getD "builtins"))
  | "__base__" => some ((k.parent?.map Value.kind).getD (.data .null))
  | "__bases__" => some (.tuple (k.parent?.toList.map Value.kind))
  | "__mro__" => some (.tuple (k.ancestry.map Value.kind))
  | name => if k = .cursor then freshCursorFact? name else none

/-- What a kind with an argument says of itself. -/
def appliedFact? (k : Kind) (argument : Json) (spread : Bool) : String → Option Value
  | "__class__" => some (.kind .applied)
  | "__origin__" => some (.kind k)
  | "__args__" => some (.tuple [.data argument])
  | "__parameters__" => some (.tuple [])
  | "__unpacked__" => some (.data (.bool spread))
  | _ => none

/-- What a member of a value says of itself. -/
def memberFact? (owner : Value) (adder : Kind) (own : String) (form : Form) (name : String) :
    Option Value :=
  let called := if form = .refusal then refusalName else own
  let described := match owner, form with
    | .kind k, .shared => k
    | owner, .operation => owner.kindOf
    | _, _ => adder
  match name, kindOfMember form with
  | "__name__", _ => some (.ofText called)
  | "__qualname__", _ => some (.ofText (described.name ++ "." ++ called))
  | "__self__", _ => some (if form = .loose then .data .null else owner)
  | "__module__", .operation => some (.data .null)
  | "__module__", .method => some (.ofText (adder.home?.getD "builtins"))
  | "__objclass__", .operator => some (.kind adder)
  | "__func__", .method => some (.mark adder called .method)
  | _, _ => none

/-- What a member of a kind says of itself. -/
def markFact? (adder : Kind) (own : String) (form : Form) (name : String) : Option Value :=
  match name, kindOfMark form with
  | _, .property => none
  | "__name__", _ => some (.ofText own)
  | "__qualname__", _ => some (.ofText (adder.name ++ "." ++ own))
  | "__module__", .function => some (.ofText (adder.home?.getD "builtins"))
  | "__objclass__", .function => none
  | "__objclass__", _ => some (.kind adder)
  | _, _ => none

/-- What a function of the template engine says of itself. -/
def functionFact? (own : String) : String → Option Value
  | "__name__" => some (.ofText own)
  | "__qualname__" => some (.ofText own)
  | "__module__" => some (.ofText "jinja2.utils")
  | _ => none

namespace Value

/-- What a value says of itself under a name. -/
def fact? : Value → String → Option Value
  | .kind k, name => kindFact? k name
  | .applied k argument spread, name => appliedFact? k argument spread name
  | value, "__class__" => some (.kind value.kindOf)
  | .data .null, "__doc__" => some (.data .null)
  | _, "__doc__" => some (ofText "")
  | .data (.int n), name => integerFact? n name
  | .data (.bool b), name => integerFact? (if b then 1 else 0) name
  | .member owner adder own form, name => memberFact? owner adder own form name
  | .mark adder own form, name => markFact? adder own form name
  | .function own, name => functionFact? own name
  | value, "__module__" => value.kindOf.home?.map ofText
  | _, _ => none

/-! ### Parts -/

/-- A member of the kind of a value, asked of the value. -/
def bound (owner : Value) (adder : Kind) (name : String) : Form → Value
  | .shared => .member (.kind owner.kindOf) adder name .shared
  | .maker => .member (.kind adder) adder name .maker
  | .loose => .member (.kind adder) adder name .loose
  | .field => .data .null
  | .cell => .data .null
  | .property => .data .null
  | .void => .data .null
  | form => .member owner adder name form

/-- A member of a kind, asked of the kind. -/
def marked (k adder : Kind) (name : String) : Form → Value
  | .shared => .member (.kind k) adder name .shared
  | .maker => .member (.kind adder) adder name .maker
  | .loose => .member (.kind adder) adder name .loose
  | .refusal => .mark adder refusalName .method
  | .void => .data .null
  | form => .mark adder name form

/-- The member of a kind under a name: one of its values' members, or one that all kinds have. -/
def ofKind? (k : Kind) (name : String) : Option Value :=
  match kindFact? k name, k.find? name, Kind.kind.find? name with
  | some value, _, _ => some value
  | none, some (adder, form), _ => some (marked k adder name form)
  | none, none, some (adder, form) => some (bound (.kind k) adder name form)
  | none, none, none => none

/-- A kind with an argument, if it takes one. -/
def applied? (k : Kind) (argument : Json) : Value :=
  if k.takesArgument then .applied k argument false else .absent

/-- The few members that a kind with an argument does not leave to the kind. -/
def ownMember? (value : Value) (name : String) : Option Value :=
  if ["__mro_entries__", "__reduce__", "__reduce_ex__"].contains name then
    (value.kindOf.find? name).map fun (adder, form) => value.bound adder name form
  else
    none

/-- What a value says under a name. -/
def ask (value : Value) (name : String) : Except Fault Value :=
  match value, value.fact? name with
  | _, some fact => .ok fact
  | .kind k, none => .ok ((ofKind? k name).getD (applied? k (.str name)))
  | .applied k _ _, none =>
    .ok (((ownMember? value name).orElse fun _ => ofKind? k name).getD .absent)
  | value, none =>
    match value, value.kindOf.find? name with
    | value, some (adder, form) => .ok (value.bound adder name form)
    | .absent, none => .error .template
    | .data (.obj members), none => .ok (ofOption (Table.get? members name))
    | _, none => .ok .absent

/-- What a value has at a position. -/
def item (value : Value) (position : Nat) : Except Fault Value :=
  match value with
  | .absent => .error .template
  | .data (.arr items) => .ok (ofOption items[position]?)
  | .data (.str text) =>
    .ok (ofOption (text.toList[position]?.map fun c => .str (String.singleton c)))
  | .tuple items => .ok (items[position]?.getD .absent)
  | .kind k => .ok (applied? k (.int position))
  | _ => .ok .absent

/-! ### Elements -/

/-- The elements of a value that is no cursor. -/
def elements (value : Value) : Except Fault (List Value) :=
  match value with
  | .absent => .ok []
  | .tuple items => .ok items
  | .applied k argument _ => .ok [.applied k argument true]
  | .page => .error (.noItem 0)
  | .data json =>
    match json.elements? with
    | some items => .ok (items.map .data)
    | none => .error (.notIterable json.typeName)
  | value => .error (.notIterable value.kindOf.name)

end Value

end Rigor.Report.Template
