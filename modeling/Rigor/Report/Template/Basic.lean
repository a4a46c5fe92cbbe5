/-!
# Templates

A template is literal text with two kinds of marks: `{{ path | filter }}` prints a value and `{% for
name in path %} ... {% endfor %}` repeats a part of the template for every element of one. This
module holds the tree of a template, and which names the parts of a template use.

Inside a loop the name `loop` stands for the cursor of the loop, which tells where the loop is. Only
the loops whose body reads that name have a cursor (`readsCursor`), and no loop may give the name to
its elements (`bindsCursor`).
-/

namespace Rigor.Report

/-- A change to a value before it is printed. -/
inductive Filter where
  /-- Its text in capital letters. -/
  | upper
  /-- Its elements as the items of a list. -/
  | bullets
  deriving DecidableEq, Repr

/-- A value that every template knows. -/
inductive Constant where
  | none
  | yes
  | no
  deriving DecidableEq, Repr

/-- What a reference starts from. -/
inductive Origin where
  /-- The value of a name. -/
  | name (name : String)
  /-- A constant. -/
  | constant (value : Constant)
  deriving DecidableEq, Repr

/-- A step from a value to a part of it. -/
inductive Part where
  /-- The part of a name. -/
  | member (name : String)
  /-- The part at a position. -/
  | item (position : Nat)
  deriving DecidableEq, Repr

/-- A value that a template refers to: where it starts, the parts to follow from there, and
filters. -/
structure Reference where
  /-- What it starts from. -/
  origin : Origin
  /-- The parts to follow. -/
  path : List Part
  /-- The filters to apply, in order. -/
  filters : List Filter
  deriving DecidableEq, Repr

/-- A part of a template. -/
inductive Node where
  /-- Literal text. -/
  | text (chars : List Char)
  /-- A printed value. -/
  | print (source : Reference)
  /-- A part that is repeated for every element of a value. -/
  | loop (item : String) (source : Reference) (body : List Node)

namespace Template

/-! ### Names in a template -/

/-- How a template uses a name. -/
inductive Use where
  /-- The value of the name is read. -/
  | read
  /-- The name is given to the elements of a loop. -/
  | bind
  deriving DecidableEq, Repr

/-- The names that a reference reads. -/
def Reference.names (source : Reference) : List String :=
  match source.origin with
  | .name name => [name]
  | .constant _ => []

/-- The names that a part reads outside the bodies of loops. -/
def Node.reads : Node → List String
  | .text _ => []
  | .print source => Reference.names source
  | .loop _ source _ => Reference.names source

mutual

/-- The uses that a part makes of names, in the order of the text. -/
def uses : Node → List (String × Use)
  | .text _ => []
  | .print source => (Reference.names source).map (·, .read)
  | .loop item source body =>
    (item, .bind) :: (Reference.names source).map (·, .read) ++ usesOfAll body

/-- The uses that several parts make of names. -/
def usesOfAll : List Node → List (String × Use)
  | [] => []
  | node :: rest => uses node ++ usesOfAll rest

end

/-- The parts read the name before they give it to the elements of a loop. -/
def readsFree (name : String) (nodes : List Node) : Bool :=
  ((usesOfAll nodes).find? (·.1 == name)).any (·.2 == .read)

/-! ### Cursors -/

/-- The name of the cursor of a loop. -/
def cursorName : String := "loop"

/-- A loop with this body has a cursor. -/
def readsCursor (body : List Node) : Bool :=
  readsFree cursorName body

/-- Some loop gives the name of the cursor to its elements. -/
def bindsCursor (nodes : List Node) : Bool :=
  (usesOfAll nodes).contains (cursorName, .bind)

end Template

end Rigor.Report
