import Rigor.Schema.Infer
import Rigor.Text.Join

/-!
# Schema expressions

The text of a schema, and of a sample with its objects spelled out.

* `Schema.render`: a schema on one line.
* `Sample.emit`: a sample at the top, the objects inside it field by field, one field to a line,
  indented by two spaces for each object around it. The items of an array at the top are spelled out
  too and united by their texts; an array inside an object is rendered as its schema. A strict
  expression marks every object that is spelled out.
-/

namespace Rigor

/-- A choice between expressions. -/
def unionText (expressions : List String) : String :=
  "union(" ++ Text.joinWith ", " expressions ++ ")"

namespace Schema

mutual

/-- A schema on one line. -/
def render : Schema → String
  | .null => "null()"
  | .undefined => "undefined()"
  | .unknown => "unknown()"
  | .string .plain => "string()"
  | .string format => "string(format=" ++ format.name ++ ")"
  | .number integral => "number(int=" ++ (if integral then "true" else "false") ++ ")"
  | .boolean => "boolean()"
  | .object => "object(\x7b\x7d)"
  | .array element => "array(" ++ render element ++ ")"
  | .union variants => unionText (renderAll variants)

/-- Each schema on one line. -/
def renderAll : List Schema → List String
  | [] => []
  | schema :: rest => render schema :: renderAll rest

end

end Schema

namespace Sample

/-- One step of indentation. -/
def indentation : String := "  "

/-- An expression whose lines after the first stand one step further in. -/
def indentRest (expression : String) : String :=
  String.ofList (expression.toList.flatMap fun c =>
    if c = '\n' then '\n' :: indentation.toList else [c])

/-- An object expression around the texts of its fields. -/
def objectText (strict : Bool) (fields : List String) : String :=
  (if fields.isEmpty then "object(\x7b\x7d)"
    else "object(\x7b\n" ++ Text.joinWith ",\n" fields ++ "\n\x7d)")
  ++ (if strict then ".strict()" else "")

mutual

/-- An object field by field, any other sample by its schema. -/
def emitField (strict : Bool) : Sample → String
  | .obj members => objectText strict (emitMembers strict members)
  | sample => sample.infer.render

/-- The lines of the fields of an object. -/
def emitMembers (strict : Bool) : List (String × Sample) → List String
  | [] => []
  | (key, value) :: rest =>
    (indentation ++ key ++ ": " ++ indentRest (emitField strict value)) :: emitMembers strict rest

end

/-- The distinct expressions of the items of an array. -/
def elementTexts (strict : Bool) (items : List Sample) : List String :=
  Schema.distinct (items.map (emitField strict))

/-- The expression of an array whose items are spelled out. -/
def arrayText : List String → String
  | [] => (Schema.array .unknown).render
  | [expression] => "array(" ++ expression ++ ")"
  | expressions => "array(" ++ unionText expressions ++ ")"

/-- The schema expression of a sample. -/
def emit (strict : Bool) : Sample → String
  | .arr items => arrayText (elementTexts strict items)
  | sample => emitField strict sample

end Sample

end Rigor
