import Rigor.Check.Record
import Rigor.Check.Scalar
import Rigor.Text.Decimal
import Rigor.Text.Join

/-!
# Diagnostics

A diagnostic is a message about a place in a value, given by the path to it. Diagnostics are
formatted one to a line, with the segments of the path joined by dots; the empty path is the root.
-/

namespace Rigor

open Check

/-- A segment of a path. -/
inductive Segment where
  /-- The name of a field. -/
  | name (text : String)
  /-- An index, of any sign and size. -/
  | index (position : Int)
  deriving DecidableEq, Repr

namespace Segment

/-- A segment: texts are names, and anything else has to be an integer. -/
def read : Json → Checked Segment
  | .str s => .ok (.name s)
  | value =>
    match integer value with
    | .ok n => .ok (.index n)
    | .issues found =>
      .issues (found.map (Issue.under (.branch "int")) ++ [⟨.notText, value, [.branch "str"]⟩])

/-- A segment as JSON. -/
def toJson : Segment → Json
  | .name s => .str s
  | .index n => .int n

/-- The text of a segment. -/
def format : Segment → String
  | .name s => s
  | .index n => Text.decimal n

end Segment

/-- A message about a place in a value. -/
structure Diagnostic where
  /-- The path to the place from the root of the value. -/
  path : List Segment
  /-- What is wrong there. -/
  message : String
  deriving DecidableEq, Repr

namespace Diagnostic

/-- A diagnostic, from an object. -/
def read (setting : Setting) : Json → Checked Diagnostic :=
  record setting fun members =>
    Diagnostic.mk <$> optional "path" (list Segment.read) [] members
      <*> required "message" text members

/-- A diagnostic as an object. -/
def toJson (d : Diagnostic) : Json :=
  .obj [("path", .arr (d.path.map Segment.toJson)), ("message", .str d.message)]

/-- The text of a path. -/
def formatPath (path : List Segment) : String :=
  if path.isEmpty then "root" else Text.joinWith "." (path.map Segment.format)

/-- The line of a diagnostic. -/
def formatLine (d : Diagnostic) : String :=
  "  - " ++ formatPath d.path ++ ": " ++ d.message

/-- The lines of diagnostics, in order. -/
def format (diagnostics : List Diagnostic) : String :=
  Text.joinWith "\n" (diagnostics.map formatLine)

end Diagnostic

end Rigor
