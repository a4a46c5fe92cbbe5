import Rigor.Report.Template.Parser
import Rigor.Report.Template.Printer

/-!
# Plans of templates

Before a template is printed it is laid out as a plan, a list of steps with one step to a line. A
plan has room for loops inside loops up to a depth of twenty. A template that needs more is refused,
and the fault names the line on which the plan would have had the first loop that is too deep.

A plan starts with a head of fixed size and the steps that look up the filters. A section looks up
its names, opens, and goes on with the steps of its parts. Neighbouring texts take one step
together, and so do printed values that are known beforehand.

* `Plan.check`: the fault of a template that nests its loops too deep.
* `render`: the text of a template.
-/

namespace Rigor.Report.Template

namespace Plan

/-- The most loops that can stand inside each other. -/
def depthLimit : Nat := 20

/-- The lines of the head of a plan. -/
def headLines : Nat := 9

/-- The lines that it takes to look up a filter. -/
def filterLines : Nat := 6

/-- How far a plan has come. -/
structure Mark where
  /-- The number of lines so far. -/
  lines : Nat
  /-- The last line prints something known beforehand. -/
  isText : Bool

/-- The plan with more lines, none of which prints a text. -/
def Mark.add (mark : Mark) (count : Nat) : Mark :=
  ⟨mark.lines + count, false⟩

/-- The plan with one more thing to print that is known beforehand. -/
def Mark.addText (mark : Mark) : Mark :=
  ⟨if mark.isText then mark.lines else mark.lines + 1, true⟩

/-- The printed value is known beforehand. -/
def isKnown (source : Reference) : Bool :=
  match source.origin with
  | .name _ => false
  | .constant _ =>
    match (Printing.resolve ⟨[], []⟩ source).run [] with
    | .ok _ => true
    | .error _ => false

/-- The names that a loop gives to its body, with the values that they have before it starts. -/
def given (item : String) (body : List Node) : Table String Value :=
  (item, .unset) :: if readsCursor body then [(cursorName, .unset)] else []

mutual

/-- The plan after a part that is inside `depth` loops, or the line of a loop that is too deep. -/
def addNode (scope : Scope) (depth : Nat) (mark : Mark) : Node → Except Nat Mark
  | .text chars => .ok (if chars.isEmpty then mark else mark.addText)
  | .print source => .ok (if isKnown source then mark.addText else mark.add 1)
  | .loop item _ body =>
    let names := given item body
    let start := mark.add names.length
    if depth = depthLimit then .error start.lines
    else
      let opened := start.add ((scope.lookups names body).length + 2)
      match addNodes (scope.enter names body) (depth + 1) opened body with
      | .ok mark => .ok (mark.add 1)
      | .error line => .error line

/-- The plan after several parts. -/
def addNodes (scope : Scope) (depth : Nat) (mark : Mark) : List Node → Except Nat Mark
  | [] => .ok mark
  | node :: rest =>
    match addNode scope depth mark node with
    | .ok mark => addNodes scope depth mark rest
    | .error line => .error line

end

mutual

/-- The filters that a part applies. -/
def filters : Node → List Filter
  | .text _ => []
  | .print source => source.filters
  | .loop _ source body => source.filters ++ filtersOfAll body

/-- The filters that several parts apply. -/
def filtersOfAll : List Node → List Filter
  | [] => []
  | node :: rest => filters node ++ filtersOfAll rest

end

/-- The fault of a template that nests its loops too deep. -/
def check (scope : Scope) (nodes : List Node) : Except Fault Unit :=
  let filterCount := (filtersOfAll nodes).eraseDups.length
  let opened := headLines + scope.held.length + filterCount * filterLines + 1
  match addNodes scope 0 ⟨opened, false⟩ nodes with
  | .ok _ => .ok ()
  | .error line => .error (.tooDeep line)

end Plan

/-- The text of a template for the values of a report. -/
def render (values : Table String Json) (template : String) : Except Fault String :=
  match parse template.toList with
  | none => .error .template
  | some nodes =>
    let scope := Scope.ofTemplate values nodes
    match Plan.check scope nodes with
    | .ok _ => (Printing.nodes scope nodes).run' []
    | .error fault => .error fault

end Rigor.Report.Template
