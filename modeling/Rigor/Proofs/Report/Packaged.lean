import Rigor.Proofs.Report.Template.Nesting
import Rigor.Proofs.Text.Listing
import Rigor.Report.Coverage

/-!
# The packaged report template as a tree

`packagedNodes` is what the packaged template is read as (`parse_packagedTemplate`). The line breaks
after loop marks are gone, so that a loop starts and ends at the start of a line.

To compare a tree with the one that is read, equality of trees is decided part by part.
-/

namespace Rigor.Report

open Template

/-! ### Equality of trees -/

namespace Node

mutual

/-- Two parts are equal if they are of the same kind and have the same contents. -/
def decEq : (left right : Node) → Decidable (left = right)
  | .text chars, .text others => decidable_of_iff (chars = others) (by simp)
  | .print source, .print other => decidable_of_iff (source = other) (by simp)
  | .loop item source body, .loop item' source' body' =>
    have := decEqAll body body'
    decidable_of_iff (item = item' ∧ source = source' ∧ body = body') (by simp)
  | .text _, .print _ => isFalse (by simp)
  | .text _, .loop _ _ _ => isFalse (by simp)
  | .print _, .text _ => isFalse (by simp)
  | .print _, .loop _ _ _ => isFalse (by simp)
  | .loop _ _ _, .text _ => isFalse (by simp)
  | .loop _ _ _, .print _ => isFalse (by simp)

/-- Several parts are equal if they are so one by one. -/
def decEqAll : (left right : List Node) → Decidable (left = right)
  | [], [] => isTrue rfl
  | node :: rest, node' :: rest' =>
    have := decEq node node'
    have := decEqAll rest rest'
    decidable_of_iff (node = node' ∧ rest = rest') (by simp)
  | [], _ :: _ => isFalse (by simp)
  | _ :: _, [] => isFalse (by simp)

end

instance : DecidableEq Node := decEq

end Node

/-! ### The tree -/

/-- Literal text. -/
def literal (text : String) : Node :=
  .text text.toList

/-- A printed value of the report. -/
def shown (name : String) (filters : List Filter) : Node :=
  .print ⟨.name name, [], filters⟩

/-- The value that a module has under a name. -/
def ofModule (name : String) (filters : List Filter) : Reference :=
  ⟨.name "module", [.member name], filters⟩

/-- A printed value of a module. -/
def shownOfModule (name : String) (filters : List Filter) : Node :=
  .print (ofModule name filters)

/-- The lines of a risk. -/
def riskNodes : List Node :=
  [literal "- ", shown "risk" [], literal "\n"]

/-- The lines of a module. -/
def moduleNodes : List Node :=
  [literal "### ", shownOfModule "name" [],
    literal "\n\n- Current Level: ", shownOfModule "current_level" [],
    literal " (", shownOfModule "current_description" [],
    literal ")\n- Recommended Level: ", shownOfModule "recommended_level" [],
    literal " (", shownOfModule "recommended_description" [],
    literal ")\n- Effort: ", shownOfModule "effort" [],
    literal "\n\n**Risks:**\n", .loop "risk" (ofModule "risks" []) riskNodes,
    literal "\n**Rationale:** ", shownOfModule "rationale" [],
    literal "\n\n**Recommended Tools:**\n", shownOfModule "tools" [.bullets], literal "\n\n"]

/-- The packaged template as a tree. -/
def packagedNodes : List Node :=
  [literal "# Verification Coverage Report\n\n**Session ID:** ", shown "session_id" [],
    literal "\n**Overall Risk:** ", shown "overall_risk" [.upper],
    literal "\n\n## Module Analysis\n\n", .loop "module" ⟨.name "modules", [], []⟩ moduleNodes,
    literal "## Summary\n\n", shown "summary" [], literal ""]

/-- **The packaged template is read as that tree.** The lines are taken apart first, for the text of
all of them together is slow to compute with. -/
theorem parse_packagedTemplate : parse packagedTemplate.toList = some packagedNodes := by
  rw [packagedTemplate, Text.toList_joinWith_cons]
  simp only [List.flatMap_cons, List.flatMap_nil, String.toList_append]
  decide +kernel

/-- The loops of the packaged template are nested less deep than is allowed. -/
theorem nesting_packagedNodes : nestingOfAll packagedNodes ≤ Plan.depthLimit := by
  decide

end Rigor.Report
