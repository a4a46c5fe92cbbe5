import Rigor.Report.Template.Plan

/-!
# How deep the loops of a template are nested

The plan of a template has room for loops inside loops up to a depth, and that is all there is to
it: whatever names are in scope and however many lines the plan has by then, a template is refused
if and only if its loops are nested deeper than that (`check_eq_ok_iff`).
-/

namespace Rigor.Report.Template

mutual

/-- How many loops a part has inside each other. -/
def nesting : Node → Nat
  | .text _ => 0
  | .print _ => 0
  | .loop _ _ body => nestingOfAll body + 1

/-- How many loops several parts have inside each other at most. -/
def nestingOfAll : List Node → Nat
  | [] => 0
  | node :: rest => max (nesting node) (nestingOfAll rest)

end

namespace Plan

mutual

/-- A part that is inside no more loops than there is room for has a plan if the room is enough for
its own loops, too. -/
theorem exists_addNode_iff (scope : Scope) {depth : Nat} (mark : Mark) (node : Node)
    (h : depth ≤ depthLimit) :
    (∃ after, addNode scope depth mark node = .ok after) ↔ depth + nesting node ≤ depthLimit := by
  cases node with
  | text chars => simpa [addNode, nesting] using h
  | print source => simpa [addNode, nesting] using h
  | loop item source body =>
      rw [addNode, nesting]
      by_cases hfull : depth = depthLimit
      · simp only [if_pos hfull, reduceCtorEq, exists_false, false_iff]
        omega
      · have hroom : depth + 1 ≤ depthLimit := by omega
        have hdepth : depth + (nestingOfAll body + 1) = depth + 1 + nestingOfAll body := by omega
        rw [hdepth, ← exists_addNodes_iff (scope.enter (given item body) body)
          ((mark.add (given item body).length).add
            ((scope.lookups (given item body) body).length + 2)) body hroom]
        simp only [if_neg hfull]
        split <;> simp_all

/-- A plan can be made of parts of a template just if their loops, counted from the depth they stand
at, stay within the limit. -/
theorem exists_addNodes_iff (scope : Scope) {depth : Nat} (mark : Mark) (nodes : List Node)
    (h : depth ≤ depthLimit) :
    (∃ after, addNodes scope depth mark nodes = .ok after) ↔
      depth + nestingOfAll nodes ≤ depthLimit := by
  cases nodes with
  | nil => simpa [addNodes, nestingOfAll] using h
  | cons node rest =>
      have hmax : depth + max (nesting node) (nestingOfAll rest) ≤ depthLimit ↔
          depth + nesting node ≤ depthLimit ∧ depth + nestingOfAll rest ≤ depthLimit := by omega
      rw [addNodes, nestingOfAll, hmax, ← exists_addNode_iff scope mark node h]
      cases addNode scope depth mark node with
      | error line => simp
      | ok after => simpa using exists_addNodes_iff scope after rest h

end

/-- **A template is refused if and only if its loops are nested too deep.** -/
theorem check_eq_ok_iff (scope : Scope) (nodes : List Node) :
    check scope nodes = .ok () ↔ nestingOfAll nodes ≤ depthLimit := by
  have hopened := exists_addNodes_iff scope
    ⟨headLines + scope.held.length + (filtersOfAll nodes).eraseDups.length * filterLines + 1, false⟩
    nodes (Nat.zero_le depthLimit)
  rw [← Nat.zero_add (nestingOfAll nodes), ← hopened, check]
  split <;> simp_all

end Plan

end Rigor.Report.Template
