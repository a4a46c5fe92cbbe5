import Rigor.Boundary.Pattern
import Rigor.Diagnostic
import Rigor.Level.Definition
import Rigor.Proofs.Check.Accepted
import Rigor.Report.Analysis
import Rigor.Risk.Pattern

/-!
# Models as they are written

A model is written as an object of all its fields, and read back from it, whatever the setting
(`read_toJson` of each model). The lax rules have nothing to do there: a level is written by its
rank, an effort and a category by their names, and the segments of a path keep apart a name of
digits and the index of these digits.

A boundary pattern is the exception. Its sample may hold numbers that JSON lacks, which are written
as null; so it is read back with null in their place (`Boundary.Pattern.read_toJson`), and as it is
only if there are none (`Boundary.Pattern.read_toJson_eq_self_iff`).
-/

namespace Rigor

open Check

/-! ### Levels -/

namespace Level

/-- A level is read back from its rank. -/
theorem read_toJson (level : Level) : read level.toJson = .ok level := by
  cases level <;> rfl

/-- A level definition is read back as it was written. -/
theorem Definition.read_toJson (setting : Setting) (d : Definition) :
    read setting d.toJson = .ok d := by
  refine seq_ok (seq_ok (seq_ok (map_ok ?level) ?name) ?description) ?tools
  case level => exact required_of_get? rfl d.level.read_toJson
  case name => exact required_of_get? rfl rfl
  case description => exact required_of_get? rfl rfl
  case tools => exact optional_of_get? rfl (list_texts d.tools)

/-- The short form of a definition is read back as it was written. -/
theorem Summary.read_toJson (setting : Setting) (s : Summary) :
    read setting s.toJson = .ok s := by
  refine seq_ok (seq_ok (seq_ok (map_ok ?level) ?name) ?description) ?toolCount
  all_goals exact required_of_get? rfl rfl

end Level

/-! ### Analyses -/

namespace Report

/-- An effort is read back from its name. -/
theorem Effort.read_name (effort : Effort) : read (.str effort.name) = .ok effort := by
  cases effort <;> rfl

/-- A module source is read back as it was written. -/
theorem ModuleSource.read_toJson (setting : Setting) (m : ModuleSource) :
    read setting m.toJson = .ok m := by
  refine seq_ok (map_ok ?name) ?code
  all_goals exact required_of_get? rfl rfl

/-- The analysis of a module is read back as it was written. -/
theorem ModuleAnalysis.read_toJson (setting : Setting) (m : ModuleAnalysis) :
    read setting m.toJson = .ok m := by
  refine seq_ok (seq_ok (seq_ok (seq_ok (seq_ok (map_ok ?name) ?current) ?recommended) ?risks)
    ?rationale) ?effort
  case name => exact required_of_get? rfl rfl
  case current => exact required_of_get? rfl m.currentLevel.read_toJson
  case recommended => exact required_of_get? rfl m.recommendedLevel.read_toJson
  case risks => exact optional_of_get? rfl (list_texts m.risks)
  case rationale => exact optional_of_get? rfl rfl
  case effort => exact required_of_get? rfl m.effort.read_name

/-- An analysis is read back as it was written, with all its modules. -/
theorem Analysis.read_toJson (setting : Setting) (a : Analysis) :
    read setting a.toJson = .ok a := by
  refine seq_ok (seq_ok (seq_ok (map_ok ?session) ?modules) ?overall) ?summary
  case session => exact required_of_get? rfl rfl
  case modules =>
    exact optional_of_get? rfl (list_map fun m _ => m.read_toJson setting)
  case overall => exact required_of_get? rfl rfl
  case summary => exact optional_of_get? rfl rfl

end Report

/-! ### Risks -/

namespace Risk

/-- A risk category is read back from its name. -/
theorem Category.read_toJson (category : Category) : read category.toJson = .ok category := by
  cases category <;> rfl

/-- A match is read back as it was written. -/
theorem Match.read_toJson (setting : Setting) (m : Match) : read setting m.toJson = .ok m := by
  refine seq_ok (seq_ok (map_ok ?category) ?level) ?keywords
  case category => exact required_of_get? rfl m.category.read_toJson
  case level => exact required_of_get? rfl m.level.read_toJson
  case keywords => exact optional_of_get? rfl (list_texts m.keywords)

end Risk

/-! ### Diagnostics -/

/-- A segment of a path is read back as a key or a position, whichever it was. -/
theorem Segment.read_toJson (segment : Segment) : read segment.toJson = .ok segment := by
  cases segment <;> rfl

/-- An error report is read back as it was written. -/
theorem Diagnostic.read_toJson (setting : Setting) (d : Diagnostic) :
    read setting d.toJson = .ok d := by
  refine seq_ok (map_ok ?path) ?message
  case path => exact optional_of_get? rfl (list_map fun segment _ => segment.read_toJson)
  case message => exact required_of_get? rfl rfl

/-! ### Boundary patterns -/

namespace Json

mutual

/-- A value keeps all its numbers exactly if they are finite. -/
theorem blankNonFinite_eq_self_iff : ∀ value : Json, value.blankNonFinite = value ↔
    value.isFinite = true
  | .null => by simp [blankNonFinite, isFinite]
  | .bool _ => by simp [blankNonFinite, isFinite]
  | .int _ => by simp [blankNonFinite, isFinite]
  | .float x => by
      rw [blankNonFinite, isFinite]
      cases x.isFinite <;> simp
  | .str _ => by simp [blankNonFinite, isFinite]
  | .arr items => by
      rw [blankNonFinite, isFinite, arr.injEq]
      exact blankItems_eq_self_iff items
  | .obj members => by
      rw [blankNonFinite, isFinite, obj.injEq]
      exact blankMembers_eq_self_iff members

/-- Writing leaves the items of an array as they are just if all numbers in them are finite. -/
theorem blankItems_eq_self_iff : ∀ items : List Json, blankItems items = items ↔
    areFinite items = true
  | [] => by simp [blankItems, areFinite]
  | item :: rest => by
      rw [blankItems, areFinite, List.cons.injEq, Bool.and_eq_true,
        blankNonFinite_eq_self_iff item, blankItems_eq_self_iff rest]

/-- The same holds of the members of an object. -/
theorem blankMembers_eq_self_iff : ∀ members : List (String × Json),
    blankMembers members = members ↔ membersFinite members = true
  | [] => by simp [blankMembers, membersFinite]
  | (key, value) :: rest => by
      rw [blankMembers, membersFinite, List.cons.injEq, Prod.mk.injEq, Bool.and_eq_true,
        blankNonFinite_eq_self_iff value, blankMembers_eq_self_iff rest]
      simp

end

end Json

/-- A boundary pattern is read back with null for the numbers that JSON lacks. -/
theorem Boundary.Pattern.read_toJson (setting : Setting) (p : Boundary.Pattern) :
    read setting p.toJson = .ok { p with sample := Json.blankMembers p.sample } := by
  refine seq_ok (seq_ok (seq_ok (seq_ok (map_ok ?key) ?name) ?description) ?expression) ?sample
  case key => exact required_of_get? rfl rfl
  case name => exact required_of_get? rfl rfl
  case description => exact required_of_get? rfl rfl
  case expression => exact required_of_get? rfl rfl
  case sample => exact optional_of_get? rfl rfl

/-- A boundary pattern is read back as it was written just if all numbers of its sample are
finite. -/
theorem Boundary.Pattern.read_toJson_eq_self_iff (setting : Setting) (p : Boundary.Pattern) :
    read setting p.toJson = .ok p ↔ (Json.obj p.sample).isFinite = true := by
  obtain ⟨key, name, description, expression, sample⟩ := p
  rw [Boundary.Pattern.read_toJson, ← Json.blankNonFinite_eq_self_iff, Json.blankNonFinite]
  simp

end Rigor
