import Rigor.Risk.Register
import Rigor.Text.Join

/-!
# Classifying source text

A text is searched for the keywords of the risk table, in small letters on both sides. The
categories found, in the order of the table, decide the level that the text is recommended (the
highest that one of them contributes) and the risks that are stated. Categories raise a level and
never add up.

* `findings`, `recommend`, `statements`: the answers as functions of the rows.
* `Register.find`, `Register.classify`, `Register.risks`: the same, asked of the registry.
-/

namespace Rigor.Risk

/-- The match of a pattern in a text of small letters, if there is one. -/
def Pattern.matchIn? (lowered : String) (p : Pattern) : Option Match :=
  if (p.hits lowered).isEmpty then none else some ⟨p.category, p.level, p.hits lowered⟩

/-- The categories found in a text. -/
def findings (rows : Rows) (code : String) : List Match :=
  (Table.values rows).filterMap (Pattern.matchIn? (Text.toLower code))

/-- The highest level that a match contributes, static types if there is none. -/
def levelOf (found : List Match) : Level :=
  Level.highest (found.map Match.level)

/-- The level that a text is recommended. -/
def recommend (rows : Rows) (code : String) : Level :=
  levelOf (findings rows code)

/-- What is stated of a text in which no category is found. -/
def noRisk : String := "Standard verification with types and unit tests"

/-- The risk that a match is about, by the pattern of its category. A category without a pattern has
no risk to ask for. -/
def riskOf (rows : Rows) (m : Match) : Except Fault String :=
  match Table.get? rows m.category with
  | some p => .ok p.risk
  | none => .error .noPattern

/-- The statements of the risks found in a text. Every match has a risk: its category is that of a
row, and rows are filed by their categories. -/
def statements (rows : Rows) (code : String) : List String :=
  let found := (findings rows code).filterMap fun m => (riskOf rows m).toOption
  if found.isEmpty then [noRisk] else found

/-- The entry that reports a classification. -/
def reportFindings (found : List Match) : LogEntry :=
  ⟨.debug, "Risk analysis matched "
    ++ (Json.arr (found.map fun m => m.category.toJson)).display
    ++ " -> level " ++ Text.decimal (levelOf found).rank⟩

namespace Register

/-- The categories found in a text. -/
def find (code : String) : Act Register (List Match) :=
  consult (findings · code)

/-- The level that a text is recommended. -/
def classify (code : String) : Act Register Level := do
  let found ← find code
  Act.log (reportFindings found).severity (reportFindings found).message
  return levelOf found

/-- The statements of the risks found in a text. -/
def risks (code : String) : Act Register (List String) :=
  consult (statements · code)

end Register

end Rigor.Risk
