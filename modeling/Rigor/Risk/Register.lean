import Rigor.Registry
import Rigor.Risk.Pattern
import Rigor.Text.Decimal

/-!
# The risk register

The register holds the patterns of the categories, read from a file. A row that is invalid is
skipped, and so is a valid one whose category has a row already; both are reported in the log. Data
of the wrong shape are a fault, which leaves the register unloaded, and so is a file that cannot be
read at all.

* `loader`: what reading a file comes to.
* `Stats`: the size of the table.
* `Register`: the registry of the patterns.
-/

namespace Rigor.Risk

/-- The patterns by their categories. -/
abbrev Rows := Table Category Pattern

/-- The entry that reports an invalid row. -/
def reportInvalid : LogEntry :=
  ⟨.error, "Invalid risk pattern in <dir>/risk_patterns.yaml"⟩

/-- The entry that reports a second row of a category. -/
def reportDuplicate (category : Category) : LogEntry :=
  ⟨.warning, "Duplicate risk category '" ++ category.name ++ "', keeping first"⟩

/-- The rows after the entries of a file, and what is reported on the way. -/
def loadEntries : List Json → Rows → Rows × List LogEntry
  | [], rows => (rows, [])
  | entry :: rest, rows =>
    match Pattern.read .document entry with
    | .issues _ =>
      let (rows, logs) := loadEntries rest rows
      (rows, reportInvalid :: logs)
    | .ok p =>
      if Table.has rows p.category then
        let (rows, logs) := loadEntries rest rows
        (rows, reportDuplicate p.category :: logs)
      else
        loadEntries rest (Table.putNew rows p.category p)

/-- The outcome for the entries that the data list, or for the fault that they are. -/
def loadListed (rows : Rows) : Except Fault (List Json) → Loading Category Pattern
  | .error fault => ⟨rows, [], some fault⟩
  | .ok entries =>
    let (rows, logs) := loadEntries entries rows
    ⟨rows, logs ++ [⟨.info, "Loaded " ++ Text.decimal rows.length ++ " risk categories"⟩], none⟩

/-- What reading a file comes to. Only failures of the syntax are passed over. -/
def loader : Loader Category Pattern
  | .missing, rows =>
    ⟨rows, [⟨.warning, "Risk pattern table not found: <dir>/risk_patterns.yaml"⟩], none⟩
  | .broken, rows =>
    ⟨rows, [⟨.error, "Failed to parse risk pattern table <dir>/risk_patterns.yaml"⟩], none⟩
  | .unreadable failure, rows => ⟨rows, [], some (.unreadable failure)⟩
  | .data content, rows => loadListed rows (DefinitionFile.entries "patterns" content)
  | .extended content, rows => loadListed rows (content.entries "patterns")

/-- The size of a risk table. -/
structure Stats where
  /-- How many categories have a pattern. -/
  categories : Nat
  /-- How many keywords these have together. -/
  keywords : Nat
  deriving DecidableEq

namespace Stats

/-- The size of the table with the given rows. -/
def ofRows (rows : Rows) : Stats :=
  ⟨rows.length, (Table.values rows).foldl (fun n p => n + p.keywords.length) 0⟩

/-- A size as an object. -/
def toJson (s : Stats) : Json :=
  .obj [("categories_loaded", .int s.categories), ("total_keywords", .int s.keywords)]

end Stats

/-- The registry of the patterns. -/
abbrev Register := Registry Category Pattern

namespace Register

/-- Read the file, unless that has been done. -/
def load : Act Register Unit := Registry.load loader

/-- Read the file again. -/
def reload : Act Register Unit := Registry.reload loader

/-- Ask the rows. -/
def consult {α : Type} (ask : Rows → α) : Act Register α := Registry.consult loader ask

/-- How many categories have a pattern. -/
def count : Act Register Nat := consult List.length

/-- The patterns in the order of the table. -/
def list : Act Register (List Pattern) := consult Table.values

/-- The pattern of a category. -/
def get (category : Category) : Act Register (Option Pattern) := consult (Table.get? · category)

/-- The size of the table. -/
def stats : Act Register Stats := consult Stats.ofRows

end Register

end Rigor.Risk
