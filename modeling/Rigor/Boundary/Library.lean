import Rigor.Boundary.Pattern
import Rigor.Registry
import Rigor.Text.Decimal

/-!
# The library of boundary patterns

The library holds the boundary patterns, read from a file. The rows up to the first invalid one
count; a second row of a key replaces the first and keeps its place. Nothing that is wrong with the
file is a fault.
-/

namespace Rigor.Boundary

/-- The patterns by their keys. -/
abbrev Rows := Table String Pattern

/-- The entry that reports an unreadable file. -/
def reportFailure : LogEntry :=
  ⟨.error, "Failed to load boundary patterns"⟩

/-- The rows with further patterns, each in place of the one its key had. -/
def putAll (rows : Rows) (patterns : List Pattern) : Rows :=
  patterns.foldl (fun rows p => Table.put rows p.key p) rows

/-- The outcome for the entries of a file. -/
def loadEntries (entries : List Json) (rows : Rows) : Loading String Pattern :=
  let (patterns, complete) := leadingRows (Pattern.read .document) entries
  let rows := putAll rows patterns
  let last : LogEntry :=
    if complete then ⟨.info, "Loaded " ++ Text.decimal rows.length ++ " boundary patterns"⟩
    else reportFailure
  ⟨rows, [last], none⟩

/-- The outcome for a file that cannot be read. -/
def loadNothing (rows : Rows) : Loading String Pattern :=
  ⟨rows, [reportFailure], none⟩

/-- The outcome for the entries that the data list, if they do. -/
def loadListed (rows : Rows) : Except Fault (List Json) → Loading String Pattern
  | .ok entries => loadEntries entries rows
  | .error _ => loadNothing rows

/-- What reading a file comes to. -/
def loader : Loader String Pattern
  | .missing, rows =>
    ⟨rows, [⟨.warning, "Boundary patterns file not found: <dir>/boundary_patterns.yaml"⟩], none⟩
  | .broken, rows => loadNothing rows
  | .unreadable _, rows => loadNothing rows
  | .data content, rows => loadListed rows (DefinitionFile.entries "patterns" content)
  | .extended content, rows => loadListed rows (content.entries "patterns")

/-- The registry of the patterns. -/
abbrev Library := Registry String Pattern

namespace Library

/-- Read the file, unless that has been done. -/
def load : Act Library Unit := Registry.load loader

/-- Ask the rows. -/
def consult {α : Type} (ask : Rows → α) : Act Library α := Registry.consult loader ask

/-- How many patterns there are. -/
def count : Act Library Nat := consult List.length

/-- The patterns in order. -/
def list : Act Library (List Pattern) := consult Table.values

/-- The pattern of a key. -/
def get (key : String) : Act Library (Option Pattern) := consult (Table.get? · key)

end Library

end Rigor.Boundary
