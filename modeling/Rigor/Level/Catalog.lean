import Rigor.Level.Definition
import Rigor.Registry
import Rigor.Text.Decimal
import Rigor.Text.Join

/-!
# The catalog of levels

The definitions of the levels, read from a file. The rows up to the first one that is invalid count,
and of several for one level the last. Nothing that is wrong with the file is a fault: it is
reported in the log, and levels without a definition fall back to their label and no tools.

* `loader`: what reading a file comes to.
* `list`, `describe`, `tools`: the questions that the rows answer.
* `Catalog`: the registry of the definitions, with these questions as actions.
-/

namespace Rigor

namespace Level

/-- The definitions by their levels. -/
abbrev Rows := Table Level Definition

/-- The levels without a definition, in ascending order. -/
def undefinedIn (rows : Rows) : List Level :=
  all.filter fun level => !Table.has rows level

/-- The entry that reports levels without a definition, if there are any. -/
def reportUndefined (rows : Rows) : List LogEntry :=
  if (undefinedIn rows).isEmpty then []
  else
    [⟨.error, "Level catalog is missing definitions for: "
      ++ Text.joinWith ", " ((undefinedIn rows).map name)⟩]

/-- The entry that reports an unreadable file. -/
def reportFailure : LogEntry :=
  ⟨.error, "Failed to load level catalog <dir>/levels.yaml"⟩

/-- The entry that reports a row. -/
def reportRow (d : Definition) : LogEntry :=
  ⟨.debug, "Loaded level " ++ Text.decimal d.level.rank ++ ": " ++ d.name⟩

/-- The rows with further definitions, each in place of the one its level had. -/
def putAll (rows : Rows) (definitions : List Definition) : Rows :=
  definitions.foldl (fun rows d => Table.put rows d.level d) rows

/-- The outcome for the entries of a file. -/
def loadEntries (entries : List Json) (rows : Rows) : Loading Level Definition :=
  let (definitions, complete) := leadingRows (Definition.read .document) entries
  let rows := putAll rows definitions
  let last : LogEntry :=
    if complete then ⟨.info, "Loaded " ++ Text.decimal rows.length ++ " verification levels"⟩
    else reportFailure
  ⟨rows, definitions.map reportRow ++ last :: reportUndefined rows, none⟩

/-- The outcome for a file that cannot be read. -/
def loadNothing (rows : Rows) : Loading Level Definition :=
  ⟨rows, reportFailure :: reportUndefined rows, none⟩

/-- The outcome for the entries that the data list, if they do. -/
def loadListed (rows : Rows) : Except Fault (List Json) → Loading Level Definition
  | .ok entries => loadEntries entries rows
  | .error _ => loadNothing rows

/-- What reading a file comes to. -/
def loader : Loader Level Definition
  | .missing, rows => ⟨rows, [⟨.warning, "Level catalog not found: <dir>/levels.yaml"⟩], none⟩
  | .broken, rows => loadNothing rows
  | .unreadable _, rows => loadNothing rows
  | .data content, rows => loadListed rows (DefinitionFile.entries "levels" content)
  | .extended content, rows => loadListed rows (content.entries "levels")

/-! ### Questions to the rows -/

/-- The definitions in ascending order of their levels. -/
def list (rows : Rows) : List Definition :=
  all.filterMap (Table.get? rows)

/-- The short forms of the definitions, in the same order. -/
def summaries (rows : Rows) : List Summary :=
  (list rows).map Summary.ofDefinition

/-- What a level guarantees, or its label if it has no definition. -/
def describe (rows : Rows) (level : Level) : String :=
  match Table.get? rows level with
  | some d => d.description
  | none => level.label

/-- The tools of a level, none if it has no definition. -/
def tools (rows : Rows) (level : Level) : List String :=
  match Table.get? rows level with
  | some d => d.tools
  | none => []

/-- The registry of the definitions. -/
abbrev Catalog := Registry Level Definition

namespace Catalog

/-- Read the file, unless that has been done. -/
def load : Act Catalog Unit := Registry.load loader

/-- Read the file again. -/
def reload : Act Catalog Unit := Registry.reload loader

/-- Ask the rows. -/
def consult {α : Type} (ask : Rows → α) : Act Catalog α := Registry.consult loader ask

/-- How many levels have a definition. -/
def count : Act Catalog Nat := consult List.length

/-- The definition of a level. -/
def get (level : Level) : Act Catalog (Option Definition) := consult (Table.get? · level)

end Catalog

end Level

end Rigor
