import Rigor.Check.Checked
import Rigor.DefinitionFile
import Rigor.Journal

/-!
# Lazily loaded registries

A registry serves the rows of a definition file. It reads the file when it is first consulted and
keeps the rows from then on; only a reload reads the file again.

* `Loading`: what reading a file onto rows comes to; a fault leaves the registry unloaded.
* `Registry.load`, `Registry.reload`, `Registry.consult`: the operations, for any way to read the
  file (`Loader`).
-/

namespace Rigor

/-- The rows up to the first invalid one, and whether that is all of them. -/
def leadingRows {α : Type} (read : Json → Checked α) : List Json → List α × Bool
  | [] => ([], true)
  | entry :: rest =>
    match read entry with
    | .ok row => (row :: (leadingRows read rest).1, (leadingRows read rest).2)
    | .issues _ => ([], false)

/-- What reading a definition file comes to. -/
structure Loading (κ ν : Type) where
  /-- The rows afterwards. -/
  rows : Table κ ν
  /-- The entries written. -/
  logs : List LogEntry
  /-- What prevented the reading, if anything did. -/
  fault : Option Fault

/-- A way to read a definition file, adding to the rows there are. -/
abbrev Loader (κ ν : Type) := DefinitionFile → Table κ ν → Loading κ ν

/-- A registry and the definition file it reads. -/
structure Registry (κ ν : Type) where
  /-- The definition file as it is now. -/
  file : DefinitionFile
  /-- The rows read so far. -/
  rows : Table κ ν
  /-- The file has been read. -/
  loaded : Bool

namespace Registry

variable {κ ν α : Type}

/-- A registry that has not read its file yet. -/
def fresh (file : DefinitionFile) : Registry κ ν :=
  ⟨file, [], false⟩

/-- Read the file, unless that has been done. -/
def load (loader : Loader κ ν) : Act (Registry κ ν) Unit :=
  fun r =>
    if r.loaded then ⟨.ok (), r, []⟩
    else
      let loading := loader r.file r.rows
      match loading.fault with
      | none => ⟨.ok (), { r with rows := loading.rows, loaded := true }, loading.logs⟩
      | some fault => ⟨.error fault, { r with rows := loading.rows }, loading.logs⟩

/-- A registry that has read its file does not read it again. -/
theorem load_of_loaded {loader : Loader κ ν} {r : Registry κ ν} (h : r.loaded = true) :
    load loader r = ⟨.ok (), r, []⟩ := by
  simp [load, h]

/-- A loader without a fault leaves the registry loaded. -/
theorem load_of_no_fault {loader : Loader κ ν} {r : Registry κ ν} (h : r.loaded = false)
    (hf : (loader r.file r.rows).fault = none) :
    load loader r
      = ⟨.ok (), ⟨r.file, (loader r.file r.rows).rows, true⟩, (loader r.file r.rows).logs⟩ := by
  simp [load, h, hf]

/-- A loader with a fault leaves the registry unloaded. -/
theorem load_of_fault {loader : Loader κ ν} {r : Registry κ ν} {fault : Fault}
    (h : r.loaded = false) (hf : (loader r.file r.rows).fault = some fault) :
    load loader r
      = ⟨.error fault, ⟨r.file, (loader r.file r.rows).rows, false⟩,
          (loader r.file r.rows).logs⟩ := by
  simp [load, h, hf]

/-- Forget the rows. -/
def clear : Act (Registry κ ν) Unit :=
  fun r => ⟨.ok (), { r with rows := [], loaded := false }, []⟩

/-- Read the file again. -/
def reload (loader : Loader κ ν) : Act (Registry κ ν) Unit := do
  clear
  load loader

/-- Ask the rows, which are read first if need be. -/
def consult (loader : Loader κ ν) (ask : Table κ ν → α) : Act (Registry κ ν) α := do
  load loader
  let r ← Act.state
  return ask r.rows

/-- Replace the definition file; the registry is not told. -/
def replace (file : DefinitionFile) : Act (Registry κ ν) Unit :=
  fun r => ⟨.ok (), { r with file := file }, []⟩

end Registry

end Rigor
