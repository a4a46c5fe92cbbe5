import Rigor.Proofs.Registry.Failure
import Rigor.Proofs.Registry.Requests
import Rigor.Proofs.Risk.Answers
import Rigor.Risk.Packaged

/-!
# Loading the risk table

The register passes over a missing file, over one that cannot be parsed and over rows that are
invalid or come twice. What it cannot load are files that cannot be read for another reason, data
without members and patterns that cannot be run through (`Unloadable`, `loader_fault_iff`). Once it
is loaded, every question has an answer (`exists_answers_serve`).

* `serve_fails_iff`: the main statement, which requests fail, and what they leave behind.
* `serve_fails_beyond_shapes`: it does not take a JSON value of a wrong shape to fail.
-/

namespace Rigor.Risk

open Registry (Answers LoadsTo ReadsFile after fresh reached)

variable {rows : Rows} {file : DefinitionFile} {fault : Fault}

/-! ### Requests -/

/-- The request asks for the rows: it is no reload, does not replace the file, and is not the
analysis of no modules. -/
def Request.Consults : Request → Prop
  | .reload => False
  | .write _ => False
  | .analyzeAll [] => False
  | _ => True

/-- The requests that demand to read are those that ask for the rows. -/
theorem demand_eq_read_iff {q : Request} : q.demand = .read ↔ q.Consults := by
  cases q with
  | analyzeAll sources => cases sources <;> simp [Request.demand, Request.Consults]
  | _ => simp [Request.demand, Request.Consults]

/-- Only the request to reload demands it. -/
theorem demand_eq_reload_iff {q : Request} : q.demand = .reload ↔ q = .reload := by
  cases q with
  | analyzeAll sources => cases sources <;> simp [Request.demand]
  | _ => simp [Request.demand]

/-- Only the request to write a file demands to replace the file. -/
theorem demand_eq_replace_iff {q : Request} {other : DefinitionFile} :
    q.demand = .replace other ↔ q = .write other := by
  cases q with
  | analyzeAll sources => cases sources <;> simp [Request.demand]
  | _ => simp [Request.demand]

/-- A register that loads to some rows answers every question. -/
theorem exists_answers_serve {q : Request} (h : q.demand = .read) (rows : Rows) :
    ∃ a, Answers loader rows (Register.serve q) a := by
  cases q with
  | load => exact ⟨_, Answers.load.bind (Answers.pure _)⟩
  | reload => cases h
  | write file => cases h
  | count => exact ⟨_, (Answers.consult List.length).bind (Answers.pure _)⟩
  | list => exact ⟨_, (Answers.consult Table.values).bind (Answers.pure _)⟩
  | get category => exact ⟨_, (Answers.consult (Table.get? · category)).bind (Answers.pure _)⟩
  | stats => exact ⟨_, (Answers.consult Stats.ofRows).bind (Answers.pure _)⟩
  | classify code => exact ⟨_, (answers_classify code).bind (Answers.pure _)⟩
  | find code => exact ⟨_, (answers_find code).bind (Answers.pure _)⟩
  | risks code => exact ⟨_, (answers_risks code).bind (Answers.pure _)⟩
  | analyze source => exact ⟨_, (answers_analyzeModule .staticTypes source).bind (Answers.pure _)⟩
  | analyzeAll sources =>
      exact ⟨_, (answers_analyzeModules Report.localSession sources).bind (Answers.pure _)⟩

/-! ### Files -/

/-- The file cannot be loaded, which is the fault. -/
inductive Unloadable : DefinitionFile → Fault → Prop where
  /-- Reading it fails, but not because of its syntax. -/
  | unreadable (failure : ReadFailure) : Unloadable (.unreadable failure) (.unreadable failure)
  /-- Its data are of a wrong shape. -/
  | data {content : Json} {fault : Fault} :
      DefinitionFile.Misshapen "patterns" content fault → Unloadable (.data content) fault
  /-- Its data, which are no JSON value, are of a wrong shape. -/
  | extended {content : Extended} {fault : Fault} :
      content.Misshapen "patterns" fault → Unloadable (.extended content) fault

/-- The fault of data is that of their entries. -/
theorem loadListed_fault_iff {listed : Except Fault (List Json)} :
    (loadListed rows listed).fault = some fault ↔ listed = .error fault := by
  cases listed <;> simp [loadListed]

/-- The loader finds a fault exactly in a file that cannot be loaded. -/
theorem loader_fault_iff : (loader file rows).fault = some fault ↔ Unloadable file fault := by
  cases file with
  | missing =>
      refine ⟨fun h => ?_, nofun⟩
      cases h
  | broken =>
      refine ⟨fun h => ?_, nofun⟩
      cases h
  | unreadable failure =>
      constructor
      · intro h
        obtain rfl := Option.some.inj h
        exact .unreadable failure
      · rintro ⟨⟩
        rfl
  | data content =>
      rw [loader, loadListed_fault_iff, DefinitionFile.entries_eq_error_iff]
      exact ⟨.data, fun | .data h => h⟩
  | extended content =>
      rw [loader, loadListed_fault_iff, Extended.entries_eq_error_iff]
      exact ⟨.extended, fun | .extended h => h⟩

/-- A file is readable just if it is not one of those that cannot be loaded. -/
theorem readable_iff : Registry.Readable loader file ↔ ∀ fault, ¬ Unloadable file fault := by
  have hfault : ∀ fault, Unloadable file fault ↔ (loader file []).fault = some fault :=
    fun _ => loader_fault_iff.symm
  simp only [hfault, Registry.Readable]
  cases (loader file []).fault <;> simp

/-! ### Failures -/

/-- **What the register cannot load.** A request that makes it read its file, because nothing is
loaded or to load it again, fails exactly if the file cannot be read, other than for its syntax, or
holds data of a wrong shape. The register is then unloaded without rows, and every such request
fails in the same way until the file is replaced. Otherwise the request has an answer and the
register is loaded. -/
theorem serve_fails_iff (file : DefinitionFile) (history : List Request) (q : Request)
    (h : q.Consults ∧ (reached Register.serve file history).loaded = false ∨ q = .reload) :
    let r := reached Register.serve file history
    (∀ fault, (Register.serve q r).result = .error fault ↔ Unloadable r.file fault) ∧
    (∀ fault, Unloadable r.file fault →
      (Register.serve q r).state = ⟨r.file, [], false⟩ ∧
      ∀ more : List Request, (∀ p ∈ more, ∀ other, p ≠ .write other) →
        ∀ p : Request, p.Consults ∨ p = .reload →
          (Register.serve p (after Register.serve (Register.serve q r).state more)).result
            = .error fault) ∧
    ((∀ fault, ¬ Unloadable r.file fault) →
      (∃ answer, (Register.serve q r).result = .ok answer) ∧
        (Register.serve q r).state.loaded = true) := by
  intro r
  have hsnapshot := Registry.isSnapshot clean_loader met_demand
  have hreads : ReadsFile Request.demand r q := by
    rcases h with ⟨hq, hunloaded⟩ | hq
    · exact Or.inl ⟨demand_eq_read_iff.mpr hq, hunloaded⟩
    · exact Or.inr (demand_eq_reload_iff.mpr hq)
  refine ⟨fun fault => ?_, fun fault hfault => ?_, fun hnone => ?_⟩
  · rw [Registry.result_eq_error_iff hsnapshot hreads exists_answers_serve, loader_fault_iff]
  · have hloader : (loader r.file []).fault = some fault := loader_fault_iff.mpr hfault
    have hstate : (Register.serve q r).state = fresh r.file :=
      (Registry.fails_of_fault hsnapshot hreads hloader).2
    refine ⟨hstate, fun more hmore p hp => ?_⟩
    have hkept : ∀ p ∈ more, ∀ other, p.demand ≠ .replace other := fun p hp other hother =>
      hmore p hp other (demand_eq_replace_iff.mp hother)
    rw [hstate, Registry.after_fresh_of_fault hsnapshot hloader hkept]
    have hagain : ReadsFile Request.demand (reached Register.serve r.file []) p := by
      rcases hp with hp | hp
      · exact Or.inl ⟨demand_eq_read_iff.mpr hp, rfl⟩
      · exact Or.inr (demand_eq_reload_iff.mpr hp)
    exact (Registry.fails_of_fault hsnapshot hagain hloader).1
  · have hreadable := readable_iff.mpr hnone
    refine ⟨Registry.succeeds_of_readable hsnapshot hreads exists_answers_serve hreadable, ?_⟩
    rw [Registry.state_of_readsFile hsnapshot hreads, Registry.loadedOn,
      (Registry.load_fresh_of_readable hreadable).2]

/-- The register that holds the packaged rows loses them to an array, when it is loaded again. -/
theorem serve_fails_iff_reload :
    let r := reached Register.serve packaged [.count, .write (.data (.arr [.null]))]
    (Request.reload.Consults ∧ r.loaded = false ∨ Request.reload = .reload) ∧
      (Register.serve .reload r).result = .error (.noMembers "list") ∧
      (Register.serve .reload r).state = ⟨.data (.arr [.null]), [], false⟩ := by
  intro r
  have hfile : r.file = .data (.arr [.null]) := rfl
  have hfault : Unloadable r.file (.noMembers "list") :=
    .data (.noMembers (.arr (by simp)))
  have hreload : Request.reload.Consults ∧ r.loaded = false ∨ Request.reload = .reload :=
    Or.inr rfl
  obtain ⟨hresult, hstate, -⟩ := serve_fails_iff packaged _ .reload hreload
  refine ⟨hreload, (hresult _).mpr hfault, ?_⟩
  rw [(hstate _ hfault).1, hfile]

/-- It does not take a JSON value of a wrong shape to make a request fail. Bytes that are no text
do, and so does a date in place of the patterns, and nothing is loaded then. Modules are refused for
a single item that is none, whatever the file holds. -/
theorem serve_fails_beyond_shapes :
    let failure : ReadFailure := ⟨"UnicodeDecodeError",
      "'utf-8' codec can't decode byte 0xe9 in position 12: invalid continuation byte"⟩
    let undecodable : Register := fresh (.unreadable failure)
    let dated : Register := fresh (.extended (.object [("patterns", .special .date)]))
    (Request.count.Consults ∧ undecodable.loaded = false ∧ dated.loaded = false) ∧
      ((∀ content, undecodable.file ≠ .data content) ∧
        (Register.serve .count undecodable).result = .error (.unreadable failure) ∧
        (Register.serve .count undecodable).state.loaded = false) ∧
      ((∀ content, dated.file ≠ .data content) ∧
        (Register.serve .count dated).result = .error (.notIterable "datetime.date") ∧
        (Register.serve .count dated).state.loaded = false) ∧
      ∃ found, Check.inTurn (Report.ModuleSource.read .document)
        [Report.ModuleSource.toJson ⟨"a", "x"⟩, .obj [("name", .str "b")]] = .issues found :=
  ⟨⟨trivial, rfl, rfl⟩, ⟨nofun, rfl, rfl⟩, ⟨nofun, rfl, rfl⟩, _, rfl⟩

end Rigor.Risk
