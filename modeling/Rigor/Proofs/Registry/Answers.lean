import Rigor.Proofs.Registry.Snapshot

/-!
# Answers from given rows

What actions come to on a registry for which it is known to which rows it loads (`LoadsTo`), be they
read already or not. An action `Answers` if it succeeds on all these registries with the same answer
and leaves another one of them, so that such actions follow each other (`Answers.bind`).
-/

namespace Rigor.Registry

variable {κ ν α β : Type} {loader : Loader κ ν} {rows : Table κ ν} {r : Registry κ ν}

/-- Loading the registry succeeds and gives the rows. -/
structure LoadsTo (loader : Loader κ ν) (r : Registry κ ν) (rows : Table κ ν) : Prop where
  /-- There is no fault. -/
  result_load : (load loader r).result = .ok ()
  /-- The rows are there afterwards. -/
  rows_load : (load loader r).state.rows = rows

/-- On every registry that loads to the rows the action gives the answer, and what it leaves loads
to the rows again. -/
def Answers (loader : Loader κ ν) (rows : Table κ ν) (act : Act (Registry κ ν) α) (a : α) : Prop :=
  ∀ r, LoadsTo loader r rows → (act r).result = .ok a ∧ LoadsTo loader (act r).state rows

/-- A registry just made for a readable file loads to the rows of this file. -/
theorem loadsTo_fresh {file : DefinitionFile} (h : Readable loader file) :
    LoadsTo loader (fresh file) (loader file []).rows := by
  obtain ⟨hresult, hstate⟩ := load_fresh_of_readable h
  exact ⟨hresult, by rw [hstate]⟩

/-- A registry that has served requests and that loading does not fail for loads to the rows of some
version of its file. -/
theorem exists_loadsTo_reached {ρ : Type} {serve : ρ → Act (Registry κ ν) Json}
    {demand : ρ → Demand} (hclean : Clean loader) (hmet : ∀ q, (demand q).Met loader (serve q))
    {file : DefinitionFile} {requests : List ρ}
    (h : (load loader (reached serve file requests)).result = .ok ()) :
    ∃ version, LoadsTo loader (reached serve file requests) (loader version []).rows := by
  rw [reached, after_fresh hclean hmet] at h ⊢
  cases hversion : (timeline loader demand file requests).read.version with
  | none =>
      obtain ⟨⟨fault, hfault⟩, -⟩ := Timeline.load_registry_of_none hclean hversion
      rw [hfault] at h
      cases h
  | some version =>
      obtain ⟨-, hstate⟩ := Timeline.load_registry_of_some hversion
      exact ⟨version, h, by rw [hstate]⟩

/-- A registry whose loader knows no fault loads. -/
theorem loadsTo_load (hfault : ∀ file rows, (loader file rows).fault = none) (r : Registry κ ν) :
    LoadsTo loader r (load loader r).state.rows := by
  refine ⟨?_, rfl⟩
  cases hr : r.loaded with
  | true => rw [load_of_loaded hr]
  | false => rw [load_of_no_fault hr (hfault r.file r.rows)]

/-- It also loads again. -/
theorem result_reload (hfault : ∀ file rows, (loader file rows).fault = none)
    (r : Registry κ ν) : (reload loader r).result = .ok () := by
  rw [(reload_eq_load_fresh loader r).1]
  exact (loadsTo_load hfault (fresh r.file)).result_load

/-- Once it is loaded, it still loads to the same rows. -/
theorem LoadsTo.load (h : LoadsTo loader r rows) : LoadsTo loader (load loader r).state rows := by
  constructor
  · rw [load_load h.result_load]
  · rw [load_load h.result_load, h.rows_load]

namespace Answers

/-- A value is returned whatever the rows are. -/
theorem pure (a : α) : Answers loader rows (Pure.pure a) a :=
  fun _ h => ⟨rfl, h⟩

/-- Writing a log entry has the same answer from all rows. -/
theorem log (severity : Severity) (message : String) :
    Answers loader rows (Act.log severity message) () :=
  fun _ h => ⟨rfl, h⟩

/-- A verdict that accepts a value answers with it. -/
theorem ofExcept {answer : Except Fault α} {a : α} (h : answer = .ok a) :
    Answers loader rows (Act.ofExcept answer) a := by
  subst h
  exact Answers.pure a

/-- Loading succeeds from the rows that the registry loads to. -/
theorem load : Answers loader rows (Registry.load loader) () :=
  fun _ h => ⟨h.result_load, h.load⟩

/-- A question to the rows is answered from those that the registry loads to. -/
theorem consult (ask : Table κ ν → α) :
    Answers loader rows (Registry.consult loader ask) (ask rows) := by
  intro r h
  rw [Registry.consult, Act.bind_of_ok h.result_load]
  exact ⟨congrArg (fun rows => Except.ok (ask rows)) h.rows_load, h.load⟩

/-- Two actions in a row answer what the second does after the answer of the first. -/
theorem bind {act : Act (Registry κ ν) α} {next : α → Act (Registry κ ν) β} {a : α} {b : β}
    (h : Answers loader rows act a) (hnext : Answers loader rows (next a) b) :
    Answers loader rows (act >>= next) b := by
  intro r hr
  obtain ⟨hresult, hstate⟩ := h r hr
  rw [Act.bind_of_ok hresult]
  exact hnext _ hstate

end Answers

end Rigor.Registry
