import Mathlib.Tactic.Choose
import Rigor.Registry

/-!
# Queries

What an action can do to a registry without changing what the registry stands for.

* `Reads`: the action loads the registry and then answers from its rows alone.
* `Ignores`: the answer is the same for every registry, which is left as it is.

Both kinds of action are closed under sequencing (`Reads.bind`, `Ignores.bind`). What makes this
work is `load_load`: once a registry is loaded, loading it does nothing, so that the second of two
actions in a row sees the rows that the first one has read.
-/

namespace Rigor.Registry

variable {κ ν α β : Type} {loader : Loader κ ν}

/-- The answer is the same for every registry, which is left as it is. -/
def Ignores (act : Act (Registry κ ν) α) : Prop :=
  ∃ answer : Except Fault α, ∀ r, (act r).result = answer ∧ (act r).state = r

/-- The action loads the registry, which may fail, and then answers from its rows alone. -/
def Reads (loader : Loader κ ν) (act : Act (Registry κ ν) α) : Prop :=
  ∃ ask : Table κ ν → Except Fault α, ∀ r,
    (act r).result = ((load loader r).result >>= fun _ => ask (load loader r).state.rows) ∧
      (act r).state = (load loader r).state

/-! ### Loading -/

/-- Loading that succeeds leaves the registry loaded. -/
theorem loaded_of_load {r : Registry κ ν} (h : (load loader r).result = .ok ()) :
    (load loader r).state.loaded = true := by
  cases hr : r.loaded with
  | true =>
      rw [load_of_loaded hr]
      exact hr
  | false =>
      cases hf : (loader r.file r.rows).fault with
      | none => rw [load_of_no_fault hr hf]
      | some fault =>
          rw [load_of_fault hr hf] at h
          cases h

/-- A registry that has been loaded is not changed by loading it. -/
theorem load_load {r : Registry κ ν} (h : (load loader r).result = .ok ()) :
    load loader (load loader r).state = ⟨.ok (), (load loader r).state, []⟩ :=
  load_of_loaded (loaded_of_load h)

/-! ### Actions that do not read -/

/-- Returning a value needs no rows. -/
theorem Ignores.pure (a : α) : Ignores (Pure.pure a : Act (Registry κ ν) α) :=
  ⟨.ok a, fun _ => ⟨rfl, rfl⟩⟩

/-- Writing a log entry needs no rows. -/
theorem Ignores.log (severity : Severity) (message : String) :
    Ignores (Act.log severity message : Act (Registry κ ν) Unit) :=
  ⟨.ok (), fun _ => ⟨rfl, rfl⟩⟩

/-- Passing a verdict on needs no rows. -/
theorem Ignores.ofExcept (answer : Except Fault α) :
    Ignores (Act.ofExcept answer : Act (Registry κ ν) α) := by
  refine ⟨answer, fun r => ?_⟩
  cases answer <;> exact ⟨rfl, rfl⟩

/-- Two actions in a row need no rows if neither of them does. -/
theorem Ignores.bind {act : Act (Registry κ ν) α} {next : α → Act (Registry κ ν) β}
    (h : Ignores act) (hnext : ∀ a, Ignores (next a)) : Ignores (act >>= next) := by
  obtain ⟨answer, hanswer⟩ := h
  choose answerNext hanswerNext using hnext
  refine ⟨answer >>= answerNext, fun r => ?_⟩
  obtain ⟨hresult, hstate⟩ := hanswer r
  cases answer with
  | error fault =>
      rw [Act.bind_of_error hresult]
      exact ⟨rfl, hstate⟩
  | ok a =>
      rw [Act.bind_of_ok hresult, hstate]
      exact hanswerNext a r

/-! ### Actions that read -/

/-- Loading reads, and asks nothing of the rows. -/
theorem reads_load : Reads loader (load loader) := by
  refine ⟨fun _ => .ok (), fun r => ⟨?_, rfl⟩⟩
  cases (load loader r).result <;> rfl

/-- A question to the rows reads them first. -/
theorem reads_consult (ask : Table κ ν → α) : Reads loader (consult loader ask) := by
  refine ⟨fun rows => .ok (ask rows), fun r => ?_⟩
  cases h : (load loader r).result with
  | error fault =>
      rw [consult, Act.bind_of_error h]
      exact ⟨rfl, rfl⟩
  | ok _ =>
      rw [consult, Act.bind_of_ok h]
      exact ⟨rfl, rfl⟩

/-- Either kind of action answers from the rows of a loaded registry, and leaves it as it is. -/
theorem exists_ask {act : Act (Registry κ ν) α} (h : Reads loader act ∨ Ignores act) :
    ∃ ask : Table κ ν → Except Fault α, ∀ r : Registry κ ν, load loader r = ⟨.ok (), r, []⟩ →
      (act r).result = ask r.rows ∧ (act r).state = r := by
  rcases h with ⟨ask, hread⟩ | ⟨answer, hignore⟩
  · refine ⟨ask, fun r hr => ?_⟩
    obtain ⟨hresult, hstate⟩ := hread r
    rw [hr] at hresult hstate
    exact ⟨hresult, hstate⟩
  · exact ⟨fun _ => answer, fun r _ => hignore r⟩

/-- What follows an action that reads finds the rows that have been read. -/
theorem Reads.bind {act : Act (Registry κ ν) α} {next : α → Act (Registry κ ν) β}
    (h : Reads loader act) (hnext : ∀ a, Reads loader (next a) ∨ Ignores (next a)) :
    Reads loader (act >>= next) := by
  obtain ⟨ask, hask⟩ := h
  choose askNext hnextLoaded using fun a => exists_ask (hnext a)
  refine ⟨fun rows => ask rows >>= fun a => askNext a rows, fun r => ?_⟩
  obtain ⟨hresult, hstate⟩ := hask r
  cases hload : (load loader r).result with
  | error fault =>
      rw [hload] at hresult
      rw [Act.bind_of_error hresult]
      exact ⟨rfl, hstate⟩
  | ok _ =>
      rw [hload] at hresult
      cases hanswer : ask (load loader r).state.rows with
      | error fault =>
          have hact : (act r).result = .error fault := hresult.trans hanswer
          rw [Act.bind_of_error hact]
          exact ⟨by simp only [hanswer]; rfl, hstate⟩
      | ok a =>
          have hact : (act r).result = .ok a := hresult.trans hanswer
          obtain ⟨hthen, hsame⟩ := hnextLoaded a _ (load_load hload)
          rw [Act.bind_of_ok hact, hstate]
          exact ⟨by simp only [hanswer]; exact hthen, hsame⟩

/-! ### Changed answers -/

/-- An action that needs no rows needs none for a changed answer. -/
theorem Ignores.answer {act : Act (Registry κ ν) α} (h : Ignores act) (f : α → β) :
    Ignores (act >>= fun a => Pure.pure (f a)) :=
  h.bind fun a => Ignores.pure (f a)

/-- An action that reads still reads if its answer is changed. -/
theorem Reads.answer {act : Act (Registry κ ν) α} (h : Reads loader act) (f : α → β) :
    Reads loader (act >>= fun a => pure (f a)) :=
  h.bind fun a => Or.inr (Ignores.pure (f a))

end Rigor.Registry
