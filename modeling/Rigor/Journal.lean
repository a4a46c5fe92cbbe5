import Rigor.Fault

/-!
# Journaled actions

An `Act σ α` runs on a state of type `σ`, writes log entries, and ends with an answer of type `α` or
with a fault. A fault stops what follows it, but the state reached and the entries written until
then stand.
-/

namespace Rigor

/-- How much a log entry matters. -/
inductive Severity where
  | debug
  | info
  | warning
  | error
  deriving DecidableEq, Repr

/-- The name of a severity. -/
def Severity.name : Severity → String
  | .debug => "DEBUG"
  | .info => "INFO"
  | .warning => "WARNING"
  | .error => "ERROR"

/-- A record of the log. -/
structure LogEntry where
  /-- How much the record matters. -/
  severity : Severity
  /-- What it says. -/
  message : String
  deriving DecidableEq, Repr

/-- How an action ends. -/
structure Outcome (σ α : Type) where
  /-- The answer, or what prevented it. -/
  result : Except Fault α
  /-- The state afterwards. -/
  state : σ
  /-- The entries written, in order. -/
  logs : List LogEntry

/-- A journaled action. -/
def Act (σ α : Type) := σ → Outcome σ α

namespace Act

variable {σ τ α β : Type}

/-- The outcome of an action on a state. -/
def run (act : Act σ α) (s : σ) : Outcome σ α :=
  act s

/-- Answer `a` and do nothing. -/
def answer (a : α) : Act σ α :=
  fun s => ⟨.ok a, s, []⟩

/-- An action followed by another that knows its answer. -/
def andThen (act : Act σ α) (next : α → Act σ β) : Act σ β :=
  fun s =>
    let first := act s
    match first.result with
    | .error fault => ⟨.error fault, first.state, first.logs⟩
    | .ok a =>
      let second := next a first.state
      ⟨second.result, second.state, first.logs ++ second.logs⟩

instance : Monad (Act σ) where
  pure := answer
  bind := andThen

/-- Returning a value changes no state and logs nothing. -/
theorem pure_apply (a : α) (s : σ) : (pure a : Act σ α) s = ⟨.ok a, s, []⟩ := rfl

/-- After an answer the next action runs on the state reached, and the log goes on. -/
theorem bind_of_ok {act : Act σ α} {next : α → Act σ β} {s : σ} {a : α}
    (h : (act s).result = .ok a) :
    (act >>= next) s
      = ⟨(next a (act s).state).result, (next a (act s).state).state,
          (act s).logs ++ (next a (act s).state).logs⟩ := by
  show andThen act next s = _
  simp only [andThen, h]

/-- After a fault nothing else runs. -/
theorem bind_of_error {act : Act σ α} {next : α → Act σ β} {s : σ} {fault : Fault}
    (h : (act s).result = .error fault) :
    (act >>= next) s = ⟨.error fault, (act s).state, (act s).logs⟩ := by
  show andThen act next s = _
  simp only [andThen, h]

/-- Two actions answer, one after the other, if both of them do. -/
theorem bind_eq_ok {act : Act σ α} {next : α → Act σ β} {s : σ} {b : β} :
    ((act >>= next) s).result = .ok b ↔
      ∃ a, (act s).result = .ok a ∧ (next a (act s).state).result = .ok b := by
  cases h : (act s).result with
  | error fault => simp [bind_of_error h]
  | ok a => simp [bind_of_ok h]

/-- End with a fault. -/
def fail (fault : Fault) : Act σ α :=
  fun s => ⟨.error fault, s, []⟩

/-- Answer what an `Except` holds. -/
def ofExcept : Except Fault α → Act σ α
  | .ok a => answer a
  | .error fault => fail fault

/-- Write one entry. -/
def log (severity : Severity) (message : String) : Act σ Unit :=
  fun s => ⟨.ok (), s, [⟨severity, message⟩]⟩

/-- Answer the state. -/
def state : Act σ σ :=
  fun s => ⟨.ok s, s, []⟩

/-- An action on a part of the state. -/
def within (get : σ → τ) (set : σ → τ → σ) (act : Act τ α) : Act σ α :=
  fun s =>
    let inner := act (get s)
    ⟨inner.result, set s inner.state, inner.logs⟩

end Act

end Rigor
