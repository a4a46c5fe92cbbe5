import Rigor.Check.Checked

/-!
# Rules for collections and records

A record is read member by member in the order of its declaration; members it does not declare are
left out of account. A member that is there is checked whatever it is: null is a value and not an
absence.
-/

namespace Rigor.Check

variable {α : Type}

/-- Where a model is read, which decides how a value that is no object is reported. -/
inductive Setting where
  /-- In a document. -/
  | document
  /-- In the body of a request. -/
  | request
  deriving DecidableEq, Repr

/-- The kind of the issue that a value is no object. -/
def Setting.issue : Setting → IssueKind
  | .document => .notObject
  | .request => .notAttributes

/-- An object, read from its members. -/
def record (setting : Setting) (read : List (String × Json) → Checked α) : Json → Checked α
  | .obj members => read members
  | value => .fail setting.issue value

/-- The outcome for the member of a name, given the outcome for its value if it is there. -/
def orMissing (name : String) (members : List (String × Json)) : Option (Checked α) → Checked α
  | some outcome => outcome.under (.key name)
  | none => .issues [⟨.missing, .obj members, [.key name]⟩]

/-- The member of a name, checked by a rule. -/
def required (name : String) (rule : Json → Checked α) (members : List (String × Json)) :
    Checked α :=
  orMissing name members ((Table.get? members name).map rule)

/-- The member of a name, checked by a rule, or a default if it is absent. -/
def optional (name : String) (rule : Json → Checked α) (default : α)
    (members : List (String × Json)) : Checked α :=
  match Table.get? members name with
  | some value => (rule value).under (.key name)
  | none => .ok default

/-- An object with members of any kind. -/
def mapping : Json → Checked (List (String × Json))
  | .obj members => .ok members
  | value => .fail .notMapping value

/-- An array whose items fit a rule. -/
def list (rule : Json → Checked α) : Json → Checked (List α)
  | .arr items => .collect (items.map rule)
  | value => .fail .notList value

/-- An array of at least `least` items that fit a rule. -/
def tuple (least : Nat) (rule : Json → Checked α) : Json → Checked (List α)
  | .arr items => .collectAtLeast least (.arr items) (items.map rule)
  | value => .fail .notTuple value

/-- Values checked one after the other, each for itself; the first that fails ends it. -/
def inTurn (rule : Json → Checked α) : List Json → Checked (List α)
  | [] => .ok []
  | value :: rest =>
    match rule value, inTurn rule rest with
    | .ok a, .ok as => .ok (a :: as)
    | .ok _, .issues found => .issues found
    | .issues found, _ => .issues found

end Rigor.Check
