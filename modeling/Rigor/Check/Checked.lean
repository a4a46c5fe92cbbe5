import Rigor.Check.Issue

/-!
# Checked values

The outcome of checking a value against a model: a value of the model, or all the issues found.
`Checked` combines outcomes side by side, so that the issues of every part are kept, in order; it is
an `Applicative` and deliberately no monad. `andThen` is for the few rules that look at a value only
once it is known to be valid.
-/

namespace Rigor

open Check

/-- A value that fits its model, or what is wrong with it. -/
inductive Checked (α : Type) where
  | ok (value : α)
  | issues (found : List Issue)

namespace Checked

variable {α β : Type}

/-- A single issue with the value itself. -/
def fail (kind : IssueKind) (value : Json) : Checked α :=
  .issues [⟨kind, value, []⟩]

/-- The outcome of a rule that finds at most one thing wrong with a value. -/
def ofVerdict (value : Json) : Except IssueKind α → Checked α
  | .ok a => .ok a
  | .error kind => fail kind value

/-- The outcome with its value changed. -/
def map (f : α → β) : Checked α → Checked β
  | .ok value => .ok (f value)
  | .issues found => .issues found

/-- Both outcomes side by side. -/
def ap : Checked (α → β) → Checked α → Checked β
  | .ok f, .ok value => .ok (f value)
  | .ok _, .issues found => .issues found
  | .issues found, .ok _ => .issues found
  | .issues found, .issues more => .issues (found ++ more)

instance : Applicative Checked where
  pure := .ok
  map := map
  seq f x := ap f (x ())

/-- A further check of a valid value. -/
def andThen (x : Checked α) (f : α → Checked β) : Checked β :=
  match x with
  | .ok value => f value
  | .issues found => .issues found

/-- The outcome seen from one step further out. -/
def under (step : Step) : Checked α → Checked α
  | .ok value => .ok value
  | .issues found => .issues (found.map (Issue.under step))

/-- The value, if the outcome is one. -/
def toOption : Checked α → Option α
  | .ok value => some value
  | .issues _ => none

/-- The outcome is a value. -/
def isOk (x : Checked α) : Bool :=
  x.toOption.isSome

/-- The outcomes of the items of an array, the first of which has the given index. -/
def collectFrom : Nat → List (Checked α) → Checked (List α)
  | _, [] => .ok []
  | i, x :: rest => List.cons <$> x.under (.index i) <*> collectFrom (i + 1) rest

/-- The outcomes of all items of an array. -/
def collect (items : List (Checked α)) : Checked (List α) :=
  collectFrom 0 items

/-- The outcomes of all items of an array that needs at least `least` valid ones. -/
def collectAtLeast (least : Nat) (array : Json) (items : List (Checked α)) : Checked (List α) :=
  if items.countP isOk < least then
    match collect items with
    | .ok _ => fail .tooShort array
    | .issues found => .issues (found ++ [⟨.tooShort, array, []⟩])
  else
    collect items

@[simp] theorem map_eq (f : α → β) (x : Checked α) : f <$> x = x.map f := rfl

@[simp] theorem seq_eq (f : Checked (α → β)) (x : Checked α) : f <*> x = f.ap x := rfl

@[simp] theorem pure_eq (value : α) : (pure value : Checked α) = .ok value := rfl

/-- A rule and a value under check are put together just if both are accepted. -/
theorem ap_eq_ok {f : Checked (α → β)} {x : Checked α} {b : β} :
    f.ap x = .ok b ↔ ∃ g a, f = .ok g ∧ x = .ok a ∧ g a = b := by
  cases f <;> cases x <;> simp [ap]

end Checked

end Rigor
