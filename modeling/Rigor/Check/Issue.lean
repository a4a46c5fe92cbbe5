import Rigor.Json.Basic

/-!
# Issues

What is wrong with a value that does not fit its model. An issue has a kind, a place, and the value
found there; the place is the way from the value that was checked down to the part at fault. A step
of the way is a key, an index, or the branch of a choice between models that was tried.
-/

namespace Rigor.Check

/-- The ways in which a value can fail to fit. -/
inductive IssueKind where
  /-- A member that has no default is absent. -/
  | missing
  /-- A model is read from a value that is no object. -/
  | notObject
  /-- The same, in the body of a request and for schemas. -/
  | notAttributes
  | notText
  | notMapping
  | notList
  | notTuple
  /-- A tuple has too few valid items. -/
  | tooShort
  | notInteger
  /-- A text does not spell an integer. -/
  | integerText
  /-- A number is too large for an integer of 64 bits. -/
  | integerSize
  /-- A number has a fractional part. -/
  | fractional
  /-- A number is infinite or undefined. -/
  | notFinite
  | notBoolean
  /-- A text or a number does not stand for a truth value. -/
  | booleanText
  /-- A value is none of those listed. -/
  | notListed
  /-- A value breaks a rule of its model's own. -/
  | unsound
  /-- An object does not say which of several models it belongs to. -/
  | kindMissing
  /-- An object names a model that is none of those possible. -/
  | kindUnknown
  /-- A text is not JSON. -/
  | notJson
  deriving DecidableEq, Repr

/-- The code by which an issue is reported. -/
def IssueKind.code : IssueKind → String
  | .missing => "missing"
  | .notObject => "model_type"
  | .notAttributes => "model_attributes_type"
  | .notText => "string_type"
  | .notMapping => "dict_type"
  | .notList => "list_type"
  | .notTuple => "tuple_type"
  | .tooShort => "too_short"
  | .notInteger => "int_type"
  | .integerText => "int_parsing"
  | .integerSize => "int_parsing_size"
  | .fractional => "int_from_float"
  | .notFinite => "finite_number"
  | .notBoolean => "bool_type"
  | .booleanText => "bool_parsing"
  | .notListed => "enum"
  | .unsound => "value_error"
  | .kindMissing => "union_tag_not_found"
  | .kindUnknown => "union_tag_invalid"
  | .notJson => "json_invalid"

/-- One step towards a part of a value. -/
inductive Step where
  /-- To the member of an object. -/
  | key (name : String)
  /-- To the item of an array. -/
  | index (position : Nat)
  /-- Into a branch of a choice between models, which stays at the same value. -/
  | branch (name : String)
  deriving DecidableEq, Repr

/-- A step as it is reported. -/
def Step.toJson : Step → Json
  | .key name => .str name
  | .index position => .int position
  | .branch name => .str name

/-- One thing that is wrong with a value. -/
structure Issue where
  /-- What is wrong. -/
  kind : IssueKind
  /-- The value at fault. For an absent member it is the object that lacks it. -/
  value : Json
  /-- The way to the part at fault. -/
  place : List Step

namespace Issue

/-- The issue seen from one step further out. -/
def under (step : Step) (issue : Issue) : Issue :=
  { issue with place := step :: issue.place }

/-- An issue as it is reported, without the value at fault. -/
def toJson (issue : Issue) : Json :=
  .obj [("type", .str issue.kind.code), ("loc", .arr (issue.place.map Step.toJson))]

end Issue

end Rigor.Check
