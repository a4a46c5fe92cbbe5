import Rigor.Check.Issue
import Rigor.Json.Display

/-!
# Faults

The ways in which an operation can end without an answer, and their wording.
-/

namespace Rigor

/-- The two sets of listed values that a value can be looked up in. -/
inductive Listing where
  | level
  | category
  deriving DecidableEq, Repr

/-- The word by which messages name a listing. -/
def Listing.title : Listing → String
  | .level => "VerificationLevel"
  | .category => "RiskCategory"

/-- Why a file that is there cannot be read, other than for its syntax. -/
structure ReadFailure where
  /-- The name of the kind of failure. -/
  kind : String
  /-- The wording of the failure. -/
  reason : String
  deriving DecidableEq, Repr

/-- Why an operation has no answer. -/
inductive Fault where
  /-- A value does not fit its model. -/
  | invalid (found : List Check.Issue)
  /-- A value is none of those listed. -/
  | notListed (value : Json) (listing : Listing)
  /-- A report template is malformed, or asks for a part of an absent value. -/
  | template
  /-- The loops of a report template are nested too deep; the line is that of its plan. -/
  | tooDeep (line : Nat)
  /-- Two values have no order; the first was tested for being greater. -/
  | incomparable (left right : Json)
  /-- A value has no order with the levels. -/
  | noRank (value : Json)
  /-- A value of the named type cannot be run through. -/
  | notIterable (typeName : String)
  /-- A thing without items is asked for the item at a position. -/
  | noItem (position : Nat)
  /-- A value of the named type, which is no object, is asked for a member. -/
  | noMembers (typeName : String)
  /-- A category that has no pattern is asked for its risk. -/
  | noPattern
  /-- A file cannot be read. -/
  | unreadable (failure : ReadFailure)
  /-- A number that JSON lacks was to be written in an answer. -/
  | notFinite

/-- The wording of a fault. The issues of an invalid value are reported one by one instead. -/
def Fault.message : Fault → String
  | .invalid _ => ""
  | .notListed value listing => value.display ++ " is not a valid " ++ listing.title
  | .template => "Coverage report template error"
  | .tooDeep line =>
    "too many statically nested blocks (<template>, line " ++ Text.decimal line ++ ")"
  | .incomparable left right =>
    "'>' not supported between instances of '" ++ left.typeName ++ "' and '"
      ++ right.typeName ++ "'"
  | .noRank value =>
    "'>=' not supported between instances of '" ++ value.typeName ++ "' and '"
      ++ Listing.level.title ++ "'"
  | .notIterable typeName => "'" ++ typeName ++ "' object is not iterable"
  | .noItem position => Text.decimal position
  | .noMembers typeName => "'" ++ typeName ++ "' object has no attribute 'get'"
  | .noPattern => "'NoneType' object has no attribute 'risk'"
  | .unreadable failure => failure.reason
  | .notFinite => "Out of range float values are not JSON compliant"

end Rigor
