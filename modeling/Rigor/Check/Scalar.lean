import Rigor.Check.Checked
import Rigor.Check.IntegerText

/-!
# Rules for scalars

The rules are lax where nothing is lost: an integer may come as a truth value, as a number without
fraction or as a text that spells it, and a truth value as zero, one or one of a few words.
-/

namespace Rigor.Check

/-- A text. -/
def text : Json → Checked String
  | .str s => .ok s
  | value => .fail .notText value

/-! ### Integers -/

/-- The least integer of 64 bits. -/
def wordMin : Int := -9223372036854775808

/-- The greatest integer of 64 bits. -/
def wordMax : Int := 9223372036854775807

/-- An integer of 64 bits. -/
def isWord (n : Int) : Bool :=
  wordMin ≤ n && n ≤ wordMax

/-- The integer that a floating-point number is; it has to lie between the bounds of 64 bits, the
lower one excluded. -/
def integerOfFloat : Binary64 → Except IssueKind Int
  | .undefined => .error .notFinite
  | .infinite _ => .error .notFinite
  | x =>
    match x.toInt? with
    | some n => if isWord n && n != wordMin then .ok n else .error .integerSize
    | none => .error .fractional

/-- The integer that a text spells. -/
def integerOfText (s : String) : Except IssueKind Int :=
  if IntegerText.isOverlong s.toList then .error .integerSize
  else
    match IntegerText.read? s.toList with
    | some n => .ok n
    | none => .error .integerText

/-- An integer of any size. -/
def integer : Json → Checked Int
  | .int n => .ok n
  | .bool b => .ok (if b then 1 else 0)
  | .float x => .ofVerdict (.float x) (integerOfFloat x)
  | .str s => .ofVerdict (.str s) (integerOfText s)
  | value => .fail .notInteger value

/-! ### Truth values -/

/-- The words for true. -/
def trueWords : List String := ["1", "on", "t", "true", "y", "yes"]

/-- The words for false. -/
def falseWords : List String := ["0", "off", "f", "false", "n", "no"]

/-- The truth value that a text spells, in ASCII letters of either case. -/
def booleanOfText (s : String) : Except IssueKind Bool :=
  let word := String.ofList (s.toList.map Char.toLower)
  if trueWords.contains word then .ok true
  else if falseWords.contains word then .ok false
  else .error .booleanText

/-- Zero or one, among the integers of 64 bits. -/
def booleanOfInteger (n : Int) : Except IssueKind Bool :=
  if n = 0 then .ok false
  else if n = 1 then .ok true
  else if isWord n then .error .booleanText
  else .error .notBoolean

/-- Zero or one, among the numbers without fraction. -/
def booleanOfFloat (x : Binary64) : Except IssueKind Bool :=
  match integerOfFloat x with
  | .ok n => booleanOfInteger n
  | .error _ => .error .notBoolean

/-- A truth value. -/
def boolean : Json → Checked Bool
  | .bool b => .ok b
  | .int n => .ofVerdict (.int n) (booleanOfInteger n)
  | .float x => .ofVerdict (.float x) (booleanOfFloat x)
  | .str s => .ofVerdict (.str s) (booleanOfText s)
  | value => .fail .notBoolean value

/-! ### Listed values -/

/-- One of the values that have a name. -/
def named {α : Type} (ofName? : String → Option α) : Json → Checked α
  | .str s =>
    match ofName? s with
    | some a => .ok a
    | none => .fail .notListed (.str s)
  | value => .fail .notListed value

end Rigor.Check
