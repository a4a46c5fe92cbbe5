import Rigor.Json.Basic

/-!
# Comparing JSON values

Numbers and truth values, these as zero and one, compare by their exact place on the number line;
texts compare by code points, and arrays by their first difference. Every other pair of values is
incomparable, which is reported with the two values that met.

The undefined number is neither greater than, less than nor equal to any number. Only in the search
for a first difference it counts as the same as itself.
-/

namespace Rigor.Json

/-- The place of a number on the number line. -/
def position? : Json → Option Position
  | .bool value => some (.ofInt (if value then 1 else 0))
  | .int value => some (.ofInt value)
  | .float value => some (.ofBinary64 value)
  | _ => none

mutual

/-- Equality inside arrays: of numbers by place, of texts by characters, of arrays item by item, of
objects member by member in any order. -/
def same : Json → Json → Bool
  | .null, .null => true
  | .float .undefined, .float .undefined => true
  | .str a, .str b => a == b
  | .arr as, .arr bs => sameItems as bs
  | .obj as, .obj bs => as.length == bs.length && sameMembers as bs
  | a, b =>
    match a.position?, b.position? with
    | some p, some q => p.same q
    | _, _ => false

/-- Equality item by item. -/
def sameItems : List Json → List Json → Bool
  | [], [] => true
  | a :: as, b :: bs => same a b && sameItems as bs
  | _, _ => false

/-- Every member of the first list is in the second with an equal value. -/
def sameMembers : List (String × Json) → List (String × Json) → Bool
  | [], _ => true
  | (key, a) :: as, bs =>
    (match Table.get? bs key with
      | some b => same a b
      | none => false) && sameMembers as bs

end

mutual

/-- Whether the first value is greater; an incomparable pair is returned. -/
def greater : Json → Json → Except (Json × Json) Bool
  | .str a, .str b => .ok (b < a)
  | .arr as, .arr bs => greaterItems as bs
  | a, b =>
    match a.position?, b.position? with
    | some p, some q => .ok (q.lt p)
    | _, _ => .error (a, b)

/-- Whether the first list is greater: at the first difference, or by its length. -/
def greaterItems : List Json → List Json → Except (Json × Json) Bool
  | [], _ => .ok false
  | _ :: _, [] => .ok true
  | a :: as, b :: bs => if same a b then greaterItems as bs else greater a b

end

/-- The greatest of `best` and the values after it, the first of equals. -/
def maximumFrom (best : Json) : List Json → Except (Json × Json) Json
  | [] => .ok best
  | value :: rest => do
    if ← greater value best then maximumFrom value rest else maximumFrom best rest

end Rigor.Json
