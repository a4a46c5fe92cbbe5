import Rigor.Text.CaseTable

/-!
# Letter case

`upper` and `lower` are the full case mappings. A capital letter form depends on its character
alone. So does a small one, except that a capital sigma becomes the final form `ς` when it ends a
word: the nearest character before it that is not ignorable is cased, and the nearest such character
after it is absent or not cased. `lowerFrom` carries the first of these facts along and looks ahead
for the second.
-/

namespace Rigor.Text

/-- The capital form of one character. -/
def upperChar (c : Char) : List Char :=
  match upperSpecials.find? (·.1 == c.toNat) with
  | some (_, image) => image.map Char.ofNat
  | none => [Char.ofNat (CodeRun.applyFirst upperRuns c.toNat)]

/-- The full mapping to capital letters. -/
def upper (cs : List Char) : List Char :=
  cs.flatMap upperChar

/-- A text in capital letters. -/
def toUpper (s : String) : String :=
  String.ofList (upper s.toList)

/-- The small form of one character that does not depend on its neighbours. -/
def lowerChar (c : Char) : List Char :=
  if c = '\u0130' then ['i', '\u0307']
  else [Char.ofNat (CodeRun.applyFirst lowerRuns c.toNat)]

/-- A character that the search for a cased neighbour passes over. -/
def isCaseIgnorable (c : Char) : Bool :=
  caseIgnorable.has c

/-- A cased character at which the search for a cased neighbour ends. -/
def isCased (c : Char) : Bool :=
  cased.has c

/-- Whether the nearest character that is not ignorable is cased, after `c` follows a text for which
the answer is `before`. -/
def casedAfter (before : Bool) (c : Char) : Bool :=
  if isCaseIgnorable c then before else isCased c

/-- The first character that is not ignorable is there and cased. -/
def casedAhead : List Char → Bool
  | [] => false
  | c :: rest => if isCaseIgnorable c then casedAhead rest else isCased c

/-- The small form of `c` between a text whose last character that is not ignorable is cased if
`before` says so, and the text `rest`. -/
def lowerAt (before : Bool) (c : Char) (rest : List Char) : List Char :=
  if c = 'Σ' then [if before && !casedAhead rest then 'ς' else 'σ'] else lowerChar c

/-- The mapping to small letters of a text in the middle of another. -/
def lowerFrom (before : Bool) : List Char → List Char
  | [] => []
  | c :: rest => lowerAt before c rest ++ lowerFrom (casedAfter before c) rest

/-- The full mapping to small letters. -/
def lower (cs : List Char) : List Char :=
  lowerFrom false cs

/-- A text in small letters. -/
def toLower (s : String) : String :=
  String.ofList (lower s.toList)

end Rigor.Text
