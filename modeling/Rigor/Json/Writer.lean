import Rigor.Json.Basic
import Rigor.Number.Shortest
import Rigor.Text.Join
import Rigor.Text.Quoted

/-!
# Writing JSON

`Json.compress` writes a value on one line without blanks. Characters beyond ASCII are written as
themselves; the numbers that JSON lacks have the names that the reader takes.
-/

namespace Rigor.Json

/-- One character inside a text. -/
def writeChar (c : Char) : List Char :=
  if c = '"' ∨ c = '\\' then ['\\', c]
  else if c = '\n' then ['\\', 'n']
  else if c = '\r' then ['\\', 'r']
  else if c = '\t' then ['\\', 't']
  else if c.toNat < 0x20 then '\\' :: 'u' :: Text.hexDigits 4 c.toNat
  else [c]

/-- A text in double quotes. -/
def writeText (s : String) : String :=
  String.ofList ('"' :: s.toList.flatMap writeChar ++ ['"'])

/-- A floating-point number. -/
def writeFloat : Binary64 → String
  | .undefined => "NaN"
  | .infinite negative => if negative then "-Infinity" else "Infinity"
  | x => x.text

mutual

/-- The value on one line. -/
def compress : Json → String
  | .null => "null"
  | .bool value => if value then "true" else "false"
  | .int value => Text.decimal value
  | .float value => writeFloat value
  | .str text => writeText text
  | .arr items => "[" ++ Text.joinWith "," (compressItems items) ++ "]"
  | .obj members => "\x7b" ++ Text.joinWith "," (compressMembers members) ++ "\x7d"

/-- Each item on one line. -/
def compressItems : List Json → List String
  | [] => []
  | item :: rest => compress item :: compressItems rest

/-- Each member on one line. -/
def compressMembers : List (String × Json) → List String
  | [] => []
  | (key, value) :: rest => (writeText key ++ ":" ++ compress value) :: compressMembers rest

end

end Rigor.Json
