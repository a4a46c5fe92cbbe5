import Rigor.Fault
import Rigor.Table

/-!
# Definition files

What a definition file holds at a moment, and the entries that one of its members lists. The data of
a file are JSON values in the main. Dates, bytes and sets can be written in it as well, and JSON has
nothing like them. They are told apart where it depends on them whether the data can be loaded: as
the data themselves, and as a member of these. The entries are JSON values.

* `DefinitionFile`: the file is missing, cannot be parsed, cannot be read for another reason, or
  holds data.
* `DefinitionFile.entries`, `Extended.entries`: what a member of the data lists, which has to be
  something to run through.
-/

namespace Rigor

/-- A value that can be written in a definition file and that JSON lacks. -/
inductive Special where
  /-- A date. -/
  | date
  /-- A date with a time. -/
  | dateTime
  /-- A sequence of bytes. -/
  | bytes (content : List UInt8)
  /-- A set of values, which are met in the order given here. -/
  | set (members : List Json)

namespace Special

/-- The word by which messages name the type of a value. -/
def typeName : Special → String
  | .date => "datetime.date"
  | .dateTime => "datetime.datetime"
  | .bytes _ => "bytes"
  | .set _ => "set"

/-- The value counts as absent. -/
def isBlank : Special → Bool
  | .date => false
  | .dateTime => false
  | .bytes content => content.isEmpty
  | .set members => members.isEmpty

/-- What is met in running through a value, if that can be done. -/
def elements? : Special → Option (List Json)
  | .date => none
  | .dateTime => none
  | .bytes content => some (content.map fun byte => .int byte.toNat)
  | .set members => some members

end Special

/-- A value in a definition file. -/
inductive Datum where
  | json (value : Json)
  | special (value : Special)

namespace Datum

/-- The word by which messages name the type of a value. -/
def typeName : Datum → String
  | .json value => value.typeName
  | .special value => value.typeName

/-- What is met in running through a value, if that can be done. -/
def elements? : Datum → Option (List Json)
  | .json value => value.elements?
  | .special value => value.elements?

end Datum

/-- Data that are no JSON value. -/
inductive Extended where
  /-- The data are nothing but this value. -/
  | special (value : Special)
  /-- The data are an object, and some of its members may be no JSON values. -/
  | object (members : List (String × Datum))

/-- The content of a definition file. -/
inductive DefinitionFile where
  /-- There is no file. -/
  | missing
  /-- The file cannot be parsed. -/
  | broken
  /-- Reading the file fails, but not because of its syntax: it cannot be opened, its bytes are no
  text, or it has a value that does not exist, such as the thirtieth of February. -/
  | unreadable (failure : ReadFailure)
  /-- The file holds these data. -/
  | data (content : Json)
  /-- The file holds these data, which are no JSON value. -/
  | extended (content : Extended)

/-- The entries that a member of the data lists. An absent member lists none. -/
def entriesOf : Option Datum → Except Fault (List Json)
  | none => .ok []
  | some value =>
    match value.elements? with
    | some entries => .ok entries
    | none => .error (.notIterable value.typeName)

/-- The entries that the member `name` of the data lists: blank data have none. -/
def Extended.entries (name : String) : Extended → Except Fault (List Json)
  | .special value => if value.isBlank then .ok [] else .error (.noMembers value.typeName)
  | .object members => entriesOf (Table.get? members name)

namespace DefinitionFile

/-- The data of a file: blank content counts as an empty object. -/
def normalize (content : Json) : Json :=
  if content.isBlank then .obj [] else content

/-- The entries that the member `name` of the data lists. -/
def entries (name : String) (content : Json) : Except Fault (List Json) :=
  match normalize content with
  | .obj members => entriesOf ((Table.get? members name).map .json)
  | value => .error (.noMembers value.typeName)

end DefinitionFile

end Rigor
