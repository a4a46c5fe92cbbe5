import Rigor.Text.Blank
import Rigor.Text.Digit
import Rigor.Text.Pattern

/-!
# Formats of text samples

A text sample has the first format of a table whose pattern it fits; `Format.table` lists the four
formats in their order of precedence. A text that fits none of the patterns is plain.
-/

namespace Rigor.Schema

open Text (Pattern)

/-- What a text sample is written as. -/
inductive Format where
  | email
  | uuid
  | url
  | datetime
  | plain
  deriving DecidableEq, Repr, Inhabited

namespace Format

/-- The name of a format. -/
def name : Format → String
  | .email => "email"
  | .uuid => "uuid"
  | .url => "url"
  | .datetime => "datetime"
  | .plain => "plain"

/-- Every format. -/
def all : List Format := [.email, .uuid, .url, .datetime, .plain]

/-- The format of a name. -/
def ofName? (s : String) : Option Format :=
  all.find? (·.name == s)

/-! ### Classes of characters -/

/-- An ASCII letter. -/
def isLetter (c : Char) : Bool :=
  ('a' ≤ c && c ≤ 'z') || ('A' ≤ c && c ≤ 'Z')

/-- A hexadecimal digit, of either case. -/
def isHexDigit (c : Char) : Bool :=
  Text.isAsciiDigit c || ('a' ≤ c && c ≤ 'f') || ('A' ≤ c && c ≤ 'F')

/-- A character that the name of a scheme may have after its first letter. -/
def isSchemeChar (c : Char) : Bool :=
  isLetter c || Text.isAsciiDigit c || c == '+' || c == '.' || c == '-'

/-- A character that a mail address may have around its at sign and its dot. -/
def isAddressChar (c : Char) : Bool :=
  !Text.isBlank c && c != '@'

/-! ### The patterns -/

/-- Hexadecimal digits in groups of 8, 4, 4, 4 and 12. -/
def uuidPattern : Pattern :=
  let hex (n : Nat) := Pattern.times n (.one isHexDigit)
  .all [hex 8, .char '-', hex 4, .char '-', hex 4, .char '-', hex 4, .char '-', hex 12]

/-- A name, an at sign, and a domain with a dot inside. -/
def emailPattern : Pattern :=
  let word := Pattern.plus (.one isAddressChar)
  .all [word, .char '@', word, .char '.', word]

/-- A scheme, a colon, two slashes, and at least one character, none of them blank. -/
def urlPattern : Pattern :=
  .all [.one isLetter, .many (.one isSchemeChar), .literal "://", .plus (.one (!Text.isBlank ·))]

/-- A date, the letter `T`, a time with or without a fraction of a second, and an offset. -/
def datetimePattern : Pattern :=
  let digit := Pattern.one Text.isDecimalDigit
  let two := Pattern.times 2 digit
  .all [.times 4 digit, .char '-', two, .char '-', two,
    .char 'T', two, .char ':', two, .char ':', two,
    .maybe (.all [.char '.', .plus digit]),
    .alt (.char 'Z') (.all [.one (fun c => c == '+' || c == '-'), two, .maybe (.char ':'), two])]

/-- The patterns in their order of precedence. -/
def table : List (Format × Pattern) :=
  [(.uuid, uuidPattern), (.email, emailPattern), (.url, urlPattern), (.datetime, datetimePattern)]

/-- The first format of a table whose pattern the text fits. -/
def detectIn (table : List (Format × Pattern)) (cs : List Char) : Format :=
  match table.find? (·.2.fits cs) with
  | some (format, _) => format
  | none => .plain

/-- The format of a text. -/
def detect (s : String) : Format :=
  detectIn table s.toList

end Format

end Rigor.Schema
