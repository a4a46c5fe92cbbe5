import Rigor.Report.Template.Basic
import Rigor.Text.Blank
import Rigor.Text.Digit
import Rigor.Text.Identifier

/-!
# Reading templates

* `Template.segments` cuts a text at its marks. A line break right after a loop mark is dropped, and
  so are blanks between the start of a line and a loop mark.
* `Template.parse` builds the tree of the template, or fails for malformed text.
-/

namespace Rigor.Report.Template

/-! ### Cutting a text at its marks -/

/-- A piece of a template text. -/
inductive Segment where
  /-- Text between marks. -/
  | text (chars : List Char)
  /-- The inside of a printing mark. -/
  | print (chars : List Char)
  /-- The inside of a loop mark. -/
  | tag (chars : List Char)

/-- The text with every line break a single line feed. -/
def unifyBreaks : List Char → List Char
  | [] => []
  | '\r' :: '\n' :: rest => '\n' :: unifyBreaks rest
  | '\r' :: rest => '\n' :: unifyBreaks rest
  | c :: rest => c :: unifyBreaks rest

/-- The text without one line feed at its end. -/
def dropFinalBreak (cs : List Char) : List Char :=
  if cs.getLast? = some '\n' then cs.dropLast else cs

/-- The text without the blanks of its last line, if that line has nothing else and starts either in
the text or, where `atLineStart` says so, with it. -/
def dropIndent (atLineStart : Bool) (cs : List Char) : List Char :=
  let indent := (cs.reverse.takeWhile fun c => Text.isBlank c && c != '\n').reverse
  let before := cs.take (cs.length - indent.length)
  if before.getLast? = some '\n' ∨ (before.isEmpty ∧ atLineStart) then before else cs

/-- Where the cutting of a text stands. -/
inductive Place where
  /-- In literal text. -/
  | literal
  /-- In a printing mark. -/
  | printing
  /-- In a loop mark. -/
  | tagging
  deriving DecidableEq, Repr

/-- The pieces of a text. `held` is the piece read so far, backwards; `atLineStart` tells whether
that piece started at the start of a line. A mark that is not closed has no pieces. -/
def cut : Place → Bool → List Char → List Char → Option (List Segment)
  | .literal, _, held, [] => some [.text held.reverse]
  | .printing, _, _, [] => none
  | .tagging, _, _, [] => none
  | .literal, _, held, '\x7b' :: '\x7b' :: rest =>
    (cut .printing false [] rest).map (.text held.reverse :: ·)
  | .literal, atLineStart, held, '\x7b' :: '%' :: rest =>
    (cut .tagging false [] rest).map (.text (dropIndent atLineStart held.reverse) :: ·)
  | .printing, _, held, '\x7d' :: '\x7d' :: rest =>
    (cut .literal false [] rest).map (.print held.reverse :: ·)
  | .tagging, _, held, '%' :: '\x7d' :: '\n' :: rest =>
    (cut .literal true [] rest).map (.tag held.reverse :: ·)
  | .tagging, _, held, '%' :: '\x7d' :: rest =>
    (cut .literal false [] rest).map (.tag held.reverse :: ·)
  | place, atLineStart, held, c :: rest => cut place atLineStart (c :: held) rest

/-- The pieces of a template text. -/
def segments (cs : List Char) : Option (List Segment) :=
  cut .literal true [] (dropFinalBreak (unifyBreaks cs))

/-! ### Building the tree -/

/-- A word or a sign inside a mark. -/
inductive Token where
  | word (chars : List Char)
  | sign (c : Char)
  deriving DecidableEq, Repr

/-- A pending word followed by other tokens. -/
def close (held : List Char) (tokens : List Token) : List Token :=
  if held.isEmpty then tokens else .word held.reverse :: tokens

/-- The words and signs inside a mark, `held` being the word read so far, backwards. -/
def tokens (held : List Char) : List Char → List Token
  | [] => close held []
  | c :: rest =>
    if Text.isNamePart c then tokens (c :: held) rest
    else if Text.isBlank c then close held (tokens [] rest)
    else close held (.sign c :: tokens [] rest)

/-- The name that a word is. -/
def name? (chars : List Char) : Option String :=
  if Text.isName chars then some (String.ofList chars) else none

/-- The constant of a name. -/
def constantOfName? : String → Option Constant
  | "none" => some .none
  | "None" => some .none
  | "true" => some .yes
  | "True" => some .yes
  | "false" => some .no
  | "False" => some .no
  | _ => none

/-- What a word that starts a reference stands for. -/
def origin? (chars : List Char) : Option Origin :=
  match name? chars with
  | none => none
  | some "not" => none
  | some name => some ((constantOfName? name).elim (.name name) .constant)

/-- The number that digits to a base spell, an underscore before any of them being passed over;
`n` is the number of the digits before. There is at least one digit if `n` is none. -/
def digits? (digit? : Char → Option Nat) (base : Nat) (n : Option Nat) : List Char → Option Nat
  | [] => n
  | '_' :: c :: rest =>
    (digit? c).bind fun d => digits? digit? base (some (base * n.getD 0 + d)) rest
  | c :: rest => (digit? c).bind fun d => digits? digit? base (some (base * n.getD 0 + d)) rest

/-- The value of a digit of the given base, which is at most ten. -/
def smallDigit? (base : Nat) (c : Char) : Option Nat :=
  if Text.isAsciiDigit c ∧ Text.digitValue c < base then some (Text.digitValue c) else none

/-- The value of a hexadecimal digit. -/
def hexDigit? (c : Char) : Option Nat :=
  if 'a' ≤ c ∧ c ≤ 'f' then some (c.toNat - 'a'.toNat + 10)
  else if 'A' ≤ c ∧ c ≤ 'F' then some (c.toNat - 'A'.toNat + 10)
  else Text.decimalValue? c

/-- The position that a word spells. A decimal number starts with a zero only if it is zero; after a
zero and a letter come the digits of another base. -/
def position? : List Char → Option Nat
  | [] => none
  | '0' :: [] => some 0
  | '0' :: c :: rest =>
    if c = 'b' ∨ c = 'B' then digits? (smallDigit? 2) 2 none rest
    else if c = 'o' ∨ c = 'O' then digits? (smallDigit? 8) 8 none rest
    else if c = 'x' ∨ c = 'X' then digits? hexDigit? 16 none rest
    else digits? (smallDigit? 1) 10 (some 0) (c :: rest)
  | c :: rest =>
    if Text.isAsciiDigit c then digits? Text.decimalValue? 10 (some (Text.digitValue c)) rest
    else none

/-- The part that a word behind a point names. -/
def part? (chars : List Char) : Option Part :=
  match name? chars with
  | some name => some (.member name)
  | none => (position? chars).map .item

/-- The filters that follow a path. -/
def filters? : List Token → Option (List Filter)
  | [] => some []
  | .sign '|' :: .word chars :: rest =>
    match String.ofList chars, filters? rest with
    | "upper", some filters => some (.upper :: filters)
    | "bullets", some filters => some (.bullets :: filters)
    | _, _ => none
  | _ => none

/-- The parts and filters that follow the start of a reference. -/
def path? : List Token → Option (List Part × List Filter)
  | .sign '.' :: .word chars :: rest =>
    match part? chars, path? rest with
    | some part, some (path, filters) => some (part :: path, filters)
    | _, _ => none
  | rest => (filters? rest).map fun filters => ([], filters)

/-- The value that a printing mark refers to. -/
def reference? : List Token → Option Reference
  | .word chars :: rest =>
    match origin? chars, path? rest with
    | some origin, some (path, filters) => some ⟨origin, path, filters⟩
    | _, _ => none
  | _ => none

/-- The name for the elements of a loop that a word is. -/
def item? (chars : List Char) : Option String :=
  (name? chars).filter fun name => (constantOfName? name).isNone

/-- The inside of a loop mark. -/
inductive Tag where
  /-- The start of a loop. -/
  | enter (item : String) (source : Reference)
  /-- Its end. -/
  | leave

/-- What a loop mark says. -/
def tag? (ts : List Token) : Option Tag :=
  match ts with
  | [.word chars] => if String.ofList chars = "endfor" then some .leave else none
  | .word first :: .word item :: .word second :: rest =>
    if String.ofList first = "for" ∧ String.ofList second = "in" then
      match item? item, reference? rest with
      | some item, some source => some (.enter item source)
      | _, _ => none
    else none
  | _ => none

/-- A loop that has been entered: its variable, its source, and the nodes before it, backwards. -/
abbrev Frame := String × Reference × List Node

/-- The tree of the pieces, given the open loops, the innermost first, and the nodes read since,
backwards. -/
def build : List Frame → List Node → List Segment → Option (List Node)
  | [], nodes, [] => some nodes.reverse
  | _ :: _, _, [] => none
  | frames, nodes, .text chars :: rest => build frames (.text chars :: nodes) rest
  | frames, nodes, .print chars :: rest =>
    match reference? (tokens [] chars) with
    | some source => build frames (.print source :: nodes) rest
    | none => none
  | frames, nodes, .tag chars :: rest =>
    match tag? (tokens [] chars), frames with
    | some (.enter item source), frames => build ((item, source, nodes) :: frames) [] rest
    | some .leave, (item, source, before) :: frames =>
      build frames (.loop item source nodes.reverse :: before) rest
    | some .leave, [] => none
    | none, _ => none

/-- The tree of a template text. -/
def parse (cs : List Char) : Option (List Node) :=
  ((segments cs).bind (build [] [])).filter fun nodes => !bindsCursor nodes

end Rigor.Report.Template
