import Rigor.Check.Record
import Rigor.Level.Basic
import Rigor.Risk.Category
import Rigor.Text.Blank
import Rigor.Text.Case
import Rigor.Text.Search

/-!
# Risk patterns

A pattern gives a category its keywords, the level it contributes and the statement of its risk. The
keywords are kept in normal form: without blanks at their ends, in small letters, and not empty.
-/

namespace Rigor.Risk

open Check

/-- A row of the risk table. -/
structure Pattern where
  /-- The category that the keywords signal. -/
  category : Category
  /-- The keywords in normal form. -/
  keywords : List String
  /-- The level that the category contributes. -/
  level : Level
  /-- The risk, in a sentence. -/
  risk : String
  deriving DecidableEq

/-- The normal form of a keyword. -/
def normalize (keyword : String) : String :=
  String.ofList (Text.lower (Text.strip keyword.toList))

/-- The normal forms of keywords, none of which may be empty. -/
def normalizeAll (keywords : List String) : Except IssueKind (List String) :=
  if (keywords.map normalize).any String.isEmpty then .error .unsound
  else .ok (keywords.map normalize)

namespace Pattern

/-- The keywords of a pattern, from an array. -/
def readKeywords (value : Json) : Checked (List String) :=
  (tuple 1 text value).andThen fun keywords => .ofVerdict value (normalizeAll keywords)

/-- A pattern, from an object. -/
def read (setting : Setting) : Json → Checked Pattern :=
  record setting fun members =>
    Pattern.mk <$> required "category" Category.read members
      <*> required "keywords" readKeywords members
      <*> required "level" Level.read members
      <*> required "risk" text members

/-- A pattern as an object. -/
def toJson (p : Pattern) : Json :=
  .obj [("category", p.category.toJson), ("keywords", .arr (p.keywords.map .str)),
    ("level", p.level.toJson), ("risk", .str p.risk)]

/-- The keywords that occur in a text of small letters. -/
def hits (p : Pattern) (lowered : String) : List String :=
  p.keywords.filter fun keyword => Text.occursIn keyword.toList lowered.toList

/-- Some keyword occurs in a text of small letters. -/
def isHit (p : Pattern) (lowered : String) : Bool :=
  p.keywords.any fun keyword => Text.occursIn keyword.toList lowered.toList

end Pattern

/-- A category found in a text, with the keywords that gave it away. -/
structure Match where
  /-- The category. -/
  category : Category
  /-- The level that it contributes. -/
  level : Level
  /-- The keywords found. -/
  keywords : List String
  deriving DecidableEq

namespace Match

/-- A match, from an object. -/
def read (setting : Setting) : Json → Checked Match :=
  record setting fun members =>
    Match.mk <$> required "category" Category.read members
      <*> required "level" Level.read members
      <*> optional "matched_keywords" (list text) [] members

/-- A match as an object. -/
def toJson (m : Match) : Json :=
  .obj [("category", m.category.toJson), ("level", m.level.toJson),
    ("matched_keywords", .arr (m.keywords.map .str))]

end Match

end Rigor.Risk
