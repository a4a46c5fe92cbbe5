import Rigor.Check.Record
import Rigor.Level.Basic

/-!
# Definitions of levels

What a level guarantees and the tools that reach it, and the short form of that for listings.
-/

namespace Rigor.Level

open Check

/-- What a level guarantees and which tools reach it. -/
structure Definition where
  /-- The level defined. -/
  level : Level
  /-- Its name for readers. -/
  name : String
  /-- What it guarantees, in a sentence. -/
  description : String
  /-- Tools commonly used to reach it. -/
  tools : List String
  deriving DecidableEq

namespace Definition

/-- A definition, from an object. -/
def read (setting : Setting) : Json → Checked Definition :=
  record setting fun members =>
    Definition.mk <$> required "level" Level.read members
      <*> required "name" text members
      <*> required "description" text members
      <*> optional "tools" (list text) [] members

/-- A definition as an object. -/
def toJson (d : Definition) : Json :=
  .obj [("level", d.level.toJson), ("name", .str d.name), ("description", .str d.description),
    ("tools", .arr (d.tools.map .str))]

end Definition

/-- The short form of a definition. Its numbers are not bound to those of a definition. -/
structure Summary where
  /-- The rank of the level. -/
  level : Int
  /-- The name of the level. -/
  name : String
  /-- What the level guarantees. -/
  description : String
  /-- How many tools its definition lists. -/
  toolCount : Int
  deriving DecidableEq

namespace Summary

/-- The short form of a definition. -/
def ofDefinition (d : Definition) : Summary :=
  ⟨d.level.rank, d.name, d.description, d.tools.length⟩

/-- A summary, from an object. -/
def read (setting : Setting) : Json → Checked Summary :=
  record setting fun members =>
    Summary.mk <$> required "level" integer members
      <*> required "name" text members
      <*> required "description" text members
      <*> required "tool_count" integer members

/-- A summary as an object. -/
def toJson (s : Summary) : Json :=
  .obj [("level", .int s.level), ("name", .str s.name), ("description", .str s.description),
    ("tool_count", .int s.toolCount)]

end Summary

end Rigor.Level
