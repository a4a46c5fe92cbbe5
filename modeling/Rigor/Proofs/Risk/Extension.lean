import Rigor.Proofs.Risk.Answers
import Rigor.Proofs.Risk.Finding
import Rigor.Proofs.Risk.Firsts
import Rigor.Risk.Packaged

/-!
# Longer risk tables

Entries that are appended to a risk table add rows behind those it has, whatever they are: what
becomes of an entry depends on those before it alone (`fatesAfter_append`). So the rows of the table
come first among those of the longer one (`prefix_firsts_append`), the matches of a text come first
among its matches there (`prefix_findings_append`), and the level that a text is recommended does
not get lower.

* `found_prefix_of_extended`: the main statement, for any two registers that load the two tables.
-/

namespace Rigor.Risk

open Registry (LoadsTo fresh)

variable {members : List (String × Json)} {entries : List Json}

/-- The members of risk data, with other patterns. -/
def withPatterns (members : List (String × Json)) (entries : List Json) : Json :=
  .obj (Table.put members "patterns" (.arr entries))

/-! ### Rows -/

/-- More entries only add to the first patterns of the categories, at their end. -/
theorem prefix_firsts_append (entries more : List Json) :
    firsts entries <+: firsts (entries ++ more) := by
  have hfates : fates (entries ++ more) = fates entries ++ fatesAfter entries more :=
    fatesAfter_append [] entries more
  rw [firsts, firsts, hfates, List.filterMap_append]
  exact List.prefix_append _ _

/-- So they only add to what is found in a text, at its end. -/
theorem prefix_findings_append (entries more : List Json) (code : String) :
    findings (tabulate (firsts entries)) code <+:
      findings (tabulate (firsts (entries ++ more))) code := by
  rw [findings, findings, values_tabulate, values_tabulate]
  exact (prefix_firsts_append entries more).filterMap _

/-- The highest level among more matches is no lower. -/
theorem rank_levelOf_le_of_subset {found more : List Match} (h : found ⊆ more) :
    (levelOf found).rank ≤ (levelOf more).rank := by
  obtain ⟨hone, hall⟩ := Level.rank_highest_le_iff.mp (Nat.le_refl (levelOf more).rank)
  refine Level.rank_highest_le_iff.mpr ⟨hone, fun level hlevel => ?_⟩
  obtain ⟨m, hm, rfl⟩ := List.mem_map.mp hlevel
  exact hall _ (List.mem_map_of_mem (h hm))

/-! ### Files -/

/-- The entries of an array of patterns are its items. -/
theorem entries_of_array (h : Table.get? members "patterns" = some (.arr entries)) :
    DefinitionFile.entries "patterns" (.obj members) = .ok entries := by
  rw [DefinitionFile.entries_obj, h]
  rfl

/-- Data whose patterns are replaced have the new ones as entries. -/
theorem entries_withPatterns (members : List (String × Json)) (entries : List Json) :
    DefinitionFile.entries "patterns" (withPatterns members entries) = .ok entries :=
  entries_of_array (by rw [Table.get?_put, if_pos rfl])

/-- The rows of data with entries are the first patterns of the categories. -/
theorem rowsOf_data {content : Json}
    (h : DefinitionFile.entries "patterns" content = .ok entries) :
    rowsOf (.data content) = tabulate (firsts entries) := by
  rw [rowsOf, loader_data h]

/-- Data with entries are loaded. -/
theorem loadsTo_fresh_data {content : Json}
    (h : DefinitionFile.entries "patterns" content = .ok entries) :
    LoadsTo loader (fresh (.data content)) (rowsOf (.data content)) :=
  Registry.loadsTo_fresh (readable_of_entries ⟨content, entries, rfl, h⟩)

/-- **Entries that are appended to a risk table never weaken a recommendation.** Data with an array
of patterns are loaded, and so are they with more entries of any kind at its end. By registers that
load the one and the other, the matches of a text are a beginning of those by the longer table, and
the level it is recommended is no higher. -/
theorem found_prefix_of_extended (members : List (String × Json)) (entries more : List Json)
    (h : Table.get? members "patterns" = some (.arr entries)) :
    let short : DefinitionFile := .data (.obj members)
    let long : DefinitionFile := .data (withPatterns members (entries ++ more))
    LoadsTo loader (fresh short) (rowsOf short) ∧ LoadsTo loader (fresh long) (rowsOf long) ∧
      ∀ (r s : Register), LoadsTo loader r (rowsOf short) → LoadsTo loader s (rowsOf long) →
        ∀ code : String, ∃ found foundLong level levelLong,
          (Register.find code r).result = .ok found ∧
          (Register.find code s).result = .ok foundLong ∧
          (Register.classify code r).result = .ok level ∧
          (Register.classify code s).result = .ok levelLong ∧
          found <+: foundLong ∧ level.rank ≤ levelLong.rank := by
  intro short long
  have hshort := entries_of_array h
  have hlong := entries_withPatterns members (entries ++ more)
  refine ⟨loadsTo_fresh_data hshort, loadsTo_fresh_data hlong, fun r s hr hs code => ?_⟩
  refine ⟨_, _, _, _, (answers_find code r hr).1, (answers_find code s hs).1,
    (answers_classify code r hr).1, (answers_classify code s hs).1, ?_⟩
  have hbeginning : findings (rowsOf short) code <+: findings (rowsOf long) code := by
    rw [rowsOf_data hshort, rowsOf_data hlong]
    exact prefix_findings_append entries more code
  exact ⟨hbeginning, rank_levelOf_le_of_subset hbeginning.subset⟩

/-- A second row of the same category, an entry that is no row and a row of a higher level follow a
row that is hit. -/
theorem found_prefix_of_extended_payments :
    let members : List (String × Json) :=
      [("patterns", .arr [packagedRow "financial" 3 "Money" ["pay"]])]
    let more : List Json := [packagedRow "financial" 1 "Money" ["payment"], .int 6,
      packagedRow "security" 6 "Secrets" ["Token"]]
    Table.get? members "patterns" = some (.arr [packagedRow "financial" 3 "Money" ["pay"]]) ∧
      ∃ found foundLong level levelLong,
        (Register.find "payment token" (fresh (.data (.obj members)))).result = .ok found ∧
        (Register.find "payment token" (fresh (.data (withPatterns members
          ([packagedRow "financial" 3 "Money" ["pay"]] ++ more))))).result = .ok foundLong ∧
        (Register.classify "payment token" (fresh (.data (.obj members)))).result = .ok level ∧
        (Register.classify "payment token" (fresh (.data (withPatterns members
          ([packagedRow "financial" 3 "Money" ["pay"]] ++ more))))).result = .ok levelLong ∧
        found <+: foundLong ∧ level.rank ≤ levelLong.rank := by
  intro members more
  have h : Table.get? members "patterns" =
      some (.arr [packagedRow "financial" 3 "Money" ["pay"]]) := rfl
  obtain ⟨hshort, hlong, hfound⟩ := found_prefix_of_extended members _ more h
  exact ⟨h, hfound _ _ hshort hlong "payment token"⟩

end Rigor.Risk
