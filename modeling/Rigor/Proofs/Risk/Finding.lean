import Rigor.Proofs.Level.Highest
import Rigor.Risk.Classify

/-!
# What is found in a text

The findings in a text are those rows of the table, in order, of which some keyword is hit. All that
a classification tells of them can be read off the rows.

* `findings_eq`: the rows that are hit, as matches.
* `map_category_findings`, `keywordsOf_findings`: the categories found, and the keywords found for a
  category.
* `rank_recommend_le_iff`: the ranks that bound the level which a text is recommended.
-/

namespace Rigor.Risk

open Text (lower toLower)

/-- The match of a pattern that is hit. -/
def Pattern.matchIn (lowered : String) (p : Pattern) : Match :=
  ⟨p.category, p.level, p.hits lowered⟩

/-- The rows of which some keyword is hit in a text. -/
def rowsHit (rows : Rows) (code : String) : List Pattern :=
  (Table.values rows).filter (·.isHit (toLower code))

/-- The keywords that are found for a category. -/
def keywordsOf (category : Category) (found : List Match) : List String :=
  (found.filter (·.category = category)).flatMap Match.keywords

/-- A keyword is hit just if the pattern lists it and it occurs in the small letters of the text. -/
theorem mem_hits {p : Pattern} {code keyword : String} :
    keyword ∈ p.hits (toLower code) ↔
      keyword ∈ p.keywords ∧ keyword.toList <:+: lower code.toList := by
  rw [Pattern.hits, List.mem_filter, Text.occursIn_iff, toLower, String.toList_ofList]

/-- A pattern has no hits just if it is not hit. -/
theorem hits_eq_nil_iff {p : Pattern} {lowered : String} :
    p.hits lowered = [] ↔ p.isHit lowered = false := by
  rw [Pattern.hits, Pattern.isHit, List.filter_eq_nil_iff, List.any_eq_false]

/-- A pattern gives a match just if it is hit. -/
theorem matchIn?_eq (lowered : String) (p : Pattern) :
    p.matchIn? lowered = if p.isHit lowered then some (p.matchIn lowered) else none := by
  rw [Pattern.matchIn?, Pattern.matchIn]
  cases h : p.isHit lowered with
  | false => rw [hits_eq_nil_iff.mpr h, List.isEmpty_nil, if_pos rfl, if_neg Bool.false_ne_true]
  | true =>
      have hne : p.hits lowered ≠ [] := fun hnil => by
        rw [hits_eq_nil_iff, h] at hnil
        cases hnil
      rw [if_neg (by rwa [List.isEmpty_iff]), if_pos rfl]

/-- A row is hit just if one of its keywords occurs in the small letters of the text. -/
theorem mem_rowsHit {rows : Rows} {code : String} {p : Pattern} :
    p ∈ rowsHit rows code ↔
      p ∈ Table.values rows ∧ ∃ keyword ∈ p.keywords, keyword.toList <:+: lower code.toList := by
  rw [rowsHit, List.mem_filter, Pattern.isHit, List.any_eq_true]
  simp only [Text.occursIn_iff, toLower, String.toList_ofList]

/-- The findings are the rows that are hit, in the order of the table. -/
theorem findings_eq (rows : Rows) (code : String) :
    findings rows code = (rowsHit rows code).map (·.matchIn (toLower code)) := by
  unfold findings rowsHit
  induction Table.values rows with
  | nil => rfl
  | cons p rest ih =>
      rw [List.filterMap_cons, List.filter_cons, matchIn?_eq, ih]
      cases p.isHit (toLower code) <;> rfl

/-- The categories found are those of the rows that are hit, in order. -/
theorem map_category_findings (rows : Rows) (code : String) :
    (findings rows code).map Match.category = (rowsHit rows code).map Pattern.category := by
  rw [findings_eq, List.map_map]
  rfl

/-- The recommended level is at most a rank just if every row that is hit has at most this rank. -/
theorem rank_recommend_le_iff {rows : Rows} {code : String} {n : Nat} :
    (recommend rows code).rank ≤ n ↔ 1 ≤ n ∧ ∀ p ∈ rowsHit rows code, p.level.rank ≤ n := by
  rw [recommend, levelOf, findings_eq, Level.rank_highest_le_iff, List.map_map, List.forall_mem_map]
  rfl

/-- The keywords found for a category are the hits of its rows. -/
theorem keywordsOf_findings (category : Category) (rows : Rows) (code : String) :
    keywordsOf category (findings rows code) =
      ((Table.values rows).filter (·.category = category)).flatMap (·.hits (toLower code)) := by
  unfold keywordsOf findings
  induction Table.values rows with
  | nil => rfl
  | cons p rest ih =>
      rw [List.filterMap_cons, List.filter_cons, matchIn?_eq]
      cases h : p.isHit (toLower code) with
      | false =>
          have hnil : p.hits (toLower code) = [] := hits_eq_nil_iff.mpr h
          by_cases hcategory : p.category = category <;> simpa [hcategory, hnil] using ih
      | true =>
          by_cases hcategory : p.category = category <;>
            simpa [hcategory, Pattern.matchIn] using ih

end Rigor.Risk
