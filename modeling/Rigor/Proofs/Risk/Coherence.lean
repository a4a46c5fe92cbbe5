import Mathlib.Data.List.Forall2
import Mathlib.Data.List.Infix
import Rigor.Proofs.Registry.Requests
import Rigor.Proofs.Risk.Answers
import Rigor.Proofs.Risk.Finding
import Rigor.Proofs.Risk.Table
import Rigor.Risk.Packaged

/-!
# The answers about a text belong together

A register searches a text anew for every question about it, and for the risks it looks up the rows
of the categories found. `Coherent` says how the answers go together: what is found is what the rows
are hit by, row for row; the level is the highest of those found; and the risks are the texts of the
rows found, or the standard statement if there are none.

* `mapM_riskOf`: no look-up misses, because a row of a table is the only one of its category
  (`get?_category`).
* `coherent_answers`: the answers that are given from the rows of a file are coherent.
* `answersCoherently_of_loadsTo`: so are the answers of a register that loads to these rows.
* `classification_coherent`: the main statement, for a register that has served any requests.
-/

namespace Rigor.Risk

open Registry (LoadsTo reached)
open Text (lower toLower)

variable {rows : Rows} {p : Pattern} {code : String}

/-! ### Coherence -/

/-- The text of a risk is that of the row which is looked up for a match. -/
def States (table : List Pattern) (row? : Category → Option Pattern) (m : Match)
    (risk : String) : Prop :=
  ∃ p ∈ table, p.category = m.category ∧ row? m.category = some p ∧ p.risk = risk

/-- What is found in a text, the level it is recommended and the risks that are stated of it, by a
table whose rows can be looked up. -/
structure Coherent (table : List Pattern) (row? : Category → Option Pattern) (code : String)
    (found : List Match) (level : Level) (risks : List String) : Prop where
  /-- The matches are those of the rows that are hit, in the order of the table. -/
  found_eq : found = (table.filter (·.isHit (toLower code))).map (·.matchIn (toLower code))
  /-- A row is found exactly if it is hit by the text in small letters. -/
  found_iff : ∀ p ∈ table, (∃ m ∈ found, m.category = p.category) ↔ p.isHit (toLower code) = true
  /-- No category is found twice. -/
  nodup : (found.map Match.category).Nodup
  /-- A match has the level of its row, and at least one keyword. Its keywords are those of the row
  that occur in the small letters of the text, in the order of the row. -/
  keywords : ∀ m ∈ found, m.keywords ≠ [] ∧ ∃ p ∈ table, p.category = m.category ∧
    p.level = m.level ∧
    m.keywords = p.keywords.filter fun keyword => keyword.toList <:+: lower code.toList
  /-- Where nothing is found, the level is the lowest one. -/
  level_of_none : found = [] → level = .staticTypes
  /-- Otherwise it is the level of a match. -/
  level_of_some : found ≠ [] → ∃ m ∈ found, m.level = level
  /-- No match has a higher one. -/
  le_level : ∀ m ∈ found, m.level.rank ≤ level.rank
  /-- Where something is found, the risks are stated match by match. -/
  risks_of_some : found ≠ [] → List.Forall₂ (States table row?) found risks
  /-- The standard statement takes the place of these texts exactly if nothing is found. -/
  standard_iff : risks = [noRisk] ∧ ¬ List.Forall₂ (States table row?) found risks ↔ found = []

/-! ### The rows of a file -/

/-- A row that is hit is found by its category. -/
theorem get?_category_of_hit (h : Filed rows) (hp : p ∈ rowsHit rows code) :
    Table.get? rows p.category = some p :=
  get?_category h (mem_rowsHit.mp hp).1

/-- The risk of a match is that of the row that is hit. -/
theorem riskOf_matchIn (h : Filed rows) (hp : p ∈ rowsHit rows code) :
    riskOf rows (p.matchIn (toLower code)) = .ok p.risk := by
  have hrow : Table.get? rows (p.matchIn (toLower code)).category = some p :=
    get?_category_of_hit h hp
  rw [riskOf, hrow]

/-- **No match is without a risk**: the patterns of all categories found are looked up without a
fault. -/
theorem mapM_riskOf (h : Filed rows) (code : String) :
    (findings rows code).mapM (riskOf rows) = .ok ((rowsHit rows code).map Pattern.risk) := by
  have hall : ∀ hit ⊆ rowsHit rows code, (hit.map (·.matchIn (toLower code))).mapM (riskOf rows) =
      .ok (hit.map Pattern.risk) := by
    intro hit hhit
    induction hit with
    | nil => rfl
    | cons p rest ih =>
        rw [List.map_cons, List.mapM_cons, riskOf_matchIn h (hhit List.mem_cons_self),
          ih fun q hq => hhit (List.mem_cons_of_mem p hq)]
        rfl
  rw [findings_eq]
  exact hall _ (List.Subset.refl _)

/-- Where no look-up is a fault, leaving out the faults leaves out nothing. -/
theorem filterMap_toOption_of_mapM {α β : Type} {f : α → Except Fault β} {xs : List α}
    {ys : List β} (h : xs.mapM f = .ok ys) : (xs.filterMap fun x => (f x).toOption) = ys := by
  induction xs generalizing ys with
  | nil => exact Except.ok.inj h
  | cons x rest ih =>
      rw [List.mapM_cons] at h
      cases hx : f x with
      | error fault =>
          rw [hx] at h
          cases h
      | ok y =>
          cases hrest : rest.mapM f with
          | error fault =>
              rw [hx, hrest] at h
              cases h
          | ok others =>
              rw [hx, hrest] at h
              obtain rfl := Except.ok.inj h
              rw [List.filterMap_cons, hx, ih hrest]
              rfl

/-- Unless nothing is found, the risks are the texts of the rows that are hit. -/
theorem statements_eq (h : Filed rows) (code : String) :
    statements rows code =
      if findings rows code = [] then [noRisk] else (rowsHit rows code).map Pattern.risk := by
  have hnone : ((rowsHit rows code).map Pattern.risk).isEmpty = true ↔ findings rows code = [] := by
    rw [findings_eq, List.isEmpty_iff, List.map_eq_nil_iff, List.map_eq_nil_iff]
  unfold statements
  simp only [filterMap_toOption_of_mapM (mapM_riskOf h code), hnone]

/-- The risks of the rows that are hit are those that are looked up for the matches, one by one. -/
theorem forall₂_states (h : Filed rows) (code : String) :
    List.Forall₂ (States (Table.values rows) (Table.get? rows)) (findings rows code)
      ((rowsHit rows code).map Pattern.risk) := by
  rw [findings_eq, List.forall₂_map_left_iff, List.forall₂_map_right_iff, List.forall₂_same]
  intro p hp
  exact ⟨p, (mem_rowsHit.mp hp).1, rfl, get?_category_of_hit h hp, rfl⟩

/-- No category is found twice, as no two rows have the same one. -/
theorem nodup_category_findings (h : Filed rows) (code : String) :
    ((findings rows code).map Match.category).Nodup := by
  rw [map_category_findings]
  have hsub : ((rowsHit rows code).map Pattern.category).Sublist
      ((Table.values rows).map Pattern.category) := List.filter_sublist.map _
  exact (nodup_map_category h).sublist hsub

/-- A category is found just if its row is hit. -/
theorem exists_mem_findings_iff (h : Filed rows) (hp : p ∈ Table.values rows) :
    (∃ m ∈ findings rows code, m.category = p.category) ↔ p.isHit (toLower code) = true := by
  rw [findings_eq]
  constructor
  · rintro ⟨m, hm, hcategory⟩
    obtain ⟨q, hq, rfl⟩ := List.mem_map.mp hm
    have hqp : some q = some p := by
      rw [← get?_category h hp, ← get?_category_of_hit h hq, ← hcategory]
      rfl
    obtain rfl := Option.some.inj hqp
    exact (List.mem_filter.mp hq).2
  · intro hhit
    exact ⟨_, List.mem_map_of_mem (List.mem_filter.mpr ⟨hp, hhit⟩), rfl⟩

/-- The hits of a pattern are its keywords that occur in the small letters of the text. -/
theorem hits_eq_filter (p : Pattern) (code : String) :
    p.hits (toLower code) =
      p.keywords.filter fun keyword => keyword.toList <:+: lower code.toList := by
  refine List.filter_congr fun keyword _ => ?_
  rw [Bool.eq_iff_iff, Text.occursIn_iff, toLower, String.toList_ofList, decide_eq_true_eq]

/-- The answers that are given from the rows of a file belong together. -/
theorem coherent_answers (h : Filed rows) (code : String) :
    Coherent (Table.values rows) (Table.get? rows) code (findings rows code) (recommend rows code)
      (statements rows code) where
  found_eq := findings_eq rows code
  found_iff p hp := exists_mem_findings_iff h hp
  nodup := nodup_category_findings h code
  keywords := by
    intro m hm
    rw [findings_eq] at hm
    obtain ⟨p, hp, rfl⟩ := List.mem_map.mp hm
    obtain ⟨hrow, hhit⟩ := List.mem_filter.mp hp
    constructor
    · intro hnil
      rw [hits_eq_nil_iff.mp hnil] at hhit
      cases hhit
    · exact ⟨p, hrow, rfl, rfl, hits_eq_filter p code⟩
  level_of_none := by
    intro hnone
    rw [recommend, hnone]
    rfl
  level_of_some := by
    intro hsome
    have hlevels : (findings rows code).map Match.level ≠ [] := by
      rwa [ne_eq, List.map_eq_nil_iff]
    exact List.mem_map.mp (Level.highest_mem hlevels)
  le_level := by
    intro m hm
    obtain ⟨-, hall⟩ := Level.rank_highest_le_iff.mp (Nat.le_refl (recommend rows code).rank)
    exact hall m.level (List.mem_map_of_mem hm)
  risks_of_some := by
    intro hsome
    rw [statements_eq h, if_neg hsome]
    exact forall₂_states h code
  standard_iff := by
    constructor
    · rintro ⟨-, hother⟩
      by_contra hsome
      rw [statements_eq h, if_neg hsome] at hother
      exact hother (forall₂_states h code)
    · intro hnone
      rw [statements_eq h, if_pos hnone, hnone]
      exact ⟨rfl, by simp⟩

/-! ### Registers -/

/-- The register answers every question about the text, and the answers belong together. What the
analysis of a module with this text says of it are two of the answers. -/
def AnswersCoherently (r : Register) (code : String) : Prop :=
  ∃ table row? found level risks,
    (Register.list r).result = .ok table ∧
    (∀ category, (Register.get category r).result = .ok (row? category)) ∧
    (Register.find code r).result = .ok found ∧
    (Register.classify code r).result = .ok level ∧
    (Register.risks code r).result = .ok risks ∧
    Coherent table row? code found level risks ∧
    ∀ name current, ∃ analysis,
      (Report.analyzeModule current ⟨name, code⟩ r).result = .ok analysis ∧
      analysis.recommendedLevel = level ∧ analysis.risks = risks

/-- A register that loads to the rows of a file answers from these rows. -/
theorem answersCoherently_of_loadsTo {r : Register} {file : DefinitionFile}
    (h : LoadsTo loader r (rowsOf file)) (code : String) : AnswersCoherently r code := by
  have hfiled : Filed (rowsOf file) := filed_rowsOf file
  refine ⟨Table.values (rowsOf file), Table.get? (rowsOf file), findings (rowsOf file) code,
    recommend (rowsOf file) code, statements (rowsOf file) code,
    (Registry.Answers.consult Table.values r h).1, ?_, (answers_find code r h).1,
    (answers_classify code r h).1, (answers_risks code r h).1, coherent_answers hfiled code, ?_⟩
  · intro category
    exact (Registry.Answers.consult (Table.get? · category) r h).1
  · intro name current
    exact ⟨_, (answers_analyzeModule current ⟨name, code⟩ r h).1, rfl, rfl⟩

/-- **The answers about a text belong together**: a register that has served any requests, with its
file replaced in between or not, answers coherently, unless it cannot be loaded. -/
theorem classification_coherent (file : DefinitionFile) (requests : List Request)
    (h : (Register.load (reached Register.serve file requests)).result = .ok ())
    (code : String) : AnswersCoherently (reached Register.serve file requests) code := by
  obtain ⟨version, hloads⟩ := Registry.exists_loadsTo_reached clean_loader met_demand h
  exact answersCoherently_of_loadsTo hloads code

/-- A file with two rows of one category and an entry that is no row. -/
def contested : DefinitionFile :=
  .data (.obj [("patterns", .arr [packagedRow "financial" 3 "Money" ["Pay", "bill"],
    packagedRow "financial" 6 "More money" ["pay"], .null])])

/-- A register that has been loaded and whose file cannot be parsed any more answers coherently. -/
theorem classification_coherent_contested :
    (Register.load (reached Register.serve contested [.count, .write .broken])).result = .ok () ∧
      AnswersCoherently (reached Register.serve contested [.count, .write .broken]) "PAYBILL" :=
  ⟨rfl, classification_coherent contested [.count, .write .broken] rfl "PAYBILL"⟩

end Rigor.Risk
