import Rigor.Proofs.Risk.Answers
import Rigor.Proofs.Risk.Finding
import Rigor.Proofs.Risk.Table
import Rigor.Proofs.Text.Lower

/-!
# Texts joined by line feeds

To join texts by line feeds and analyze the whole comes to the same as to analyze them one by one,
as long as no keyword has a line feed in it.

* `infix_lower_joined_iff`: a keyword is found in the joined text if it is found in one of the two.
* `hits_joined`, `recommend_joined`: the same for the keywords of a row and for the level.
* `recommend_joinWith`: the level of any number of texts, by induction along the join.
* `analysis_of_joined`: what a register answers about the modules and about their joined source.
-/

namespace Rigor.Risk

open Registry (LoadsTo)
open Text (joinWith lower toLower)

/-- A table without line feeds in its keywords. -/
def LineBound (rows : Rows) : Prop :=
  ∀ p ∈ Table.values rows, ∀ keyword ∈ p.keywords, '\n' ∉ keyword.toList

variable {rows : Rows} {p : Pattern}

/-! ### Two texts -/

/-- A word without a line feed occurs in two joined texts just if it occurs in one of them, in small
letters all of them. -/
theorem infix_lower_joined_iff {word : List Char} (h : '\n' ∉ word) {first second : String} :
    word <:+: lower (first ++ "\n" ++ second).toList ↔
      word <:+: lower first.toList ∨ word <:+: lower second.toList := by
  have hjoined : (first ++ "\n" ++ second).toList = first.toList ++ '\n' :: second.toList := by
    simp
  rw [hjoined, Text.lower_append_newline, Text.infix_append_cons_iff h]

/-- The hits in two joined texts are the keywords hit in either, in the order of the row. -/
theorem hits_joined (hline : ∀ keyword ∈ p.keywords, '\n' ∉ keyword.toList)
    (first second : String) :
    p.hits (toLower (first ++ "\n" ++ second)) =
      p.keywords.filter fun keyword =>
        keyword ∈ p.hits (toLower first) ∨ keyword ∈ p.hits (toLower second) := by
  refine List.filter_congr fun keyword hkeyword => ?_
  rw [Bool.eq_iff_iff, Text.occursIn_iff, toLower, String.toList_ofList,
    infix_lower_joined_iff (hline keyword hkeyword), decide_eq_true_eq, mem_hits, mem_hits,
    and_iff_right hkeyword, and_iff_right hkeyword]

/-- The rows hit by two joined texts are those hit by either. -/
theorem mem_rowsHit_joined (hline : LineBound rows) {first second : String} :
    p ∈ rowsHit rows (first ++ "\n" ++ second) ↔
      p ∈ rowsHit rows first ∨ p ∈ rowsHit rows second := by
  rw [mem_rowsHit, mem_rowsHit, mem_rowsHit, ← and_or_left, ← exists_or]
  refine and_congr_right fun hp => exists_congr fun keyword => ?_
  rw [← and_or_left]
  exact and_congr_right fun hkeyword => infix_lower_joined_iff (hline p hp keyword hkeyword)

/-- Two joined texts are recommended the higher of their levels. -/
theorem recommend_joined (hline : LineBound rows) (first second : String) :
    recommend rows (first ++ "\n" ++ second) =
      (recommend rows first).max (recommend rows second) := by
  refine Level.eq_of_rank_le_iff fun n => ?_
  rw [Level.rank_max_le_iff, rank_recommend_le_iff, rank_recommend_le_iff, rank_recommend_le_iff,
    and_and_and_comm, and_self]
  refine and_congr_right fun _ => ?_
  simp only [mem_rowsHit_joined hline, or_imp, forall_and]

/-! ### Any number of texts -/

/-- Where nothing is written nothing is found, for no keyword is empty. -/
theorem recommend_empty (hworded : Worded rows) : recommend rows "" = .staticTypes := by
  have hnone : rowsHit rows "" = [] := by
    refine List.eq_nil_iff_forall_not_mem.mpr fun p hp => ?_
    obtain ⟨hmem, keyword, hkeyword, hinfix⟩ := mem_rowsHit.mp hp
    have hempty : keyword.toList = [] := List.infix_nil.mp hinfix
    exact hworded p hmem keyword hkeyword (String.toList_eq_nil_iff.mp hempty)
  rw [recommend, findings_eq, hnone]
  rfl

/-- Any number of joined texts are recommended the highest of their levels, and none the lowest
there is. -/
theorem recommend_joinWith (hline : LineBound rows) (hworded : Worded rows) (codes : List String) :
    recommend rows (joinWith "\n" codes) = Level.highest (codes.map (recommend rows)) := by
  induction codes with
  | nil => exact recommend_empty hworded
  | cons code rest ih =>
      cases rest with
      | nil => exact (Level.highest_singleton _).symm
      | cons next rest =>
          rw [Text.joinWith_cons_cons, recommend_joined hline, ih, ← Level.highest_cons]
          rfl

/-! ### Modules -/

/-- The overall risk of modules is that of the level which their joined source is recommended. -/
theorem overallRisk_analysisIn (hline : LineBound rows) (hworded : Worded rows)
    (sessionId : String) (sources : List Report.ModuleSource) :
    (Report.analysisIn rows sessionId sources).overallRisk =
      (Report.OverallRisk.ofLevels
        [recommend rows (joinWith "\n" (sources.map Report.ModuleSource.code))]).name := by
  rw [recommend_joinWith hline hworded, Report.analysisIn, Report.aggregate, Report.overallRisk,
    Report.OverallRisk.ofLevels, Report.OverallRisk.ofLevels, Level.highest_singleton, List.map_map,
    List.map_map]
  rfl

/-- No keyword of the packaged table has a line feed. -/
theorem lineBound_packaged : LineBound (rowsOf packaged) := by
  intro p hp keyword hkeyword hmem
  have hplain : Text.isPlain '\n' = true := plain_packaged p hp keyword hkeyword '\n' hmem
  revert hplain
  decide

/-- **Modules can be analyzed as one text**: with a table whose keywords have no line feeds, such as
the packaged one, what is answered about modules is what is answered about their joined source. -/
theorem analysis_of_joined :
    LineBound (rowsOf packaged) ∧
      ∀ (file : DefinitionFile) (r : Register), LoadsTo loader r (rowsOf file) →
        LineBound (rowsOf file) →
        (∀ first second : String,
          (∀ p ∈ Table.values (rowsOf file),
            p.hits (toLower (first ++ "\n" ++ second)) =
              p.keywords.filter fun keyword =>
                keyword ∈ p.hits (toLower first) ∨ keyword ∈ p.hits (toLower second)) ∧
          ∃ a b, (Register.classify first r).result = .ok a ∧
            (Register.classify second r).result = .ok b ∧
            (Register.classify (first ++ "\n" ++ second) r).result = .ok (a.max b)) ∧
        ∀ (sessionId : String) (sources : List Report.ModuleSource), ∃ analysis level,
          (Report.analyzeModules sessionId sources r).result = .ok analysis ∧
          (Register.classify (joinWith "\n" (sources.map Report.ModuleSource.code)) r).result
            = .ok level ∧
          analysis.overallRisk = (Report.OverallRisk.ofLevels [level]).name := by
  refine ⟨lineBound_packaged, fun file r hr hline => ⟨fun first second => ⟨fun p hp => ?_, ?_⟩, ?_⟩⟩
  · exact hits_joined (hline p hp) first second
  · refine ⟨_, _, (answers_classify first r hr).1, (answers_classify second r hr).1, ?_⟩
    rw [← recommend_joined hline]
    exact (answers_classify _ r hr).1
  · intro sessionId sources
    exact ⟨_, _, (answers_analyzeModules sessionId sources r hr).1, (answers_classify _ r hr).1,
      overallRisk_analysisIn hline (worded_rowsOf file) sessionId sources⟩

/-- Two texts, two modules, and no modules, by the packaged table. -/
theorem analysis_of_joined_packaged :
    LoadsTo loader (Registry.fresh packaged) (rowsOf packaged) ∧ LineBound (rowsOf packaged) ∧
      (∃ a b, (Register.classify "ΑΣ" (Registry.fresh packaged)).result = .ok a ∧
        (Register.classify "Payment" (Registry.fresh packaged)).result = .ok b ∧
        (Register.classify ("ΑΣ" ++ "\n" ++ "Payment") (Registry.fresh packaged)).result
          = .ok (a.max b)) ∧
      (∃ analysis level,
        (Report.analyzeModules "s" [⟨"greeting", "print"⟩, ⟨"shop", "Payment"⟩]
          (Registry.fresh packaged)).result = .ok analysis ∧
        (Register.classify (joinWith "\n" ["print", "Payment"]) (Registry.fresh packaged)).result
          = .ok level ∧
        analysis.overallRisk = (Report.OverallRisk.ofLevels [level]).name) ∧
      ∃ analysis level,
        (Report.analyzeModules "s" [] (Registry.fresh packaged)).result = .ok analysis ∧
        (Register.classify (joinWith "\n" []) (Registry.fresh packaged)).result = .ok level ∧
        analysis.overallRisk = (Report.OverallRisk.ofLevels [level]).name := by
  obtain ⟨htexts, hmodules⟩ :=
    analysis_of_joined.2 packaged (Registry.fresh packaged) loadsTo_packaged analysis_of_joined.1
  exact ⟨loadsTo_packaged, analysis_of_joined.1, (htexts "ΑΣ" "Payment").2,
    hmodules "s" [⟨"greeting", "print"⟩, ⟨"shop", "Payment"⟩], hmodules "s" []⟩

end Rigor.Risk
