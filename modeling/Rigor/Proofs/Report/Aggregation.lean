import Mathlib.Data.List.Forall2
import Rigor.Proofs.Level.Highest
import Rigor.Proofs.Risk.Answers
import Rigor.Proofs.Risk.Table

/-!
# Modules analyzed in parts

The analysis of modules lists what is said of each of them, and says three things of all of them:
how many they are, their overall risk, and how many of them need a higher level. Of two lists of
modules in a row it says the sum, the greater and the sum of what it says of each.

* `OverallRisk.ofLevels_append`: the thresholds keep the order of the levels, so that it does not
  matter whether the highest level is taken before or after them.
* `Says`, `says_analysisIn`: what an analysis says, in numbers.
* `analyzeModules_append`: the main statement, for any register that can be loaded.
-/

namespace Rigor.Report

open Registry (LoadsTo)
open Risk (Register Rows answers_analyzeModule answers_analyzeModules)

/-! ### Overall risks -/

namespace OverallRisk

/-- The risks in ascending order. -/
def rank : OverallRisk → Nat
  | .low => 0
  | .medium => 1
  | .high => 2
  | .critical => 3

/-- The greater of two risks. -/
def max (a b : OverallRisk) : OverallRisk :=
  if a.rank < b.rank then b else a

/-- The greater of two risks is no less than the first. -/
theorem rank_le_max_left (a b : OverallRisk) : a.rank ≤ (a.max b).rank := by
  unfold max
  split <;> omega

/-- A higher level has no lower risk. -/
theorem above_max (a b : Level) :
    above (·.le (a.max b)) = (above (·.le a)).max (above (·.le b)) := by
  cases a <;> cases b <;> rfl

/-- The risk of two lists of levels in a row is the greater of their risks. -/
theorem ofLevels_append (levels others : List Level) :
    ofLevels (levels ++ others) = (ofLevels levels).max (ofLevels others) := by
  rw [ofLevels, Level.highest_append, above_max, ofLevels, ofLevels]

/-- The risk of levels depends on which levels there are, and not on their order or number. -/
theorem ofLevels_congr {levels others : List Level} (h : ∀ a, a ∈ levels ↔ a ∈ others) :
    ofLevels levels = ofLevels others := by
  rw [ofLevels, Level.highest_congr h, ofLevels]

end OverallRisk

/-! ### What an analysis says -/

/-- How many of the modules are recommended more than static types. -/
def needing (modules : List ModuleAnalysis) : Nat :=
  modules.countP fun m => Level.staticTypes.rank < m.recommendedLevel.rank

/-- The analysis says of its modules how many they are, what their risk is, and how many of them
need a higher level. -/
structure Says (analysis : Analysis) (count : Nat) (risk : OverallRisk) (needed : Nat) : Prop where
  overallRisk_eq : analysis.overallRisk = risk.name
  summary_eq : analysis.summary =
    "Analyzed " ++ Text.decimal count ++ " modules. Overall risk: " ++ risk.name ++ ". "
      ++ Text.decimal needed ++ " modules need verification upgrades."

section

variable (rows : Rows) (sessionId : String)

/-- The overall risk of modules by the rows of the risk table. -/
def riskIn (rows : Rows) (sources : List ModuleSource) : OverallRisk :=
  OverallRisk.ofLevels (sources.map fun m => Risk.recommend rows m.code)

/-- How many modules need a higher level by the rows of the risk table. -/
def neededIn (rows : Rows) (sources : List ModuleSource) : Nat :=
  sources.countP fun m => Level.staticTypes.rank < (Risk.recommend rows m.code).rank

/-- The modules that need a higher level can be counted by their source. -/
theorem needing_analysisIn (sources : List ModuleSource) :
    needing (analysisIn rows sessionId sources).modules = neededIn rows sources :=
  List.countP_map

/-- The analysis of modules says how many they are, their risk, and how many need a higher level. -/
theorem says_analysisIn (sources : List ModuleSource) :
    Says (analysisIn rows sessionId sources) sources.length (riskIn rows sources)
      (neededIn rows sources) := by
  have hrisk : overallRisk (analysisIn rows sessionId sources).modules = riskIn rows sources := by
    rw [overallRisk, riskIn, analysisIn, aggregate, List.map_map]
    rfl
  have hneeded : upgrades (analysisIn rows sessionId sources).modules = neededIn rows sources :=
    List.countP_map
  have hcount : (analysisIn rows sessionId sources).modules.length = sources.length :=
    List.length_map _
  constructor
  · rw [← hrisk]
    rfl
  · rw [← hrisk, ← hneeded, ← hcount]
    rfl

variable {rows}

/-- The risk of two lists of modules in a row is the greater of their risks. -/
theorem riskIn_append (ms ns : List ModuleSource) :
    riskIn rows (ms ++ ns) = (riskIn rows ms).max (riskIn rows ns) := by
  rw [riskIn, List.map_append, OverallRisk.ofLevels_append, riskIn, riskIn]

/-- The risk of modules does not depend on their order. -/
theorem riskIn_perm {ms ns : List ModuleSource} (h : ms.Perm ns) :
    riskIn rows ms = riskIn rows ns :=
  OverallRisk.ofLevels_congr fun _ => (h.map _).mem_iff

/-- A further module does not lower the risk, wherever it is put. -/
theorem rank_riskIn_le_insert (ms ns : List ModuleSource) (added : ModuleSource) :
    (riskIn rows (ms ++ ns)).rank ≤ (riskIn rows (ms ++ added :: ns)).rank := by
  have hlast : (ms ++ added :: ns).Perm ((ms ++ ns) ++ [added]) := by
    rw [List.append_assoc]
    exact (List.perm_append_singleton added ns).symm.append_left ms
  rw [riskIn_perm hlast, riskIn_append (ms ++ ns)]
  exact OverallRisk.rank_le_max_left _ _

end

/-! ### What a register answers -/

/-- **Modules can be analyzed in parts.** Whatever table a register loads, the analysis of two lists
of modules in a row has one entry for each module in order; it says the sum of the numbers of
modules, the greater of the risks, and the sum of the numbers of modules that need a higher level.
So the order of the modules does not matter to what is said of all of them, and a further module
never lowers the risk. -/
theorem analyzeModules_append {r : Register} (h : (Register.load r).result = .ok ())
    (sessionId : String) (ms ns : List ModuleSource) :
    ∃ (first second whole : Analysis) (a b : OverallRisk),
      ((analyzeModules sessionId ms r).result = .ok first ∧
        (analyzeModules sessionId ns r).result = .ok second ∧
        (analyzeModules sessionId (ms ++ ns) r).result = .ok whole) ∧
      whole.modules = first.modules ++ second.modules ∧
      List.Forall₂ (fun m entry => (analyzeModule .staticTypes m r).result = .ok entry) (ms ++ ns)
        whole.modules ∧
      Says first ms.length a (needing first.modules) ∧
      Says second ns.length b (needing second.modules) ∧
      Says whole (ms.length + ns.length) (a.max b)
        (needing first.modules + needing second.modules) ∧
      (∀ permuted, permuted.Perm (ms ++ ns) → ∃ other,
        (analyzeModules sessionId permuted r).result = .ok other ∧
          other.overallRisk = whole.overallRisk ∧ other.summary = whole.summary) ∧
      ∀ added, ∃ larger c, (analyzeModules sessionId (ms ++ added :: ns) r).result = .ok larger ∧
        larger.overallRisk = OverallRisk.name c ∧ (a.max b).rank ≤ c.rank := by
  obtain ⟨rows, hr⟩ : ∃ rows, LoadsTo Risk.loader r rows := ⟨_, h, rfl⟩
  have hanswer : ∀ sources, (analyzeModules sessionId sources r).result =
      .ok (analysisIn rows sessionId sources) := fun sources =>
    (answers_analyzeModules sessionId sources r hr).1
  refine ⟨_, _, _, riskIn rows ms, riskIn rows ns, ⟨hanswer ms, hanswer ns, hanswer (ms ++ ns)⟩,
    List.map_append, ?_, ?_, ?_, ?_, ?_, ?_⟩
  · refine List.forall₂_map_right_iff.mpr (List.forall₂_same.mpr fun m _ => ?_)
    exact (answers_analyzeModule .staticTypes m r hr).1
  · rw [needing_analysisIn]
    exact says_analysisIn rows sessionId ms
  · rw [needing_analysisIn]
    exact says_analysisIn rows sessionId ns
  · rw [needing_analysisIn, needing_analysisIn, ← riskIn_append, ← List.length_append, neededIn,
      neededIn, ← List.countP_append]
    exact says_analysisIn rows sessionId (ms ++ ns)
  · intro permuted hperm
    have hsays := says_analysisIn rows sessionId permuted
    rw [riskIn_perm hperm, hperm.length_eq, neededIn, hperm.countP_eq] at hsays
    have hwhole := says_analysisIn rows sessionId (ms ++ ns)
    exact ⟨_, hanswer permuted, hsays.overallRisk_eq.trans hwhole.overallRisk_eq.symm,
      hsays.summary_eq.trans hwhole.summary_eq.symm⟩
  · intro added
    refine ⟨_, _, hanswer _, (says_analysisIn rows sessionId _).overallRisk_eq, ?_⟩
    rw [← riskIn_append]
    exact rank_riskIn_le_insert ms ns added

/-- Two modules of one name and code, and a third one, by the packaged table. -/
theorem analyzeModules_append_packaged :
    (Register.load (Registry.fresh Risk.packaged)).result = .ok () ∧
      ∃ whole risk needed,
        (analyzeModules "s" ([⟨"a", "payment"⟩] ++ [⟨"a", "payment"⟩, ⟨"b", ""⟩])
          (Registry.fresh Risk.packaged)).result = .ok whole ∧ Says whole 3 risk needed := by
  have h : (Register.load (Registry.fresh Risk.packaged)).result = .ok () :=
    Risk.loadsTo_packaged.result_load
  obtain ⟨_, _, whole, _, _, ⟨-, -, hwhole⟩, -, -, -, -, hsays, -⟩ :=
    analyzeModules_append h "s" [⟨"a", "payment"⟩] [⟨"a", "payment"⟩, ⟨"b", ""⟩]
  exact ⟨h, whole, _, _, hwhole, hsays⟩

end Rigor.Report
