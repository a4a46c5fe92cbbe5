import Rigor.Level.Packaged
import Rigor.Proofs.Level.Answers
import Rigor.Proofs.Registry.Leading
import Rigor.Proofs.Report.Layout
import Rigor.Proofs.Table.Latest

/-!
# What a catalog shows

A catalog shows the leading rows of its file, of several for one level the last, and lists them in
ascending order (`Shows`). It falls back for the levels that none of these rows defines, and names
them in the log. Nothing in a file makes it fail.

* `rows_loader`: the rows are a table of the leading rows, whatever the file holds.
* `isLatest_list`, `pairwise_rank_list`: the listing of such a table.
* `logs_loader`: the log, row by row and with the levels that are missing.
* `loaded_shows`: the main statement.
-/

namespace Rigor.Level

open Registry (Answers LoadsTo fresh)
open Table (IsLatest latest?)

variable {defined : List Definition} {file : DefinitionFile}

/-- The definitions that a file leads with. -/
def definedBy (file : DefinitionFile) : List Definition :=
  file.leading "levels" (Definition.read .document)

/-- The levels that are not defined, in ascending order. -/
def missingFrom (defined : List Definition) : List Level :=
  all.filter fun level => level ∉ defined.map Definition.level

/-- What a catalog answers that shows some definitions. -/
structure Catalog.Shows (defined : List Definition) (r : Catalog) : Prop where
  /-- A level has its last definition. -/
  get : ∀ level, (Catalog.get level r).result = .ok (latest? Definition.level defined level)
  /-- The last definitions are listed, one of each level defined, in ascending order. They are
  counted, and the short forms are those of them. -/
  list : ∃ table, (Catalog.consult Level.list r).result = .ok table ∧
    IsLatest Definition.level defined table ∧
    (table.Pairwise fun a b => a.level.rank < b.level.rank) ∧
    (Catalog.count r).result = .ok table.length ∧
    (Catalog.consult Level.summaries r).result =
      .ok (table.map fun d => ⟨d.level.rank, d.name, d.description, d.tools.length⟩)
  /-- A level that is defined is described by its last definition, which also gives its tools. -/
  of_defined : ∀ level d, latest? Definition.level defined level = some d →
    (Catalog.consult (Level.describe · level) r).result = .ok d.description ∧
      (Catalog.consult (Level.tools · level) r).result = .ok d.tools
  /-- A level that is not defined is described by its label and has no tools. -/
  of_missing : ∀ level, level ∉ defined.map Definition.level →
    (Catalog.consult (Level.describe · level) r).result = .ok level.label ∧
      (Catalog.consult (Level.tools · level) r).result = .ok []

/-! ### Rows -/

/-- The rows of the entries that data list are a table of those that are read. -/
theorem rows_loadListed (listed : Except Fault (List Json)) :
    (loadListed [] listed).rows =
      Table.ofRows Definition.level
        (DefinitionFile.rowsRead (Definition.read .document) listed) := by
  cases listed <;> rfl

/-- The rows of a file are a table of those that it leads with. -/
theorem rows_loader (file : DefinitionFile) :
    (loader file []).rows = Table.ofRows Definition.level (definedBy file) := by
  cases file with
  | missing => rfl
  | broken => rfl
  | unreadable failure => rfl
  | data content =>
      rw [definedBy, DefinitionFile.leading_data fun _ => rfl]
      exact rows_loadListed _
  | extended content =>
      rw [definedBy, DefinitionFile.leading_extended fun _ => rfl]
      exact rows_loadListed _

/-! ### The listing -/

/-- Every level is in the list of all. -/
theorem mem_all (level : Level) : level ∈ all := by
  cases level <;> decide

/-- The list of all levels is in ascending order. -/
theorem pairwise_rank_all : all.Pairwise fun a b => a.rank < b.rank := by
  decide

/-- A definition is listed just if it is the last one of its level. -/
theorem mem_list {d : Definition} :
    d ∈ list (Table.ofRows Definition.level defined) ↔
      latest? Definition.level defined d.level = some d := by
  rw [list, List.mem_filterMap]
  simp only [Table.get?_ofRows]
  constructor
  · rintro ⟨level, -, hlatest⟩
    obtain rfl := Table.key_of_latest? hlatest
    exact hlatest
  · intro hlatest
    exact ⟨d.level, mem_all _, hlatest⟩

/-- The definitions are listed in ascending order of their levels. -/
theorem pairwise_rank_list (defined : List Definition) :
    (list (Table.ofRows Definition.level defined)).Pairwise fun a b =>
      a.level.rank < b.level.rank := by
  refine pairwise_rank_all.filterMap _ fun a b hlt d hd e he => ?_
  rw [Table.get?_ofRows] at hd he
  rwa [Table.key_of_latest? hd, Table.key_of_latest? he]

/-- The listing has the last definition of each level that is defined, and nothing else. -/
theorem isLatest_list (defined : List Definition) :
    IsLatest Definition.level defined (list (Table.ofRows Definition.level defined)) := by
  refine Table.isLatest_of_mem_iff (fun _ => mem_list) ?_
  refine List.pairwise_map.mpr ((pairwise_rank_list defined).imp fun {a b} hlt heq => ?_)
  rw [heq] at hlt
  exact Nat.lt_irrefl _ hlt

/-- The rows and the listing of them are equally many. -/
theorem length_list (defined : List Definition) :
    (Table.ofRows Definition.level defined).length =
      (list (Table.ofRows Definition.level defined)).length := by
  have hvalues := (Table.isLatest_values Definition.level defined).length_eq
  rw [Table.values, List.length_map] at hvalues
  rw [hvalues, (isLatest_list defined).length_eq]

/-! ### The log -/

/-- The levels reported as missing are those without a definition. -/
theorem undefinedIn_ofRows (defined : List Definition) :
    undefinedIn (Table.ofRows Definition.level defined) = missingFrom defined := by
  refine List.filter_congr fun level _ => ?_
  rw [Bool.eq_iff_iff, Bool.not_eq_true', ← Bool.not_eq_true, Table.has_iff,
    Table.mem_keys_ofRows, decide_eq_true_eq]

/-- The log of the entries that data list: the rows that are read, how the reading ended, and which
levels are missing. -/
theorem logs_loadListed (listed : Except Fault (List Json)) :
    ∃ outcome ∈ [⟨.info, "Loaded " ++ Text.decimal (loadListed [] listed).rows.length
          ++ " verification levels"⟩, reportFailure],
      (loadListed [] listed).logs =
        (DefinitionFile.rowsRead (Definition.read .document) listed).map reportRow ++
          outcome :: reportUndefined (loadListed [] listed).rows := by
  cases listed with
  | error fault => exact ⟨reportFailure, by simp, rfl⟩
  | ok items =>
      refine ⟨_, ?_, rfl⟩
      cases (leadingRows (Definition.read .document) items).2 <;> simp [loadListed, loadEntries]

/-- The log of a file that is there: its rows, how the reading ended, and which levels are
missing. -/
theorem logs_loader (h : file ≠ .missing) :
    ∃ outcome ∈ [⟨.info, "Loaded " ++ Text.decimal (loader file []).rows.length
          ++ " verification levels"⟩, reportFailure],
      (loader file []).logs =
        (definedBy file).map reportRow ++ outcome :: reportUndefined (loader file []).rows := by
  cases file with
  | missing => exact absurd rfl h
  | broken => exact ⟨reportFailure, by simp, rfl⟩
  | unreadable failure => exact ⟨reportFailure, by simp, rfl⟩
  | data content =>
      rw [definedBy, DefinitionFile.leading_data fun _ => rfl]
      exact logs_loadListed _
  | extended content =>
      rw [definedBy, DefinitionFile.leading_extended fun _ => rfl]
      exact logs_loadListed _

/-! ### Catalogs -/

/-- A catalog that loads to a table of definitions shows these definitions. -/
theorem shows_of_loadsTo {r : Catalog}
    (h : LoadsTo loader r (Table.ofRows Definition.level defined)) :
    Catalog.Shows defined r where
  get level := by
    rw [← Table.get?_ofRows]
    exact (Answers.consult (Table.get? · level) r h).1
  list := by
    refine ⟨_, (Answers.consult Level.list r h).1, isLatest_list defined,
      pairwise_rank_list defined, ?_, (Answers.consult Level.summaries r h).1⟩
    rw [← length_list]
    exact (Answers.consult List.length r h).1
  of_defined level d hlatest := by
    have hdescribe := (Answers.consult (Level.describe · level) r h).1
    have htools := (Answers.consult (Level.tools · level) r h).1
    simp only [Level.describe, Level.tools, Table.get?_ofRows, hlatest] at hdescribe htools
    exact ⟨hdescribe, htools⟩
  of_missing level hmissing := by
    have hdescribe := (Answers.consult (Level.describe · level) r h).1
    have htools := (Answers.consult (Level.tools · level) r h).1
    have hnone := Table.latest?_eq_none_iff.mpr hmissing
    simp only [Level.describe, Level.tools, Table.get?_ofRows, hnone] at hdescribe htools
    exact ⟨hdescribe, htools⟩

/-- Every request to a catalog has an answer. -/
theorem exists_answer_serve (r : Catalog) (q : Request) :
    ∃ answer, (Catalog.serve q r).result = .ok answer := by
  have hanswers : ∀ {answer}, Answers loader (Catalog.load r).state.rows (Catalog.serve q) answer →
      ∃ answer, (Catalog.serve q r).result = .ok answer :=
    fun h => ⟨_, (h r (loadsTo_load r)).1⟩
  cases q with
  | load => exact hanswers (Answers.load.bind (Answers.pure _))
  | reload =>
      exact ⟨_, Act.bind_eq_ok.mpr ⟨(), Registry.result_reload loader_fault r, rfl⟩⟩
  | write file => exact ⟨_, rfl⟩
  | count => exact hanswers ((Answers.consult List.length).bind (Answers.pure _))
  | list => exact hanswers ((Answers.consult Level.list).bind (Answers.pure _))
  | get level => exact hanswers ((Answers.consult (Table.get? · level)).bind (Answers.pure _))
  | describe level =>
      exact hanswers ((Answers.consult (Level.describe · level)).bind (Answers.pure _))
  | tools level => exact hanswers ((Answers.consult (Level.tools · level)).bind (Answers.pure _))
  | summaries => exact hanswers ((Answers.consult Level.summaries).bind (Answers.pure _))
  | report analysis =>
      have hcoverage := Report.coverageIn_packagedTemplate (Catalog.load r).state.rows analysis
      exact hanswers ((answers_coverage hcoverage).bind (Answers.pure _))

/-- **A catalog shows the leading rows of its file**, whatever the file holds. Loading it never
fails; if there is a file, the log names the levels that none of the rows defines, should there be
any. No request to any catalog fails. -/
theorem loaded_shows (file : DefinitionFile) :
    let loading := Catalog.load (fresh file)
    loading.result = .ok () ∧
      Catalog.Shows (definedBy file) loading.state ∧
      (file ≠ .missing → ∃ outcome ∈ [⟨.info, "Loaded "
            ++ Text.decimal ((definedBy file).map Definition.level).dedup.length
            ++ " verification levels"⟩, reportFailure],
        loading.logs = (definedBy file).map reportRow ++ outcome ::
          if missingFrom (definedBy file) = [] then []
          else [⟨.error, "Level catalog is missing definitions for: "
            ++ Text.joinWith ", " ((missingFrom (definedBy file)).map name)⟩]) ∧
      ∀ (r : Catalog) (q : Request), ∃ answer, (Catalog.serve q r).result = .ok answer := by
  intro loading
  have hloading : loading =
      ⟨.ok (), ⟨file, (loader file []).rows, true⟩, (loader file []).logs⟩ :=
    Registry.load_of_no_fault rfl (loader_fault _ _)
  refine ⟨by rw [hloading], ?_, fun hfile => ?_, exists_answer_serve⟩
  · have hloaded : LoadsTo loader loading.state (loader file []).rows :=
      (Registry.loadsTo_fresh (loader_fault file [])).load
    rw [rows_loader] at hloaded
    exact shows_of_loadsTo hloaded
  · have hlogs := logs_loader hfile
    rw [rows_loader, length_list, (isLatest_list _).length_eq, reportUndefined,
      undefinedIn_ofRows] at hlogs
    rw [hloading]
    simpa only [List.isEmpty_iff] using hlogs

/-- A file with two rows of one level, a row of a lower level between them, and an entry that is no
row before the last one. -/
def jumbled : DefinitionFile :=
  .data (.obj [("levels", .arr [packagedRow 3 "Units" "Behaviour" ["pytest"],
    packagedRow 1 "Types" "Shapes" [], packagedRow 3 "Unit tests" "Examples" ["pytest", "nose"],
    packagedRow 7 "Trust" "Nothing" [], packagedRow 2 "Checks" "Inputs" []])])

/-- The lower level is listed first, the later row counts, and what follows the invalid entry is
missing. -/
theorem loaded_shows_jumbled :
    let loading := Catalog.load (fresh jumbled)
    (Catalog.get .unitTests loading.state).result =
        .ok (some ⟨.unitTests, "Unit tests", "Examples", ["pytest", "nose"]⟩) ∧
      (Catalog.consult Level.summaries loading.state).result =
        .ok [⟨1, "Types", "Shapes", 0⟩, ⟨3, "Unit tests", "Examples", 2⟩] ∧
      (Catalog.consult (Level.describe · .runtimeValidation) loading.state).result =
        .ok "Runtime Validation" ∧
      ∃ outcome, loading.logs = [⟨.debug, "Loaded level 3: Units"⟩,
        ⟨.debug, "Loaded level 1: Types"⟩, ⟨.debug, "Loaded level 3: Unit tests"⟩, outcome,
        ⟨.error, "Level catalog is missing definitions for: RUNTIME_VALIDATION, "
          ++ "INTEGRATION_TESTS, PROPERTY_BASED_TESTS, FORMAL_VERIFICATION"⟩] := by
  intro loading
  obtain ⟨-, hshows, hlogs, -⟩ := loaded_shows jumbled
  have hdefined : definedBy jumbled = [⟨.unitTests, "Units", "Behaviour", ["pytest"]⟩,
      ⟨.staticTypes, "Types", "Shapes", []⟩,
      ⟨.unitTests, "Unit tests", "Examples", ["pytest", "nose"]⟩] := rfl
  refine ⟨?_, rfl, ?_, ?_⟩
  · rw [hshows.get, hdefined]
    rfl
  · refine (hshows.of_missing .runtimeValidation ?_).1
    rw [hdefined]
    decide
  · obtain ⟨outcome, -, hlog⟩ := hlogs (by simp [jumbled])
    exact ⟨outcome, hlog⟩

end Rigor.Level
