import Rigor.Boundary.Packaged
import Rigor.Proofs.Registry.Leading
import Rigor.Proofs.Registry.Requests
import Rigor.Proofs.Table.Latest

/-!
# What a library shows

A library shows the leading rows of its file. A key has the last of its rows, and is listed where
its first one stands; so a row that is replaced keeps its place. Nothing in a file makes a library
fail.

* `rows_loader`: the rows are a table of the leading rows, whatever the file holds.
* `Library.Shows`: the answers that are given from such a table.
* `loaded_shows_latest`: the main statement.
-/

namespace Rigor.Boundary

open Registry (Answers LoadsTo fresh)
open Table (IsLatest latest? place)

variable {patterns : List Pattern}

/-- The patterns that a file leads with. -/
def patternsOf (file : DefinitionFile) : List Pattern :=
  file.leading "patterns" (Pattern.read .document)

/-- What a library answers that shows some patterns. -/
structure Library.Shows (patterns : List Pattern) (r : Library) : Prop where
  /-- A key has its last pattern. -/
  get : ∀ key, (Library.get key r).result = .ok (latest? Pattern.key patterns key)
  /-- The last patterns are listed, one of each key, in the order of the first ones. There are as
  many as different keys. -/
  list : ∃ table, (Library.list r).result = .ok table ∧
    IsLatest Pattern.key patterns table ∧
    (table.Pairwise fun p q =>
      place Pattern.key patterns p.key < place Pattern.key patterns q.key) ∧
    (Library.count r).result = .ok table.length ∧
    table.length = (patterns.map Pattern.key).dedup.length

/-- The rows of the entries that data list are a table of those that are read. -/
theorem rows_loadListed (listed : Except Fault (List Json)) :
    (loadListed [] listed).rows =
      Table.ofRows Pattern.key (DefinitionFile.rowsRead (Pattern.read .document) listed) := by
  cases listed <;> rfl

/-- The rows of a file are a table of those that it leads with. -/
theorem rows_loader (file : DefinitionFile) :
    (loader file []).rows = Table.ofRows Pattern.key (patternsOf file) := by
  cases file with
  | missing => rfl
  | broken => rfl
  | unreadable failure => rfl
  | data content =>
      rw [patternsOf, DefinitionFile.leading_data fun _ => rfl]
      exact rows_loadListed _
  | extended content =>
      rw [patternsOf, DefinitionFile.leading_extended fun _ => rfl]
      exact rows_loadListed _

/-- A library that loads to a table of patterns shows these patterns. -/
theorem shows_of_loadsTo {r : Library}
    (h : LoadsTo loader r (Table.ofRows Pattern.key patterns)) : Library.Shows patterns r where
  get key := by
    rw [← Table.get?_ofRows]
    exact (Answers.consult (Table.get? · key) r h).1
  list := by
    have hlatest := Table.isLatest_values Pattern.key patterns
    have hcount := (Answers.consult List.length r h).1
    refine ⟨_, (Answers.consult Table.values r h).1, hlatest,
      Table.pairwise_place_values Pattern.key patterns, ?_, hlatest.length_eq⟩
    rwa [Table.values, List.length_map]

/-- Every request to a library has an answer. -/
theorem exists_answer_serve (r : Library) (q : Request) :
    ∃ answer, (Library.serve q r).result = .ok answer := by
  have hanswers : ∀ {answer}, Answers loader (Library.load r).state.rows (Library.serve q) answer →
      ∃ answer, (Library.serve q r).result = .ok answer :=
    fun h => ⟨_, (h r (Registry.loadsTo_load loader_fault r)).1⟩
  cases q with
  | load => exact hanswers (Answers.load.bind (Answers.pure _))
  | write file => exact ⟨_, rfl⟩
  | count => exact hanswers ((Answers.consult List.length).bind (Answers.pure _))
  | list => exact hanswers ((Answers.consult Table.values).bind (Answers.pure _))
  | get key => exact hanswers ((Answers.consult (Table.get? · key)).bind (Answers.pure _))

/-- **A library shows the last row of each key at the place of the first**, among the leading rows
of its file, whatever the file holds. No request to any library fails. -/
theorem loaded_shows_latest (file : DefinitionFile) :
    (Library.load (fresh file)).result = .ok () ∧
      Library.Shows (patternsOf file) (Library.load (fresh file)).state ∧
      ∀ (r : Library) (q : Request), ∃ answer, (Library.serve q r).result = .ok answer := by
  have hloads : LoadsTo loader (fresh file) (loader file []).rows :=
    Registry.loadsTo_fresh (loader_fault file [])
  have hloaded : LoadsTo loader (Library.load (fresh file)).state (loader file []).rows :=
    hloads.load
  rw [rows_loader] at hloaded
  exact ⟨hloads.result_load, shows_of_loadsTo hloaded, exists_answer_serve⟩

/-- A file with two rows of one key, another row between them, and an entry that is no row before
the last one. -/
def revised : DefinitionFile :=
  .data (.obj [("patterns", .arr [packagedRow "login" "Login" "" [] "string()",
    packagedRow "page" "Page" "" [] "number()",
    packagedRow "login" "Sign-in" "" [("user", .null)] "string()", .str "page",
    packagedRow "page" "Paging" "" [] "number()"])])

/-- The revised row stands first, and what follows the invalid entry is not there. -/
theorem loaded_shows_latest_revised :
    let r := (Library.load (fresh revised)).state
    (Library.get "login" r).result =
        .ok (some ⟨"login", "Sign-in", "", "string()", [("user", .null)]⟩) ∧
      (Library.get "logout" r).result = .ok none ∧
      (Library.list r).result = .ok [⟨"login", "Sign-in", "", "string()", [("user", .null)]⟩,
        ⟨"page", "Page", "", "number()", []⟩] ∧
      (Library.count r).result = .ok 2 := by
  intro r
  obtain ⟨-, hshows, -⟩ := loaded_shows_latest revised
  obtain ⟨table, hlist, -, -, hcount, hlength⟩ := hshows.list
  have hpatterns : patternsOf revised = [⟨"login", "Login", "", "string()", []⟩,
      ⟨"page", "Page", "", "number()", []⟩,
      ⟨"login", "Sign-in", "", "string()", [("user", .null)]⟩] := rfl
  refine ⟨?_, ?_, rfl, ?_⟩
  · rw [hshows.get, hpatterns]
    rfl
  · rw [hshows.get, hpatterns]
    rfl
  · rw [hcount, hlength, hpatterns]
    rfl

end Rigor.Boundary
