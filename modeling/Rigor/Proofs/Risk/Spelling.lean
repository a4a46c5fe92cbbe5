import Rigor.Proofs.Risk.Coherence
import Rigor.Proofs.Text.Sigma

/-!
# Keywords as they are written

A keyword loses its blanks and gets small letters when its entry is read, a text gets them when it
is searched, and neither knows of the other. The small form of a capital sigma, however, depends on
what stands around it. So a keyword that a file lists is found in every text that has it, spelled as
in the file, exactly if it has no capital sigma exposed to the text around it.

* `mem_keywords_of_lists`: the row of an entry has the normal forms of the keywords it lists.
* `finds_iff`: what a register finds of its rows.
* `finds_as_written`: the main statement.
* `not_finds_as_written`: a keyword that is not found where it stands.
-/

namespace Rigor.Risk

open Check
open Registry (LoadsTo fresh)
open Text (Apart Exposed lower)

variable {rows : Rows} {p : Pattern} {r : Register} {keyword code : String}

/-- The entry of a risk table lists the keyword, in this spelling. -/
def Lists (entry : Json) (keyword : String) : Prop :=
  ∃ members items, entry = .obj members ∧ Table.get? members "keywords" = some (.arr items) ∧
    .str keyword ∈ items

/-- The category is among the matches of the text. -/
def Reports (r : Register) (code : String) (category : Category) : Prop :=
  ∃ found, (Register.find code r).result = .ok found ∧ ∃ m ∈ found, m.category = category

/-- The category is among the matches of the text, and the keyword among those that gave it away. -/
def Finds (r : Register) (code : String) (category : Category) (keyword : String) : Prop :=
  ∃ found, (Register.find code r).result = .ok found ∧
    ∃ m ∈ found, m.category = category ∧ keyword ∈ m.keywords

/-! ### Keywords of a row -/

/-- A text among the items of an array is among the texts it is accepted as. -/
theorem mem_of_tuple_text {least : Nat} {items : List Json} {written : List String}
    (h : tuple least text (.arr items) = .ok written) (hkeyword : .str keyword ∈ items) :
    keyword ∈ written := by
  obtain ⟨_, hitems, hread, -⟩ := tuple_eq_ok.mp h
  obtain rfl := Json.arr.inj hitems
  have hmem : text (.str keyword) ∈ written.map Checked.ok := by
    rw [← hread]
    exact List.mem_map_of_mem hkeyword
  obtain ⟨k, hk, heq⟩ := List.mem_map.mp hmem
  rwa [← Checked.ok.inj heq]

/-- The row of an entry has the normal forms of the keywords that the entry lists. -/
theorem mem_keywords_of_lists {setting : Setting} {entry : Json}
    (hread : Pattern.read setting entry = .ok p) (h : Lists entry keyword) :
    normalize keyword ∈ p.keywords := by
  obtain ⟨members, items, rfl, hitems, hkeyword⟩ := h
  obtain ⟨_, value, written, hmembers, hvalue, hwritten, hnormal, -⟩ := keywords_of_read hread
  obtain rfl := Json.obj.inj hmembers
  obtain rfl := Option.some.inj (hitems.symm.trans hvalue)
  rw [hnormal]
  exact List.mem_map_of_mem (mem_of_tuple_text hwritten hkeyword)

/-! ### Matches of a row -/

/-- The matches in a text are those of the rows that are hit. -/
theorem mem_findings {m : Match} :
    m ∈ findings rows code ↔ ∃ q ∈ rowsHit rows code, q.matchIn (Text.toLower code) = m := by
  rw [findings_eq, List.mem_map]

/-- A keyword of a row is found in the texts that have it in their small letters. -/
theorem finds_iff (hr : LoadsTo loader r rows) (hp : p ∈ Table.values rows)
    (hkeyword : keyword ∈ p.keywords) :
    Finds r code p.category keyword ↔ keyword.toList <:+: lower code.toList := by
  have hfind := (answers_find code r hr).1
  constructor
  · rintro ⟨found, hfound, m, hm, -, hmkeyword⟩
    obtain rfl := Except.ok.inj (hfind.symm.trans hfound)
    obtain ⟨q, -, rfl⟩ := mem_findings.mp hm
    exact (mem_hits.mp hmkeyword).2
  · intro hinfix
    have hhit : p ∈ rowsHit rows code := mem_rowsHit.mpr ⟨hp, keyword, hkeyword, hinfix⟩
    exact ⟨_, hfind, _, mem_findings.mpr ⟨p, hhit, rfl⟩, rfl, mem_hits.mpr ⟨hkeyword, hinfix⟩⟩

/-- A category is reported exactly if some keyword of its only row is found. -/
theorem reports_iff (hr : LoadsTo loader r rows) (hfiled : Filed rows)
    (hp : p ∈ Table.values rows) :
    Reports r code p.category ↔ ∃ keyword ∈ p.keywords, Finds r code p.category keyword := by
  have hfind := (answers_find code r hr).1
  constructor
  · rintro ⟨found, hfound, hreported⟩
    obtain rfl := Except.ok.inj (hfind.symm.trans hfound)
    rw [exists_mem_findings_iff hfiled hp] at hreported
    obtain ⟨-, keyword, hkeyword, hinfix⟩ := mem_rowsHit.mp (List.mem_filter.mpr ⟨hp, hreported⟩)
    exact ⟨keyword, hkeyword, (finds_iff hr hp hkeyword).mpr hinfix⟩
  · rintro ⟨keyword, -, found, hfound, m, hm, hcategory, -⟩
    exact ⟨found, hfound, m, hm, hcategory⟩

/-! ### Keywords in texts -/

/-- A keyword is found in a text that it is written in just if its own small letters occur in those
of the text. -/
theorem finds_surrounded_iff (hr : LoadsTo loader r rows) (hp : p ∈ Table.values rows)
    (hkeyword : normalize keyword ∈ p.keywords) (before after : String) :
    Finds r (before ++ keyword ++ after) p.category (normalize keyword) ↔
      lower (Text.strip keyword.toList) <:+:
        lower (before.toList ++ keyword.toList ++ after.toList) := by
  rw [finds_iff hr hp hkeyword, normalize, String.toList_ofList, String.toList_append,
    String.toList_append]

/-- A keyword is found in every text around it exactly if it has no exposed sigma. -/
theorem forall_finds_iff (hr : LoadsTo loader r rows) (hp : p ∈ Table.values rows)
    (hkeyword : normalize keyword ∈ p.keywords) :
    (∀ before after : String,
      Finds r (before ++ keyword ++ after) p.category (normalize keyword)) ↔
        ¬ Exposed keyword.toList := by
  rw [← Text.forall_infix_lower_iff]
  simp only [finds_surrounded_iff hr hp hkeyword]
  constructor
  · intro h front back
    simpa using h (String.ofList front) (String.ofList back)
  · intro h before after
    exact h before.toList after.toList

/-- **Which keywords are found as they are written.** Of an entry that makes a row of the table, a
keyword is found in every text around it that keeps its cased characters apart from exposed sigmas.
It is found in every text around it exactly if it has no such sigma. If the row has no other
keyword, then this is also when its category is reported in every text around it. -/
theorem finds_as_written (file : DefinitionFile) (r : Register) (entry : Json) (p : Pattern)
    (keyword : String) (hr : LoadsTo loader r (rowsOf file))
    (hp : p ∈ Table.values (rowsOf file)) (hread : Pattern.read .document entry = .ok p)
    (hkeyword : Lists entry keyword) :
    (∀ before after : String, Apart before.toList keyword.toList after.toList →
      Reports r (before ++ keyword ++ after) p.category ∧
        Finds r (before ++ keyword ++ after) p.category (normalize keyword)) ∧
    ((∀ before after : String,
      Finds r (before ++ keyword ++ after) p.category (normalize keyword)) ↔
        ¬ Exposed keyword.toList) ∧
    (p.keywords = [normalize keyword] →
      ((∀ before after : String, Reports r (before ++ keyword ++ after) p.category) ↔
        ¬ Exposed keyword.toList)) := by
  have hstored := mem_keywords_of_lists hread hkeyword
  refine ⟨fun before after hapart => ?_, forall_finds_iff hr hp hstored, fun honly => ?_⟩
  · have hfinds := (finds_surrounded_iff hr hp hstored before after).mpr
      (Text.infix_lower_of_apart hapart)
    exact ⟨(reports_iff hr (filed_rowsOf file) hp).mpr ⟨_, hstored, hfinds⟩, hfinds⟩
  · rw [← forall_finds_iff hr hp hstored]
    simp only [reports_iff hr (filed_rowsOf file) hp, honly, List.mem_singleton, exists_eq_left]

/-- A file with one row, of one keyword. -/
def singleWord (keyword : String) : DefinitionFile :=
  .data (.obj [("patterns", .arr [packagedRow "security" 4 "Secrets" [keyword]])])

/-- The file with one keyword is loaded without a fault. -/
theorem loadsTo_singleWord (keyword : String) :
    LoadsTo loader (fresh (singleWord keyword)) (rowsOf (singleWord keyword)) :=
  Registry.loadsTo_fresh (readable_of_entries ⟨_, _, rfl, rfl⟩)

/-- A keyword with a sigma at its start, before another letter. -/
theorem finds_as_written_greek :
    let entry := packagedRow "security" 4 "Secrets" ["ΣΗΜΑ "]
    let p : Pattern := ⟨.security, ["σημα"], .integrationTests, "Secrets"⟩
    let r : Register := fresh (singleWord "ΣΗΜΑ ")
    LoadsTo loader r (rowsOf (singleWord "ΣΗΜΑ ")) ∧
      p ∈ Table.values (rowsOf (singleWord "ΣΗΜΑ ")) ∧
      Pattern.read .document entry = .ok p ∧ Lists entry "ΣΗΜΑ " ∧
      ∀ before after : String, Finds r (before ++ "ΣΗΜΑ " ++ after) .security "σημα" ∧
        Reports r (before ++ "ΣΗΜΑ " ++ after) .security := by
  intro entry p r
  have hr : LoadsTo loader r (rowsOf (singleWord "ΣΗΜΑ ")) := loadsTo_singleWord _
  have hread : Pattern.read .document entry = .ok p := by decide +kernel
  have hrow : p ∈ Table.values (rowsOf (singleWord "ΣΗΜΑ ")) := by decide +kernel
  have hlists : Lists entry "ΣΗΜΑ " := ⟨_, _, rfl, rfl, List.mem_singleton.mpr rfl⟩
  have hnormal : normalize "ΣΗΜΑ " = "σημα" := by decide +kernel
  have hexposed : ¬ Exposed "ΣΗΜΑ ".toList := by decide +kernel
  obtain ⟨-, hfinds, hreports⟩ := finds_as_written _ r entry p "ΣΗΜΑ " hr hrow hread hlists
  rw [hnormal] at hfinds hreports
  exact ⟨hr, hrow, hread, hlists, fun before after =>
    ⟨hfinds.mpr hexposed before after, (hreports rfl).mpr hexposed before after⟩⟩

/-- A sigma that ends the keyword is a final one, but not before the letter that follows in the
text. -/
theorem not_finds_as_written :
    let entry := packagedRow "security" 4 "Secrets" ["ΑΣ"]
    Pattern.read .document entry = .ok ⟨.security, ["ας"], .integrationTests, "Secrets"⟩ ∧
      Lists entry "ΑΣ" ∧
      (Register.find ("" ++ "ΑΣ" ++ "Α") (fresh (singleWord "ΑΣ"))).result = .ok [] ∧
      ¬ Reports (fresh (singleWord "ΑΣ")) ("" ++ "ΑΣ" ++ "Α") .security := by
  intro entry
  have hread : Pattern.read .document entry =
      .ok ⟨.security, ["ας"], .integrationTests, "Secrets"⟩ := by decide +kernel
  have hnone : findings (rowsOf (singleWord "ΑΣ")) ("" ++ "ΑΣ" ++ "Α") = [] := by decide +kernel
  have hfind := (answers_find ("" ++ "ΑΣ" ++ "Α") _ (loadsTo_singleWord "ΑΣ")).1
  rw [hnone] at hfind
  refine ⟨hread, ⟨_, _, rfl, rfl, List.mem_singleton.mpr rfl⟩, hfind, ?_⟩
  rintro ⟨found, hfound, m, hm, -⟩
  obtain rfl := Except.ok.inj (hfind.symm.trans hfound)
  cases hm

end Rigor.Risk
