import Rigor.Proofs.Check.Accepted
import Rigor.Proofs.Registry.Answers
import Rigor.Proofs.Text.Ascii
import Rigor.Risk.Packaged
import Rigor.Risk.Register

/-!
# Risk tables as they are read

What the rows of a risk table owe to the file they come from. A row is an entry of the file that
was accepted (`exists_read_of_mem_loader`). It is the only row of its category and is found by it
(`filed_rowsOf`, `get?_category`), and its keywords are the normal forms of those that the entry
lists, none of them empty (`keywords_of_read`). The keywords of the packaged table are plain
text and so in normal form as they stand (`plain_packaged`).
-/

namespace Rigor.Risk

open Check

variable {rows : Rows} {p : Pattern}

/-- The rows that a file comes to. -/
def rowsOf (file : DefinitionFile) : Rows :=
  (loader file []).rows

/-! ### Rows and entries -/

/-- The values of two tables in a row follow each other. -/
theorem values_append (left right : Rows) :
    Table.values (left ++ right) = Table.values left ++ Table.values right :=
  List.map_append

/-- A row after loading was there before, or is an entry that was accepted. -/
theorem mem_values_loadEntries {entries : List Json}
    (h : p ∈ Table.values (loadEntries entries rows).1) :
    p ∈ Table.values rows ∨ ∃ entry ∈ entries, Pattern.read .document entry = .ok p := by
  induction entries generalizing rows with
  | nil => exact Or.inl h
  | cons entry rest ih =>
      have hlater : ∀ rows : Rows, p ∈ Table.values (loadEntries rest rows).1 →
          p ∈ Table.values rows ∨ ∃ e ∈ entry :: rest, Pattern.read .document e = .ok p := by
        intro rows hrows
        rcases ih hrows with hold | ⟨e, he, hread⟩
        · exact Or.inl hold
        · exact Or.inr ⟨e, List.mem_cons_of_mem entry he, hread⟩
      cases hread : Pattern.read .document entry with
      | issues found =>
          rw [loadEntries, hread] at h
          exact hlater rows h
      | ok q =>
          rw [loadEntries, hread] at h
          cases hhas : Table.has rows q.category with
          | true =>
              simp only [hhas, if_true] at h
              exact hlater rows h
          | false =>
              simp only [hhas, if_false, Bool.false_eq_true, Table.putNew] at h
              rcases hlater _ h with hold | hnew
              · rw [values_append, List.mem_append] at hold
                rcases hold with hold | hq
                · exact Or.inl hold
                · obtain rfl : p = q := List.mem_singleton.mp hq
                  exact Or.inr ⟨entry, List.mem_cons_self, hread⟩
              · exact Or.inr hnew

/-- The file holds data that list the entries. -/
inductive HasEntries : DefinitionFile → List Json → Prop where
  | data {content : Json} {entries : List Json} :
      DefinitionFile.entries "patterns" content = .ok entries → HasEntries (.data content) entries
  | extended {content : Extended} {entries : List Json} :
      content.entries "patterns" = .ok entries → HasEntries (.extended content) entries

/-- The rows of data are accepted entries of those that the data list. -/
theorem exists_read_of_mem_loadListed {listed : Except Fault (List Json)}
    (h : p ∈ Table.values (loadListed [] listed).rows) :
    ∃ entries, listed = .ok entries ∧ ∃ entry ∈ entries, Pattern.read .document entry = .ok p := by
  cases listed with
  | error fault => cases h
  | ok entries =>
      rcases mem_values_loadEntries h with hnil | hentry
      · cases hnil
      · exact ⟨entries, rfl, hentry⟩

/-- Every row of a table is an accepted entry of its file. -/
theorem exists_read_of_mem_loader {file : DefinitionFile} (h : p ∈ Table.values (rowsOf file)) :
    ∃ entries, HasEntries file entries ∧
      ∃ entry ∈ entries, Pattern.read .document entry = .ok p := by
  cases file with
  | missing => cases h
  | broken => cases h
  | unreadable failure => cases h
  | data content =>
      obtain ⟨entries, hentries, hread⟩ := exists_read_of_mem_loadListed h
      exact ⟨entries, .data hentries, hread⟩
  | extended content =>
      obtain ⟨entries, hentries, hread⟩ := exists_read_of_mem_loadListed h
      exact ⟨entries, .extended hentries, hread⟩

/-! ### Categories -/

/-- A table in which every pattern is the only row of its category and stands under it. -/
structure Filed (rows : Rows) : Prop where
  /-- No category comes twice. -/
  nodup_keys : (Table.keys rows).Nodup
  /-- Every row stands under its own category. -/
  key_eq : ∀ row ∈ rows, row.1 = row.2.category

/-- A table without rows is filed. -/
theorem filed_nil : Filed ([] : Rows) :=
  ⟨List.nodup_nil, by simp⟩

/-- A pattern put under its own category leaves a table filed. -/
theorem filed_putNew (h : Filed rows) (p : Pattern) :
    Filed (Table.putNew rows p.category p) where
  nodup_keys := Table.nodup_keys_putNew h.nodup_keys p.category p
  key_eq := by
    intro row hrow
    unfold Table.putNew at hrow
    split at hrow
    · exact h.key_eq row hrow
    · rcases List.mem_append.mp hrow with hold | hnew
      · exact h.key_eq row hold
      · rw [List.mem_singleton.mp hnew]

/-- Loading entries leaves a table filed. -/
theorem filed_loadEntries (h : Filed rows) (entries : List Json) :
    Filed (loadEntries entries rows).1 := by
  induction entries generalizing rows with
  | nil => exact h
  | cons entry rest ih =>
      cases hread : Pattern.read .document entry with
      | issues found =>
          rw [loadEntries, hread]
          exact ih h
      | ok p =>
          rw [loadEntries, hread]
          cases hhas : Table.has rows p.category with
          | true =>
              simp only [hhas, if_true]
              exact ih h
          | false =>
              simp only [hhas, if_false, Bool.false_eq_true]
              exact ih (filed_putNew h p)

/-- So does loading what data list. -/
theorem filed_loadListed (listed : Except Fault (List Json)) :
    Filed (loadListed [] listed).rows := by
  cases listed with
  | error fault => exact filed_nil
  | ok entries => exact filed_loadEntries filed_nil entries

/-- Whatever a file holds, every pattern is the only row of its category and stands under it. -/
theorem filed_rowsOf (file : DefinitionFile) : Filed (rowsOf file) := by
  cases file with
  | missing => exact filed_nil
  | broken => exact filed_nil
  | unreadable failure => exact filed_nil
  | data content => exact filed_loadListed _
  | extended content => exact filed_loadListed _

/-- A row is found by its category. -/
theorem get?_category (h : Filed rows) (hp : p ∈ Table.values rows) :
    Table.get? rows p.category = some p := by
  obtain ⟨⟨category, q⟩, hrow, rfl⟩ := List.mem_map.mp hp
  have hkey : category = q.category := h.key_eq _ hrow
  exact Table.get?_of_mem h.nodup_keys (hkey ▸ hrow)

/-- No two rows of a filed table have the same category. -/
theorem nodup_map_category (h : Filed rows) :
    ((Table.values rows).map Pattern.category).Nodup := by
  have hkeys : (Table.values rows).map Pattern.category = Table.keys rows := by
    unfold Table.values Table.keys
    rw [List.map_map]
    exact List.map_congr_left fun row hrow => (h.key_eq row hrow).symm
  rw [hkeys]
  exact h.nodup_keys

/-! ### Keywords -/

/-- Keywords are accepted in their normal forms, if none of these is empty. -/
theorem normalizeAll_eq_ok {written keywords : List String}
    (h : normalizeAll written = .ok keywords) :
    keywords = written.map normalize ∧ ∀ keyword ∈ keywords, keyword ≠ "" := by
  unfold normalizeAll at h
  split at h
  · cases h
  · rename_i hempty
    obtain rfl := Except.ok.inj h
    refine ⟨rfl, fun keyword hkeyword hnil => hempty ?_⟩
    exact List.any_eq_true.mpr ⟨keyword, hkeyword, by rw [hnil]; rfl⟩

/-- The keywords of a row are the normal forms of those that its entry lists. -/
theorem keywords_of_read {setting : Setting} {entry : Json}
    (h : Pattern.read setting entry = .ok p) :
    ∃ members value written, entry = .obj members ∧ Table.get? members "keywords" = some value ∧
      tuple 1 text value = .ok written ∧ p.keywords = written.map normalize ∧
      ∀ keyword ∈ p.keywords, keyword ≠ "" := by
  obtain ⟨members, rfl, hmembers⟩ := record_eq_ok h
  simp only [Checked.map_eq, Checked.seq_eq, Checked.ap_eq_ok, map_eq_ok,
    required_eq_ok] at hmembers
  obtain ⟨_, risk, ⟨_, level, ⟨_, keywords, ⟨category, -, rfl⟩, ⟨value, hvalue, hkeywords⟩, rfl⟩, -,
    rfl⟩, -, rfl⟩ := hmembers
  obtain ⟨written, hwritten, hverdict⟩ := andThen_eq_ok.mp hkeywords
  obtain ⟨hnormal, hnonempty⟩ := normalizeAll_eq_ok (ofVerdict_eq_ok.mp hverdict)
  exact ⟨members, value, written, rfl, hvalue, hwritten, hnormal, hnonempty⟩

/-- A table in which every keyword says something. -/
def Worded (rows : Rows) : Prop :=
  ∀ p ∈ Table.values rows, ∀ keyword ∈ p.keywords, keyword ≠ ""

/-- No keyword of a table that was read is empty. -/
theorem worded_rowsOf (file : DefinitionFile) : Worded (rowsOf file) := by
  intro p hp
  obtain ⟨_, _, _, _, hread⟩ := exists_read_of_mem_loader hp
  obtain ⟨_, _, _, _, _, _, _, hnonempty⟩ := keywords_of_read hread
  exact hnonempty

/-! ### The packaged table -/

/-- A text of plain characters. -/
def IsPlainText (s : String) : Prop :=
  ∀ c ∈ s.toList, Text.isPlain c = true

instance (s : String) : Decidable (IsPlainText s) :=
  inferInstanceAs (Decidable (∀ c ∈ s.toList, Text.isPlain c = true))

/-- Plain text is in normal form as it stands. -/
theorem normalize_of_plain {keyword : String} (h : IsPlainText keyword) :
    normalize keyword = keyword := by
  rw [normalize, Text.strip_of_plain h, Text.lower_of_plain h, String.ofList_toList]

/-- A packaged row with plain keywords has them as they are written. -/
theorem plain_of_read_packagedRow {category risk : String} {level : Nat} {keywords : List String}
    (hkeywords : keywords ≠ []) (hplain : ∀ keyword ∈ keywords, IsPlainText keyword)
    (h : Pattern.read .document (packagedRow category level risk keywords) = .ok p) :
    ∀ keyword ∈ p.keywords, IsPlainText keyword := by
  obtain ⟨members, value, written, hmembers, hvalue, hwritten, hnormal, -⟩ := keywords_of_read h
  obtain rfl := Json.obj.inj hmembers
  obtain rfl : Json.arr (keywords.map .str) = value := Option.some.inj hvalue
  obtain rfl : keywords = written := by
    rw [tuple_texts hkeywords] at hwritten
    exact Checked.ok.inj hwritten
  rw [hnormal]
  intro keyword hkeyword
  obtain ⟨k, hk, rfl⟩ := List.mem_map.mp hkeyword
  rw [normalize_of_plain (hplain k hk)]
  exact hplain k hk

/-- The keywords of the packaged table are plain text. -/
theorem plain_packaged :
    ∀ p ∈ Table.values (rowsOf packaged), ∀ keyword ∈ p.keywords, IsPlainText keyword := by
  intro p hp
  obtain ⟨entries, ⟨hentries⟩, entry, hentry, hread⟩ := exists_read_of_mem_loader hp
  obtain rfl := Except.ok.inj hentries
  simp only [List.mem_cons, List.not_mem_nil, or_false] at hentry
  rcases hentry with rfl | rfl | rfl | rfl | rfl <;>
    exact plain_of_read_packagedRow (by simp) (by simp [IsPlainText, Text.isPlain]) hread

/-- A file with data that list entries is readable. -/
theorem readable_of_entries {file : DefinitionFile}
    (h : ∃ content entries, file = .data content ∧
      DefinitionFile.entries "patterns" content = .ok entries) :
    Registry.Readable loader file := by
  obtain ⟨content, entries, rfl, hentries⟩ := h
  rw [Registry.Readable, loader, hentries]
  rfl

/-- The packaged file is loaded without a fault. -/
theorem loadsTo_packaged :
    Registry.LoadsTo loader (Registry.fresh packaged) (rowsOf packaged) := by
  have hreadable : Registry.Readable loader packaged := readable_of_entries ⟨_, _, rfl, rfl⟩
  rw [rowsOf]
  exact Registry.loadsTo_fresh hreadable

end Rigor.Risk
