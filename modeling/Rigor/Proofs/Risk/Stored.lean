import Rigor.Proofs.Check.Found
import Rigor.Proofs.Risk.Keywords
import Rigor.Proofs.Risk.Spelling

/-!
# Stored keywords

Every keyword of a row can be found, by itself to begin with: it is not empty, its normal form is
the keyword itself, and it is what it becomes as a text that is searched. A keyword that could not
be found is one of blanks only, and an entry which lists such a keyword makes no row.

* `finds_itself`: a keyword of a row is found in the text that it is.
* `normalize_eq_empty_iff`: only texts of blanks have the empty normal form.
* `mem_found_read`: the issues of an entry that are below its keywords are those of the keywords.
* `rejected_iff`: which entries are rejected for an unsound keyword.
* `stored_keywords_found`: the main statement.
-/

namespace Rigor.Risk

open Check
open Registry (LoadsTo fresh)

variable {p : Pattern} {rows : Rows} {r : Register} {keyword : String}

/-! ### Keywords in normal form -/

/-- A keyword in normal form has small letters only. -/
theorem toLower_of_normal (h : normalize keyword = keyword) : Text.toLower keyword = keyword := by
  rw [← h, Text.toLower, normalize, String.toList_ofList, Text.lower_lower]

/-- It begins and ends with characters that are not blank. -/
theorem visibleEnds_of_normal (h : normalize keyword = keyword) :
    Text.HasVisibleEnds keyword.toList := by
  rw [← h, normalize, String.toList_ofList]
  exact Text.visibleEnds_lower (Text.visibleEnds_strip _)

/-- A keyword of a row is found in the text that it is. -/
theorem finds_itself (hr : LoadsTo loader r rows) (hp : p ∈ Table.values rows)
    (hkeyword : keyword ∈ p.keywords) (hnormal : normalize keyword = keyword) :
    Finds r keyword p.category keyword := by
  have hlower : Text.lower keyword.toList = keyword.toList := by
    have h := congrArg String.toList (toLower_of_normal hnormal)
    rwa [Text.toLower, String.toList_ofList] at h
  rw [finds_iff hr hp hkeyword, hlower]

/-! ### Blank keywords -/

/-- A text of blanks only, such as the empty one. -/
def IsBlankText (text : String) : Prop :=
  ∀ c ∈ text.toList, Text.isBlank c = true

instance (text : String) : Decidable (IsBlankText text) :=
  inferInstanceAs (Decidable (∀ c ∈ text.toList, Text.isBlank c = true))

/-- The normal form of a keyword is empty just if the keyword is blank. -/
theorem normalize_eq_empty_iff : normalize keyword = "" ↔ IsBlankText keyword := by
  rw [normalize, ← String.toList_inj, String.toList_ofList, String.toList_empty,
    Text.lower_eq_nil_iff, Text.strip_eq_nil_iff]
  rfl

/-- Keywords are unsound just if one of them is blank. -/
theorem exists_found_ofVerdict_iff {value : Json} {written : List String} :
    (∃ issue ∈ (Checked.ofVerdict value (normalizeAll written)).found,
      issue.kind = .unsound ∧ issue.place = []) ↔ ∃ keyword ∈ written, IsBlankText keyword := by
  have hempty : (written.map normalize).any String.isEmpty = true ↔
      ∃ keyword ∈ written, IsBlankText keyword := by
    simp [← normalize_eq_empty_iff]
  rw [← hempty, normalizeAll]
  split
  · next h => simp [Checked.ofVerdict, Checked.fail, Checked.found, h]
  · next h => simp [Checked.ofVerdict, Checked.found, h]

/-! ### Arrays of texts -/

/-- Items are accepted as texts just if they are these texts. -/
theorem map_text_eq_iff {items : List Json} {texts : List String} :
    items.map text = texts.map .ok ↔ items = texts.map .str := by
  constructor
  · intro h
    induction items generalizing texts with
    | nil =>
        rw [List.map_nil, eq_comm, List.map_eq_nil_iff] at h
        rw [h]
        rfl
    | cons item rest ih =>
        cases texts with
        | nil => cases h
        | cons s texts =>
            obtain ⟨hitem, hrest⟩ := List.cons.inj h
            rw [ih hrest]
            cases item <;> cases hitem
            rfl
  · rintro rfl
    rw [List.map_map]
    rfl

/-- A value is accepted as a tuple of texts just if it is the array of them, and there are some. -/
theorem tuple_text_eq_ok_iff {value : Json} {texts : List String} :
    tuple 1 text value = .ok texts ↔ value = .arr (texts.map .str) ∧ texts ≠ [] := by
  rw [tuple_eq_ok]
  simp only [map_text_eq_iff, ← List.length_pos_iff]
  constructor
  · rintro ⟨_, rfl, rfl, hlength⟩
    exact ⟨rfl, hlength⟩
  · rintro ⟨rfl, hlength⟩
    exact ⟨_, rfl, rfl, hlength⟩

/-- Nothing is unsound about an array of texts as such. -/
theorem sound_of_mem_found_tuple {value : Json} {issue : Issue}
    (h : issue ∈ (tuple 1 text value).found) : issue.kind ≠ .unsound := by
  have htext : ∀ item, (text item).Reports fun issue => issue.kind ≠ .unsound := by
    intro item
    cases item with
    | str s => exact .ok s
    | _ => exact .fail nofun
  have htuple : (tuple 1 text value).Reports fun issue => issue.kind ≠ .unsound := by
    cases value with
    | arr items =>
        refine .collectAtLeast (fun _ => nofun) fun i x hx => ?_
        rw [List.getElem?_map, Option.map_eq_some_iff] at hx
        obtain ⟨item, -, rfl⟩ := hx
        exact htext item
    | _ => exact .fail nofun
  exact htuple.forall_found issue h

/-- The keywords of an entry are unsound just if they are texts, at least one, and one is blank. -/
theorem exists_found_readKeywords_iff {value : Json} :
    (∃ issue ∈ (Pattern.readKeywords value).found, issue.kind = .unsound ∧ issue.place = []) ↔
      ∃ written, value = .arr (written.map .str) ∧ written ≠ [] ∧
        ∃ keyword ∈ written, IsBlankText keyword := by
  constructor
  · rintro ⟨issue, hissue, hkind, hplace⟩
    rcases Checked.mem_found_andThen.mp hissue with htuple | ⟨written, hwritten, hverdict⟩
    · exact absurd hkind (sound_of_mem_found_tuple htuple)
    · obtain ⟨hvalue, hsome⟩ := tuple_text_eq_ok_iff.mp hwritten
      have hblank := exists_found_ofVerdict_iff.mp ⟨issue, hverdict, hkind, hplace⟩
      exact ⟨written, hvalue, hsome, hblank⟩
  · rintro ⟨written, rfl, hsome, hblank⟩
    obtain ⟨issue, hverdict, hissue⟩ := exists_found_ofVerdict_iff.mpr hblank
    have hwritten := tuple_text_eq_ok_iff.mpr ⟨rfl, hsome⟩
    exact ⟨issue, Checked.mem_found_andThen.mpr (Or.inr ⟨written, hwritten, hverdict⟩), hissue⟩

/-! ### Rejected entries -/

/-- The entry is rejected, and that a keyword breaks a rule of its own is among the reasons. -/
def RejectedForKeyword (setting : Setting) (entry : Json) : Prop :=
  ∃ issues, Pattern.read setting entry = .issues issues ∧
    ∃ issue ∈ issues, issue.kind = .unsound ∧ issue.place = [.key "keywords"]

/-- The entry lists texts as its keywords, at least one, and one of them is blank. -/
def ListsBlank (entry : Json) : Prop :=
  ∃ members written, entry = .obj members ∧
    Table.get? members "keywords" = some (.arr (written.map .str)) ∧ written ≠ [] ∧
    ∃ keyword ∈ written, IsBlankText keyword

/-- What is found below the keywords of an entry is found of its keywords. -/
theorem mem_found_read {setting : Setting} {members : List (String × Json)} {issue : Issue}
    (hplace : issue.place.head? = some (.key "keywords")) :
    issue ∈ (Pattern.read setting (.obj members)).found ↔
      issue ∈ (required "keywords" Pattern.readKeywords members).found := by
  have hother : ∀ {α : Type} (name : String) (rule : Json → Checked α), name ≠ "keywords" →
      issue ∉ (required name rule members).found := by
    intro α name rule hname hissue
    have hhead := head?_place_of_required hissue
    rw [hplace, Option.some.injEq, Step.key.injEq] at hhead
    exact hname hhead.symm
  simp only [Pattern.read, record, Checked.map_eq, Checked.seq_eq, Checked.found_ap,
    Checked.found_map, List.mem_append]
  simp [hother]

/-- An entry is turned down for a keyword just if it lists a blank one among texts. -/
theorem rejected_iff {setting : Setting} {entry : Json} :
    RejectedForKeyword setting entry ↔ ListsBlank entry := by
  have hthere : IssueKind.unsound ≠ .missing := nofun
  rw [RejectedForKeyword, Checked.exists_issues_iff]
  constructor
  · rintro ⟨issue, hissue, hkind, hplace⟩
    cases entry with
    | obj members =>
        rw [mem_found_read (by rw [hplace]; rfl)] at hissue
        obtain ⟨value, hvalue, hunsound⟩ :=
          (exists_found_required_iff hthere).mp ⟨issue, hissue, hkind, hplace⟩
        obtain ⟨written, rfl, hwritten⟩ := exists_found_readKeywords_iff.mp hunsound
        exact ⟨members, written, rfl, hvalue, hwritten⟩
    | _ =>
        rw [List.mem_singleton.mp hissue] at hplace
        cases hplace
  · rintro ⟨members, written, rfl, hvalue, hwritten⟩
    have hunsound := exists_found_readKeywords_iff.mpr ⟨written, rfl, hwritten⟩
    obtain ⟨issue, hissue, hkind, hplace⟩ :=
      (exists_found_required_iff hthere).mpr ⟨_, hvalue, hunsound⟩
    refine ⟨issue, ?_, hkind, hplace⟩
    rw [mem_found_read (by rw [hplace]; rfl)]
    exact hissue

/-! ### Main statement -/

/-- **No keyword is kept that cannot be found.** The keywords of an accepted entry are not empty,
have no blanks at their ends and no capital letters, so that their normal forms are what they are;
and each of them, taken as a text, is found in itself, by every register that has the row. An entry
is rejected for a keyword that breaks a rule just if its keywords are texts, at least one, and one
of them has nothing but blanks. -/
theorem stored_keywords_found :
    (∀ (setting : Setting) (entry : Json) (p : Pattern), Pattern.read setting entry = .ok p →
      ∀ keyword ∈ p.keywords,
        keyword ≠ "" ∧ Text.HasVisibleEnds keyword.toList ∧ Text.toLower keyword = keyword ∧
        normalize keyword = keyword ∧
        ∀ (r : Register) (rows : Rows), LoadsTo loader r rows → p ∈ Table.values rows →
          Finds r keyword p.category keyword) ∧
    ∀ (setting : Setting) (entry : Json), RejectedForKeyword setting entry ↔ ListsBlank entry := by
  refine ⟨fun setting entry p hread keyword hkeyword => ?_, fun setting entry => rejected_iff⟩
  obtain ⟨hnormal, hsome⟩ := (normal_of_read hread).2 keyword hkeyword
  exact ⟨hsome, visibleEnds_of_normal hnormal, toLower_of_normal hnormal, hnormal,
    fun r rows hr hp => finds_itself hr hp hkeyword hnormal⟩

/-- A keyword between blanks that ends with a capital sigma is kept and found with a final one. -/
theorem stored_keywords_found_sigma :
    let entry := packagedRow "security" 4 "Secrets" [" ΟΔΟΣ\n"]
    let p : Pattern := ⟨.security, ["οδος"], .integrationTests, "Secrets"⟩
    let r : Register := fresh (singleWord " ΟΔΟΣ\n")
    Pattern.read .document entry = .ok p ∧ "οδος" ∈ p.keywords ∧
      LoadsTo loader r (rowsOf (singleWord " ΟΔΟΣ\n")) ∧
      p ∈ Table.values (rowsOf (singleWord " ΟΔΟΣ\n")) ∧
      Text.toLower "οδος" = "οδος" ∧ Finds r "οδος" .security "οδος" := by
  intro entry p r
  have hread : Pattern.read .document entry = .ok p := by decide +kernel
  have hkeyword : "οδος" ∈ p.keywords := List.mem_singleton.mpr rfl
  have hr : LoadsTo loader r (rowsOf (singleWord " ΟΔΟΣ\n")) := loadsTo_singleWord _
  have hrow : p ∈ Table.values (rowsOf (singleWord " ΟΔΟΣ\n")) := by decide +kernel
  obtain ⟨-, -, hlower, -, hfinds⟩ := stored_keywords_found.1 .document entry p hread _ hkeyword
  exact ⟨hread, hkeyword, hr, hrow, hlower, hfinds r _ hr hrow⟩

end Rigor.Risk
