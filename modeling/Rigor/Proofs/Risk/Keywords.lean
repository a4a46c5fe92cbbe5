import Rigor.Proofs.Model.Written
import Rigor.Proofs.Risk.Table
import Rigor.Proofs.Text.SmallLetters

/-!
# Keywords in normal form

The normal form of a keyword is its own normal form (`normalize_normalize`). So a row of the risk
table, written with the keywords it has, is read back as it is (`Pattern.read_toJson_of_read`).
-/

namespace Rigor.Risk

open Check

variable {p : Pattern}

/-- A keyword is brought into normal form once and for all. -/
theorem normalize_normalize (keyword : String) :
    normalize (normalize keyword) = normalize keyword := by
  rw [normalize, normalize, String.toList_ofList, Text.strip_lower_strip, Text.lower_lower]

/-- Keywords in normal form, none of them empty, pass as they are. -/
theorem normalizeAll_of_normal {keywords : List String}
    (h : ∀ keyword ∈ keywords, normalize keyword = keyword ∧ keyword ≠ "") :
    normalizeAll keywords = .ok keywords := by
  have hmap : keywords.map normalize = keywords :=
    (List.map_congr_left fun keyword hkeyword => (h keyword hkeyword).1).trans
      (List.map_id keywords)
  rw [normalizeAll, hmap, if_neg]
  rw [List.any_eq_true]
  rintro ⟨keyword, hkeyword, hempty⟩
  exact (h keyword hkeyword).2 (String.isEmpty_iff.mp hempty)

/-- Keywords in normal form, none of them empty, are read back as they are. -/
theorem readKeywords_of_normal {keywords : List String} (hsome : keywords ≠ [])
    (h : ∀ keyword ∈ keywords, normalize keyword = keyword ∧ keyword ≠ "") :
    Pattern.readKeywords (.arr (keywords.map .str)) = .ok keywords := by
  apply andThen_eq_ok.mpr
  refine ⟨keywords, tuple_texts hsome, ?_⟩
  apply ofVerdict_eq_ok.mpr
  exact normalizeAll_of_normal h

/-- The keywords of a row are in normal form, and there are some. -/
theorem normal_of_read {setting : Setting} {value : Json} (h : Pattern.read setting value = .ok p) :
    p.keywords ≠ [] ∧ ∀ keyword ∈ p.keywords, normalize keyword = keyword ∧ keyword ≠ "" := by
  obtain ⟨_, _, written, -, -, hwritten, hkeywords, hnonempty⟩ := keywords_of_read h
  obtain ⟨_, -, -, hlength⟩ := tuple_eq_ok.mp hwritten
  constructor
  · rw [hkeywords, ← List.length_pos_iff, List.length_map]
    omega
  · intro keyword hkeyword
    refine ⟨?_, hnonempty keyword hkeyword⟩
    rw [hkeywords] at hkeyword
    obtain ⟨k, -, rfl⟩ := List.mem_map.mp hkeyword
    exact normalize_normalize k

/-- A row of the risk table is read back from what it is written as. -/
theorem Pattern.read_toJson_of_read {setting : Setting} {value : Json}
    (h : read setting value = .ok p) (later : Setting) : read later p.toJson = .ok p := by
  obtain ⟨hsome, hnormal⟩ := normal_of_read h
  have hkeywords : readKeywords (.arr (p.keywords.map .str)) = .ok p.keywords :=
    readKeywords_of_normal hsome hnormal
  refine seq_ok (seq_ok (seq_ok (map_ok ?category) ?keywords) ?level) ?risk
  case category => exact required_of_get? rfl p.category.read_toJson
  case keywords => exact required_of_get? rfl hkeywords
  case level => exact required_of_get? rfl p.level.read_toJson
  case risk => exact required_of_get? rfl rfl

end Rigor.Risk
