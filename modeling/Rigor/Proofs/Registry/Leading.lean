import Rigor.Proofs.Registry.Failure

/-!
# Leading rows

The levels and the boundary patterns are read up to the first entry that is not valid. `leading`
says what this makes of a file, whatever it holds: among JSON values entries are listed by an array
and by nothing else (`listed`), and the rows are those before the first invalid entry.

Reading runs through objects and texts as well, over their keys and characters. None of these is a
row, so that nothing comes of it (`rowsBeforeInvalid_of_entriesOf`). Data of a wrong shape have no
rows either, so that the leading rows are what is read in any case (`leading_data`,
`leading_extended`).
-/

namespace Rigor.DefinitionFile

variable {α : Type} {read : Json → Checked α} {name : String} {content : Json}
  {items : List Json}

/-- The rows of entries, up to the first entry that is not valid. -/
def rowsBeforeInvalid (read : Json → Checked α) (items : List Json) : List α :=
  ((items.map read).takeWhile Checked.isOk).filterMap Checked.toOption

/-- The entries that a member lists: the items of an array, and those of a collection that is no
JSON value. Nothing else lists any. -/
def itemsOf : Option Datum → List Json
  | some (.json (.arr items)) => items
  | some (.special value) => value.elements?.getD []
  | _ => []

/-- The entries that a file lists, which are those of the member `name` of its data. Data that are
no object list none. -/
def listed (name : String) : DefinitionFile → List Json
  | .data (.obj members) => itemsOf ((Table.get? members name).map .json)
  | .extended (.object members) => itemsOf (Table.get? members name)
  | _ => []

/-- The rows that a file lists before its first invalid entry. -/
def leading (name : String) (read : Json → Checked α) (file : DefinitionFile) : List α :=
  rowsBeforeInvalid read (file.listed name)

/-- The rows that are read of the entries that data list, if they list any. -/
def rowsRead (read : Json → Checked α) : Except Fault (List Json) → List α
  | .ok items => (leadingRows read items).1
  | .error _ => []

/-- Reading up to the first invalid entry gives the rows before it. -/
theorem fst_leadingRows (read : Json → Checked α) (items : List Json) :
    (leadingRows read items).1 = rowsBeforeInvalid read items := by
  induction items with
  | nil => rfl
  | cons entry rest ih =>
      rw [leadingRows, rowsBeforeInvalid, List.map_cons]
      cases hread : read entry with
      | ok row =>
          have hok : (Checked.ok row).isOk = true := rfl
          rw [List.takeWhile_cons_of_pos hok, List.filterMap_cons]
          exact congrArg (row :: ·) ih
      | issues found =>
          have hissues : ¬ (Checked.issues found : Checked α).isOk = true := Bool.false_ne_true
          rw [List.takeWhile_cons_of_neg hissues, List.filterMap_nil]

/-- Only an array has anything but texts to run through. -/
theorem eq_arr_or_texts {value : Json} (h : value.elements? = some items) :
    value = .arr items ∨ ∀ item ∈ items, ∃ text, item = .str text := by
  cases value with
  | arr _ => exact Or.inl (congrArg Json.arr (Option.some.inj h))
  | obj members =>
      obtain rfl := Option.some.inj h
      refine Or.inr fun item hitem => ?_
      obtain ⟨member, -, rfl⟩ := List.mem_map.mp hitem
      exact ⟨_, rfl⟩
  | str text =>
      obtain rfl := Option.some.inj h
      refine Or.inr fun item hitem => ?_
      obtain ⟨c, -, rfl⟩ := List.mem_map.mp hitem
      exact ⟨_, rfl⟩
  | _ => cases h

/-- Texts are no rows. -/
theorem rowsBeforeInvalid_texts (hread : ∀ text, (read (.str text)).isOk = false)
    (h : ∀ item ∈ items, ∃ text, item = .str text) : rowsBeforeInvalid read items = [] := by
  cases items with
  | nil => rfl
  | cons item rest =>
      obtain ⟨text, rfl⟩ := h _ List.mem_cons_self
      rw [rowsBeforeInvalid, List.map_cons, List.takeWhile_cons_of_neg (by simp [hread]),
        List.filterMap_nil]

/-- What is met in running through a member comes to the rows of its items, if a text is no row. -/
theorem rowsBeforeInvalid_of_entriesOf (hread : ∀ text, (read (.str text)).isOk = false)
    {member : Option Datum} (h : entriesOf member = .ok items) :
    rowsBeforeInvalid read items = rowsBeforeInvalid read (itemsOf member) := by
  rcases entriesOf_eq_ok_iff.mp h with ⟨rfl, rfl⟩ | ⟨value, rfl, helements⟩
  · rfl
  · cases value with
    | special value =>
        have hitems : itemsOf (some (.special value)) = items := by
          rw [itemsOf, show value.elements? = some items from helements, Option.getD_some]
        rw [hitems]
    | json value =>
        rcases eq_arr_or_texts helements with rfl | htexts
        · rfl
        · rw [rowsBeforeInvalid_texts hread htexts]
          cases value with
          | arr found =>
              obtain rfl := Option.some.inj helements
              exact (rowsBeforeInvalid_texts hread htexts).symm
          | _ => rfl

/-- A member that cannot be run through has no items. -/
theorem itemsOf_of_error {member : Option Datum} {fault : Fault}
    (h : entriesOf member = .error fault) : itemsOf member = [] := by
  obtain ⟨value, rfl, helements, -⟩ := entriesOf_eq_error_iff.mp h
  cases value with
  | special value =>
      rw [itemsOf, show value.elements? = none from helements, Option.getD_none]
  | json value =>
      cases value with
      | arr items => cases helements
      | _ => rfl

/-- What is read of a member are the rows of its items, if a text is no row. -/
theorem rowsRead_entriesOf (hread : ∀ text, (read (.str text)).isOk = false)
    (member : Option Datum) :
    rowsRead read (entriesOf member) = rowsBeforeInvalid read (itemsOf member) := by
  cases hentries : entriesOf member with
  | ok items => rw [rowsRead, fst_leadingRows, rowsBeforeInvalid_of_entriesOf hread hentries]
  | error fault =>
      rw [itemsOf_of_error hentries]
      rfl

/-- Data that are no object list nothing. -/
theorem listed_of_ne_obj (h : ∀ members, content ≠ .obj members) :
    listed name (.data content) = [] := by
  cases content with
  | obj members => exact absurd rfl (h members)
  | _ => rfl

/-- The leading rows of data are those that are read of it, if a text is no row. -/
theorem leading_data (hread : ∀ text, (read (.str text)).isOk = false) (name : String)
    (content : Json) :
    leading name read (.data content) = rowsRead read (entries name content) := by
  by_cases hobj : ∃ members, content = .obj members
  · obtain ⟨members, rfl⟩ := hobj
    rw [entries_obj, rowsRead_entriesOf hread, leading, listed]
  · have hne : ∀ members, content ≠ .obj members := fun members h => hobj ⟨members, h⟩
    rw [entries_of_ne_obj hne, leading, listed_of_ne_obj hne]
    cases content.isBlank <;> rfl

/-- So are those of data that are no JSON value. -/
theorem leading_extended (hread : ∀ text, (read (.str text)).isOk = false) (name : String)
    (content : Extended) :
    leading name read (.extended content) = rowsRead read (content.entries name) := by
  cases content with
  | special value =>
      rw [Extended.entries]
      cases value.isBlank <;> rfl
  | object members => rw [Extended.entries, rowsRead_entriesOf hread, leading, listed]

end Rigor.DefinitionFile
