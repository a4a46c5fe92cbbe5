import Rigor.Check.Record
import Rigor.Check.Scalar

/-!
# Accepted values

What has to be there for a rule to accept a value: the rules for records and collections, read
backwards from their outcome. An array is accepted if each of its items is (`collectFrom_eq_ok`) and
they are enough (`tuple_eq_ok`), so that what items are written as makes up an array that is read as
these items (`list_map`, `tuple_map`).
-/

namespace Rigor.Check

variable {α β : Type}

/-- What is kept of a check is the value it accepts. -/
theorem toOption_eq_some_iff {x : Checked α} {a : α} : x.toOption = some a ↔ x = .ok a := by
  cases x <;> simp [Checked.toOption]

instance [DecidableEq α] (x : Checked α) (a : α) : Decidable (x = .ok a) :=
  decidable_of_iff (x.toOption = some a) toOption_eq_some_iff

/-- A function is applied to an accepted value and to nothing else. -/
theorem map_eq_ok {f : α → β} {x : Checked α} {b : β} :
    x.map f = .ok b ↔ ∃ a, x = .ok a ∧ f a = b := by
  cases x <;> simp [Checked.map]

/-- Locating the issues of a check leaves the accepted value alone. -/
theorem under_eq_ok {step : Step} {x : Checked α} {a : α} : x.under step = .ok a ↔ x = .ok a := by
  cases x <;> simp [Checked.under]

/-- A second check is made of the value that the first one accepts. -/
theorem andThen_eq_ok {x : Checked α} {f : α → Checked β} {b : β} :
    x.andThen f = .ok b ↔ ∃ a, x = .ok a ∧ f a = .ok b := by
  cases x <;> simp [Checked.andThen]

/-- A verdict accepts what it finds right. -/
theorem ofVerdict_eq_ok {value : Json} {verdict : Except IssueKind α} {a : α} :
    Checked.ofVerdict value verdict = .ok a ↔ verdict = .ok a := by
  cases verdict <;> simp [Checked.ofVerdict, Checked.fail]

/-- An accepted value is still accepted once a function is applied to it. -/
theorem map_ok {f : α → β} {x : Checked α} {a : α} (h : x = .ok a) : f <$> x = .ok (f a) := by
  rw [h]
  rfl

/-- An accepted function takes an accepted value to an accepted one. -/
theorem seq_ok {f : Checked (α → β)} {x : Checked α} {g : α → β} {a : α} (hf : f = .ok g)
    (hx : x = .ok a) : f <*> x = .ok (g a) := by
  rw [hf, hx]
  rfl

/-! ### Records -/

variable {name : String} {rule : Json → Checked α} {members : List (String × Json)} {a : α}

/-- A record is an object whose members are accepted. -/
theorem record_eq_ok {setting : Setting} {read : List (String × Json) → Checked α} {value : Json}
    (h : record setting read value = .ok a) :
    ∃ members, value = .obj members ∧ read members = .ok a := by
  cases value with
  | obj members => exact ⟨members, rfl, h⟩
  | _ => cases h

/-- A required member is accepted if it is there and is accepted itself. -/
theorem orMissing_eq_ok {outcome : Option (Checked α)} :
    orMissing name members outcome = .ok a ↔ outcome = some (.ok a) := by
  cases outcome with
  | none => simp [orMissing]
  | some x => simp [orMissing, under_eq_ok]

/-- A required member is there, and its value is accepted. -/
theorem required_eq_ok :
    required name rule members = .ok a ↔
      ∃ value, Table.get? members name = some value ∧ rule value = .ok a := by
  rw [required, orMissing_eq_ok, Option.map_eq_some_iff]

/-- A required member that is there is what the rule makes of it. -/
theorem required_of_get? {value : Json} (h : Table.get? members name = some value)
    (hrule : rule value = .ok a) : required name rule members = .ok a :=
  required_eq_ok.mpr ⟨value, h, hrule⟩

/-- So is an optional one: the default is for members that are absent. -/
theorem optional_of_get? {default : α} {value : Json} (h : Table.get? members name = some value)
    (hrule : rule value = .ok a) : optional name rule default members = .ok a := by
  rw [optional, h]
  exact under_eq_ok.mpr hrule

/-! ### Collections -/

/-- Outcomes are collected just if every one of them is accepted, wherever counting starts. -/
theorem collectFrom_eq_ok {outcomes : List (Checked α)} {as : List α} (i : Nat) :
    Checked.collectFrom i outcomes = .ok as ↔ outcomes = as.map .ok := by
  induction outcomes generalizing i as with
  | nil => cases as <;> simp [Checked.collectFrom]
  | cons x rest ih =>
      rw [Checked.collectFrom, Checked.map_eq, Checked.seq_eq, Checked.ap_eq_ok]
      simp only [map_eq_ok, under_eq_ok, ih]
      cases as with
      | nil => simp
      | cons a as =>
          rw [List.map_cons, List.cons.injEq]
          constructor
          · rintro ⟨_, bs, ⟨b, hx, rfl⟩, hrest, heq⟩
            obtain ⟨rfl, rfl⟩ := List.cons.inj heq
            exact ⟨hx, hrest⟩
          · rintro ⟨hx, hrest⟩
            exact ⟨List.cons a, as, ⟨a, hx, rfl⟩, hrest, rfl⟩

/-- All of some accepted values count as accepted. -/
theorem countP_isOk (as : List α) : (as.map Checked.ok).countP Checked.isOk = as.length := by
  rw [List.countP_map]
  exact List.countP_eq_length.mpr fun _ _ => rfl

/-- They are collected into a tuple just if there are enough of them, too. -/
theorem collectAtLeast_eq_ok {least : Nat} {array : Json} {outcomes : List (Checked α)}
    {as : List α} :
    Checked.collectAtLeast least array outcomes = .ok as ↔
      outcomes = as.map .ok ∧ least ≤ as.length := by
  unfold Checked.collectAtLeast
  split
  · rename_i hfew
    have hnever : ¬ (outcomes = as.map .ok ∧ least ≤ as.length) := by
      rintro ⟨rfl, henough⟩
      rw [countP_isOk] at hfew
      omega
    rw [iff_false_right hnever]
    cases Checked.collect outcomes <;> simp [Checked.fail]
  · rename_i henough
    rw [Checked.collect, collectFrom_eq_ok, iff_self_and]
    rintro rfl
    rw [countP_isOk] at henough
    omega

/-- A tuple is an array whose items are accepted and enough. -/
theorem tuple_eq_ok {least : Nat} {value : Json} {as : List α} :
    tuple least rule value = .ok as ↔
      ∃ items, value = .arr items ∧ items.map rule = as.map .ok ∧ least ≤ as.length := by
  cases value with
  | arr items => simp [tuple, collectAtLeast_eq_ok]
  | _ => simp [tuple, Checked.fail]

/-- Items that are read as what they stand for. -/
theorem map_rule_map {write : α → Json} {as : List α} (h : ∀ a ∈ as, rule (write a) = .ok a) :
    (as.map write).map rule = as.map .ok := by
  rw [List.map_map]
  exact List.map_congr_left h

/-- An array is accepted as a list if the rule undoes the writing of each item. -/
theorem list_map {write : α → Json} {as : List α} (h : ∀ a ∈ as, rule (write a) = .ok a) :
    list rule (.arr (as.map write)) = .ok as := by
  apply (collectFrom_eq_ok 0).mpr
  exact map_rule_map h

/-- It is accepted as a tuple if there are enough items as well. -/
theorem tuple_map {write : α → Json} {least : Nat} {as : List α} (hleast : least ≤ as.length)
    (h : ∀ a ∈ as, rule (write a) = .ok a) : tuple least rule (.arr (as.map write)) = .ok as :=
  tuple_eq_ok.mpr ⟨_, rfl, map_rule_map h, hleast⟩

/-- A list of texts is read back from the array of them. -/
theorem list_texts (texts : List String) : list text (.arr (texts.map .str)) = .ok texts := by
  apply list_map
  intro s _
  rfl

/-- So is a tuple of texts that is not empty. -/
theorem tuple_texts {texts : List String} (h : texts ≠ []) :
    tuple 1 text (.arr (texts.map .str)) = .ok texts := by
  apply tuple_map (List.length_pos_iff.mpr h)
  intro s _
  rfl

end Rigor.Check
