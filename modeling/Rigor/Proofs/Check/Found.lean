import Rigor.Proofs.Check.Reported

/-!
# The issues that are found

The issues of a checked value as a list, which is empty if there is none. A record has the issues of
its members one after the other (`found_ap`), each below the name of its member
(`head?_place_of_required`), so that an issue tells by its place which rule found it.
-/

namespace Rigor

open Check

namespace Checked

variable {α β : Type}

/-- What is wrong with a value. -/
def found : Checked α → List Issue
  | .ok _ => []
  | .issues found => found

/-- The issues of two checks are those of the first and then those of the second. -/
theorem found_ap (f : Checked (α → β)) (x : Checked α) : (f.ap x).found = f.found ++ x.found := by
  cases f with
  | ok f => cases x <;> rfl
  | issues first =>
      cases x with
      | ok a => exact (List.append_nil first).symm
      | issues second => rfl

/-- Changing the accepted value changes no issue. -/
theorem found_map (f : α → β) (x : Checked α) : (x.map f).found = x.found := by
  cases x <;> rfl

/-- Each issue of a part is found at the part. -/
theorem found_under (step : Step) (x : Checked α) :
    (x.under step).found = x.found.map (Issue.under step) := by
  cases x <;> rfl

/-- An issue of two checks in a row is found by the first, or by the second in what the first one
accepts. -/
theorem mem_found_andThen {x : Checked α} {f : α → Checked β} {issue : Issue} :
    issue ∈ (x.andThen f).found ↔
      issue ∈ x.found ∨ ∃ a, x = .ok a ∧ issue ∈ (f a).found := by
  cases x <;> simp [andThen, found]

/-- What all reported issues satisfy, all found issues do. -/
theorem Reports.forall_found {P : Issue → Prop} {x : Checked α} (h : x.Reports P) :
    ∀ issue ∈ x.found, P issue := by
  cases x with
  | ok a => exact nofun
  | issues found => exact h.2

/-- A check is turned down with an issue of some kind just if it finds one. -/
theorem exists_issues_iff {P : Issue → Prop} {x : Checked α} :
    (∃ issues, x = .issues issues ∧ ∃ issue ∈ issues, P issue) ↔ ∃ issue ∈ x.found, P issue := by
  cases x with
  | ok a => simp [found]
  | issues issues => simp [found]

end Checked

namespace Check

variable {α : Type} {name : String} {rule : Json → Checked α} {members : List (String × Json)}

/-- The issues of a member that is there are found by its rule, at its key. -/
theorem found_required_of_get? {value : Json} (h : Table.get? members name = some value) :
    (required name rule members).found = (rule value).found.map (Issue.under (.key name)) := by
  rw [required, h]
  exact Checked.found_under _ _

/-- What is found of a member is below its name. -/
theorem head?_place_of_required {issue : Issue}
    (h : issue ∈ (required name rule members).found) : issue.place.head? = some (.key name) := by
  cases hvalue : Table.get? members name with
  | none =>
      rw [required, hvalue] at h
      rw [List.mem_singleton.mp h]
      rfl
  | some value =>
      rw [found_required_of_get? hvalue] at h
      obtain ⟨inner, -, rfl⟩ := List.mem_map.mp h
      rfl

/-- What is wrong with a member itself is what the rule finds, unless the member is missing. -/
theorem exists_found_required_iff {kind : IssueKind} (hkind : kind ≠ .missing) :
    (∃ issue ∈ (required name rule members).found, issue.kind = kind ∧ issue.place = [.key name]) ↔
      ∃ value, Table.get? members name = some value ∧
        ∃ issue ∈ (rule value).found, issue.kind = kind ∧ issue.place = [] := by
  constructor
  · rintro ⟨issue, hissue, hissueKind, hplace⟩
    cases hvalue : Table.get? members name with
    | none =>
        rw [required, hvalue] at hissue
        rw [List.mem_singleton.mp hissue] at hissueKind
        exact absurd hissueKind.symm hkind
    | some value =>
        rw [found_required_of_get? hvalue] at hissue
        obtain ⟨inner, hinner, rfl⟩ := List.mem_map.mp hissue
        exact ⟨value, rfl, inner, hinner, hissueKind, (List.cons.inj hplace).2⟩
  · rintro ⟨value, hvalue, issue, hissue, hissueKind, hplace⟩
    rw [found_required_of_get? hvalue]
    refine ⟨issue.under (.key name), List.mem_map_of_mem hissue, hissueKind, ?_⟩
    rw [Issue.under, hplace]

end Check

end Rigor
