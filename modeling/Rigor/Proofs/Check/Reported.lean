import Rigor.Check.Record

/-!
# Reported issues

What a rule reports of a value that it does not accept: at least one issue, and every issue has some
property. `Checked.Reports` states both, and goes through the rules for records and collections: an
issue of a part is an issue of the whole once the step to the part is put in front of its place.

* `Reports.under`, `Reports.required`, `Reports.collectAtLeast`: the step is a branch, a member, or
  the index of an item.
-/

namespace Rigor.Checked

open Check

variable {α β : Type} {P Q : Issue → Prop}

/-- Where there is no value there is an issue, and every issue is as `P` says. -/
def Reports (P : Issue → Prop) : Checked α → Prop
  | .ok _ => True
  | .issues found => found ≠ [] ∧ ∀ issue ∈ found, P issue

namespace Reports

/-- What is accepted reports no issue. -/
theorem ok (a : α) : (Checked.ok a).Reports P := trivial

/-- Issues that satisfy one condition satisfy a weaker one. -/
theorem mono {x : Checked α} (h : x.Reports P) (hPQ : ∀ issue, P issue → Q issue) :
    x.Reports Q := by
  cases x with
  | ok a => exact ok a
  | issues found => exact ⟨h.1, fun issue hissue => hPQ issue (h.2 issue hissue)⟩

/-- A single issue is reported as it is. -/
theorem single {issue : Issue} (h : P issue) : (Checked.issues [issue] : Checked α).Reports P :=
  ⟨List.cons_ne_nil _ _, List.forall_mem_singleton.mpr h⟩

/-- A failure reports the value it is about, at no path. -/
theorem fail {kind : IssueKind} {value : Json} (h : P ⟨kind, value, []⟩) :
    (Checked.fail kind value : Checked α).Reports P :=
  single h

/-- Changing the accepted value changes no report. -/
theorem map {f : α → β} {x : Checked α} (h : x.Reports P) : (x.map f).Reports P := by
  cases x with
  | ok a => exact ok (f a)
  | issues found => exact h

/-- Two checks report the issues of either. -/
theorem ap {f : Checked (α → β)} {x : Checked α} (hf : f.Reports P) (hx : x.Reports P) :
    (f.ap x).Reports P := by
  cases f with
  | ok f =>
      cases x with
      | ok a => exact ok (f a)
      | issues found => exact hx
  | issues found =>
      cases x with
      | ok a => exact hf
      | issues more =>
          refine ⟨List.append_ne_nil_of_left_ne_nil hf.1 more, fun issue hissue => ?_⟩
          rcases List.mem_append.mp hissue with hissue | hissue
          · exact hf.2 issue hissue
          · exact hx.2 issue hissue

/-- A part reports its issues at the place of the part. -/
theorem under {step : Step} {x : Checked α} (h : x.Reports fun issue => P (issue.under step)) :
    (x.under step).Reports P := by
  cases x with
  | ok a => exact ok a
  | issues found =>
      refine ⟨fun hnil => h.1 (List.map_eq_nil_iff.mp hnil), fun issue hissue => ?_⟩
      obtain ⟨inner, hinner, rfl⟩ := List.mem_map.mp hissue
      exact h.2 inner hinner

section

variable {name : String} {members : List (String × Json)} {rule : Json → Checked α}

/-- A member reports that it is missing, or else its issues at its key. -/
theorem orMissing {outcome : Option (Checked α)}
    (hmissing : outcome = none → P ⟨.missing, .obj members, [.key name]⟩)
    (hpart : ∀ x, outcome = some x → x.Reports fun issue => P (issue.under (.key name))) :
    (Check.orMissing name members outcome).Reports P := by
  cases outcome with
  | none => exact single (hmissing rfl)
  | some x => exact under (hpart x rfl)

/-- A required member reports that it is absent from the object, or else what the rule reports of
it. -/
theorem required
    (hmissing : Table.get? members name = none → P ⟨.missing, .obj members, [.key name]⟩)
    (hpart : ∀ value, Table.get? members name = some value →
      (rule value).Reports fun issue => P (issue.under (.key name))) :
    (Check.required name rule members).Reports P := by
  refine orMissing (fun hnone => hmissing (Option.map_eq_none_iff.mp hnone)) fun x hx => ?_
  obtain ⟨value, hvalue, rfl⟩ := Option.map_eq_some_iff.mp hx
  exact hpart value hvalue

/-- An optional member reports what the rule reports of it, and nothing if it is absent. -/
theorem optional {default : α}
    (hpart : ∀ value, Table.get? members name = some value →
      (rule value).Reports fun issue => P (issue.under (.key name))) :
    (Check.optional name rule default members).Reports P := by
  unfold Check.optional
  cases hvalue : Table.get? members name with
  | none => exact ok default
  | some value => exact under (hpart value hvalue)

end

/-- The items of an array report their issues at their positions, counted from a start. -/
theorem collectFrom {outcomes : List (Checked α)} (i : Nat)
    (h : ∀ (j : Nat) (x : Checked α), outcomes[j]? = some x →
      x.Reports fun issue => P (issue.under (.index (i + j)))) :
    (Checked.collectFrom i outcomes).Reports P := by
  induction outcomes generalizing i with
  | nil => exact ok []
  | cons x rest ih =>
      refine ap (map (under (h 0 x rfl))) (ih (i + 1) fun j y hy => ?_)
      rw [Nat.add_right_comm]
      exact h (j + 1) y hy

/-- A tuple reports that too few items are accepted, or else the issues of the items. -/
theorem collectAtLeast {least : Nat} {array : Json} {outcomes : List (Checked α)}
    (hshort : outcomes.countP isOk < least → P ⟨.tooShort, array, []⟩)
    (h : ∀ (i : Nat) (x : Checked α), outcomes[i]? = some x →
      x.Reports fun issue => P (issue.under (.index i))) :
    (Checked.collectAtLeast least array outcomes).Reports P := by
  have hitems : (Checked.collect outcomes).Reports P := by
    refine collectFrom 0 fun i x hx => ?_
    rw [Nat.zero_add]
    exact h i x hx
  unfold Checked.collectAtLeast
  split
  · next hfew =>
      cases hcollect : Checked.collect outcomes with
      | ok as => exact fail (hshort hfew)
      | issues found =>
          rw [hcollect] at hitems
          refine ⟨by simp, fun issue hissue => ?_⟩
          rcases List.mem_append.mp hissue with hissue | hissue
          · exact hitems.2 issue hissue
          · rw [List.mem_singleton.mp hissue]
            exact hshort hfew
  · exact hitems

end Reports

end Rigor.Checked
