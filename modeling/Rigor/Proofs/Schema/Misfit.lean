import Rigor.Proofs.Check.Reported
import Rigor.Proofs.Schema.Grammar

/-!
# Values that describe no schema

What reading reports of a value that describes no schema. The place of an issue is a way through the
value: by keys of its objects, by indices of its arrays, and into branches, which stay where they
are. `Json.at?` goes such a way. It ends at the value at fault or, for a member that is absent, one
key before it.

* `Misfit`: what is wrong with a value that is reported for itself.
* `Located`: the way of an issue leads to a misfit, or to an object that lacks a member.
* `Located.member`, `Located.item`: the steps to a part are put in front of its issues.
* `reports_read`: all issues are located, by induction on the size of the value.
* `read_exactly_described`: the main statement.
-/

namespace Rigor

open Check

/-- The kind that an object names. -/
def Json.kind? (value : Json) : Option String :=
  match value.member? "kind" with
  | some (.str kind) => some kind
  | _ => none

/-- The value at the end of a way. A step into a branch stays at the value, which has to be of the
kind that the branch is for. -/
def Json.at? : Json → List Step → Option Json
  | value, [] => some value
  | .obj members, .key name :: way => (Table.get? members name).bind fun value => value.at? way
  | .arr items, .index i :: way => items[i]?.bind fun value => value.at? way
  | value, .branch kind :: way => if value.kind? = some kind then value.at? way else none
  | _, _ => none

namespace Schema

/-- The member that an object of a kind cannot do without. -/
def requiredMember? : String → Option String
  | "number" => some "is_integer"
  | "array" => some "element"
  | "union" => some "variants"
  | _ => none

/-- What is wrong with a value, by the kind of the issue. -/
inductive Misfit : IssueKind → Json → Prop where
  | notAttributes {value : Json} : (∀ members, value ≠ .obj members) → Misfit .notAttributes value
  | kindMissing {members : List (String × Json)} : Table.get? members "kind" = none →
      Misfit .kindMissing (.obj members)
  | kindUnknown {members : List (String × Json)} {named : Json} :
      Table.get? members "kind" = some named → (∀ schema : Schema, named ≠ .str schema.kind) →
      Misfit .kindUnknown (.obj members)
  | notFormat {value : Json} : (∀ format : Format, value ≠ .str format.name) →
      Misfit .notListed value
  | notTruth {kind : IssueKind} {value : Json} : kind = .notBoolean ∨ kind = .booleanText →
      (∀ b, ¬ StandsFor value b) → Misfit kind value
  | notTuple {value : Json} : (∀ items, value ≠ .arr items) → Misfit .notTuple value
  /-- No two of the items describe schemas. -/
  | tooShort {items : List Json} :
      (∀ first second : Json, [first, second].Sublist items → ∀ a b,
        ¬ (Describes first a ∧ Describes second b)) → Misfit .tooShort (.arr items)

/-- The place of the issue is where something is wrong with the value. -/
inductive Located (value : Json) : Issue → Prop where
  /-- The way ends at the value at fault. -/
  | misfit {issue : Issue} : value.at? issue.place = some issue.value →
      Misfit issue.kind issue.value → Located value issue
  /-- The way ends at an object, and then names the member that the object lacks. -/
  | lacking {way : List Step} {members : List (String × Json)} {kind name : String} :
      value.at? (way ++ [.branch kind]) = some (.obj members) →
      requiredMember? kind = some name → Table.get? members name = none →
      Located value ⟨.missing, .obj members, way ++ [.branch kind, .key name]⟩

/-! ### Parts -/

/-- The steps to a part can be put in front. -/
theorem Located.inside {outer inner : Json} {steps : List Step}
    (hsteps : ∀ way, outer.at? (steps ++ way) = inner.at? way) {issue : Issue}
    (h : Located inner issue) : Located outer { issue with place := steps ++ issue.place } := by
  cases h with
  | misfit hplace hmisfit => exact .misfit ((hsteps _).trans hplace) hmisfit
  | lacking hway hrequired hnone =>
      rw [← List.append_assoc]
      refine .lacking ?_ hrequired hnone
      rw [List.append_assoc, hsteps]
      exact hway

section

variable {members : List (String × Json)} {kind name : String}

/-- The kind of an object is the text of its member for it. -/
theorem kind?_obj (h : Table.get? members "kind" = some (.str kind)) :
    (Json.obj members).kind? = some kind := by
  rw [Json.kind?, Json.member?, h]

/-- What is wrong with a member is wrong with the object, at the kind and the member's key. -/
theorem Located.member (hkind : Table.get? members "kind" = some (.str kind)) {value : Json}
    (hvalue : Table.get? members name = some value) {issue : Issue} (h : Located value issue) :
    Located (.obj members) ((issue.under (.key name)).under (.branch kind)) := by
  have hsteps : ∀ way,
      (Json.obj members).at? ([.branch kind, .key name] ++ way) = value.at? way := by
    intro way
    simp [Json.at?, kind?_obj hkind, hvalue]
  exact h.inside hsteps

/-- What a rule reports of a member is located in the object. -/
theorem reports_member (hkind : Table.get? members "kind" = some (.str kind)) {value : Json}
    (hvalue : Table.get? members name = some value) {α : Type} {x : Checked α}
    (h : x.Reports (Located value)) :
    x.Reports fun issue =>
      Located (.obj members) ((issue.under (.key name)).under (.branch kind)) :=
  h.mono fun _ hissue => hissue.member hkind hvalue

/-- What is wrong with an item is wrong with the array, at its position. -/
theorem Located.item {items : List Json} {i : Nat} {value : Json} (hvalue : items[i]? = some value)
    {issue : Issue} (h : Located value issue) :
    Located (.arr items) (issue.under (.index i)) := by
  have hsteps : ∀ way, (Json.arr items).at? ([.index i] ++ way) = value.at? way := by
    intro way
    simp [Json.at?, hvalue]
  exact h.inside hsteps

/-- A member that the kind requires is wrong with an object by being absent. -/
theorem located_missing (hkind : Table.get? members "kind" = some (.str kind))
    (hrequired : requiredMember? kind = some name) (hnone : Table.get? members name = none) :
    Located (.obj members)
      ((⟨.missing, .obj members, [.key name]⟩ : Issue).under (.branch kind)) := by
  have hway : (Json.obj members).at? ([] ++ [.branch kind]) = some (.obj members) := by
    simp [Json.at?, kind?_obj hkind]
  exact .lacking hway hrequired hnone

end

/-- A value that is no good in itself is its own place. -/
theorem located_here {kind : IssueKind} {value : Json} (h : Misfit kind value) :
    Located value ⟨kind, value, []⟩ :=
  .misfit rfl h

/-! ### Scalars -/

/-- The check of a format reports where the value is wrong. -/
theorem reports_format (value : Json) : (named Format.ofName? value).Reports (Located value) := by
  by_cases h : ∃ format : Format, value = .str format.name
  · obtain ⟨format, rfl⟩ := h
    rw [named_format_eq_ok_iff.mpr rfl]
    exact .ok format
  · have hfail : named Format.ofName? value = .fail .notListed value := by
      cases value with
      | str s =>
          have hnone : Format.ofName? s = none := by
            refine Option.eq_none_iff_forall_ne_some.mpr fun format hsome => h ⟨format, ?_⟩
            rw [Format.ofName?_eq_some_iff.mp hsome]
          rw [named, hnone]
      | _ => rfl
    rw [hfail]
    exact .fail (located_here (.notFormat fun format hvalue => h ⟨format, hvalue⟩))

/-- So does the check of a truth value. -/
theorem reports_boolean (value : Json) : (Check.boolean value).Reports (Located value) := by
  by_cases h : ∃ b, StandsFor value b
  · obtain ⟨b, hb⟩ := h
    rw [boolean_eq_ok_iff.mpr hb]
    exact .ok b
  · have hnone : ∀ b, ¬ StandsFor value b := fun b hb => h ⟨b, hb⟩
    obtain ⟨kind, hkind, hfail⟩ := boolean_eq_fail hnone
    rw [hfail]
    exact .fail (located_here (.notTruth hkind hnone))

/-! ### The reader -/

/-- Where fewer than two items are read no two of them describe schemas. -/
theorem misfit_tooShort {items : List Json} (h : (readAll items).countP Checked.isOk < 2) :
    Misfit .tooShort (.arr items) := by
  refine .tooShort fun first second hsublist a b hboth => ?_
  obtain ⟨hfirst, hsecond⟩ := hboth
  rw [readAll_eq_map] at h
  have hcount := (hsublist.map read).countP_le (p := Checked.isOk)
  rw [List.map_cons, List.map_cons, (read_eq_ok_iff first a).mpr hfirst,
    (read_eq_ok_iff second b).mpr hsecond] at hcount
  have htwo : [Checked.ok a, Checked.ok b].countP Checked.isOk = 2 := rfl
  simp only [List.map_nil, htwo] at hcount
  omega

/-- What the items report is located in the array. -/
theorem reports_readTuple {value : Json}
    (h : ∀ items, value = .arr items → ∀ item ∈ items, (read item).Reports (Located item)) :
    (readTuple value).Reports (Located value) := by
  cases value with
  | arr items =>
      refine .collectAtLeast (fun hfew => located_here (misfit_tooShort hfew)) fun i x hx => ?_
      rw [readAll_eq_map, List.getElem?_map, Option.map_eq_some_iff] at hx
      obtain ⟨item, hitem, rfl⟩ := hx
      exact (h items rfl item (List.mem_of_getElem? hitem)).mono fun _ hissue => hissue.item hitem
  | _ => exact .fail (located_here (.notTuple nofun))

/-- What the parts report is located in the object. -/
theorem reports_obj {members : List (String × Json)}
    (h : ∀ part, sizeOf part < sizeOf (Json.obj members) → (read part).Reports (Located part)) :
    (read (.obj members)).Reports (Located (.obj members)) := by
  rw [read]
  split
  · next hkind => exact .fail (located_here (.kindMissing hkind))
  · next hkind =>
    refine .under (.map (.optional fun value hvalue => ?_))
    exact reports_member hkind hvalue (reports_format value)
  · next hkind =>
    refine .under (.map (.required (located_missing hkind rfl) fun value hvalue => ?_))
    exact reports_member hkind hvalue (reports_boolean value)
  · next hkind =>
    rw [orMissing_element]
    refine .under (.map (.required (located_missing hkind rfl) fun value hvalue => ?_))
    exact reports_member hkind hvalue (h value (sizeOf_lt_of_get? hvalue))
  · next hkind =>
    rw [orMissing_variants]
    refine .under (.map (.required (located_missing hkind rfl) fun value hvalue => ?_))
    apply reports_member hkind hvalue
    apply reports_readTuple
    rintro items rfl item hitem
    exact h item ((sizeOf_lt_of_mem hitem).trans (sizeOf_lt_of_get? hvalue))
  · next kind hstring hnumber harray hunion hkind =>
    cases hplain : ofPlainKind? kind with
    | some schema => exact .ok schema
    | none =>
        refine .fail (located_here (.kindUnknown hkind fun schema hschema => ?_))
        obtain rfl := Json.str.inj hschema
        cases schema <;> simp_all [Schema.kind, ofPlainKind?]
  · next value hother hkind =>
    exact .fail (located_here (.kindUnknown hkind fun schema => hother schema.kind))

/-- Reading a schema reports only places where something is wrong with the value. -/
theorem reports_read (value : Json) : (read value).Reports (Located value) := by
  cases value with
  | obj members => exact reports_obj fun part hpart => reports_read part
  | _ => exact .fail (located_here (.notAttributes nofun))
termination_by sizeOf value
decreasing_by simpa using hpart

/-- **Reading accepts what describes a schema**, and gives the schema described. Of any other value
at least one issue is reported, and the place of each leads through the value to what is at
fault. -/
theorem read_exactly_described :
    (∀ value schema, read value = .ok schema ↔ Describes value schema) ∧
    ∀ value, (∀ schema, ¬ Describes value schema) →
      ∃ found, read value = .issues found ∧ found ≠ [] ∧ ∀ issue ∈ found, Located value issue := by
  refine ⟨read_eq_ok_iff, fun value hnone => ?_⟩
  have hreports := reports_read value
  cases hread : read value with
  | ok schema => exact absurd ((read_eq_ok_iff value schema).mp hread) (hnone schema)
  | issues found =>
      rw [hread] at hreports
      exact ⟨found, rfl, hreports⟩

/-- An array of a union with one variant that lacks a member and one that is no object. -/
def thriceMisfit : Json :=
  .obj [("kind", .str "array"),
    ("element", .obj [("kind", .str "union"),
      ("variants", .arr [.obj [("kind", .str "number")], .int 3])])]

/-- Both variants are reported, and the union for having too few that are valid. -/
theorem read_exactly_described_misfits :
    (∀ schema, ¬ Describes thriceMisfit schema) ∧
    ∃ found, read thriceMisfit = .issues found ∧ found ≠ [] ∧
      (∀ issue ∈ found, Located thriceMisfit issue) ∧
      found.map Issue.place =
        [[.branch "array", .key "element", .branch "union", .key "variants", .index 0,
            .branch "number", .key "is_integer"],
          [.branch "array", .key "element", .branch "union", .key "variants", .index 1],
          [.branch "array", .key "element", .branch "union", .key "variants"]] := by
  have hnone : ∀ schema, ¬ Describes thriceMisfit schema := by
    intro schema h
    cases (read_exactly_described.1 thriceMisfit schema).mpr h
  obtain ⟨found, hread, hfull, hlocated⟩ := read_exactly_described.2 thriceMisfit hnone
  refine ⟨hnone, found, hread, hfull, hlocated, ?_⟩
  cases hread
  rfl

end Schema

end Rigor
