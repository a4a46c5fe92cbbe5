import Rigor.Proofs.Json.Greatest
import Rigor.Report.Analyze

/-!
# The overall risk of any values

The overall risk is asked of levels, but any values can be put in their place. Texts are ordered,
and so are some arrays, so that the search for the greatest value may well succeed without a number
in sight; only the thresholds turn it down then.

* `exists_overallOf_iff`: there is an answer just if all values are numbers.
* `isUnordered_of_overallOf`: there is one way only in which there is none.
* `overallOf_eq_threshold`: the answer is the risk that the greatest place stands for, and so does
  not depend on the order of the values (`overallOf_congr`).
* `overallOf_undefined`: what the undefined number does, which no numeral puts among the values.
* `overallOf_labels_numbers`: the main statement.
-/

namespace Rigor

/-- A value met one that it has no order with. -/
def Fault.IsUnordered : Fault → Prop
  | .incomparable _ _ => True
  | .noRank _ => True
  | _ => False

namespace Report

open Json (GreatestPlace)

/-- The risk that a place on the number line stands for. -/
def threshold (p : Position) : OverallRisk :=
  if (Position.ofInt 6).le p then .critical
  else if (Position.ofInt 4).le p then .high
  else if (Position.ofInt 2).le p then .medium
  else .low

/-- The thresholds of levels are those of their places on the number line. -/
theorem above_eq_threshold (p : Position) :
    OverallRisk.above (fun level => (Position.ofInt level.rank).le p) = threshold p :=
  rfl

/-- The values, or the number one if there are none. -/
def orOne : List Json → List Json
  | [] => [.int 1]
  | value :: rest => value :: rest

section

variable {values others : List Json}

/-- The number one, which stands in for no values, changes nothing that holds of one. -/
theorem forall_mem_orOne {P : Json → Prop} (hone : P (.int 1)) :
    (∀ v ∈ orOne values, P v) ↔ ∀ v ∈ values, P v := by
  cases values with
  | nil => simpa [orOne] using hone
  | cons value rest => rfl

/-- The same values have the same stand-in. -/
theorem mem_orOne_congr (h : ∀ v, v ∈ others ↔ v ∈ values) (v : Json) :
    v ∈ orOne others ↔ v ∈ orOne values := by
  cases others with
  | nil =>
      obtain rfl : values = [] := List.eq_nil_iff_forall_not_mem.mpr fun u hu => by
        simpa using (h u).mpr hu
      rfl
  | cons a others =>
      cases values with
      | nil => exact absurd ((h a).mp List.mem_cons_self) List.not_mem_nil
      | cons b values => exact h v

/-! ### Answers and faults -/

/-- The greatest value is the one that the search through the values, or through the number one,
ends with. -/
theorem greatest_eq_ok_iff {m : Json} :
    greatest values = .ok m ↔
      ∃ value rest, orOne values = value :: rest ∧ Json.maximumFrom value rest = .ok m := by
  cases values with
  | nil => simp [greatest, orOne, Json.maximumFrom, Level.toJson, Level.rank]
  | cons value rest =>
      rw [greatest]
      cases hm : Json.maximumFrom value rest <;> simp [orOne, hm]

/-- There is an answer just if the search ends with a number, and it is the risk of its place. -/
theorem overallOf_eq_ok_iff {risk : OverallRisk} :
    overallOf values = .ok risk ↔
      ∃ m p, greatest values = .ok m ∧ m.position? = some p ∧ threshold p = risk := by
  rw [overallOf]
  cases greatest values with
  | error fault => simp
  | ok m => cases hp : m.position? <;> simp [hp, above_eq_threshold]

/-- A search that fails has met two values without an order. -/
theorem isUnordered_of_greatest {fault : Fault} (h : greatest values = .error fault) :
    fault.IsUnordered := by
  cases values with
  | nil => cases h
  | cons value rest =>
      rw [greatest] at h
      split at h
      · cases h
      · obtain rfl := Except.error.inj h
        trivial

/-- An answer is missing only because a value met one that it has no order with. -/
theorem isUnordered_of_overallOf {fault : Fault} (h : overallOf values = .error fault) :
    fault.IsUnordered := by
  rw [overallOf] at h
  cases hm : greatest values with
  | error met =>
      rw [hm] at h
      obtain rfl : met = fault := Except.error.inj h
      exact isUnordered_of_greatest hm
  | ok m =>
      rw [hm] at h
      cases hp : m.position? with
      | some p => simp [hp] at h
      | none =>
          obtain rfl : Fault.noRank m = fault := by simpa [hp] using h
          trivial

/-- There is an answer just if all values are numbers, whatever else can be compared. -/
theorem exists_overallOf_iff :
    (∃ risk, overallOf values = .ok risk) ↔ ∀ v ∈ values, v.IsNumber := by
  rw [← forall_mem_orOne (P := Json.IsNumber) trivial]
  constructor
  · rintro ⟨risk, h⟩
    obtain ⟨m, p, hm, hp, -⟩ := overallOf_eq_ok_iff.mp h
    obtain ⟨value, rest, hvalues, hmax⟩ := greatest_eq_ok_iff.mp hm
    rw [hvalues]
    exact fun v hv => (Json.isNumber_of_maximumFrom hmax v hv).mpr (Json.isNumber_iff.mpr ⟨p, hp⟩)
  · intro h
    cases hvalues : orOne values with
    | nil => cases values <;> exact absurd hvalues nofun
    | cons value rest =>
        rw [hvalues] at h
        obtain ⟨m, hmax⟩ := Json.exists_maximumFrom h
        have hnumber : m.IsNumber :=
          (Json.isNumber_of_maximumFrom hmax value List.mem_cons_self).mp (h _ List.mem_cons_self)
        obtain ⟨p, hp⟩ := Json.isNumber_iff.mp hnumber
        exact ⟨_, overallOf_eq_ok_iff.mpr
          ⟨m, p, greatest_eq_ok_iff.mpr ⟨value, rest, hvalues, hmax⟩, hp, rfl⟩⟩

/-- With a value that is no number there is a fault, and it is one of order. -/
theorem exists_isUnordered (h : ¬ ∀ v ∈ values, v.IsNumber) :
    ∃ fault, overallOf values = .error fault ∧ fault.IsUnordered := by
  cases hvalues : overallOf values with
  | ok risk => exact absurd (exists_overallOf_iff.mp ⟨risk, hvalues⟩) h
  | error fault => exact ⟨fault, rfl, isUnordered_of_overallOf hvalues⟩

/-- So there is no answer then. -/
theorem toOption_overallOf (h : ¬ ∀ v ∈ values, v.IsNumber) :
    (overallOf values).toOption = none := by
  obtain ⟨fault, hfault, -⟩ := exists_isUnordered h
  rw [hfault]
  rfl

/-- The answer is the risk that the greatest place stands for. -/
theorem overallOf_eq_threshold (hnumbers : ∀ v ∈ values, v.IsNumber)
    (hdefined : .float .undefined ∉ values) :
    ∃ p, GreatestPlace (orOne values) p ∧ overallOf values = .ok (threshold p) := by
  obtain ⟨risk, h⟩ := exists_overallOf_iff.mpr hnumbers
  obtain ⟨m, p, hm, hp, rfl⟩ := overallOf_eq_ok_iff.mp h
  obtain ⟨value, rest, hvalues, hmax⟩ := greatest_eq_ok_iff.mp hm
  have hplaces : ∀ v ∈ orOne values, ∃ p, v.position? = some p ∧ p ≠ .nowhere := by
    rw [forall_mem_orOne ⟨_, rfl, nofun⟩]
    exact fun v hv => Json.exists_place (hnumbers v hv) fun hv' => hdefined (hv' ▸ hv)
  rw [hvalues] at hplaces ⊢
  obtain ⟨q, hq, hgreatest⟩ := Json.greatestPlace_maximumFrom hmax hplaces
  obtain rfl : q = p := Option.some.inj (hq.symm.trans hp)
  exact ⟨q, hgreatest, h⟩

/-- Neither the order of the values matters, nor how often each of them comes. -/
theorem overallOf_congr (hsame : ∀ v, v ∈ others ↔ v ∈ values)
    (hdefined : .float .undefined ∉ values) :
    (overallOf others).toOption = (overallOf values).toOption := by
  by_cases hnumbers : ∀ v ∈ values, v.IsNumber
  · obtain ⟨p, hp, hvalues⟩ := overallOf_eq_threshold hnumbers hdefined
    have hothers : ∀ v ∈ others, v.IsNumber := by
      intro v hv
      exact hnumbers v ((hsame v).mp hv)
    obtain ⟨q, hq, hothers⟩ := overallOf_eq_threshold hothers fun h => hdefined ((hsame _).mp h)
    obtain rfl : q = p := hq.unique (hp.congr (mem_orOne_congr hsame))
    rw [hvalues, hothers]
  · have hothers : ¬ ∀ v ∈ others, v.IsNumber := fun h =>
      hnumbers fun v hv => h v ((hsame v).mpr hv)
    rw [toOption_overallOf hnumbers, toOption_overallOf hothers]

/-- In front of other numbers the undefined one is taken for the greatest, and stands for the least
risk. No numeral denotes it (`Json.decode_ne_undefined`). -/
theorem overallOf_undefined (hnumbers : ∀ v ∈ values, v.IsNumber) :
    overallOf (.float .undefined :: values) = .ok .low :=
  overallOf_eq_ok_iff.mpr ⟨_, _,
    greatest_eq_ok_iff.mpr ⟨_, _, rfl, Json.maximumFrom_undefined hnumbers⟩, rfl, rfl⟩

end

/-! ### Main statement -/

/-- **Only numbers have an overall risk.** Whatever the values are, there is an answer just if all
of them are numbers, and a value met one that it has no order with if not. The answer is the risk
that the greatest of them stands for, or the number one if there are no values; and values in any
other order, or repeated, have the same answer or none either.

What is said of the greatest value leaves out the undefined number, as JSON does. In front of other
numbers that one is taken for the greatest, and stands for the least risk. -/
theorem overallOf_labels_numbers (values : List Json) :
    ((∃ risk, overallOf values = .ok risk) ↔ ∀ v ∈ values, v.IsNumber) ∧
      ((∃ v ∈ values, ¬ v.IsNumber) →
        ∃ fault, overallOf values = .error fault ∧ fault.IsUnordered) ∧
      (∀ token : Json.Numeral, token.decode ≠ .float .undefined) ∧
      ((∀ v ∈ values, v.IsNumber) → overallOf (.float .undefined :: values) = .ok .low) ∧
      (.float .undefined ∉ values →
        ((∀ v ∈ values, v.IsNumber) →
          ∃ p, GreatestPlace (orOne values) p ∧ overallOf values = .ok (threshold p)) ∧
        ∀ others, (∀ v, v ∈ others ↔ v ∈ values) →
          (overallOf others).toOption = (overallOf values).toOption) := by
  refine ⟨exists_overallOf_iff, ?_, Json.decode_ne_undefined, overallOf_undefined,
    fun hdefined => ⟨?_, ?_⟩⟩
  · rintro ⟨v, hv, hnumber⟩
    exact exists_isUnordered fun h => hnumber (h v hv)
  · exact fun hnumbers => overallOf_eq_threshold hnumbers hdefined
  · exact fun others hsame => overallOf_congr hsame hdefined

/-- Numbers of three kinds in two orders, and two texts, which have an order with each other
only. -/
theorem overallOf_labels_numbers_mixed :
    (∃ p, GreatestPlace [.bool true, .int 3, .float (.infinite true)] p ∧
      overallOf [.bool true, .int 3, .float (.infinite true)] = .ok (threshold p)) ∧
    (overallOf [.int 3, .float (.infinite true), .bool true, .int 3]).toOption =
      (overallOf [.bool true, .int 3, .float (.infinite true)]).toOption ∧
    ∃ fault, overallOf [.str "a", .str "b"] = .error fault ∧ fault.IsUnordered := by
  obtain ⟨-, -, -, -, h⟩ :=
    overallOf_labels_numbers [.bool true, .int 3, .float (.infinite true)]
  have hdefined : .float .undefined ∉ [Json.bool true, .int 3, .float (.infinite true)] := by simp
  refine ⟨(h hdefined).1 (by simp [Json.IsNumber]), (h hdefined).2 _ fun v => ?_, ?_⟩
  · simp only [List.mem_cons, List.not_mem_nil, or_false]
    grind
  · exact (overallOf_labels_numbers [.str "a", .str "b"]).2.1 ⟨.str "a", by simp, id⟩

example : (overallOf [.int 3, .float (.infinite true), .bool true]).toOption = some .medium := by
  decide +kernel

end Report

end Rigor
