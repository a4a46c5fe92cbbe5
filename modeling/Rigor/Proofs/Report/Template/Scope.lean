import Mathlib.Data.List.Nodup
import Rigor.Report.Template.Scope

/-!
# What names come to

A name in a section comes to the value that was assigned to it last, counting the other spellings of
its variable. Where the names of a section have variables of their own this is the only value that
was assigned to it (`settle_eq_map`).

* `find_enter_item`: in the body of a loop the name of its elements is the element.
* `find_ofTemplate`: a name that a template reads is the value of the report.
-/

namespace Rigor

namespace Table

variable {κ ν μ : Type} [DecidableEq κ]

/-- A key that is found in a table is found in a longer one, too. -/
theorem get?_append_of_get? {t : Table κ ν} {key : κ} {value : ν} (h : get? t key = some value)
    (more : Table κ ν) : get? (t ++ more) key = some value := by
  induction t with
  | nil => cases h
  | cons row rest ih =>
      obtain ⟨k, v⟩ := row
      by_cases hk : k = key
      · simpa [get?, hk] using h
      · exact (if_neg hk).trans (ih (by simpa [get?, hk] using h))

/-- Changing all values of a table changes the one that is found. -/
theorem get?_map_values (f : ν → μ) (t : Table κ ν) (key : κ) :
    get? (t.map fun (k, v) => (k, f v)) key = (get? t key).map f := by
  induction t with
  | nil => rfl
  | cons row rest ih =>
      obtain ⟨k, v⟩ := row
      by_cases hk : k = key
      · simp [get?, hk]
      · simpa [get?, hk] using ih

/-- In a table made from keys, each key has the value made of it. -/
theorem get?_of_mem_keys (f : κ → ν) {keys : List κ} {key : κ} (h : key ∈ keys) :
    get? (keys.map fun k => (k, f k)) key = some (f key) := by
  induction keys with
  | nil => cases h
  | cons k rest ih =>
      by_cases hk : k = key
      · simp [get?, hk]
      · have hrest : key ∈ rest := (List.mem_cons.mp h).resolve_left (Ne.symm hk)
        simpa [get?, hk] using ih hrest

end Table

namespace Report.Template.Scope

variable {assignments : List Assignment}

/-! ### Variables with one name -/

/-- What an assignment comes to if it is the only one to its variable. -/
def Assignment.outcome (a : Assignment) : Value :=
  match a.isGiven, a.value with
  | false, .unset => .absent
  | _, value => value

/-- Where no variable is assigned twice, each keeps the value of its assignment. -/
theorem lastValue_slot (hnodup : (assignments.map Assignment.slot).Nodup) {a : Assignment}
    (ha : a ∈ assignments) : lastValue a.slot assignments = a.value := by
  obtain ⟨b, hb⟩ : ∃ b, assignments.reverse.find? (·.slot == a.slot) = some b :=
    Option.isSome_iff_exists.mp
      (List.find?_isSome.mpr ⟨a, List.mem_reverse.mpr ha, beq_self_eq_true a.slot⟩)
  have hfound : (b.slot == a.slot) = true :=
    List.find?_some (p := fun c : Assignment => c.slot == a.slot) hb
  have hmem : b ∈ assignments := List.mem_reverse.mp (List.mem_of_find?_eq_some hb)
  obtain rfl : b = a := List.inj_on_of_nodup_map hnodup hmem ha (eq_of_beq hfound)
  rw [lastValue, hb]
  rfl

/-- Names that have variables of their own come to what they are assigned. -/
theorem settle_eq_map (hnodup : (assignments.map Assignment.slot).Nodup) :
    settle assignments = assignments.map fun a => (a.name, a.outcome) := by
  refine List.map_congr_left fun a ha => ?_
  rw [lastValue_slot hnodup ha]
  obtain ⟨name, value, isGiven⟩ := a
  cases isGiven <;> cases value <;> rfl

/-! ### Loops -/

/-- A section that is given all names it reads looks none up. -/
theorem lookups_eq_nil {scope : Scope} {given : Table String Value} {body : List Node}
    (h : ∀ name ∈ body.flatMap Node.reads, Table.has given name = true) :
    scope.lookups given body = [] := by
  refine List.filter_eq_nil_iff.mpr fun name hname => ?_
  rw [h name (List.mem_eraseDups.mp hname)]
  exact Bool.false_ne_true

/-- In a body that reads no other name the name of the elements is the element. -/
theorem find_enter_item (scope : Scope) {item : String} (value : Value) {body : List Node}
    (h : ∀ name ∈ body.flatMap Node.reads, name = item) :
    (scope.enter [(item, value)] body).find item = value := by
  have hlookups : scope.lookups [(item, value)] body = [] :=
    lookups_eq_nil fun name hname => by rw [h name hname]; simp [Table.has, Table.get?]
  have hnodup : ([⟨item, value, true⟩].map Assignment.slot).Nodup := List.nodup_singleton _
  simp only [enter, hlookups, List.map_cons, List.map_nil, List.append_nil, settle_eq_map hnodup,
    find]
  simp [Table.get?, Assignment.outcome]

/-! ### Templates -/

/-- A name that a template reads is the value of the report, provided that the names it reads have
variables of their own and that it does not read its own name. -/
theorem find_ofTemplate {values : Table String Json} {nodes : List Node} {name : String}
    {value : Json} (hpage : readsFree pageName nodes = false)
    (hnodup : ((nodes.flatMap Node.reads).eraseDups.map fun n => Text.decompose n.toList).Nodup)
    (hread : name ∈ nodes.flatMap Node.reads) (hvalue : Table.get? values name = some value) :
    (ofTemplate values nodes).find name = .data value := by
  have hdata := Table.get?_map_values Value.data values name
  rw [hvalue, Option.map_some] at hdata
  have hknown := Table.get?_append_of_get? hdata engineNames
  have hlookups : ∀ known, lookups ⟨known, []⟩ [] nodes = (nodes.flatMap Node.reads).eraseDups :=
    fun known => List.filter_eq_self.mpr fun n _ => rfl
  rw [ofTemplate, hpage, find, enter]
  simp only [hlookups, List.map_nil, List.nil_append, List.append_nil, Bool.false_eq_true, if_false]
  rw [settle_eq_map (by rwa [List.map_map]), List.map_map, Function.comp_def,
    Table.get?_of_mem_keys _ (List.mem_eraseDups.mpr hread), Option.getD_some, hknown]
  rfl

end Report.Template.Scope

end Rigor
