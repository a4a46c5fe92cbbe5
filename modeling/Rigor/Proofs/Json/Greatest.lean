import Mathlib.Tactic.Common
import Rigor.Json.Numeral
import Rigor.Json.Order

/-!
# The greatest of some values

Values are compared two by two on the way through a list, and not every pair can be compared.
Numbers are comparable with numbers only, texts with texts, and arrays with arrays, if at all. So a
list either has numbers only, and a greatest of them, or its greatest value is no number or is not
found (`isNumber_of_maximumFrom`, `exists_maximumFrom`).

On the number line the places are in order, except that of the undefined number: `GreatestPlace`
says that a place is the greatest of those of some values, which has to do with neither their order
nor their number. The greatest value is at that place (`greatestPlace_maximumFrom`). The undefined
number is neither greater nor less than others. No numeral denotes it (`decode_ne_undefined`), and
so it is no JSON value, but the reader knows a name for it.
-/

namespace Rigor

/-! ### The number line -/

namespace Position

variable {p q r : Position}

/-- A place is at most itself, unless it is that of the undefined number. -/
theorem le_refl (hp : p ≠ .nowhere) : p.le p = true := by
  cases p <;> simp_all [le, lt, same]

/-- The order of places is transitive. -/
theorem le_trans (hpq : p.le q = true) (hqr : q.le r = true) : p.le r = true := by
  cases p <;> cases q <;> cases r <;> simp_all [le, lt, same]
  omega

/-- Two places that are at most each other are one. -/
theorem le_antisymm (hpq : p.le q = true) (hqp : q.le p = true) : p = q := by
  cases p <;> cases q <;> simp_all [le, lt, same]
  omega

/-- A lower place is at most the higher one. -/
theorem le_of_lt (h : p.lt q = true) : p.le q = true := by
  rw [le, h, Bool.true_or]

/-- Of two places on the line, one that is not lower is at least the other. -/
theorem le_of_not_lt (hp : p ≠ .nowhere) (hq : q ≠ .nowhere) (h : ¬ p.lt q = true) :
    q.le p = true := by
  cases p <;> cases q <;> simp_all [le, lt, same]
  omega

end Position

namespace Json

/-- The undefined number is denoted by no numeral. -/
theorem decode_ne_undefined (token : Numeral) : token.decode ≠ .float .undefined := by
  have hratio : ∀ negative num den, Binary64.ofRatio negative num den ≠ .undefined := by
    intro negative num den
    unfold Binary64.ofRatio
    dsimp only
    split <;> exact nofun
  unfold Numeral.decode
  split
  · exact nofun
  · rw [ne_eq, Json.float.injEq]
    unfold Binary64.ofDecimal
    split_ifs
    · exact nofun
    · exact nofun
    · exact nofun
    · exact hratio _ _ _
    · exact hratio _ _ _

/-- An integer, a floating-point number, or a truth value, which counts as zero or one. -/
def IsNumber : Json → Prop
  | .bool _ => True
  | .int _ => True
  | .float _ => True
  | _ => False

/-- The numbers are the values that have a position. -/
theorem isNumber_iff {value : Json} : value.IsNumber ↔ ∃ p, value.position? = some p := by
  cases value <;> simp [IsNumber, position?]

/-- The undefined number is the only one that is not on the number line. -/
theorem exists_place {value : Json} (h : value.IsNumber) (hdefined : value ≠ .float .undefined) :
    ∃ p, value.position? = some p ∧ p ≠ .nowhere := by
  cases value with
  | bool b => exact ⟨_, rfl, nofun⟩
  | int n => exact ⟨_, rfl, nofun⟩
  | float x =>
      refine ⟨_, rfl, ?_⟩
      cases x with
      | finite negative units => exact nofun
      | infinite negative => cases negative <;> exact nofun
      | undefined => exact absurd rfl hdefined
  | _ => exact absurd h id

/-! ### Comparisons -/

/-- Numbers are compared by their positions. -/
theorem greater_of_position {a b : Json} {p q : Position} (ha : a.position? = some p)
    (hb : b.position? = some q) : greater a b = .ok (q.lt p) := by
  cases a <;> cases b <;> simp_all [greater, position?]

/-- A number is comparable with numbers only. -/
theorem isNumber_of_greater {a b : Json} {c : Bool} (h : greater a b = .ok c) :
    a.IsNumber ↔ b.IsNumber := by
  cases a <;> cases b <;> simp_all [greater, position?, IsNumber]

/-- The way through a list goes on from the greater of two values that can be compared. -/
theorem maximumFrom_cons {best value : Json} {rest : List Json} {c : Bool}
    (h : greater value best = .ok c) :
    maximumFrom best (value :: rest) = maximumFrom (if c then value else best) rest := by
  rw [maximumFrom, h]
  cases c <;> rfl

/-- A search that ends with a greatest value has compared the next value with the best one so
far. -/
theorem exists_greater_of_maximumFrom {best value m : Json} {rest : List Json}
    (h : maximumFrom best (value :: rest) = .ok m) : ∃ c, greater value best = .ok c := by
  cases hc : greater value best with
  | ok c => exact ⟨c, rfl⟩
  | error pair =>
      rw [maximumFrom, hc] at h
      exact absurd h nofun

/-- If some values have a greatest one, then either all of them are numbers or none of them is. -/
theorem isNumber_of_maximumFrom {best m : Json} {rest : List Json}
    (h : maximumFrom best rest = .ok m) : ∀ v ∈ best :: rest, v.IsNumber ↔ m.IsNumber := by
  induction rest generalizing best with
  | nil =>
      obtain rfl : best = m := Except.ok.inj h
      simp
  | cons value rest ih =>
      obtain ⟨c, hc⟩ := exists_greater_of_maximumFrom h
      have hsame := isNumber_of_greater hc
      rw [maximumFrom_cons hc] at h
      have hall := ih h
      -- Whichever of the two is kept, the other one is a number just if that one is.
      cases c <;> simp_all

/-- Among numbers the search for the greatest value ends with one. -/
theorem exists_maximumFrom {best : Json} {rest : List Json}
    (h : ∀ v ∈ best :: rest, v.IsNumber) : ∃ m, maximumFrom best rest = .ok m := by
  induction rest generalizing best with
  | nil => exact ⟨best, rfl⟩
  | cons value rest ih =>
      obtain ⟨hbest, hvalue, hrest⟩ :
          best.IsNumber ∧ value.IsNumber ∧ ∀ v ∈ rest, v.IsNumber := by simpa using h
      obtain ⟨p, hp⟩ := isNumber_iff.mp hbest
      obtain ⟨q, hq⟩ := isNumber_iff.mp hvalue
      rw [maximumFrom_cons (greater_of_position hq hp)]
      refine ih (List.forall_mem_cons.mpr ⟨?_, hrest⟩)
      split
      · exact hvalue
      · exact hbest

/-- No number is greater than the undefined one. -/
theorem maximumFrom_undefined {rest : List Json} (h : ∀ v ∈ rest, v.IsNumber) :
    maximumFrom (.float .undefined) rest = .ok (.float .undefined) := by
  induction rest with
  | nil => rfl
  | cons value rest ih =>
      obtain ⟨hvalue, hrest⟩ := List.forall_mem_cons.mp h
      obtain ⟨p, hp⟩ := isNumber_iff.mp hvalue
      rw [maximumFrom_cons (greater_of_position hp rfl)]
      exact ih hrest

/-! ### The greatest place -/

/-- All of the values have places, and the greatest of these is the given one. -/
structure GreatestPlace (values : List Json) (p : Position) : Prop where
  reached : ∃ v ∈ values, v.position? = some p
  bound : ∀ v ∈ values, ∃ q, v.position? = some q ∧ q.le p = true

namespace GreatestPlace

variable {values others : List Json} {value : Json} {p q : Position}

/-- The greatest place does not depend on the order of the values, nor on how often they come. -/
theorem congr (h : GreatestPlace values p) (hsame : ∀ v, v ∈ others ↔ v ∈ values) :
    GreatestPlace others p := by
  obtain ⟨v, hv, hp⟩ := h.reached
  exact ⟨⟨v, (hsame v).mpr hv, hp⟩, fun u hu => h.bound u ((hsame u).mp hu)⟩

/-- A single value is at the greatest place. -/
theorem singleton (hp : value.position? = some p) (hplace : p ≠ .nowhere) :
    GreatestPlace [value] p := by
  refine ⟨⟨value, List.mem_singleton_self _, hp⟩, ?_⟩
  rw [List.forall_mem_singleton]
  exact ⟨p, hp, Position.le_refl hplace⟩

/-- A further value that is no greater leaves the greatest place where it is. -/
theorem cons (h : GreatestPlace values p) (hq : value.position? = some q) (hle : q.le p = true) :
    GreatestPlace (value :: values) p := by
  obtain ⟨v, hv, hp⟩ := h.reached
  exact ⟨⟨v, List.mem_cons_of_mem _ hv, hp⟩, List.forall_mem_cons.mpr ⟨⟨q, hq, hle⟩, h.bound⟩⟩

/-- No value is beyond the greatest place. -/
theorem le_of_mem (h : GreatestPlace values p) (hmem : value ∈ values)
    (hq : value.position? = some q) : q.le p = true := by
  obtain ⟨q', hq', hle⟩ := h.bound value hmem
  obtain rfl : q' = q := Option.some.inj (hq'.symm.trans hq)
  exact hle

/-- There is one greatest place. -/
theorem unique (hp : GreatestPlace values p) (hq : GreatestPlace values q) : p = q := by
  obtain ⟨v, hv, hvp⟩ := hp.reached
  obtain ⟨u, hu, huq⟩ := hq.reached
  exact Position.le_antisymm (hq.le_of_mem hv hvp) (hp.le_of_mem hu huq)

end GreatestPlace

/-- The value that the search ends with is at the greatest place. -/
theorem greatestPlace_maximumFrom {best m : Json} {rest : List Json}
    (h : maximumFrom best rest = .ok m)
    (hplaces : ∀ v ∈ best :: rest, ∃ p, v.position? = some p ∧ p ≠ .nowhere) :
    ∃ p, m.position? = some p ∧ GreatestPlace (best :: rest) p := by
  induction rest generalizing best with
  | nil =>
      obtain rfl : best = m := Except.ok.inj h
      obtain ⟨p, hp, hplace⟩ := hplaces best (List.mem_singleton_self _)
      exact ⟨p, hp, .singleton hp hplace⟩
  | cons value rest ih =>
      obtain ⟨p, hp, hpplace⟩ := hplaces best (by simp)
      obtain ⟨q, hq, hqplace⟩ := hplaces value (by simp)
      rw [maximumFrom_cons (greater_of_position hq hp)] at h
      by_cases hlt : p.lt q = true
      · -- The further value is kept, and what was best before lies left of it.
        rw [if_pos hlt] at h
        obtain ⟨r, hr, hgreatest⟩ := ih h fun v hv => hplaces v (List.mem_cons_of_mem _ hv)
        have hqr : q.le r = true := hgreatest.le_of_mem List.mem_cons_self hq
        exact ⟨r, hr, hgreatest.cons hp (Position.le_trans (Position.le_of_lt hlt) hqr)⟩
      · rw [if_neg hlt] at h
        obtain ⟨r, hr, hgreatest⟩ := ih h fun v hv => hplaces v (by
          rcases List.mem_cons.mp hv with rfl | hv
          · exact List.mem_cons_self
          · exact List.mem_cons_of_mem _ (List.mem_cons_of_mem _ hv))
        have hpr : p.le r = true := hgreatest.le_of_mem List.mem_cons_self hp
        have hqp : q.le p = true := Position.le_of_not_lt hpplace hqplace hlt
        refine ⟨r, hr, (hgreatest.cons hq (Position.le_trans hqp hpr)).congr fun v => ?_⟩
        exact (List.Perm.swap value best rest).mem_iff

end Json

end Rigor
