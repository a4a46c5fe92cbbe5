import Mathlib.Tactic.Ring
import Rigor.Json.Order
import Rigor.Proofs.Check.Accepted

/-!
# Values that stand for truth values

The lax rule for truth values goes by cases, and takes a floating-point number for an integer first.
`StandsFor` says what the rule comes to: a number or a truth value that equals one or zero, or one
of a few words.

* `toInt?_eq_some_iff`: a floating-point number is converted to the integer that stands at the same
  place of the number line.
* `boolean_eq_ok_iff`: the rule accepts the values that stand for a truth value.
* `boolean_eq_fail`: it rejects any other value for what it is itself.
-/

namespace Rigor

/-- One is more than no unit. -/
theorem Binary64.one_pos : 0 < Binary64.one := by
  unfold one
  -- the power is not to be evaluated
  generalize 1074 = n
  exact Nat.two_pow_pos n

/-- Different integers have different places on the number line. -/
theorem Position.ofInt_inj {m n : Int} : Position.ofInt m = Position.ofInt n ↔ m = n := by
  have hone : (Binary64.one : Int) ≠ 0 := by
    have := Binary64.one_pos
    omega
  rw [ofInt, ofInt, Position.at.injEq]
  exact mul_left_inj' hone

/-- Whole multiples of one are the integers. -/
theorem Binary64.toInt?_eq_some_iff {x : Binary64} {n : Int} :
    x.toInt? = some n ↔ Position.ofBinary64 x = Position.ofInt n := by
  cases x with
  | infinite negative => cases negative <;> exact ⟨nofun, nofun⟩
  | undefined => exact ⟨nofun, nofun⟩
  | finite negative units =>
      rw [toInt?, Position.ofBinary64, Position.ofInt, Position.at.injEq]
      -- nothing depends on how many units make one
      have hpos := one_pos
      generalize one = d at hpos ⊢
      have hd : (d : Int) ≠ 0 := by omega
      by_cases hwhole : units % d = 0
      · obtain ⟨k, rfl⟩ := Nat.dvd_of_mod_eq_zero hwhole
        have hplace : (if negative then -((d * k : Nat) : Int) else ((d * k : Nat) : Int)) =
            (if negative then -(k : Int) else (k : Int)) * d := by
          cases negative <;> simp <;> ring
        rw [if_pos hwhole, Nat.mul_div_cancel_left k hpos, Option.some.injEq, hplace,
          mul_left_inj' hd]
      · rw [if_neg hwhole]
        refine iff_of_false (by simp) fun hplace => hwhole (Nat.mod_eq_zero_of_dvd ?_)
        have hdvd : (d : Int) ∣ if negative then -(units : Int) else (units : Int) :=
          ⟨n, by rw [hplace, mul_comm]⟩
        cases negative with
        | false => exact Int.natCast_dvd_natCast.mp hdvd
        | true => exact Int.natCast_dvd_natCast.mp (Int.dvd_neg.mp hdvd)

namespace Check

/-- The truth value as a number. -/
def numberOfTruth (b : Bool) : Int :=
  if b then 1 else 0

/-- The words for a truth value. -/
def wordsFor (b : Bool) : List String :=
  if b then trueWords else falseWords

/-- What a value has to be to stand for a truth value. -/
inductive StandsFor : Json → Bool → Prop where
  /-- A number or a truth value that equals one or zero. -/
  | number {value : Json} {b : Bool} : value.position? = some (.ofInt (numberOfTruth b)) →
      StandsFor value b
  /-- One of the words, in ASCII letters of either case. -/
  | word {s : String} {b : Bool} : String.ofList (s.toList.map Char.toLower) ∈ wordsFor b →
      StandsFor (.str s) b

/-- The two truth values have different numbers. -/
theorem numberOfTruth_inj {a b : Bool} : numberOfTruth a = numberOfTruth b ↔ a = b := by
  cases a <;> cases b <;> decide

/-- An integer is a truth value just if it is the number of one. -/
theorem booleanOfInteger_eq_ok {n : Int} {b : Bool} :
    booleanOfInteger n = .ok b ↔ n = numberOfTruth b := by
  unfold booleanOfInteger numberOfTruth
  split
  · cases b <;> simp_all
  · split
    · cases b <;> simp_all
    · split <;> cases b <;> simp_all

/-- A float is taken for an integer just if it is one of 64 bits, the least of these excepted. -/
theorem integerOfFloat_eq_ok {x : Binary64} {n : Int} :
    integerOfFloat x = .ok n ↔ x.toInt? = some n ∧ isWord n = true ∧ n ≠ wordMin := by
  cases x with
  | infinite _ => simp [integerOfFloat, Binary64.toInt?]
  | undefined => simp [integerOfFloat, Binary64.toInt?]
  | finite negative units =>
      unfold integerOfFloat
      dsimp only
      cases Binary64.toInt? (.finite negative units) with
      | none => simp
      | some m =>
          dsimp only
          by_cases hfits : isWord m = true ∧ m ≠ wordMin
          · have hcheck : (isWord m && m != wordMin) = true := by simpa using hfits
            rw [if_pos hcheck, Except.ok.injEq, Option.some.injEq, iff_self_and]
            rintro rfl
            exact hfits
          · have hcheck : ¬ (isWord m && m != wordMin) = true := by simpa using hfits
            rw [if_neg hcheck, Option.some.injEq]
            refine iff_of_false (by simp) ?_
            rintro ⟨rfl, hword⟩
            exact hfits hword

/-- A float is a truth value just if it stands where the number of one does. -/
theorem booleanOfFloat_eq_ok {x : Binary64} {b : Bool} :
    booleanOfFloat x = .ok b ↔ Position.ofBinary64 x = .ofInt (numberOfTruth b) := by
  have hinteger : booleanOfFloat x = .ok b ↔ integerOfFloat x = .ok (numberOfTruth b) := by
    unfold booleanOfFloat
    split
    · next n hn => rw [booleanOfInteger_eq_ok, hn, Except.ok.injEq]
    · next kind hkind => simp [hkind]
  rw [hinteger, integerOfFloat_eq_ok, Binary64.toInt?_eq_some_iff, and_iff_left]
  cases b <;> decide

/-- A text is a truth value just if its small letters are one of the words for it. -/
theorem booleanOfText_eq_ok {s : String} {b : Bool} :
    booleanOfText s = .ok b ↔ String.ofList (s.toList.map Char.toLower) ∈ wordsFor b := by
  have hapart : ∀ word ∈ falseWords, word ∉ trueWords := by decide
  unfold booleanOfText wordsFor
  simp only [List.contains_iff_mem]
  split
  · next htrue =>
      cases b with
      | true => simpa using htrue
      | false => simpa using fun hfalse => hapart _ hfalse htrue
  · next htrue =>
      split
      · next hfalse => cases b <;> simp_all
      · next hfalse => cases b <;> simp_all

/-- A truth value is read from the values that stand for it. -/
theorem boolean_eq_ok_iff {value : Json} {b : Bool} :
    boolean value = .ok b ↔ StandsFor value b := by
  have hnumber : StandsFor value b ↔ value.position? = some (.ofInt (numberOfTruth b)) ∨
      ∃ s, value = .str s ∧ String.ofList (s.toList.map Char.toLower) ∈ wordsFor b := by
    constructor
    · rintro (h | h)
      · exact Or.inl h
      · exact Or.inr ⟨_, rfl, h⟩
    · rintro (h | ⟨s, rfl, h⟩)
      · exact .number h
      · exact .word h
  rw [hnumber]
  cases value with
  | bool c =>
      have hplace : Json.position? (.bool c) = some (.ofInt (numberOfTruth c)) := rfl
      simp [boolean, hplace, Position.ofInt_inj, numberOfTruth_inj]
  | int n =>
      simp [boolean, ofVerdict_eq_ok, booleanOfInteger_eq_ok, Json.position?, Position.ofInt_inj]
  | float x => simp [boolean, ofVerdict_eq_ok, booleanOfFloat_eq_ok, Json.position?]
  | str s => simp [boolean, ofVerdict_eq_ok, booleanOfText_eq_ok, Json.position?]
  | _ => simp [boolean, Checked.fail, Json.position?]

/-- An integer that is no truth value is turned down in one of two ways. -/
theorem kind_of_boolean_error {n : Int} {kind : IssueKind}
    (h : booleanOfInteger n = .error kind) : kind = .notBoolean ∨ kind = .booleanText := by
  unfold booleanOfInteger at h
  split at h
  · cases h
  · split at h
    · cases h
    · split at h <;> cases h <;> simp

/-- A value that stands for no truth value is rejected in one of two ways. -/
theorem boolean_eq_fail {value : Json} (h : ∀ b, ¬ StandsFor value b) :
    ∃ kind, (kind = .notBoolean ∨ kind = .booleanText) ∧ boolean value = .fail kind value := by
  simp only [← boolean_eq_ok_iff] at h
  have hverdict : ∀ verdict : Except IssueKind Bool, boolean value = .ofVerdict value verdict →
      (∀ kind, verdict = .error kind → kind = .notBoolean ∨ kind = .booleanText) →
      ∃ kind, (kind = .notBoolean ∨ kind = .booleanText) ∧ boolean value = .fail kind value := by
    intro verdict hvalue hkinds
    cases verdict with
    | ok b => exact absurd hvalue (h b)
    | error kind => exact ⟨kind, hkinds kind rfl, hvalue⟩
  cases value with
  | bool b => exact absurd rfl (h b)
  | int n => exact hverdict _ rfl fun kind => kind_of_boolean_error
  | float x =>
      refine hverdict _ rfl fun kind hkind => ?_
      unfold booleanOfFloat at hkind
      split at hkind
      · exact kind_of_boolean_error hkind
      · cases hkind
        exact Or.inl rfl
  | str s =>
      refine hverdict _ rfl fun kind hkind => Or.inr ?_
      unfold booleanOfText at hkind
      dsimp only at hkind
      split at hkind
      · cases hkind
      · split at hkind <;> cases hkind
        rfl
  | _ => exact ⟨_, Or.inl rfl, rfl⟩

end Check

end Rigor
