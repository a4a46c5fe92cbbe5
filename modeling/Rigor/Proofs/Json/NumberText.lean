import Mathlib.Algebra.Order.Field.Basic
import Mathlib.Algebra.Order.Ring.Rat
import Mathlib.Data.Nat.Digits.Defs
import Mathlib.Tactic.FieldSimp
import Mathlib.Tactic.Ring
import Rigor.Json.Reader

/-!
# How numbers are written

A `NumberText` is a number as JSON has it written: possibly a minus sign, whole digits without
leading zeros, possibly a point with digits, possibly a letter `e` with a signed exponent. It has a
text and it has an exact value, each said part by part.

* `magnitude_eq`: the value is that of all digits in a row, scaled by the numeral's power of ten.
* `parse?_text`: the text is a JSON text, and is read as the numeral with these parts.
* `read_eq_some_iff`: nothing else is read as a numeral.
-/

namespace Rigor.Json

open Numeral (value readDigits digit?)

/-! ### Texts -/

/-- The character that writes a digit. -/
def digitChar (d : Digit) : Char :=
  Char.ofNat ('0'.toNat + d.val)

/-- How the sign of an exponent is written. -/
inductive ExponentSign where
  | unwritten
  | plus
  | minus
  deriving DecidableEq

/-- The text of the sign of an exponent. -/
def ExponentSign.chars : ExponentSign → List Char
  | .unwritten => []
  | .plus => ['+']
  | .minus => ['-']

/-- A written exponent. -/
structure ExponentText where
  /-- The letter is a capital one. -/
  capital : Bool
  sign : ExponentSign
  digits : List Digit
  digits_ne_nil : digits ≠ [] := by decide

namespace ExponentText

/-- The text of an exponent. -/
def chars (e : ExponentText) : List Char :=
  (if e.capital then 'E' else 'e') :: (e.sign.chars ++ e.digits.map digitChar)

/-- The power of ten that an exponent denotes. -/
def power (e : ExponentText) : ℤ :=
  if e.sign = .minus then -(value e.digits : ℤ) else value e.digits

end ExponentText

/-- The text of a fraction. -/
def fractionChars : Option (List Digit) → List Char
  | none => []
  | some digits => '.' :: digits.map digitChar

/-- The text of an exponent, if one is written. -/
def exponentChars : Option ExponentText → List Char
  | none => []
  | some e => e.chars

/-- A written number. -/
structure NumberText where
  /-- A minus sign stands in front. -/
  negative : Bool
  /-- The digits before the point. -/
  whole : List Digit
  /-- The digits after the point, if there is one. -/
  fraction : Option (List Digit)
  /-- The exponent, if there is one. -/
  exponent : Option ExponentText
  whole_ne_nil : whole ≠ [] := by decide
  /-- A zero is the first digit only if it is the only one. -/
  no_leading_zero : whole.head? = some 0 → whole = [0] := by decide
  fraction_ne_nil : fraction ≠ some [] := by decide

namespace NumberText

/-- The characters of a written number. -/
def chars (t : NumberText) : List Char :=
  (if t.negative then ['-'] else []) ++
    (t.whole.map digitChar ++ (fractionChars t.fraction ++ exponentChars t.exponent))

/-- The text of a written number. -/
def text (t : NumberText) : String :=
  String.ofList t.chars

/-- The numeral with the parts of a written number. -/
def numeral (t : NumberText) : Numeral :=
  ⟨t.negative, t.whole, t.fraction, t.exponent.map ExponentText.power⟩

/-- The number is written without a point and an exponent. -/
def IsWhole (t : NumberText) : Prop :=
  t.fraction = none ∧ t.exponent = none

end NumberText

/-! ### Values -/

/-- The number that the digits after the point denote. -/
def fractionValue : Option (List Digit) → ℚ
  | none => 0
  | some digits => value digits / 10 ^ digits.length

namespace NumberText

/-- The power of ten by which a written number is multiplied. -/
def power (t : NumberText) : ℤ :=
  (t.exponent.map ExponentText.power).getD 0

/-- A written number without its sign. -/
def magnitude (t : NumberText) : ℚ :=
  (value t.whole + fractionValue t.fraction) * 10 ^ t.power

/-- The number that is written. -/
def number (t : NumberText) : ℚ :=
  if t.negative then -t.magnitude else t.magnitude

end NumberText

/-- The value of digits is their value in base ten, the last one counting least. -/
theorem value_eq_ofDigits (ds : List Digit) :
    value ds = Nat.ofDigits 10 (ds.map Fin.val).reverse := by
  rw [Nat.ofDigits_eq_foldr, List.foldr_reverse, List.foldl_map, value]
  congr 1
  funext n d
  rw [Nat.cast_id, add_comm]

/-- More digits shift the value of those before them. -/
theorem value_append (ds ds' : List Digit) :
    value (ds ++ ds') = value ds * 10 ^ ds'.length + value ds' := by
  rw [value_eq_ofDigits, value_eq_ofDigits ds, value_eq_ofDigits ds', List.map_append,
    List.reverse_append, Nat.ofDigits_append, List.length_reverse, List.length_map]
  ring

/-- Digits have a value below the power of ten with as many zeros. -/
theorem value_lt (ds : List Digit) : value ds < 10 ^ ds.length := by
  have hdigits : ∀ n ∈ (ds.map Fin.val).reverse, n < 10 := by
    intro n hn
    obtain ⟨d, -, rfl⟩ := List.mem_map.mp (List.mem_reverse.mp hn)
    exact d.isLt
  have h := Nat.ofDigits_lt_base_pow_length (by norm_num) hdigits
  rwa [List.length_reverse, List.length_map, ← value_eq_ofDigits] at h

/-- A fraction is worth its digits over the power of ten with as many zeros. -/
theorem fractionValue_eq (fraction : Option (List Digit)) :
    fractionValue fraction = value (fraction.getD []) / 10 ^ (fraction.getD []).length := by
  cases fraction with
  | none => rw [fractionValue, Option.getD_none, value, List.foldl_nil, Nat.cast_zero, zero_div]
  | some digits => rfl

namespace NumberText

/-- The digits after the point only move the place that the last digit has. -/
theorem magnitude_eq (t : NumberText) :
    t.magnitude = value t.numeral.digits * 10 ^ t.numeral.scale := by
  have hten : (10 : ℚ) ≠ 0 := by norm_num
  have hpower : t.numeral.exponent.getD 0 = t.power := rfl
  have hfraction : t.numeral.fraction = t.fraction := rfl
  have hwhole : t.numeral.whole = t.whole := rfl
  rw [magnitude, fractionValue_eq, Numeral.digits, Numeral.scale, value_append, hpower, hfraction,
    hwhole, zpow_sub₀ hten, zpow_natCast]
  push_cast
  field_simp

/-- The sign apart, a number is its magnitude. -/
theorem abs_number (t : NumberText) : |t.number| = t.magnitude := by
  have hpos : 0 ≤ t.magnitude := by
    rw [magnitude_eq]
    exact mul_nonneg (Nat.cast_nonneg _) (zpow_nonneg (by norm_num) _)
  rw [number]
  split
  · rw [abs_neg, abs_of_nonneg hpos]
  · exact abs_of_nonneg hpos

/-- Whole digits alone denote an integer, and are read as that. -/
theorem exists_decode_int {t : NumberText} (h : t.IsWhole) :
    ∃ n : ℤ, t.numeral.decode = .int n ∧ (n : ℚ) = t.number := by
  obtain ⟨hfraction, hexponent⟩ := h
  refine ⟨if t.negative then -(value t.whole : ℤ) else value t.whole, ?_, ?_⟩
  · rw [Numeral.decode, numeral, hfraction, hexponent, if_pos ⟨rfl, rfl⟩]
  · rw [number, magnitude, power, hfraction, hexponent, fractionValue]
    split <;> simp

/-- Any other number is read as the floating-point number that the decimal is rounded to. -/
theorem decode_of_not_isWhole {t : NumberText} (h : ¬ t.IsWhole) :
    t.numeral.decode = .float (Binary64.ofDecimal t.negative (value t.numeral.digits)
      t.numeral.digits.length t.numeral.scale) := by
  rw [Numeral.decode, if_neg]
  · rfl
  · rintro ⟨hfraction, hexponent⟩
    exact h ⟨Option.isNone_iff_eq_none.mp hfraction,
      Option.map_eq_none_iff.mp (Option.isNone_iff_eq_none.mp hexponent)⟩

end NumberText

/-! ### Reading digits -/

/-- The character of a digit is read as this digit. -/
theorem digit?_digitChar : ∀ d : Digit, digit? (digitChar d) = some d := by decide

/-- A character that is no digit differs from those of all digits. -/
theorem digitChar_ne {c : Char} (hc : digit? c = none) (d : Digit) : digitChar d ≠ c := by
  rintro rfl
  rw [digit?_digitChar] at hc
  cases hc

/-- A text that goes on with something else than a digit, or not at all. -/
def NoDigit (rest : List Char) : Prop :=
  ∀ c ∈ rest.head?, digit? c = none

/-- The digits up to something that is no digit are read, and the rest is left. -/
theorem readDigits_append {rest : List Char} (h : NoDigit rest) (ds : List Digit) :
    readDigits (ds.map digitChar ++ rest) = (ds, rest) := by
  induction ds with
  | nil =>
      cases rest with
      | nil => rfl
      | cons c rest =>
          have hc : digit? c = none := h c rfl
          rw [List.map_nil, List.nil_append, readDigits, hc]
  | cons d ds ih => rw [List.map_cons, List.cons_append, readDigits, digit?_digitChar, ih]

/-- An exponent does not begin with a digit. -/
theorem noDigit_exponentChars (e : Option ExponentText) : NoDigit (exponentChars e) := by
  cases e with
  | none => exact nofun
  | some e =>
      intro c hc
      obtain rfl := Option.some.inj hc
      cases e.capital <;> rfl

/-- Nor does a fraction, or what follows it. -/
theorem noDigit_fractionChars (fraction : Option (List Digit)) (e : Option ExponentText) :
    NoDigit (fractionChars fraction ++ exponentChars e) := by
  cases fraction with
  | none => exact noDigit_exponentChars e
  | some digits =>
      intro c hc
      obtain rfl := Option.some.inj hc
      rfl

/-! ### Reading numbers -/

/-- A signed run of digits is read as its value with the sign. -/
theorem readSigned_chars (sign : ExponentSign) {ds : List Digit} (hds : ds ≠ []) :
    Numeral.readSigned (sign.chars ++ ds.map digitChar) =
      some (if sign = .minus then -(value ds : ℤ) else value ds, []) := by
  have hend : NoDigit [] := nofun
  have hread := readDigits_append hend ds
  rw [List.append_nil] at hread
  obtain ⟨d, ds, rfl⟩ := List.exists_cons_of_ne_nil hds
  cases sign with
  | unwritten =>
      rw [ExponentSign.chars, List.nil_append, Numeral.readSigned, hread]
      · rfl
      · exact fun rest h => digitChar_ne (c := '-') rfl d (List.cons.inj h).1
      · exact fun rest h => digitChar_ne (c := '+') rfl d (List.cons.inj h).1
  | plus =>
      rw [ExponentSign.chars, List.cons_append, List.nil_append, Numeral.readSigned, hread]
      rfl
  | minus =>
      rw [ExponentSign.chars, List.cons_append, List.nil_append, Numeral.readSigned, hread]
      rfl

/-- A written exponent is read as its power. -/
theorem readExponent_exponentChars (e : Option ExponentText) :
    Numeral.readExponent (exponentChars e) = (e.map ExponentText.power, []) := by
  cases e with
  | none => rfl
  | some e =>
      have hread := readSigned_chars e.sign e.digits_ne_nil
      rw [exponentChars, ExponentText.chars]
      cases e.capital with
      | false => rw [if_neg Bool.false_ne_true, Numeral.readExponent, hread]; rfl
      | true => rw [if_pos rfl, Numeral.readExponent, hread]; rfl

/-- A written fraction is read as its digits, and the exponent is left. -/
theorem readFraction_fractionChars {fraction : Option (List Digit)} (h : fraction ≠ some [])
    (e : Option ExponentText) :
    Numeral.readFraction (fractionChars fraction ++ exponentChars e) =
      (fraction, exponentChars e) := by
  cases fraction with
  | none =>
      cases e with
      | none => rfl
      | some e =>
        rw [fractionChars, List.nil_append, exponentChars, ExponentText.chars]
        cases e.capital <;> rfl
  | some ds =>
      obtain ⟨d, ds, rfl⟩ := List.exists_cons_of_ne_nil (fun hnil => h (congrArg some hnil))
      have hread := readDigits_append (noDigit_exponentChars e) (d :: ds)
      rw [fractionChars, List.cons_append, Numeral.readFraction, hread]

/-- The digits of a whole number are read, and then the fraction and the exponent that follow. -/
theorem readUnsigned_append (negative : Bool) {whole : List Digit} (hne : whole ≠ [])
    (hzero : whole.head? = some 0 → whole = [0]) {rest : List Char} (hrest : NoDigit rest) :
    Numeral.readUnsigned negative (whole.map digitChar ++ rest) =
      some (⟨negative, whole, (Numeral.readFraction rest).1,
        (Numeral.readExponent (Numeral.readFraction rest).2).1⟩,
        (Numeral.readExponent (Numeral.readFraction rest).2).2) := by
  rw [Numeral.readUnsigned, readDigits_append hrest]
  split
  · next h => exact absurd (Prod.mk.inj h).1 hne
  · next h =>
      obtain ⟨rfl, rfl⟩ := Prod.mk.inj h
      cases hzero rfl
  · next h =>
      obtain ⟨rfl, rfl⟩ := Prod.mk.inj h
      rfl

namespace NumberText

/-- A number text without its sign is read as its numeral. -/
theorem readUnsigned_chars (t : NumberText) :
    Numeral.readUnsigned t.negative
      (t.whole.map digitChar ++ (fractionChars t.fraction ++ exponentChars t.exponent)) =
      some (t.numeral, []) := by
  rw [readUnsigned_append t.negative t.whole_ne_nil t.no_leading_zero
    (noDigit_fractionChars t.fraction t.exponent),
    readFraction_fractionChars t.fraction_ne_nil, readExponent_exponentChars, numeral]

/-- Behind the sign of a number stands a digit. -/
theorem exists_unsigned (t : NumberText) :
    ∃ d cs, t.whole.map digitChar ++ (fractionChars t.fraction ++ exponentChars t.exponent) =
      digitChar d :: cs := by
  obtain ⟨d, ds, hwhole⟩ := List.exists_cons_of_ne_nil t.whole_ne_nil
  rw [hwhole, List.map_cons, List.cons_append]
  exact ⟨d, _, rfl⟩

/-- A number text is read as its numeral, with nothing left over. -/
theorem read_chars (t : NumberText) : Numeral.read t.chars = some (t.numeral, []) := by
  have h := t.readUnsigned_chars
  obtain ⟨d, cs, hcs⟩ := t.exists_unsigned
  rw [chars, hcs]
  rw [hcs] at h
  cases hsign : t.negative with
  | false =>
      rw [hsign] at h
      rw [if_neg Bool.false_ne_true, List.nil_append, Numeral.read, h]
      exact fun rest h => digitChar_ne (by rfl) d (List.cons.inj h).1
  | true =>
      rw [hsign] at h
      exact h

/-- Of the other things that a value may be, none begins as a number does. -/
theorem readValue_chars (fuel : ℕ) (t : NumberText) :
    readValue (fuel + 1) t.chars = some (t.numeral.decode, []) := by
  have h := t.read_chars
  obtain ⟨d, cs, hcs⟩ := t.exists_unsigned
  rw [chars, hcs] at h ⊢
  cases hsign : t.negative with
  | false =>
      rw [hsign, if_neg Bool.false_ne_true, List.nil_append] at h
      rw [if_neg Bool.false_ne_true, List.nil_append, readValue, h]
      · rfl
      all_goals exact fun rest h => digitChar_ne (by rfl) d (List.cons.inj h).1
  | true =>
      rw [hsign, if_pos rfl, List.cons_append, List.nil_append] at h
      rw [if_pos rfl, List.cons_append, List.nil_append, readValue, h]
      · rfl
      -- Only one of the words begins with a minus sign, and it goes on with a letter.
      all_goals first
        | exact fun rest h => absurd (List.cons.inj h).1 (by decide)
        | exact fun rest h => digitChar_ne (by rfl) d (List.cons.inj (List.cons.inj h).2).1

/-- No digit is a blank. -/
theorem isSpace_digitChar : ∀ d, isSpace (digitChar d) = false := by decide

/-- There are no blanks to skip before a number text. -/
theorem skipSpace_chars (t : NumberText) : skipSpace t.chars = t.chars := by
  obtain ⟨d, cs, hcs⟩ := t.exists_unsigned
  rw [chars, hcs, skipSpace]
  cases t.negative with
  | false => exact List.dropWhile_cons_of_neg (by simp [isSpace_digitChar])
  | true => rfl

/-- A written number is a JSON text, and is read as the numeral with its parts. -/
theorem parse?_text (t : NumberText) : Json.parse? t.text = some t.numeral.decode := by
  rw [Json.parse?, text, String.toList_ofList, skipSpace_chars, readValue_chars]
  rfl

end NumberText

/-! ### What is read as a number -/

/-- A character that is read as a digit is the character of this digit. -/
theorem eq_digitChar {c : Char} {d : Digit} (h : digit? c = some d) : c = digitChar d := by
  unfold digit? at h
  split at h
  · next hrange =>
      obtain rfl := Option.some.inj h
      rw [digitChar, Nat.add_sub_cancel' hrange.1, Char.ofNat_toNat]
  · cases h

/-- What was read as digits are their characters. -/
theorem chars_of_readDigits {cs rest : List Char} {ds : List Digit}
    (h : readDigits cs = (ds, rest)) : cs = ds.map digitChar ++ rest := by
  induction cs generalizing ds with
  | nil =>
      obtain ⟨rfl, rfl⟩ := Prod.mk.inj h
      rfl
  | cons c cs ih =>
      rw [readDigits] at h
      cases hc : digit? c with
      | none =>
          rw [hc] at h
          obtain ⟨rfl, rfl⟩ := Prod.mk.inj h
          rfl
      | some d =>
          rw [hc] at h
          obtain ⟨rfl, rfl⟩ := Prod.mk.inj h
          rw [List.map_cons, List.cons_append, ← ih rfl, eq_digitChar hc]

/-- Where a run of digits is required, at least one was read. -/
theorem exists_digits {cs rest : List Char} {sign : List Digit → ℤ} {n : ℤ}
    (h : (match readDigits cs with
      | ([], _) => none
      | (ds, rest) => some (sign ds, rest)) = some (n, rest)) :
    ∃ ds, ds ≠ [] ∧ cs = ds.map digitChar ++ rest ∧ n = sign ds := by
  split at h
  · cases h
  · next ds rest' hne hread =>
      obtain ⟨rfl, rfl⟩ := Prod.mk.inj (Option.some.inj h)
      exact ⟨ds, hne, chars_of_readDigits hread, rfl⟩

/-- What was read as a signed integer is a sign and the characters of its digits. -/
theorem chars_of_readSigned {cs rest : List Char} {n : ℤ}
    (h : Numeral.readSigned cs = some (n, rest)) :
    ∃ (sign : ExponentSign) (ds : List Digit), ds ≠ [] ∧
      cs = sign.chars ++ (ds.map digitChar ++ rest) ∧
      n = if sign = .minus then -(value ds : ℤ) else value ds := by
  unfold Numeral.readSigned at h
  split at h
  · obtain ⟨ds, hne, rfl, rfl⟩ := exists_digits h
    exact ⟨.minus, ds, hne, rfl, rfl⟩
  · obtain ⟨ds, hne, rfl, rfl⟩ := exists_digits h
    exact ⟨.plus, ds, hne, rfl, rfl⟩
  · obtain ⟨ds, hne, rfl, rfl⟩ := exists_digits h
    exact ⟨.unwritten, ds, hne, rfl, rfl⟩

/-- If nothing is left over, it is a written exponent, or nothing. -/
theorem chars_of_readExponent {cs : List Char} {exponent : Option ℤ}
    (h : Numeral.readExponent cs = (exponent, [])) :
    ∃ e : Option ExponentText, cs = exponentChars e ∧ exponent = e.map ExponentText.power := by
  unfold Numeral.readExponent at h
  split at h
  · split at h
    · next hread =>
      obtain ⟨rfl, rfl⟩ := Prod.mk.inj h
      obtain ⟨sign, ds, hne, rfl, rfl⟩ := chars_of_readSigned hread
      exact ⟨some ⟨false, sign, ds, hne⟩, by rw [List.append_nil]; rfl, rfl⟩
    · cases h
  · split at h
    · next hread =>
      obtain ⟨rfl, rfl⟩ := Prod.mk.inj h
      obtain ⟨sign, ds, hne, rfl, rfl⟩ := chars_of_readSigned hread
      exact ⟨some ⟨true, sign, ds, hne⟩, by rw [List.append_nil]; rfl, rfl⟩
    · cases h
  · obtain ⟨rfl, rfl⟩ := Prod.mk.inj h
    exact ⟨none, rfl, rfl⟩

/-- What was read as a fraction are its characters, and it has digits if there is one. -/
theorem chars_of_readFraction {cs rest : List Char} {fraction : Option (List Digit)}
    (h : Numeral.readFraction cs = (fraction, rest)) :
    fraction ≠ some [] ∧ cs = fractionChars fraction ++ rest := by
  unfold Numeral.readFraction at h
  split at h
  · split at h
    · obtain ⟨rfl, rfl⟩ := Prod.mk.inj h
      exact ⟨nofun, rfl⟩
    · next ds rest' hne hread =>
      obtain ⟨rfl, rfl⟩ := Prod.mk.inj h
      exact ⟨fun hnil => hne (Option.some.inj hnil), by rw [chars_of_readDigits hread]; rfl⟩
  · obtain ⟨rfl, rfl⟩ := Prod.mk.inj h
    exact ⟨nofun, rfl⟩

/-- What was read as an unsigned numeral to the end is a number text with this numeral. -/
theorem exists_of_readUnsigned {negative : Bool} {cs : List Char} {token : Numeral}
    (h : Numeral.readUnsigned negative cs = some (token, [])) :
    ∃ t : NumberText, t.chars = (if negative then ['-'] else []) ++ cs ∧ t.numeral = token := by
  unfold Numeral.readUnsigned at h
  split at h
  · cases h
  · cases h
  · next whole rest hne hlong hread =>
      have hzero : whole.head? = some 0 → whole = [0] := by
        intro hhead
        rcases whole with _ | ⟨d, _ | ⟨d', ds⟩⟩
        · cases hhead
        · rw [Option.some.inj hhead]
        · exact absurd (congrArg (· :: d' :: ds) (Option.some.inj hhead)) (hlong _ d' ds)
      rcases hfraction : Numeral.readFraction rest with ⟨fraction, rest'⟩
      rcases hexponent : Numeral.readExponent rest' with ⟨exponent, rest''⟩
      simp only [hfraction, hexponent] at h
      obtain ⟨rfl, rfl⟩ := Prod.mk.inj (Option.some.inj h)
      obtain ⟨hne', rfl⟩ := chars_of_readFraction hfraction
      obtain ⟨e, rfl, rfl⟩ := chars_of_readExponent hexponent
      refine ⟨⟨negative, whole, fraction, e, hne, hzero, hne'⟩, ?_, rfl⟩
      rw [NumberText.chars, chars_of_readDigits hread]

/-- **A text is read as a number, and to its end, exactly if it is that of a written number.** -/
theorem read_eq_some_iff {cs : List Char} {token : Numeral} :
    Numeral.read cs = some (token, []) ↔ ∃ t : NumberText, t.chars = cs ∧ t.numeral = token := by
  constructor
  · intro h
    unfold Numeral.read at h
    split at h
    · exact exists_of_readUnsigned h
    · exact exists_of_readUnsigned h
  · rintro ⟨t, rfl, rfl⟩
    exact t.read_chars

end Rigor.Json
