import Mathlib.Computability.Language
import Rigor.Text.Pattern

/-!
# The languages of patterns

A pattern stands for a language, the set of its texts, and matching by derivatives decides it
(`accepts_iff`). The derivative by a character is the language of what may follow this character
(`mem_language_derivative`), by induction on the pattern; the induction uses two facts about how a
text of a product or of an iteration begins (`cons_mem_mul`, `cons_mem_kstar`), and that the
shortcuts `then_` and `or_` take nothing away.

* `language_times`, `language_all` and the like: the languages of the patterns that are built from
  others.
* `fits_iff`: a text fits a pattern exactly if it is in the language without its final line feed,
  provided that no text of the language has one.
-/

namespace Rigor.Text

open scoped Computability

variable {c : Char} {cs : List Char} {l m : Language Char}

/-! ### Beginnings of texts -/

/-- A text of a product that begins with a character takes it from the first factor, unless it takes
nothing from there. -/
theorem cons_mem_mul :
    c :: cs ∈ l * m ↔ (∃ as bs, c :: as ∈ l ∧ bs ∈ m ∧ as ++ bs = cs) ∨ [] ∈ l ∧ c :: cs ∈ m := by
  rw [Language.mem_mul]
  constructor
  · rintro ⟨front, hfront, back, hback, heq⟩
    cases front with
    | nil =>
        rw [List.nil_append] at heq
        exact Or.inr ⟨hfront, heq ▸ hback⟩
    | cons d as =>
        obtain ⟨rfl, hrest⟩ := List.cons.inj heq
        exact Or.inl ⟨as, back, hfront, hback, hrest⟩
  · rintro (⟨as, bs, has, hbs, rfl⟩ | ⟨hnil, hcons⟩)
    · exact ⟨c :: as, has, bs, hbs, rfl⟩
    · exact ⟨[], hnil, c :: cs, hcons, rfl⟩

/-- A text of an iteration that begins with a character begins with a text that does. -/
theorem cons_mem_kstar :
    c :: cs ∈ l∗ ↔ ∃ as bs, c :: as ∈ l ∧ bs ∈ l∗ ∧ as ++ bs = cs := by
  constructor
  · intro h
    obtain ⟨parts, heq, hparts⟩ := Language.mem_kstar_iff_exists_nonempty.mp h
    cases parts with
    | nil => cases heq
    | cons part rest =>
        obtain ⟨hpart, hne⟩ := hparts part List.mem_cons_self
        obtain ⟨d, as, rfl⟩ := List.exists_cons_of_ne_nil hne
        rw [List.flatten_cons, List.cons_append] at heq
        obtain ⟨rfl, hrest⟩ := List.cons.inj heq
        refine ⟨as, rest.flatten, hpart, ?_, hrest.symm⟩
        exact Language.join_mem_kstar fun p hp => (hparts p (List.mem_cons_of_mem _ hp)).1
  · rintro ⟨as, bs, has, ⟨parts, rfl, hparts⟩, rfl⟩
    refine ⟨(c :: as) :: parts, rfl, ?_⟩
    intro part hpart
    rcases List.mem_cons.mp hpart with rfl | hpart
    · exact has
    · exact hparts part hpart

/-! ### The language of a pattern -/

/-- The texts of one character that belongs to a class. -/
def oneOf (isIn : Char → Bool) : Language Char :=
  {cs | ∃ c, isIn c = true ∧ cs = [c]}

/-- A text of one character of a class has just this character. -/
theorem mem_oneOf {isIn : Char → Bool} : cs ∈ oneOf isIn ↔ ∃ c, isIn c = true ∧ cs = [c] :=
  Iff.rfl

/-- The class of a single character has one text. -/
theorem oneOf_beq (c : Char) : oneOf (· == c) = {[c]} := by
  ext cs
  rw [mem_oneOf]
  constructor
  · rintro ⟨d, hd, rfl⟩
    rw [beq_iff_eq.mp hd]
    rfl
  · rintro rfl
    exact ⟨c, beq_self_eq_true c, rfl⟩

namespace Pattern

/-- The texts of a pattern. -/
def language : Pattern → Language Char
  | .never => 0
  | .empty => 1
  | .one isIn => oneOf isIn
  | .seq p q => p.language * q.language
  | .alt p q => p.language + q.language
  | .many p => p.language∗

variable {p q : Pattern}

/-- The shortened sequence of two patterns has the texts of the sequence. -/
theorem language_then_ (p q : Pattern) : (then_ p q).language = p.language * q.language := by
  cases p with
  | never => rw [then_, language, zero_mul]
  | empty => rw [then_, language, one_mul]
  | _ => rfl

/-- The shortened choice of two patterns has the texts of the choice. -/
theorem language_or_ (p q : Pattern) : (or_ p q).language = p.language + q.language := by
  unfold or_
  split
  · rw [language, zero_add]
  · rw [language, add_zero]
  · rfl

/-- A pattern is nullable just if it has the empty text. -/
theorem nullable_iff (p : Pattern) : p.nullable = true ↔ [] ∈ p.language := by
  induction p with
  | never => simp [nullable, language]
  | empty => simp [nullable, language]
  | one isIn => simp [nullable, language, mem_oneOf]
  | seq p q ihp ihq => simp [nullable, language, ihp, ihq, Language.mem_mul]
  | alt p q ihp ihq => rw [nullable, Bool.or_eq_true, ihp, ihq, language, Language.mem_add]
  | many p _ => simp [nullable, language, Language.nil_mem_kstar]

/-- The derivative by a character has the texts that may follow it. -/
theorem mem_language_derivative (p : Pattern) :
    cs ∈ (p.derivative c).language ↔ c :: cs ∈ p.language := by
  induction p generalizing cs with
  | never => simp [derivative, language]
  | empty => simp [derivative, language]
  | one isIn =>
      by_cases hc : isIn c = true
      · simp [derivative, language, mem_oneOf, hc]
      · simp [derivative, language, mem_oneOf, hc]
  | seq p q ihp ihq =>
      have hproduct : cs ∈ (p.derivative c).language * q.language ↔
          ∃ as bs, c :: as ∈ p.language ∧ bs ∈ q.language ∧ as ++ bs = cs := by
        simp only [Language.mem_mul, ihp, ← exists_and_left, ← and_assoc]
      rw [derivative, language, cons_mem_mul, ← nullable_iff, ← ihq, ← hproduct]
      by_cases hnull : p.nullable = true
      · rw [if_pos hnull, language_or_, language_then_, Language.mem_add]
        simp [hnull]
      · rw [if_neg hnull, language_then_]
        simp [hnull]
  | alt p q ihp ihq =>
      rw [derivative, language_or_, language, Language.mem_add, Language.mem_add, ihp, ihq]
  | many p ih =>
      rw [derivative, language_then_, language, cons_mem_kstar, Language.mem_mul]
      simp only [ih, ← exists_and_left, ← and_assoc]

/-- Matching decides the language. -/
theorem accepts_iff : p.accepts cs = true ↔ cs ∈ p.language := by
  induction cs generalizing p with
  | nil => exact nullable_iff p
  | cons c rest ih => rw [accepts, ih, mem_language_derivative]

/-! ### Patterns that are built from others -/

/-- The pattern of a character has the text of this character. -/
theorem language_char (c : Char) : (char c).language = {[c]} := oneOf_beq c

/-- A pattern a number of times has the texts in as many pieces. -/
theorem language_times (n : Nat) (p : Pattern) : (times n p).language = p.language ^ n := by
  induction n with
  | zero => rw [times, language, pow_zero]
  | succ n ih => rw [times, language, ih, pow_succ']

/-- A pattern at least once has a text and then any number of them. -/
theorem language_plus (p : Pattern) : (plus p).language = p.language * p.language∗ := rfl

/-- An optional pattern has the empty text as well. -/
theorem language_maybe (p : Pattern) : (maybe p).language = p.language + 1 := rfl

/-- Patterns in a row have the texts in pieces, one of each pattern. -/
theorem language_all (ps : List Pattern) : (all ps).language = (ps.map language).prod := by
  induction ps with
  | nil => rfl
  | cons p rest ih => rw [all, language, ih, List.map_cons, List.prod_cons]

/-- A literal has its own text. -/
theorem language_literal (s : String) : (literal s).language = {s.toList} := by
  unfold literal
  induction s.toList with
  | nil => rfl
  | cons c rest ih =>
      rw [List.foldr_cons, language, language_char, ih]
      exact Set.image2_singleton

/-! ### Any number of characters of a class -/

/-- Characters of a class any number of times make the texts whose characters are all of the
class. -/
theorem mem_kstar_oneOf {isIn : Char → Bool} : cs ∈ (oneOf isIn)∗ ↔ ∀ c ∈ cs, isIn c = true := by
  induction cs with
  | nil => simp [Language.nil_mem_kstar]
  | cons c rest ih =>
      rw [cons_mem_kstar, List.forall_mem_cons, ← ih]
      simp [mem_oneOf]

/-- At least one of them makes those of these texts that are not empty. -/
theorem mem_language_plus_one {isIn : Char → Bool} :
    cs ∈ (plus (.one isIn)).language ↔ cs ≠ [] ∧ ∀ c ∈ cs, isIn c = true := by
  rw [language_plus, language]
  cases cs with
  | nil => simp [Language.mem_mul, mem_oneOf]
  | cons c rest =>
      rw [cons_mem_mul, List.forall_mem_cons, ← mem_kstar_oneOf]
      simp [mem_oneOf]

end Pattern

/-! ### Final line feeds -/

/-- A text without the line feed at its end, if it has one there. -/
def withoutFinalBreak (cs : List Char) : List Char :=
  if cs.getLast? = some '\n' then cs.dropLast else cs

/-- A text that ends otherwise has no final line feed to lose. -/
theorem withoutFinalBreak_of_ne (h : cs.getLast? ≠ some '\n') : withoutFinalBreak cs = cs :=
  if_neg h

/-- A text with a line feed at its end loses just this one. -/
theorem withoutFinalBreak_concat (cs : List Char) : withoutFinalBreak (cs ++ ['\n']) = cs := by
  simp [withoutFinalBreak]

/-- Where no text of the pattern has a line feed, a text fits it exactly if it is one of them but
for such an ending. -/
theorem Pattern.fits_iff {p : Pattern} {IsText : List Char → Prop}
    (hlanguage : ∀ {cs}, cs ∈ p.language ↔ IsText cs) (hbreak : ∀ {cs}, IsText cs → '\n' ∉ cs) :
    p.fits cs = true ↔ IsText (withoutFinalBreak cs) := by
  unfold Pattern.fits withoutFinalBreak
  by_cases hlast : cs.getLast? = some '\n'
  · have hwhole : ¬ IsText cs := fun hcs => hbreak hcs (List.mem_of_getLast? hlast)
    simp [hlast, accepts_iff, hlanguage, hwhole]
  · simp [hlast, accepts_iff, hlanguage]

end Rigor.Text
