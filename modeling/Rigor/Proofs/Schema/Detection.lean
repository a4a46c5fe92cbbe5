import Mathlib.Algebra.BigOperators.Group.List.Basic
import Mathlib.Data.List.Forall2
import Rigor.Proofs.Text.Language
import Rigor.Schema.Format

/-!
# The texts of each format

What the four formats call for, said of a text as a whole and without patterns: `IsUuid`,
`IsMailAddress`, `IsUrl` and `IsTimestamp`. Parts of a fixed form are given by a stencil, a text
with places for digits, and `filled` is the language of the texts that fill it in. Characters of
the stencil and of the text go in pairs, so the language of two stencils in a row is the product
(`filled_append`), and a pattern without choices has the language of one stencil.

* `language_uuidPattern`, `mem_language_emailPattern`, `mem_language_urlPattern`,
  `mem_language_datetimePattern`: the patterns have the texts that are called for.
* `fits_uuidPattern_iff` and its three kin: the same for fitting. None of the texts has a line feed,
  so the one that fitting passes over at the end of a text is never needed.
* `detect_iff`: the main statement, which formats are detected.
-/

namespace Rigor.Schema.Format

open Text (Pattern isBlank isDecimalDigit oneOf oneOf_beq withoutFinalBreak
  withoutFinalBreak_concat withoutFinalBreak_of_ne)
open Text.Pattern (fits_iff language language_all language_char language_literal language_maybe
  language_times mem_kstar_oneOf mem_language_plus_one)
open scoped Computability

variable {c k : Char} {cs stencil : List Char}

/-! ### Stencils -/

/-- The hexadecimal digits of either case. -/
def hexDigits : List Char :=
  ['0', '1', '2', '3', '4', '5', '6', '7', '8', '9', 'a', 'b', 'c', 'd', 'e', 'f', 'A', 'B', 'C',
    'D', 'E', 'F']

/-- The characters that may stand where a stencil has `k`: hexadecimal digits for an `h`, decimal
digits of any script for a `d`, and the character itself for any other one. -/
def place (k c : Char) : Bool :=
  if k = 'h' then hexDigits.contains c
  else if k = 'd' then isDecimalDigit c
  else c == k

/-- The texts that fill in a stencil, character by character. -/
def filled (stencil : List Char) : Language Char :=
  {cs | List.Forall₂ (fun k c => place k c = true) stencil cs}

/-- A stencil is filled in place by place. -/
theorem filled_eq_prod (stencil : List Char) :
    filled stencil = (stencil.map fun k => oneOf (place k)).prod := by
  induction stencil with
  | nil =>
      ext cs
      exact List.forall₂_nil_left_iff
  | cons k rest ih =>
      rw [List.map_cons, List.prod_cons, ← ih]
      ext cs
      constructor
      · intro h
        obtain ⟨c, more, hc, hmore, rfl⟩ := List.forall₂_cons_left_iff.mp h
        exact ⟨[c], ⟨c, hc, rfl⟩, more, hmore, rfl⟩
      · rintro ⟨_, ⟨c, hc, rfl⟩, more, hmore, rfl⟩
        exact List.Forall₂.cons hc hmore

/-- A stencil in two parts is filled in part by part. -/
theorem filled_append (front back : List Char) :
    filled (front ++ back) = filled front * filled back := by
  rw [filled_eq_prod, filled_eq_prod, filled_eq_prod, List.map_append, List.prod_append]

/-- A run of one place is filled in by as many of its characters. -/
theorem filled_replicate (n : Nat) (k : Char) :
    filled (List.replicate n k) = oneOf (place k) ^ n := by
  rw [filled_eq_prod, List.map_replicate, List.prod_replicate]

/-- A character that holds no place for digits stands for itself. -/
theorem place_eq_beq (hhex : k ≠ 'h') (hdecimal : k ≠ 'd') : place k = (· == k) := by
  funext c
  rw [place, if_neg hhex, if_neg hdecimal]

/-- A place that stands for itself is filled in by its character alone. -/
theorem filled_singleton (hhex : k ≠ 'h') (hdecimal : k ≠ 'd') : filled [k] = {[k]} := by
  rw [filled_eq_prod, List.map_singleton, List.prod_singleton, place_eq_beq hhex hdecimal,
    oneOf_beq]

/-- Every character of a text that fills in a stencil is in its place. -/
theorem exists_place (h : cs ∈ filled stencil) (hc : c ∈ cs) :
    ∃ k ∈ stencil, place k c = true := by
  have hpairs : List.Forall₂ (fun k c => place k c = true) stencil cs := h
  induction hpairs with
  | nil => cases hc
  | cons hplace hrest ih =>
      rcases List.mem_cons.mp hc with rfl | hlater
      · exact ⟨_, List.mem_cons_self, hplace⟩
      · obtain ⟨k, hk, hkc⟩ := ih hrest hlater
        exact ⟨k, List.mem_cons_of_mem _ hk, hkc⟩

/-- The characters of a stencil that hold no place for digits occur in every text that fills it
in. -/
theorem mem_of_mem_filled (h : cs ∈ filled stencil) (hk : k ∈ stencil) (hhex : k ≠ 'h')
    (hdecimal : k ≠ 'd') : k ∈ cs := by
  obtain ⟨front, back, rfl⟩ := List.append_of_mem hk
  have hproduct : cs ∈ filled front * ({[k]} * filled back) := by
    rw [← filled_singleton hhex hdecimal, ← filled_append, ← filled_append]
    exact h
  obtain ⟨_, -, _, ⟨_, rfl, _, -, rfl⟩, rfl⟩ := hproduct
  simp

/-! ### Classes of characters -/

/-- The letters of a scheme are those of the Latin alphabet. -/
theorem isLetter_eq (c : Char) : isLetter c = c.isAlpha := by
  have hupper : c.isUpper = decide ('A' ≤ c ∧ c ≤ 'Z') := rfl
  have hlower : c.isLower = (decide ('a' ≤ c) && decide (c ≤ 'z')) := rfl
  have halpha : c.isAlpha = (c.isUpper || c.isLower) := rfl
  rw [halpha, hupper, hlower, Bool.decide_and, Bool.or_comm, isLetter]

/-- The characters of a scheme are Latin letters, digits, and three signs. -/
theorem isSchemeChar_iff (c : Char) :
    isSchemeChar c = true ↔ c.isAlphanum = true ∨ c ∈ ['+', '.', '-'] := by
  have hdigit : Text.isAsciiDigit c = c.isDigit := rfl
  simp [isSchemeChar, isLetter_eq, hdigit, Char.isAlphanum, or_assoc]

/-- The ranges of hexadecimal digits hold those that are listed. Beyond ASCII there are none, and
within it the characters are gone through. -/
theorem isHexDigit_eq : isHexDigit = place 'h' := by
  funext c
  by_cases hascii : c.toNat < 128
  · have hall : ∀ n < 128, isHexDigit (Char.ofNat n) = place 'h' (Char.ofNat n) := by
      decide +kernel
    have := hall c.toNat hascii
    rwa [Char.ofNat_toNat] at this
  · have hbeyond : ∀ d : Char, d.toNat < 128 → ¬ c ≤ d := by
      intro d hd hle
      have : c.toNat ≤ d.toNat := hle
      omega
    have hlisted : ∀ d ∈ hexDigits, d.toNat < 128 := by simp [hexDigits]
    have hplace : place 'h' c = false := by
      have hnot : c ∉ hexDigits := fun hc => hascii (hlisted c hc)
      simpa [place] using hnot
    rw [hplace]
    simp [isHexDigit, Text.isAsciiDigit, hbeyond]

/-! ### Identifiers -/

/-- 36 characters: groups of 8, 4, 4, 4 and 12 hexadecimal digits, joined by hyphens. -/
def IsUuid (t : List Char) : Prop :=
  t ∈ filled "hhhhhhhh-hhhh-hhhh-hhhh-hhhhhhhhhhhh".toList

/-- The first pattern describes the identifiers. -/
theorem mem_language_uuidPattern : cs ∈ uuidPattern.language ↔ IsUuid cs := by
  have hstencil : "hhhhhhhh-hhhh-hhhh-hhhh-hhhhhhhhhhhh".toList =
      List.replicate 8 'h' ++ (['-'] ++ (List.replicate 4 'h' ++ (['-'] ++
        (List.replicate 4 'h' ++ (['-'] ++ (List.replicate 4 'h' ++ (['-'] ++
          List.replicate 12 'h'))))))) := rfl
  have hhyphen : filled ['-'] = {['-']} := filled_singleton (by decide) (by decide)
  have heq : uuidPattern.language = filled "hhhhhhhh-hhhh-hhhh-hhhh-hhhhhhhhhhhh".toList := by
    rw [hstencil]
    simp only [filled_append, filled_replicate, hhyphen, uuidPattern, language_all, language_times,
      language_char, language, isHexDigit_eq, List.map_cons, List.map_nil, List.prod_cons,
      List.prod_nil, mul_one]
  rw [heq, IsUuid]

/-- An identifier has hexadecimal digits and hyphens only. -/
theorem IsUuid.not_mem (h : IsUuid cs) (hhex : place 'h' c = false) (hhyphen : c ≠ '-') :
    c ∉ cs := by
  intro hc
  obtain ⟨k, hk, hkc⟩ := exists_place h hc
  have hplaces : ∀ k ∈ "hhhhhhhh-hhhh-hhhh-hhhh-hhhhhhhhhhhh".toList, k = 'h' ∨ k = '-' := by
    simp
  rcases hplaces k hk with rfl | rfl
  · rw [hhex] at hkc
    cases hkc
  · exact hhyphen (beq_iff_eq.mp hkc)

/-! ### Mail addresses -/

/-- A text without blanks and with exactly one at sign, which has a text before it and one behind it
with a dot that is neither its first nor its last character. -/
structure IsMailAddress (t : List Char) : Prop where
  /-- There are no blanks. -/
  not_blank : ∀ c ∈ t, isBlank c = false
  /-- There is one at sign. -/
  count_at : t.count '@' = 1
  /-- There is something before it, and behind it something on either side of a dot. -/
  parts : ∃ name domain, t = name ++ '@' :: domain ∧ name ≠ [] ∧
    ∃ host top, domain = host ++ '.' :: top ∧ host ≠ [] ∧ top ≠ []

/-- The parts around the at sign and the dot have at least one character, and neither blanks nor at
signs. -/
theorem mem_language_address :
    cs ∈ (Pattern.plus (.one isAddressChar)).language ↔
      cs ≠ [] ∧ (∀ c ∈ cs, isBlank c = false) ∧ '@' ∉ cs := by
  have hchar : ∀ c, isAddressChar c = true ↔ isBlank c = false ∧ c ≠ '@' := by
    intro c
    simp [isAddressChar]
  simp only [mem_language_plus_one, hchar]
  refine and_congr Iff.rfl ⟨?_, ?_⟩
  · intro h
    exact ⟨fun c hc => (h c hc).1, fun hat => (h '@' hat).2 rfl⟩
  · rintro ⟨hblank, hat⟩ c hc
    exact ⟨hblank c hc, ne_of_mem_of_not_mem hc hat⟩

/-- The second pattern describes the mail addresses. -/
theorem mem_language_emailPattern : cs ∈ emailPattern.language ↔ IsMailAddress cs := by
  have heq : emailPattern.language =
      (Pattern.plus (.one isAddressChar)).language * ({['@']} *
        ((Pattern.plus (.one isAddressChar)).language * ({['.']} *
          (Pattern.plus (.one isAddressChar)).language))) := by
    simp only [emailPattern, language_all, language_char, List.map_cons, List.map_nil,
      List.prod_cons, List.prod_nil, mul_one]
  rw [heq]
  constructor
  · rintro ⟨name, hname, _, ⟨_, rfl, _, ⟨host, hhost, _, ⟨_, rfl, top, htop, rfl⟩, rfl⟩, rfl⟩, rfl⟩
    obtain ⟨hname, hnameBlank, hnameAt⟩ := mem_language_address.mp hname
    obtain ⟨hhost, hhostBlank, hhostAt⟩ := mem_language_address.mp hhost
    obtain ⟨htop, htopBlank, htopAt⟩ := mem_language_address.mp htop
    refine ⟨?_, ?_, name, host ++ '.' :: top, rfl, hname, host, top, rfl, hhost, htop⟩
    · have hat : isBlank '@' = false := by decide +kernel
      have hdot : isBlank '.' = false := by decide +kernel
      simp only [List.mem_append, List.mem_singleton]
      rintro c (hc | rfl | hc | rfl | hc)
      · exact hnameBlank c hc
      · exact hat
      · exact hhostBlank c hc
      · exact hdot
      · exact htopBlank c hc
    · simp [List.count_eq_zero.mpr hnameAt, List.count_eq_zero.mpr hhostAt,
        List.count_eq_zero.mpr htopAt]
  · rintro ⟨hblank, hcount, name, _, rfl, hname, host, top, rfl, hhost, htop⟩
    have hzero : name.count '@' = 0 ∧ host.count '@' = 0 ∧ top.count '@' = 0 := by
      simp at hcount
      omega
    simp only [List.count_eq_zero] at hzero
    obtain ⟨hnameAt, hhostAt, htopAt⟩ := hzero
    simp only [List.forall_mem_append, List.forall_mem_cons] at hblank
    obtain ⟨hnameBlank, -, hhostBlank, -, htopBlank⟩ := hblank
    exact ⟨name, mem_language_address.mpr ⟨hname, hnameBlank, hnameAt⟩, _, ⟨_, rfl, _,
      ⟨host, mem_language_address.mpr ⟨hhost, hhostBlank, hhostAt⟩, _, ⟨_, rfl, top,
        mem_language_address.mpr ⟨htop, htopBlank, htopAt⟩, rfl⟩, rfl⟩, rfl⟩, rfl⟩

/-! ### Addresses with a scheme -/

/-- An ASCII letter, any number of ASCII letters, digits, plus signs, dots and hyphens, a colon and
two slashes, and at least one character, none of them blank. -/
def IsUrl (t : List Char) : Prop :=
  ∃ first scheme rest, t = first :: scheme ++ "://".toList ++ rest ∧ first.isAlpha = true ∧
    (∀ c ∈ scheme, c.isAlphanum = true ∨ c ∈ ['+', '.', '-']) ∧
    rest ≠ [] ∧ ∀ c ∈ rest, isBlank c = false

/-- The third pattern describes the addresses with a scheme. -/
theorem mem_language_urlPattern : cs ∈ urlPattern.language ↔ IsUrl cs := by
  have heq : urlPattern.language =
      oneOf isLetter * ((oneOf isSchemeChar)∗ * ({"://".toList} *
        (Pattern.plus (.one (!isBlank ·))).language)) := by
    simp only [urlPattern, language_all, language_literal, language, List.map_cons, List.map_nil,
      List.prod_cons, List.prod_nil, mul_one]
  have hrest : ∀ rest, rest ∈ (Pattern.plus (.one (!isBlank ·))).language ↔
      rest ≠ [] ∧ ∀ c ∈ rest, isBlank c = false := by
    intro rest
    simp only [mem_language_plus_one, Bool.not_eq_true']
  have hscheme : ∀ scheme, scheme ∈ (oneOf isSchemeChar)∗ ↔
      ∀ c ∈ scheme, c.isAlphanum = true ∨ c ∈ ['+', '.', '-'] := by
    intro scheme
    simp only [mem_kstar_oneOf, isSchemeChar_iff]
  rw [heq]
  constructor
  · rintro ⟨_, ⟨first, hf, rfl⟩, _, ⟨scheme, hs, _, ⟨_, rfl, rest, hr, rfl⟩, rfl⟩, rfl⟩
    rw [isLetter_eq] at hf
    refine ⟨first, scheme, rest, ?_, hf, (hscheme scheme).mp hs, (hrest rest).mp hr⟩
    simp
  · rintro ⟨first, scheme, rest, rfl, hf, hs, hr⟩
    rw [← isLetter_eq] at hf
    refine ⟨[first], ⟨first, hf, rfl⟩, _, ⟨scheme, (hscheme scheme).mpr hs, _,
      ⟨_, rfl, rest, (hrest rest).mpr hr, rfl⟩, rfl⟩, ?_⟩
    simp

/-! ### Timestamps -/

/-- Nothing, or a dot and at least one digit. -/
def IsFraction (cs : List Char) : Prop :=
  cs = [] ∨ ∃ digits, cs = '.' :: digits ∧ digits ≠ [] ∧ ∀ c ∈ digits, isDecimalDigit c = true

/-- The letter `Z`, or a sign and two pairs of digits, with or without a colon between them. -/
def IsOffset (cs : List Char) : Prop :=
  cs = ['Z'] ∨ ∃ sign digits, cs = sign :: digits ∧ (sign = '+' ∨ sign = '-') ∧
    (digits ∈ filled "dd:dd".toList ∨ digits ∈ filled "dddd".toList)

/-- A date and a time of fixed form, maybe a fraction of the second, and an offset. -/
def IsTimestamp (t : List Char) : Prop :=
  ∃ moment fraction offset, t = moment ++ fraction ++ offset ∧
    moment ∈ filled "dddd-dd-ddTdd:dd:dd".toList ∧ IsFraction fraction ∧ IsOffset offset

/-- The optional part for it describes a fraction of a second. -/
theorem mem_language_fraction :
    cs ∈ (Pattern.maybe (.all [.char '.', .plus (.one isDecimalDigit)])).language ↔
      IsFraction cs := by
  rw [language_maybe, Language.mem_add, Language.mem_one, or_comm, IsFraction]
  simp only [language_all, language_char, List.map_cons, List.map_nil, List.prod_cons,
    List.prod_nil, mul_one]
  constructor
  · rintro (rfl | ⟨_, rfl, digits, hdigits, rfl⟩)
    · exact Or.inl rfl
    · exact Or.inr ⟨digits, rfl, mem_language_plus_one.mp hdigits⟩
  · rintro (rfl | ⟨digits, rfl, hdigits⟩)
    · exact Or.inl rfl
    · exact Or.inr ⟨_, rfl, digits, mem_language_plus_one.mpr hdigits, rfl⟩

/-- The alternative for it describes an offset, in figures or as a letter. -/
theorem mem_language_offset :
    cs ∈ (Pattern.alt (.char 'Z') (.all [.one (fun c => c == '+' || c == '-'),
        .times 2 (.one isDecimalDigit), .maybe (.char ':'),
        .times 2 (.one isDecimalDigit)])).language ↔ IsOffset cs := by
  have htwo : oneOf isDecimalDigit ^ 2 = filled ['d', 'd'] := (filled_replicate 2 'd').symm
  have hcolon : ({[':']} : Language Char) = filled [':'] :=
    (filled_singleton (by decide) (by decide)).symm
  have hdigits : filled ['d', 'd'] * (({[':']} + 1) * filled ['d', 'd']) =
      filled "dd:dd".toList + filled "dddd".toList := by
    rw [add_mul, one_mul, mul_add, hcolon, ← filled_append, ← filled_append, ← filled_append]
    rfl
  rw [language, Language.mem_add, language_char, IsOffset]
  simp only [language_all, language_char, language_times, language_maybe, language, List.map_cons,
    List.map_nil, List.prod_cons, List.prod_nil, mul_one, htwo, hdigits]
  refine or_congr Iff.rfl ⟨?_, ?_⟩
  · rintro ⟨_, ⟨sign, hsign, rfl⟩, digits, hdigits, rfl⟩
    exact ⟨sign, digits, rfl, by simpa using hsign, hdigits⟩
  · rintro ⟨sign, digits, rfl, hsign, hdigits⟩
    exact ⟨[sign], ⟨sign, by simpa using hsign, rfl⟩, digits, hdigits, rfl⟩

/-- The last pattern describes the timestamps. -/
theorem mem_language_datetimePattern : cs ∈ datetimePattern.language ↔ IsTimestamp cs := by
  have hstencil : "dddd-dd-ddTdd:dd:dd".toList =
      List.replicate 4 'd' ++ (['-'] ++ (List.replicate 2 'd' ++ (['-'] ++
        (List.replicate 2 'd' ++ (['T'] ++ (List.replicate 2 'd' ++ ([':'] ++
          (List.replicate 2 'd' ++ ([':'] ++ List.replicate 2 'd'))))))))) := rfl
  have hdigit : oneOf (place 'd') = oneOf isDecimalDigit := rfl
  have hhyphen : filled ['-'] = {['-']} := filled_singleton (by decide) (by decide)
  have hletter : filled ['T'] = {['T']} := filled_singleton (by decide) (by decide)
  have hcolon : filled [':'] = {[':']} := filled_singleton (by decide) (by decide)
  have heq : datetimePattern.language = filled "dddd-dd-ddTdd:dd:dd".toList *
      ((Pattern.maybe (.all [.char '.', .plus (.one isDecimalDigit)])).language *
        (Pattern.alt (.char 'Z') (.all [.one (fun c => c == '+' || c == '-'),
          .times 2 (.one isDecimalDigit), .maybe (.char ':'),
          .times 2 (.one isDecimalDigit)])).language) := by
    rw [hstencil]
    simp only [filled_append, filled_replicate, hdigit, hhyphen, hletter, hcolon, datetimePattern]
    rw [language_all]
    simp only [List.map_cons, List.map_nil, List.prod_cons, List.prod_nil, mul_one, mul_assoc,
      language_times, language_char]
    rfl
  rw [heq]
  constructor
  · rintro ⟨moment, hmoment, _, ⟨fraction, hfraction, offset, hoffset, rfl⟩, rfl⟩
    exact ⟨moment, fraction, offset, (List.append_assoc _ _ _).symm, hmoment,
      mem_language_fraction.mp hfraction, mem_language_offset.mp hoffset⟩
  · rintro ⟨moment, fraction, offset, rfl, hmoment, hfraction, hoffset⟩
    exact ⟨moment, hmoment, _, ⟨fraction, mem_language_fraction.mpr hfraction, offset,
      mem_language_offset.mpr hoffset, rfl⟩, (List.append_assoc _ _ _).symm⟩

/-- The characters of a timestamp that are no digits. -/
def marks : List Char := ['-', 'T', ':', '.', 'Z', '+']

/-- A timestamp has decimal digits and a few marks only. -/
theorem IsTimestamp.isDecimalDigit_or_mem_marks (h : IsTimestamp cs) (hc : c ∈ cs) :
    isDecimalDigit c = true ∨ c ∈ marks := by
  have hfilled : ∀ {stencil part}, part ∈ filled stencil → c ∈ part →
      (∀ k ∈ stencil, k = 'd' ∨ k ∈ marks) → isDecimalDigit c = true ∨ c ∈ marks := by
    intro stencil part hpart hc hstencil
    obtain ⟨k, hk, hkc⟩ := exists_place hpart hc
    rcases hstencil k hk with rfl | hmark
    · exact Or.inl hkc
    · have hself : ∀ k ∈ marks, k ≠ 'h' ∧ k ≠ 'd' := by simp [marks]
      obtain ⟨hhex, hdecimal⟩ := hself k hmark
      rw [place_eq_beq hhex hdecimal] at hkc
      exact Or.inr (beq_iff_eq.mp hkc ▸ hmark)
  obtain ⟨moment, fraction, offset, rfl, hmoment, hfraction, hoffset⟩ := h
  rw [List.mem_append, List.mem_append] at hc
  rcases hc with (hc | hc) | hc
  · exact hfilled hmoment hc (by simp [marks])
  · rcases hfraction with rfl | ⟨digits, rfl, -, hdigits⟩
    · cases hc
    · rcases List.mem_cons.mp hc with rfl | hc
      · exact Or.inr (by decide)
      · exact Or.inl (hdigits c hc)
  · rcases hoffset with rfl | ⟨sign, digits, rfl, hsign, hdigits⟩
    · rw [List.mem_singleton.mp hc]
      exact Or.inr (by decide)
    · rcases List.mem_cons.mp hc with rfl | hc
      · rcases hsign with rfl | rfl
        · exact Or.inr (by decide)
        · exact Or.inr (by decide)
      · rcases hdigits with hdigits | hdigits
        · exact hfilled hdigits hc (by simp [marks])
        · exact hfilled hdigits hc (by simp [marks])

/-! ### Fitting -/

/-- An identifier has no line feed. -/
theorem IsUuid.newline_not_mem (h : IsUuid cs) : '\n' ∉ cs :=
  h.not_mem (by decide) (by decide)

/-- A line feed is blank. -/
theorem isBlank_newline : isBlank '\n' = true := by decide +kernel

/-- A mail address has no line feed. -/
theorem IsMailAddress.newline_not_mem (h : IsMailAddress cs) : '\n' ∉ cs := by
  intro hmem
  have hblank := h.not_blank '\n' hmem
  rw [isBlank_newline] at hblank
  cases hblank

/-- An address with a scheme has no line feed. -/
theorem IsUrl.newline_not_mem (h : IsUrl cs) : '\n' ∉ cs := by
  obtain ⟨first, scheme, rest, rfl, hfirst, hscheme, -, hrest⟩ := h
  intro hmem
  simp only [List.mem_append, List.mem_cons] at hmem
  rcases hmem with ((rfl | hmem) | hmem) | hmem
  · exact absurd hfirst (by decide)
  · exact absurd (hscheme '\n' hmem) (by decide)
  · exact absurd hmem (by decide)
  · have hblank := hrest '\n' hmem
    rw [isBlank_newline] at hblank
    cases hblank

/-- A timestamp has no line feed. -/
theorem IsTimestamp.newline_not_mem (h : IsTimestamp cs) : '\n' ∉ cs := by
  intro hmem
  rcases h.isDecimalDigit_or_mem_marks hmem with hdigit | hmark
  · exact absurd hdigit (by decide +kernel)
  · exact absurd hmark (by decide)

/-- A text fits the first pattern just if it is an identifier, one final line feed apart. -/
theorem fits_uuidPattern_iff : uuidPattern.fits cs = true ↔ IsUuid (withoutFinalBreak cs) :=
  fits_iff mem_language_uuidPattern IsUuid.newline_not_mem

/-- It fits the second one just if it is a mail address, one final line feed apart. -/
theorem fits_emailPattern_iff :
    emailPattern.fits cs = true ↔ IsMailAddress (withoutFinalBreak cs) :=
  fits_iff mem_language_emailPattern IsMailAddress.newline_not_mem

/-- It fits the third one just if it is an address with a scheme, one final line feed apart. -/
theorem fits_urlPattern_iff : urlPattern.fits cs = true ↔ IsUrl (withoutFinalBreak cs) :=
  fits_iff mem_language_urlPattern IsUrl.newline_not_mem

/-- It fits the last one just if it is a timestamp, one final line feed apart. -/
theorem fits_datetimePattern_iff :
    datetimePattern.fits cs = true ↔ IsTimestamp (withoutFinalBreak cs) :=
  fits_iff mem_language_datetimePattern IsTimestamp.newline_not_mem

/-! ### Detection -/

/-- The patterns are tried in their order. -/
theorem detect_eq (s : String) :
    detect s =
      if uuidPattern.fits s.toList then .uuid
      else if emailPattern.fits s.toList then .email
      else if urlPattern.fits s.toList then .url
      else if datetimePattern.fits s.toList then .datetime
      else .plain := by
  unfold detect detectIn table
  simp only [List.find?_cons, List.find?_nil]
  cases uuidPattern.fits s.toList
  · cases emailPattern.fits s.toList
    · cases urlPattern.fits s.toList
      · cases datetimePattern.fits s.toList <;> rfl
      · rfl
    · rfl
  · rfl

/-- The text is what the format calls for, and no format before it calls for this text. The order is
that of identifiers, mail addresses, addresses with a scheme and timestamps. -/
def IsTextOf (t : List Char) : Format → Prop
  | .uuid => IsUuid t
  | .email => ¬ IsUuid t ∧ IsMailAddress t
  | .url => ¬ IsUuid t ∧ ¬ IsMailAddress t ∧ IsUrl t
  | .datetime => ¬ IsUuid t ∧ ¬ IsMailAddress t ∧ ¬ IsUrl t ∧ IsTimestamp t
  | .plain => ¬ IsUuid t ∧ ¬ IsMailAddress t ∧ ¬ IsUrl t ∧ ¬ IsTimestamp t

/-- A format is detected in a text just if the text is one of this format, one final line feed
apart. -/
theorem detect_eq_iff {s : String} {format : Format} :
    detect s = format ↔ IsTextOf (withoutFinalBreak s.toList) format := by
  cases format
  all_goals
    simp only [IsTextOf, ← fits_uuidPattern_iff, ← fits_emailPattern_iff, ← fits_urlPattern_iff,
      ← fits_datetimePattern_iff, detect_eq]
    cases uuidPattern.fits s.toList
    · cases emailPattern.fits s.toList
      · cases urlPattern.fits s.toList
        · cases datetimePattern.fits s.toList <;> simp
        · simp
      · simp
    · simp

/-- What is before a final line feed decides alone. -/
theorem detect_append_newline {s : String} (h : s.toList.getLast? ≠ some '\n') :
    detect (s ++ "\n") = detect s := by
  have hbreak : withoutFinalBreak (s ++ "\n").toList = withoutFinalBreak s.toList := by
    rw [String.toList_append, withoutFinalBreak_of_ne h]
    exact withoutFinalBreak_concat s.toList
  rw [detect_eq_iff, hbreak, ← detect_eq_iff]

/-- A line feed before the final one belongs to no format. -/
theorem detect_append_newlines (s : String) : detect (s ++ "\n\n") = .plain := by
  have hbreak : withoutFinalBreak (s ++ "\n\n").toList = s.toList ++ ['\n'] := by
    have htwo : (s ++ "\n\n").toList = (s.toList ++ ['\n']) ++ ['\n'] := by
      rw [String.toList_append, List.append_assoc]
      rfl
    rw [htwo, withoutFinalBreak_concat]
  have hmem : '\n' ∈ s.toList ++ ['\n'] := List.mem_append_right _ (List.mem_singleton_self _)
  rw [detect_eq_iff, hbreak]
  refine ⟨?_, ?_, ?_, ?_⟩
  · exact fun h => h.newline_not_mem hmem
  · exact fun h => h.newline_not_mem hmem
  · exact fun h => h.newline_not_mem hmem
  · exact fun h => h.newline_not_mem hmem

/-- **The formats that are detected.** A text is of the first of four formats that calls for what it
is without a line feed at its end, and plain if none does. So one line feed at the end changes
nothing, and two make any text plain. -/
theorem detect_iff (s : String) :
    (∀ format, detect s = format ↔ IsTextOf (withoutFinalBreak s.toList) format) ∧
      (s.toList.getLast? ≠ some '\n' →
        detect (s ++ "\n") = detect s ∧ detect (s ++ "\n\n") = .plain) := by
  refine ⟨fun format => detect_eq_iff, fun h => ?_⟩
  exact ⟨detect_append_newline h, detect_append_newlines s⟩

/-- A mail address that is an address with a scheme as well, before one line feed and before two. -/
theorem detect_iff_newlines :
    "a://b@c.d".toList.getLast? ≠ some '\n' ∧ detect ("a://b@c.d" ++ "\n") = detect "a://b@c.d" ∧
      detect ("a://b@c.d" ++ "\n\n") = .plain :=
  ⟨by decide, (detect_iff "a://b@c.d").2 (by decide)⟩

end Rigor.Schema.Format
