import Rigor.Proofs.Text.SmallLetters

/-!
# Plain text

A plain character is a visible one of ASCII and no capital letter. Plain text is in normal form
already: it has no blanks (`strip_of_plain`) and is the same in small letters (`lower_of_plain`).
The tables of blanks and of letters are gone through once, for all plain characters together.
-/

namespace Rigor.Text

/-- A visible character of ASCII that is no capital letter. -/
def isPlain (c : Char) : Bool :=
  0x21 ≤ c.toNat && c.toNat ≤ 0x7e && !(0x41 ≤ c.toNat && c.toNat ≤ 0x5a)

/-- The plain characters in terms of their code points. -/
theorem isPlain_iff {c : Char} :
    isPlain c = true ↔ 0x21 ≤ c.toNat ∧ c.toNat ≤ 0x7e ∧ ¬ (0x41 ≤ c.toNat ∧ c.toNat ≤ 0x5a) := by
  rw [isPlain, Bool.and_eq_true, Bool.and_eq_true, and_assoc, Bool.not_eq_true', decide_eq_true_eq,
    decide_eq_true_eq, ← Bool.not_eq_true, Bool.and_eq_true, decide_eq_true_eq, decide_eq_true_eq]

variable {c : Char} {cs : List Char}

/-! ### Blanks -/

/-- Every range of blanks is below or above the plain characters. -/
theorem blank_ranges :
    ∀ r ∈ whiteSpace ++ informationSeparators, r.2 < 0x21 ∨ 0x7e < r.1 := by
  decide +kernel

/-- Plain characters are not blank. -/
theorem not_blank_of_plain (h : isPlain c = true) : isBlank c = false := by
  obtain ⟨hleast, hmost, -⟩ := isPlain_iff.mp h
  rw [isBlank_eq_false_iff]
  intro r hr
  have := blank_ranges r hr
  omega

/-- Plain text has no blanks to strip. -/
theorem strip_of_plain (h : ∀ c ∈ cs, isPlain c = true) : strip cs = cs := by
  apply strip_of_visibleEnds
  constructor
  · intro c hc
    exact not_blank_of_plain (h c (List.mem_of_mem_head? hc))
  · intro c hc
    exact not_blank_of_plain (h c (List.mem_of_getLast? hc))

/-! ### Small letters -/

/-- Only one run of letters with small forms touches ASCII, that of its capital letters. -/
theorem lower_runs :
    ∀ run ∈ lowerRuns, (run.first = 0x41 ∧ run.last = 0x5a) ∨ 0x7e < run.first := by
  decide +kernel

/-- Plain characters are small already. -/
theorem isSmall_of_plain (h : isPlain c = true) : IsSmall c := by
  obtain ⟨-, hmost, hcapital⟩ := isPlain_iff.mp h
  apply isSmall_of_unmapped
  · rintro rfl
    revert hmost
    decide
  · intro run hrun
    have := lower_runs run hrun
    rw [CodeRun.mapped?, if_neg]
    omega

/-- Plain text is in small letters as it stands. -/
theorem lower_of_plain (h : ∀ c ∈ cs, isPlain c = true) : lower cs = cs := by
  apply lowerFrom_of_small
  intro c hc
  exact isSmall_of_plain (h c hc)

end Rigor.Text
