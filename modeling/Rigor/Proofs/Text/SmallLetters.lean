import Mathlib.Data.List.Basic
import Rigor.Text.Blank
import Rigor.Text.Case

/-!
# Small letters stay small

Taking small letters or dropping the blanks at the ends of a text is done once and for all, and the
one does not undo the other.

* `CodeRun.misses`: no image of a run is mapped by another; so it is for any two runs of the mapping
  to small letters (`misses_lowerRuns`).
* `IsSmall`: a character is its own small form wherever it stands. All small forms are such
  (`isSmall_of_mem_lowerAt`), the two forms of the small sigma included, so that `lower_lower`.
* `HasVisibleEnds`: a text without blanks at its ends, such as `strip` gives. Taking small letters
  adds none (`strip_lower_strip`), for no small form of a visible character is empty or has a blank
  in it.
-/

namespace Rigor.Text

/-! ### Images of runs -/

namespace CodeRun

variable {run other : CodeRun} {code image : Nat}

/-- The greatest image of a run. -/
def lastImage (run : CodeRun) : Nat :=
  run.image + (run.last - run.first)

/-- The images of one run and the code points of another lie apart, or alternate. The comparisons
are those that are fast to compute with. -/
def misses (run other : CodeRun) : Bool :=
  Nat.blt run.lastImage other.first || Nat.blt other.last run.image ||
    ((run.stride == 2 || run.first == run.last) && other.stride == 2 &&
      (run.image + other.first) % 2 == 1)

/-- A run maps the code points in its range and its stride, by shifting them. -/
theorem mapped?_eq_some_iff :
    run.mapped? code = some image ↔
      (run.first ≤ code ∧ code ≤ run.last ∧ (code - run.first) % run.stride = 0) ∧
        run.image + (code - run.first) = image := by
  unfold mapped?
  split <;> simp_all

/-- The images of a run lie between its first and its last one. -/
theorem image_bounds (h : run.mapped? code = some image) :
    run.image ≤ image ∧ image ≤ run.lastImage := by
  obtain ⟨⟨hfirst, hlast, -⟩, himage⟩ := mapped?_eq_some_iff.mp h
  unfold lastImage
  omega

/-- A run that another one misses maps none of its images. -/
theorem mapped?_eq_none_of_misses (hmisses : run.misses other = true)
    (h : run.mapped? code = some image) : other.mapped? image = none := by
  obtain ⟨hleast, hmost⟩ := image_bounds h
  obtain ⟨⟨hfirst, hlast, hstride⟩, himage⟩ := mapped?_eq_some_iff.mp h
  simp only [misses, Bool.or_eq_true, Bool.and_eq_true, Nat.blt_eq, beq_iff_eq] at hmisses
  rw [mapped?, if_neg]
  rintro ⟨hother, hotherLast, hotherStride⟩
  rcases hmisses with (hbelow | habove) | ⟨⟨heven, htwo⟩, hodd⟩
  · omega
  · omega
  · -- Both run through every second code point, and start at one of the other parity.
    rw [htwo] at hotherStride
    rcases heven with heven | hsingle
    · rw [heven] at hstride
      omega
    · omega

end CodeRun

/-- What one run maps to is mapped by none. -/
theorem misses_lowerRuns : (lowerRuns.all fun run => lowerRuns.all run.misses) = true := by
  decide +kernel

/-- The ranges of code points that no small form is in: those of blanks, of no characters, and the
capital letter whose small form has two characters. -/
def neverSmall : CodeRanges :=
  whiteSpace ++ informationSeparators ++ [(0x130, 0x130), (0xd800, 0xdfff)]

/-- The images of all runs are code points, and in no range that has no small forms. -/
theorem images_lowerRuns :
    ∀ run ∈ lowerRuns,
      run.lastImage < 0x110000 ∧ ∀ r ∈ neverSmall, run.lastImage < r.1 ∨ r.2 < run.image := by
  decide +kernel

/-- So is each single image. -/
theorem image_lowerRuns {run : CodeRun} {code image : Nat} (hrun : run ∈ lowerRuns)
    (h : run.mapped? code = some image) :
    image < 0x110000 ∧ ∀ r ∈ neverSmall, image < r.1 ∨ r.2 < image := by
  obtain ⟨hleast, hmost⟩ := CodeRun.image_bounds h
  obtain ⟨hbound, hranges⟩ := images_lowerRuns run hrun
  refine ⟨by omega, fun r hr => ?_⟩
  have := hranges r hr
  omega

/-! ### Small forms -/

variable {c d : Char} {cs : List Char}

/-- A character that is its own small form wherever it stands. -/
def IsSmall (c : Char) : Prop :=
  c ≠ 'Σ' ∧ lowerChar c = [c]

instance (c : Char) : Decidable (IsSmall c) :=
  inferInstanceAs (Decidable (_ ∧ _))

/-- The characters of the small forms that no run gives: those of a sigma and of the letter with two
small characters. -/
def specialForms : List Char := ['σ', 'ς', 'i', '\u0307']

/-- Where the characters of a small form come from: few are special, some are images under a run,
and the others are small forms of themselves. -/
theorem mem_lowerAt {before : Bool} {rest : List Char} (h : d ∈ lowerAt before c rest) :
    d ∈ specialForms ∨
      (c ≠ '\u0130' ∧ (∀ run ∈ lowerRuns, run.mapped? c.toNat = none) ∧ d = c) ∨
      ∃ run ∈ lowerRuns, run.mapped? c.toNat = some d.toNat := by
  unfold lowerAt lowerChar at h
  split at h
  · refine Or.inl ?_
    rw [List.mem_singleton] at h
    subst h
    split <;> simp [specialForms]
  · split at h
    · exact Or.inl (List.mem_append_right ['σ', 'ς'] h)
    · rename_i hdotted
      rw [List.mem_singleton, CodeRun.applyFirst] at h
      cases hmapped : lowerRuns.findSome? (·.mapped? c.toNat) with
      | none =>
          rw [hmapped, Option.getD_none, Char.ofNat_toNat] at h
          exact Or.inr (Or.inl ⟨hdotted, List.findSome?_eq_none_iff.mp hmapped, h⟩)
      | some image =>
          obtain ⟨run, hrun, himage⟩ := List.exists_of_findSome?_eq_some hmapped
          obtain ⟨hbound, hranges⟩ := image_lowerRuns hrun himage
          have hvalid : image.isValidChar := by
            rcases hranges (0xd800, 0xdfff) (by simp [neverSmall]) with hbelow | habove
            · exact Or.inl hbelow
            · exact Or.inr ⟨habove, hbound⟩
          refine Or.inr (Or.inr ⟨run, hrun, ?_⟩)
          rw [himage, h, hmapped, Option.getD_some, Char.ofNat, dif_pos hvalid]
          rfl

/-- A character that no run maps is small, but for the capital letter with two small characters. -/
theorem isSmall_of_unmapped (hdotted : c ≠ '\u0130')
    (h : ∀ run ∈ lowerRuns, run.mapped? c.toNat = none) : IsSmall c := by
  constructor
  · rintro rfl
    revert h
    decide +kernel
  · rw [lowerChar, if_neg hdotted, CodeRun.applyFirst, List.findSome?_eq_none_iff.mpr h,
      Option.getD_none, Char.ofNat_toNat]

/-- Small forms are small themselves. -/
theorem isSmall_of_mem_lowerAt {before : Bool} {rest : List Char}
    (h : d ∈ lowerAt before c rest) : IsSmall d := by
  rcases mem_lowerAt h with hspecial | ⟨hdotted, hunmapped, rfl⟩ | ⟨run, hrun, himage⟩
  · have hall : (specialForms.all fun d => decide (IsSmall d)) = true := by decide +kernel
    exact of_decide_eq_true (List.all_eq_true.mp hall d hspecial)
  · exact isSmall_of_unmapped hdotted hunmapped
  · refine isSmall_of_unmapped ?_ fun other hother => ?_
    · rintro rfl
      rcases (image_lowerRuns hrun himage).2 (0x130, 0x130) (by simp [neverSmall]) with h | h
      · exact absurd h (by decide)
      · exact absurd h (by decide)
    · have hmisses := List.all_eq_true.mp misses_lowerRuns run hrun
      exact CodeRun.mapped?_eq_none_of_misses (List.all_eq_true.mp hmisses other hother) himage

/-- So are the small letters of a text. -/
theorem isSmall_of_mem_lowerFrom {before : Bool} (h : d ∈ lowerFrom before cs) : IsSmall d := by
  induction cs generalizing before with
  | nil => cases h
  | cons c rest ih =>
      rcases List.mem_append.mp h with hfirst | hrest
      · exact isSmall_of_mem_lowerAt hfirst
      · exact ih hrest

/-- A text of small characters stays as it is. -/
theorem lowerFrom_of_small (before : Bool) (h : ∀ c ∈ cs, IsSmall c) :
    lowerFrom before cs = cs := by
  induction cs generalizing before with
  | nil => rfl
  | cons c rest ih =>
      obtain ⟨hsigma, hc⟩ := h c List.mem_cons_self
      rw [lowerFrom, lowerAt, if_neg hsigma, hc, ih _ fun d hd => h d (List.mem_cons_of_mem c hd)]
      rfl

/-- Small letters are taken once and for all. -/
theorem lower_lower (cs : List Char) : lower (lower cs) = lower cs := by
  apply lowerFrom_of_small
  intro d hd
  exact isSmall_of_mem_lowerFrom hd

/-! ### Blanks at the ends -/

/-- A text that neither starts nor ends with a blank. -/
def HasVisibleEnds (cs : List Char) : Prop :=
  (∀ c ∈ cs.head?, isBlank c = false) ∧ ∀ c ∈ cs.getLast?, isBlank c = false

/-- Nothing is dropped from a text whose first character stays. -/
theorem dropWhile_of_head? {p : Char → Bool} (h : ∀ c ∈ cs.head?, p c = false) :
    cs.dropWhile p = cs := by
  cases cs with
  | nil => rfl
  | cons c rest => rw [List.dropWhile_cons_of_neg (by simp [h c rfl])]

/-- A text with visible ends has no blanks to strip. -/
theorem strip_of_visibleEnds (h : HasVisibleEnds cs) : strip cs = cs := by
  obtain ⟨hhead, hlast⟩ := h
  have hreverse : ∀ c ∈ cs.reverse.head?, isBlank c = false := by
    rw [List.head?_reverse]
    exact hlast
  rw [strip, trim, dropWhile_of_head? hhead, dropWhile_of_head? hreverse, List.reverse_reverse]

/-- What is left in front was not to be dropped. -/
theorem head?_dropWhile (p : Char → Bool) (cs : List Char) :
    ∀ c ∈ (cs.dropWhile p).head?, p c = false := by
  intro c hc
  have := List.head?_dropWhile_not p cs
  rw [hc] at this
  simpa using this

/-- Stripping leaves visible ends. -/
theorem visibleEnds_strip (cs : List Char) : HasVisibleEnds (strip cs) := by
  unfold strip trim
  constructor
  · -- The last blanks are dropped from what starts with a visible character.
    intro c hc
    rw [List.head?_reverse] at hc
    obtain ⟨front, hfront⟩ := List.getLast?_eq_some_iff.mp hc
    obtain ⟨dropped, hsplit⟩ :=
      List.dropWhile_suffix (l := (cs.dropWhile isBlank).reverse) isBlank
    rw [hfront, ← List.append_assoc] at hsplit
    refine head?_dropWhile isBlank cs c ?_
    rw [← List.getLast?_reverse, ← hsplit, List.getLast?_concat]
    rfl
  · rw [List.getLast?_reverse]
    exact head?_dropWhile isBlank _

/-! ### Small letters and blanks -/

/-- The small form of a visible character is visible. -/
theorem not_blank_of_mem_lowerAt {before : Bool} {rest : List Char} (hc : isBlank c = false)
    (h : d ∈ lowerAt before c rest) : isBlank d = false := by
  rcases mem_lowerAt h with hspecial | ⟨-, -, rfl⟩ | ⟨run, hrun, himage⟩
  · have hall : (specialForms.all fun d => !isBlank d) = true := by decide +kernel
    simpa using List.all_eq_true.mp hall d hspecial
  · exact hc
  · rw [isBlank_eq_false_iff]
    intro r hr
    exact (image_lowerRuns hrun himage).2 r (List.mem_append_left _ hr)

/-- No small form is empty. -/
theorem lowerAt_ne_nil (before : Bool) (c : Char) (rest : List Char) :
    lowerAt before c rest ≠ [] := by
  unfold lowerAt lowerChar
  split
  · exact List.cons_ne_nil _ _
  · split <;> exact List.cons_ne_nil _ _

/-- Only an empty text has no small letters. -/
theorem lower_eq_nil_iff : lower cs = [] ↔ cs = [] := by
  cases cs with
  | nil => exact iff_of_true rfl rfl
  | cons c rest =>
      refine iff_of_false ?_ (List.cons_ne_nil c rest)
      exact List.append_ne_nil_of_left_ne_nil (lowerAt_ne_nil false c rest) _

/-- The small letters of a text end with the small form of its last character. -/
theorem exists_lowerFrom_concat (before : Bool) (cs : List Char) (c : Char) :
    ∃ front last, lowerFrom before (cs ++ [c]) = front ++ lowerAt last c [] := by
  induction cs generalizing before with
  | nil => exact ⟨[], before, by simp [lowerFrom]⟩
  | cons b rest ih =>
      obtain ⟨front, last, hrest⟩ := ih (casedAfter before b)
      exact ⟨lowerAt before b (rest ++ [c]) ++ front, last, by
        rw [List.cons_append, lowerFrom, hrest, List.append_assoc]⟩

/-- Small letters keep visible ends. -/
theorem visibleEnds_lower (h : HasVisibleEnds cs) : HasVisibleEnds (lower cs) := by
  obtain ⟨hhead, hlast⟩ := h
  constructor
  · cases cs with
    | nil => simp [lower, lowerFrom]
    | cons c rest =>
        intro d hd
        rw [lower, lowerFrom, List.head?_append_of_ne_nil _ (lowerAt_ne_nil false c rest)] at hd
        exact not_blank_of_mem_lowerAt (hhead c rfl) (List.mem_of_mem_head? hd)
  · rcases List.eq_nil_or_concat' cs with rfl | ⟨init, c, rfl⟩
    · simp [lower, lowerFrom]
    · intro d hd
      obtain ⟨front, before, hsplit⟩ := exists_lowerFrom_concat false init c
      rw [lower, hsplit, List.getLast?_append_of_ne_nil _ (lowerAt_ne_nil before c [])] at hd
      exact not_blank_of_mem_lowerAt (hlast c (by simp)) (List.mem_of_getLast? hd)

/-- Small letters of a text without blanks at its ends have none there either. -/
theorem strip_lower_strip (cs : List Char) : strip (lower (strip cs)) = lower (strip cs) := by
  apply strip_of_visibleEnds
  apply visibleEnds_lower
  exact visibleEnds_strip cs

end Rigor.Text
