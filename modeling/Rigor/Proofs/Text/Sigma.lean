import Mathlib.Data.List.DropRight
import Rigor.Proofs.Text.Ascii

/-!
# Capital sigmas in context

A capital sigma is the one character whose small form depends on what stands around it. So the small
letters of a text within another are those of the text alone, unless a capital sigma at one of its
ends is exposed to what surrounds it (`Exposed`).

* `lowerBetween`: small letters of a text, given whether a cased character is nearest before it and
  after it. They are taken piece by piece (`lowerBetween_append`).
* `infix_lower_of_apart`: a text, without the blanks at its ends and in small letters, is found in
  the small letters of a text around it, if no cased character meets an exposed sigma (`Apart`).
* `count_of_opens`, `count_of_closes`: an exposed sigma changes its form next to a letter, and no
  other one changes back. So one of the two small sigmas becomes rarer, and a text that has it more
  often is not found (`not_infix_of_opens`, `not_infix_of_closes`).
* `forall_infix_lower_iff`: so it is found in every text around it exactly if it has no exposed
  sigma.
-/

namespace Rigor.Text

variable {before after : Bool} {c : Char} {cs rest front : List Char}

/-- Whether the first character that is not ignorable is cased, or `default` if there is none. -/
def firstCased (default : Bool) (cs : List Char) : Bool :=
  cs.foldr (fun c found => casedAfter found c) default

/-- The small form of a character. The nearest characters that are not ignorable are cased before it
and after it if `before` and `after` say so. -/
def lowerWith (before after : Bool) (c : Char) : List Char :=
  if c = 'Σ' then [if before && !after then 'ς' else 'σ'] else lowerChar c

/-- Small letters of a text between two others, whose nearest characters that are not ignorable are
cased if `before` and `after` say so. -/
def lowerBetween (before after : Bool) : List Char → List Char
  | [] => []
  | c :: rest =>
    lowerWith before (firstCased after rest) c ++ lowerBetween (casedAfter before c) after rest

/-- Apart from ignorable characters, the text starts with a capital sigma, and no cased one comes
next. With no letter after the text, such a sigma is a final one exactly if there is one before. -/
def OpensExposed (cs : List Char) : Prop :=
  ∃ rest, cs.dropWhile isCaseIgnorable = 'Σ' :: rest ∧ casedAhead rest = false

/-- Apart from ignorable characters, the text ends with a capital sigma, and a cased one comes right
before it. Such a sigma is a final one exactly if there is no letter after the text. -/
def ClosesExposed (cs : List Char) : Prop :=
  ∃ front, cs.reverse.dropWhile isCaseIgnorable = 'Σ' :: front ∧ casedAhead front = true

/-- A capital sigma at an end of the text has its small form by what stands around the text. -/
def Exposed (cs : List Char) : Prop :=
  OpensExposed cs ∨ ClosesExposed cs

/-- No cased character of the texts around is nearest to an exposed sigma. -/
structure Apart (front cs back : List Char) : Prop where
  /-- None comes before a sigma that opens the text. -/
  opens : OpensExposed cs → casedAhead front.reverse = false
  /-- None comes after a sigma that closes the text. -/
  closes : ClosesExposed cs → casedAhead back = false

instance (cs : List Char) : Decidable (OpensExposed cs) :=
  match h : cs.dropWhile isCaseIgnorable with
  | [] => isFalse (by simp [OpensExposed, h])
  | c :: rest => decidable_of_iff (c = 'Σ' ∧ casedAhead rest = false) (by simp [OpensExposed, h])

instance (cs : List Char) : Decidable (ClosesExposed cs) :=
  match h : cs.reverse.dropWhile isCaseIgnorable with
  | [] => isFalse (by simp [ClosesExposed, h])
  | c :: front => decidable_of_iff (c = 'Σ' ∧ casedAhead front = true) (by simp [ClosesExposed, h])

instance (cs : List Char) : Decidable (Exposed cs) :=
  inferInstanceAs (Decidable (_ ∨ _))

/-! ### Nearest cased characters -/

/-- Whether a cased character comes next is seen from the first one that is not ignorable. -/
theorem firstCased_false (cs : List Char) : firstCased false cs = casedAhead cs := by
  induction cs with
  | nil => rfl
  | cons c rest ih =>
      rw [casedAhead, ← ih]
      rfl

/-- If there is none in the first part of a text, the second part decides. -/
theorem firstCased_append (default : Bool) (cs ds : List Char) :
    firstCased default (cs ++ ds) = firstCased (firstCased default ds) cs :=
  List.foldr_append

/-- Ignorable characters decide nothing. -/
theorem firstCased_of_ignorable (default : Bool) (h : ∀ c ∈ cs, isCaseIgnorable c = true) :
    firstCased default cs = default := by
  induction cs with
  | nil => rfl
  | cons c rest ih =>
      show casedAfter (firstCased default rest) c = default
      rw [casedAfter, if_pos (h c List.mem_cons_self)]
      exact ih fun d hd => h d (List.mem_cons_of_mem c hd)

/-- A character that is not ignorable decides. -/
theorem firstCased_cons_of_not_ignorable (default : Bool) (h : isCaseIgnorable c = false)
    (cs : List Char) : firstCased default (c :: cs) = isCased c := by
  show casedAfter (firstCased default cs) c = isCased c
  rw [casedAfter, h, if_neg Bool.false_ne_true]

/-- A cased character that is there is found without a default. -/
theorem firstCased_of_casedAhead (default : Bool) (h : casedAhead cs = true) :
    firstCased default cs = true := by
  induction cs with
  | nil => cases h
  | cons c rest ih =>
      show casedAfter (firstCased default rest) c = true
      rw [casedAhead] at h
      rw [casedAfter]
      split at h
      · next hignorable => rw [if_pos hignorable, ih h]
      · next hignorable => rwa [if_neg hignorable]

/-- A capital sigma is not ignorable. -/
theorem not_ignorable_sigma : isCaseIgnorable 'Σ' = false := by decide +kernel

/-- So no ignorable character is one. -/
theorem ne_sigma_of_ignorable (h : isCaseIgnorable c = true) : c ≠ 'Σ' := by
  rintro rfl
  rw [not_ignorable_sigma] at h
  cases h

/-! ### Pieces of text -/

/-- The small letters of a text are those with nothing cased after it. -/
theorem lowerFrom_eq (before : Bool) (cs : List Char) :
    lowerFrom before cs = lowerBetween before false cs := by
  induction cs generalizing before with
  | nil => rfl
  | cons c rest ih =>
      rw [lowerFrom, lowerBetween, ih, firstCased_false]
      rfl

/-- The small letters of a whole text are those with nothing cased around it. -/
theorem lower_eq (cs : List Char) : lower cs = lowerBetween false false cs :=
  lowerFrom_eq false cs

/-- Each of two parts has its small letters between what the other part shows and what is around
both. -/
theorem lowerBetween_append (before after : Bool) (cs ds : List Char) :
    lowerBetween before after (cs ++ ds) =
      lowerBetween before (firstCased after ds) cs ++
        lowerBetween (firstCased before cs.reverse) after ds := by
  induction cs generalizing before with
  | nil => rfl
  | cons c rest ih =>
      have hstate : firstCased before (c :: rest).reverse =
          firstCased (casedAfter before c) rest.reverse := by
        rw [List.reverse_cons, firstCased_append]
        rfl
      rw [List.cons_append, lowerBetween, lowerBetween, ih, hstate, firstCased_append,
        List.append_assoc]

/-- Ignorable characters have small forms that do not depend on what is around. -/
theorem lowerBetween_of_ignorable (before after : Bool) (h : ∀ c ∈ cs, isCaseIgnorable c = true) :
    lowerBetween before after cs = cs.flatMap lowerChar := by
  induction cs generalizing before with
  | nil => rfl
  | cons c rest ih =>
      have hc : c ≠ 'Σ' := ne_sigma_of_ignorable (h c List.mem_cons_self)
      rw [lowerBetween, lowerWith, if_neg hc, List.flatMap_cons,
        ih _ fun d hd => h d (List.mem_cons_of_mem c hd)]

/-- Characters that are their own small forms stay as they are. -/
theorem lowerBetween_of_small (before after : Bool) (h : ∀ c ∈ cs, IsSmall c) :
    lowerBetween before after cs = cs := by
  induction cs generalizing before with
  | nil => rfl
  | cons c rest ih =>
      obtain ⟨hsigma, hc⟩ := h c List.mem_cons_self
      rw [lowerBetween, lowerWith, if_neg hsigma, hc,
        ih _ fun d hd => h d (List.mem_cons_of_mem c hd)]
      rfl

/-- What is left in front after the ignorable characters is not ignorable. -/
theorem not_ignorable_of_dropWhile (h : cs.dropWhile isCaseIgnorable = c :: rest) :
    isCaseIgnorable c = false :=
  head?_dropWhile isCaseIgnorable cs c (by rw [h]; rfl)

/-- Of the characters that are not ignorable the first one is what the text before matters to. -/
theorem lowerBetween_of_first (h : cs.dropWhile isCaseIgnorable = c :: rest)
    (before after : Bool) :
    lowerBetween before after cs =
      (cs.takeWhile isCaseIgnorable).flatMap lowerChar ++
        (lowerWith before (firstCased after rest) c ++ lowerBetween (isCased c) after rest) := by
  have hskipped : ∀ d ∈ cs.takeWhile isCaseIgnorable, isCaseIgnorable d = true :=
    fun d hd => List.mem_takeWhile_imp hd
  have hstate : firstCased before (cs.takeWhile isCaseIgnorable).reverse = before :=
    firstCased_of_ignorable before fun d hd => hskipped d (List.mem_reverse.mp hd)
  have hcased : casedAfter before c = isCased c := by
    rw [casedAfter, not_ignorable_of_dropWhile h, if_neg Bool.false_ne_true]
  calc lowerBetween before after cs
      = lowerBetween before after (cs.takeWhile isCaseIgnorable ++ c :: rest) := by
        rw [← h, List.takeWhile_append_dropWhile]
    _ = _ := by
        rw [lowerBetween_append, lowerBetween_of_ignorable _ _ hskipped, hstate, lowerBetween,
          hcased]

/-- Of the characters that are not ignorable the last one is what the text after matters to. -/
theorem lowerBetween_of_last (h : cs.reverse.dropWhile isCaseIgnorable = c :: front)
    (before after : Bool) :
    lowerBetween before after cs =
      lowerBetween before (isCased c) front.reverse ++
        (lowerWith (firstCased before front) after c ++
          (cs.rtakeWhile isCaseIgnorable).flatMap lowerChar) := by
  have hskipped : ∀ d ∈ cs.rtakeWhile isCaseIgnorable, isCaseIgnorable d = true :=
    fun d hd => List.mem_rtakeWhile_imp hd
  have hkept : cs.rdropWhile isCaseIgnorable = front.reverse ++ [c] := by
    rw [← List.reverse_cons, ← h, List.rdropWhile]
  have hsplit : front.reverse ++ c :: cs.rtakeWhile isCaseIgnorable = cs := by
    rw [List.append_cons, ← hkept, List.rdropWhile_append_rtakeWhile]
  calc lowerBetween before after cs
      = lowerBetween before after (front.reverse ++ c :: cs.rtakeWhile isCaseIgnorable) := by
        rw [hsplit]
    _ = _ := by
        rw [lowerBetween_append, List.reverse_reverse, lowerBetween,
          lowerBetween_of_ignorable _ _ hskipped, firstCased_of_ignorable _ hskipped,
          firstCased_cons_of_not_ignorable _ (not_ignorable_of_dropWhile h)]

/-! ### Sigmas that are not exposed -/

/-- Unless a text opens with an exposed sigma, its small letters do not depend on what is before
it. -/
theorem lowerBetween_of_not_opens (h : ¬ OpensExposed cs) (before after : Bool) :
    lowerBetween before after cs = lowerBetween false after cs := by
  cases hfirst : cs.dropWhile isCaseIgnorable with
  | nil =>
      have hall := List.dropWhile_eq_nil_iff.mp hfirst
      rw [lowerBetween_of_ignorable _ _ hall, lowerBetween_of_ignorable _ _ hall]
  | cons c rest =>
      rw [lowerBetween_of_first hfirst, lowerBetween_of_first hfirst]
      by_cases hsigma : c = 'Σ'
      · subst hsigma
        have hahead : casedAhead rest = true := by
          rw [← Bool.not_eq_false]
          exact fun hahead => h ⟨rest, hfirst, hahead⟩
        simp [lowerWith, firstCased_of_casedAhead after hahead]
      · simp [lowerWith, hsigma]

/-- Unless it closes with one, they do not depend on what is after it. -/
theorem lowerBetween_of_not_closes (h : ¬ ClosesExposed cs) (after : Bool) :
    lowerBetween false after cs = lowerBetween false false cs := by
  cases hlast : cs.reverse.dropWhile isCaseIgnorable with
  | nil =>
      have hall : ∀ c ∈ cs, isCaseIgnorable c = true := fun c hc =>
        List.dropWhile_eq_nil_iff.mp hlast c (List.mem_reverse.mpr hc)
      rw [lowerBetween_of_ignorable _ _ hall, lowerBetween_of_ignorable _ _ hall]
  | cons c front =>
      rw [lowerBetween_of_last hlast, lowerBetween_of_last hlast]
      by_cases hsigma : c = 'Σ'
      · subst hsigma
        have hbehind : firstCased false front = false := by
          rw [firstCased_false, ← Bool.not_eq_true]
          exact fun hbehind => h ⟨front, hlast, hbehind⟩
        simp [lowerWith, hbehind]
      · simp [lowerWith, hsigma]

/-- What surrounds a text does not matter, apart from cased characters at an exposed sigma. -/
theorem lowerBetween_of_apart (hopens : OpensExposed cs → before = false)
    (hcloses : ClosesExposed cs → after = false) : lowerBetween before after cs = lower cs := by
  have hbefore : lowerBetween before after cs = lowerBetween false after cs := by
    by_cases h : OpensExposed cs
    · rw [hopens h]
    · exact lowerBetween_of_not_opens h before after
  have hafter : lowerBetween false after cs = lowerBetween false false cs := by
    by_cases h : ClosesExposed cs
    · rw [hcloses h]
    · exact lowerBetween_of_not_closes h after
  rw [hbefore, hafter, lower_eq]

/-! ### Exposed sigmas -/

/-- Behind a letter there is one plain sigma less. -/
theorem count_of_opens (h : OpensExposed cs) :
    (lowerBetween true false cs).count 'σ' < (lower cs).count 'σ' := by
  obtain ⟨rest, hfirst, hahead⟩ := h
  rw [lower_eq, lowerBetween_of_first hfirst, lowerBetween_of_first hfirst, firstCased_false,
    hahead]
  simp only [lowerWith, if_true, List.count_append]
  simp

/-- In front of a letter there is one final sigma less. -/
theorem count_of_closes (h : ClosesExposed cs) :
    (lowerBetween false true cs).count 'ς' < (lower cs).count 'ς' := by
  obtain ⟨front, hlast, hbehind⟩ := h
  rw [lower_eq, lowerBetween_of_last hlast, lowerBetween_of_last hlast, firstCased_false, hbehind]
  simp only [lowerWith, if_true, List.count_append]
  simp

/-! ### Blanks at the ends -/

/-- The ranges of blanks are apart from those of ignorable and of cased characters, and from the
runs of letters with small forms. -/
theorem apart_blanks :
    ∀ r ∈ whiteSpace ++ informationSeparators,
      (∀ s ∈ caseIgnorable ++ cased, r.2 < s.1 ∨ s.2 < r.1) ∧
        ∀ run ∈ lowerRuns, r.2 < run.first ∨ run.last < r.1 := by
  decide +kernel

/-- A blank is in one of the ranges of blanks. -/
theorem exists_range_of_blank (h : isBlank c = true) :
    ∃ r ∈ whiteSpace ++ informationSeparators, r.1 ≤ c.toNat ∧ c.toNat ≤ r.2 := by
  rw [← CodeRanges.has_iff, CodeRanges.has, List.any_append]
  exact h

/-- A blank is neither ignorable nor cased. -/
theorem firstCased_cons_of_blank (default : Bool) (h : isBlank c = true) (cs : List Char) :
    firstCased default (c :: cs) = false := by
  obtain ⟨r, hr, hleast, hmost⟩ := exists_range_of_blank h
  have hnone : ∀ s ∈ caseIgnorable ++ cased, ¬ (s.1 ≤ c.toNat ∧ c.toNat ≤ s.2) := by
    intro s hs
    have := (apart_blanks r hr).1 s hs
    omega
  have hignorable : isCaseIgnorable c = false := by
    rw [isCaseIgnorable, ← Bool.not_eq_true, CodeRanges.has_iff]
    exact fun ⟨s, hs, hin⟩ => hnone s (List.mem_append_left _ hs) hin
  have hcased : isCased c = false := by
    rw [isCased, ← Bool.not_eq_true, CodeRanges.has_iff]
    exact fun ⟨s, hs, hin⟩ => hnone s (List.mem_append_right _ hs) hin
  rw [firstCased_cons_of_not_ignorable default hignorable, hcased]

/-- Among blanks none is cased. -/
theorem firstCased_of_blank (h : ∀ c ∈ cs, isBlank c = true) : firstCased false cs = false := by
  cases cs with
  | nil => rfl
  | cons c rest => exact firstCased_cons_of_blank false (h c List.mem_cons_self) rest

/-- Blanks are small already. -/
theorem isSmall_of_blank (h : isBlank c = true) : IsSmall c := by
  obtain ⟨r, hr, hleast, hmost⟩ := exists_range_of_blank h
  apply isSmall_of_unmapped
  · rintro rfl
    revert h
    decide +kernel
  · intro run hrun
    have := (apart_blanks r hr).2 run hrun
    rw [CodeRun.mapped?, if_neg]
    omega

/-- A text is what `strip` leaves of it, between blanks. -/
theorem exists_blanks_strip (cs : List Char) :
    ∃ left right, cs = left ++ strip cs ++ right ∧ ∀ c ∈ left ++ right, isBlank c = true := by
  have hends : strip cs ++ (cs.dropWhile isBlank).rtakeWhile isBlank = cs.dropWhile isBlank :=
    List.rdropWhile_append_rtakeWhile
  refine ⟨cs.takeWhile isBlank, (cs.dropWhile isBlank).rtakeWhile isBlank, ?_, fun c hc => ?_⟩
  · rw [List.append_assoc, hends, List.takeWhile_append_dropWhile]
  · rcases List.mem_append.mp hc with hleft | hright
    · exact List.mem_takeWhile_imp hleft
    · exact List.mem_rtakeWhile_imp hright

/-- Nothing is left just of blanks. -/
theorem strip_eq_nil_iff : strip cs = [] ↔ ∀ c ∈ cs, isBlank c = true := by
  constructor
  · intro h
    obtain ⟨left, right, hsplit, hblank⟩ := exists_blanks_strip cs
    rw [hsplit, h, List.append_nil]
    exact hblank
  · intro h
    rw [strip, trim, List.dropWhile_eq_nil_iff.mpr h]
    rfl

/-- Blanks at the ends do not matter to the small letters between them. -/
theorem exists_blanks_lower (cs : List Char) :
    ∃ left right, lower cs = left ++ lower (strip cs) ++ right ∧
      ∀ c ∈ left ++ right, isBlank c = true := by
  obtain ⟨left, right, hsplit, hblank⟩ := exists_blanks_strip cs
  have hleft : ∀ c ∈ left, isBlank c = true := fun c hc => hblank c (List.mem_append_left _ hc)
  have hright : ∀ c ∈ right, isBlank c = true := fun c hc => hblank c (List.mem_append_right _ hc)
  have hleftReverse : ∀ c ∈ left.reverse, isBlank c = true :=
    fun c hc => hleft c (List.mem_reverse.mp hc)
  refine ⟨left, right, ?_, hblank⟩
  calc lower cs = lowerBetween false false (left ++ (strip cs ++ right)) := by
        rw [lower_eq, ← List.append_assoc, ← hsplit]
    _ = left ++ (lowerBetween false false (strip cs) ++ right) := by
        rw [lowerBetween_append, lowerBetween_append, firstCased_of_blank hleftReverse,
          firstCased_of_blank hright,
          lowerBetween_of_small _ _ fun c hc => isSmall_of_blank (hleft c hc),
          lowerBetween_of_small _ _ fun c hc => isSmall_of_blank (hright c hc)]
    _ = left ++ lower (strip cs) ++ right := by rw [← lower_eq, List.append_assoc]

/-- Stripping blanks leaves the number of each other character in small letters. -/
theorem count_lower_strip (h : isBlank c = false) :
    (lower (strip cs)).count c = (lower cs).count c := by
  obtain ⟨left, right, hlower, hblank⟩ := exists_blanks_lower cs
  have hnone : ∀ ds : List Char, (∀ d ∈ ds, isBlank d = true) → ds.count c = 0 := by
    intro ds hds
    rw [List.count_eq_zero]
    intro hc
    rw [hds c hc] at h
    cases h
  rw [hlower, List.count_append, List.count_append,
    hnone left fun d hd => hblank d (List.mem_append_left _ hd),
    hnone right fun d hd => hblank d (List.mem_append_right _ hd)]
  omega

/-! ### Texts within texts -/

/-- The small letters of a text within another are a piece of those of the whole. -/
theorem exists_lower_surrounded (front cs back : List Char) :
    ∃ left right, lower (front ++ cs ++ back) =
      left ++ lowerBetween (casedAhead front.reverse) (casedAhead back) cs ++ right := by
  rw [lower_eq, List.append_assoc, lowerBetween_append, lowerBetween_append, ← List.append_assoc,
    firstCased_false front.reverse, firstCased_false back]
  exact ⟨_, _, rfl⟩

/-- A text with fewer of some character than a word does not contain the word. -/
theorem not_infix_of_count_lt {word text : List Char} (h : text.count c < word.count c) :
    ¬ word <:+: text := by
  intro hinfix
  have := hinfix.sublist.count_le c
  omega

/-- The letter that changes the form of an exposed sigma next to it. -/
theorem firstCased_letter (default : Bool) : firstCased default ['a'] = true := by
  have hignorable : isCaseIgnorable 'a' = false := by decide +kernel
  have hcased : isCased 'a' = true := by decide +kernel
  rw [firstCased_cons_of_not_ignorable default hignorable, hcased]

/-- A small letter stays one wherever it stands. -/
theorem lowerBetween_letter (before after : Bool) : lowerBetween before after ['a'] = ['a'] := by
  apply lowerBetween_of_small
  intro c hc
  obtain rfl := List.mem_singleton.mp hc
  exact isSmall_of_plain (by decide)

/-- A letter before it hides a keyword that opens with an exposed sigma. -/
theorem not_infix_of_opens (h : OpensExposed cs) :
    ¬ lower (strip cs) <:+: lower (['a'] ++ cs) := by
  have hlower : lower (['a'] ++ cs) = ['a'] ++ lowerBetween true false cs := by
    rw [lower_eq, lowerBetween_append, lowerBetween_letter, List.reverse_singleton,
      firstCased_letter]
  apply not_infix_of_count_lt (c := 'σ')
  rw [hlower, count_lower_strip (by decide +kernel), List.count_append]
  simpa using count_of_opens h

/-- A letter after it hides a keyword that closes with one. -/
theorem not_infix_of_closes (h : ClosesExposed cs) :
    ¬ lower (strip cs) <:+: lower (cs ++ ['a']) := by
  have hlower : lower (cs ++ ['a']) = lowerBetween false true cs ++ ['a'] := by
    rw [lower_eq, lowerBetween_append, lowerBetween_letter, firstCased_letter]
  apply not_infix_of_count_lt (c := 'ς')
  rw [hlower, count_lower_strip (by decide +kernel), List.count_append]
  simpa using count_of_closes h

/-- A text, without the blanks at its ends and in small letters, is found in a text around it that
keeps its cased characters apart. -/
theorem infix_lower_of_apart {front back : List Char} (h : Apart front cs back) :
    lower (strip cs) <:+: lower (front ++ cs ++ back) := by
  obtain ⟨left, right, hlower⟩ := exists_lower_surrounded front cs back
  obtain ⟨blankLeft, blankRight, hstrip, -⟩ := exists_blanks_lower cs
  have hinner : lower (strip cs) <:+: lower cs := ⟨blankLeft, blankRight, hstrip.symm⟩
  rw [hlower, lowerBetween_of_apart h.opens h.closes]
  exact hinner.trans ⟨left, right, rfl⟩

/-- It is found in every text around it exactly if it has no exposed sigma. -/
theorem forall_infix_lower_iff (cs : List Char) :
    (∀ front back, lower (strip cs) <:+: lower (front ++ cs ++ back)) ↔ ¬ Exposed cs := by
  constructor
  · rintro h (hopens | hcloses)
    · exact not_infix_of_opens hopens (by simpa using h ['a'] [])
    · exact not_infix_of_closes hcloses (by simpa using h [] ['a'])
  · intro h front back
    obtain ⟨hopens, hcloses⟩ := not_or.mp h
    exact infix_lower_of_apart ⟨fun hexposed => absurd hexposed hopens,
      fun hexposed => absurd hexposed hcloses⟩

/-- A sigma between letters, or with a blank next to it, is not exposed. -/
example : Exposed "ΑΣ".toList ∧ Exposed "Σ".toList ∧ ¬ Exposed "ΑΣ ".toList ∧
    ¬ Exposed "ΣΙΣΙ".toList := by
  decide +kernel

end Rigor.Text
