import Rigor.Text.Case
import Rigor.Text.Search

/-!
# Small letters of joined texts

The small form of a character depends on its neighbours in one case only, that of the capital sigma.
So small letters can be taken text by text as far as this case does not matter.

* `lower_append_newline`: a line feed is neither cased nor ignorable, so no search for a cased
  neighbour gets past it, and the texts on both sides of it are mapped each for itself.
* `map_unifySigma_lower`: if the two small sigmas are not told apart, then small letters are taken
  character by character.
* `infix_lower_iff`: a word in which no sigma occurs is in the small letters of a text whenever it
  is in them with the sigmas not told apart; hence what surrounds a text hides no such word in it
  (`infix_lower_of_infix`).
* `infix_append_cons_iff`: a word is found on both sides of a character that is not in it.
-/

namespace Rigor.Text

/-! ### Line feeds -/

/-- A line feed is not passed over in the search for cased characters. -/
theorem not_caseIgnorable_newline : isCaseIgnorable '\n' = false := by decide +kernel

/-- A line feed is not cased. -/
theorem not_cased_newline : isCased '\n' = false := by decide +kernel

/-- A line feed is its own small form. -/
theorem lowerChar_newline : lowerChar '\n' = ['\n'] := by decide +kernel

/-- What follows a line feed is out of sight in front of it. -/
theorem casedAhead_append_newline (cs ds : List Char) :
    casedAhead (cs ++ '\n' :: ds) = casedAhead cs := by
  induction cs with
  | nil => simp [casedAhead, not_caseIgnorable_newline, not_cased_newline]
  | cons c rest ih => rw [List.cons_append, casedAhead, casedAhead, ih]

/-- After a line feed there is no cased character in sight. -/
theorem casedAfter_newline (before : Bool) : casedAfter before '\n' = false := by
  rw [casedAfter, not_caseIgnorable_newline, not_cased_newline]
  rfl

/-- The small form of a character does not depend on what follows a line feed. -/
theorem lowerAt_append_newline (before : Bool) (c : Char) (cs ds : List Char) :
    lowerAt before c (cs ++ '\n' :: ds) = lowerAt before c cs := by
  rw [lowerAt, lowerAt, casedAhead_append_newline]

/-- So the small letters of a text are those before a line feed, and those after it. -/
theorem lowerFrom_append_newline (before : Bool) (cs ds : List Char) :
    lowerFrom before (cs ++ '\n' :: ds) = lowerFrom before cs ++ '\n' :: lower ds := by
  induction cs generalizing before with
  | nil =>
      have hnewline : lowerAt before '\n' ds = ['\n'] := lowerChar_newline
      show lowerAt before '\n' ds ++ lowerFrom (casedAfter before '\n') ds = _
      rw [hnewline, casedAfter_newline]
      rfl
  | cons c rest ih =>
      rw [List.cons_append, lowerFrom, lowerFrom, lowerAt_append_newline, ih, List.append_assoc]

/-- A line feed keeps the letters before it and after it apart. -/
theorem lower_append_newline (cs ds : List Char) :
    lower (cs ++ '\n' :: ds) = lower cs ++ '\n' :: lower ds :=
  lowerFrom_append_newline false cs ds

/-! ### Sigmas -/

/-- The character, with the final sigma made the plain one. -/
def unifySigma (c : Char) : Char :=
  if c = 'ς' then 'σ' else c

/-- The small form of a character, with the final sigma made the plain one. -/
def lowerUnified (c : Char) : List Char :=
  if c = 'Σ' then ['σ'] else (lowerChar c).map unifySigma

/-- Up to the two sigmas, the small form of a character does not depend on what is around it. -/
theorem map_unifySigma_lowerAt (before : Bool) (c : Char) (rest : List Char) :
    (lowerAt before c rest).map unifySigma = lowerUnified c := by
  unfold lowerAt lowerUnified
  split
  · cases before && !casedAhead rest <;> rfl
  · rfl

/-- Up to the two sigmas, the small letters of a text are those of its characters. -/
theorem map_unifySigma_lowerFrom (before : Bool) (cs : List Char) :
    (lowerFrom before cs).map unifySigma = cs.flatMap lowerUnified := by
  induction cs generalizing before with
  | nil => rfl
  | cons c rest ih =>
      rw [lowerFrom, List.map_append, map_unifySigma_lowerAt, ih, List.flatMap_cons]

/-- With the sigmas not told apart, small letters do not depend on their surroundings. -/
theorem map_unifySigma_lower (cs : List Char) :
    (lower cs).map unifySigma = cs.flatMap lowerUnified :=
  map_unifySigma_lowerFrom false cs

/-- A word without the two small sigmas. -/
def IsSigmaFree (word : List Char) : Prop :=
  'σ' ∉ word ∧ 'ς' ∉ word

/-- A character other than the plain sigma is told by what sigmas are unified to. -/
theorem eq_of_unifySigma_eq {c d : Char} (hd : d ≠ 'σ') (h : unifySigma c = d) : c = d := by
  unfold unifySigma at h
  split at h
  · exact absurd h.symm hd
  · exact h

/-- Only the final sigma is changed. -/
theorem unifySigma_of_ne {c : Char} (h : c ≠ 'ς') : unifySigma c = c := if_neg h

/-- A word without sigmas is the only text that becomes this word. -/
theorem map_unifySigma_eq_iff {word text : List Char} (h : IsSigmaFree word) :
    text.map unifySigma = word ↔ text = word := by
  obtain ⟨hplain, hfinal⟩ := h
  constructor
  · rintro rfl
    calc text = text.map id := (List.map_id text).symm
      _ = text.map unifySigma := List.map_congr_left fun c hc =>
          eq_of_unifySigma_eq (ne_of_mem_of_not_mem (List.mem_map_of_mem hc) hplain) rfl
  · rintro rfl
    calc text.map unifySigma = text.map id := List.map_congr_left fun c hc =>
          unifySigma_of_ne (ne_of_mem_of_not_mem hc hfinal)
      _ = text := List.map_id text

/-- A word without sigmas does not mind if the sigmas of a text are told apart. -/
theorem infix_map_unifySigma_iff {word text : List Char} (h : IsSigmaFree word) :
    word <:+: text.map unifySigma ↔ word <:+: text := by
  constructor
  · rintro ⟨front, back, heq⟩
    obtain ⟨frontWord, back', htext, hfrontWord, -⟩ := List.map_eq_append_iff.mp heq.symm
    obtain ⟨front', word', hsplit, -, hword⟩ := List.map_eq_append_iff.mp hfrontWord
    rw [map_unifySigma_eq_iff h] at hword
    exact ⟨front', back', by rw [htext, hsplit, hword]⟩
  · rintro ⟨front, back, rfl⟩
    refine ⟨front.map unifySigma, back.map unifySigma, ?_⟩
    rw [List.map_append, List.map_append, (map_unifySigma_eq_iff h).mpr rfl]

/-- A word without sigmas is in the small letters of a text if it is in them with the sigmas not
told apart. -/
theorem infix_lower_iff {word text : List Char} (h : IsSigmaFree word) :
    word <:+: lower text ↔ word <:+: text.flatMap lowerUnified := by
  rw [← map_unifySigma_lower, infix_map_unifySigma_iff h]

/-- What surrounds a text hides no word without sigmas in it. -/
theorem infix_lower_of_infix {word text whole : List Char} (h : IsSigmaFree word)
    (hword : word <:+: lower text) (htext : text <:+: whole) : word <:+: lower whole := by
  rw [infix_lower_iff h] at hword ⊢
  obtain ⟨front, back, rfl⟩ := htext
  rw [List.flatMap_append, List.flatMap_append]
  exact hword.trans ⟨front.flatMap lowerUnified, back.flatMap lowerUnified, rfl⟩

/-! ### Words on both sides of a character -/

/-- A word without a character occurs about it only on one side. -/
theorem infix_append_cons_iff {c : Char} {word front back : List Char} (h : c ∉ word) :
    word <:+: front ++ c :: back ↔ word <:+: front ∨ word <:+: back := by
  constructor
  · rintro ⟨left, right, heq⟩
    rcases List.append_eq_append_iff.mp heq with ⟨rest, hfront, -⟩ | ⟨rest, hleft, hback⟩
    · exact Or.inl ⟨left, rest, hfront.symm⟩
    · -- The word ends behind the front, so it starts there as well, for else it has the character.
      rcases List.append_eq_append_iff.mp hleft with ⟨start, hfront, hword⟩ | ⟨gap, -, hrest⟩
      · cases rest with
        | nil => exact Or.inl ⟨left, [], by simp [hfront, hword]⟩
        | cons d rest =>
            obtain ⟨rfl, -⟩ := List.cons.inj hback
            exact absurd (by simp [hword]) h
      · subst hrest
        cases gap with
        | cons d gap =>
            obtain ⟨-, hback⟩ := List.cons.inj hback
            exact Or.inr ⟨gap, right, hback.symm⟩
        | nil =>
            cases word with
            | nil => exact Or.inr List.nil_infix
            | cons d word =>
                obtain ⟨rfl, -⟩ := List.cons.inj hback
                exact absurd List.mem_cons_self h
  · rintro (hfront | hback)
    · exact hfront.trans ⟨[], c :: back, rfl⟩
    · exact hback.trans ⟨front ++ [c], [], by simp⟩

end Rigor.Text
