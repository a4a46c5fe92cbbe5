import Rigor.Proofs.Text.Lower
import Rigor.Text.Join

/-!
# Texts taken to pieces

What is written with delimiters between the parts is taken apart at them. A character delimits parts
that do not have it (`pieces_joinWith`). A colon and a blank delimit a heading from what follows if
the heading does not have them next to each other (`cutHeading_append`): one that ends with a colon
does no harm, for what comes next is a colon again.
-/

namespace Rigor.Text

/-! ### Pieces -/

/-- The pieces of a text before, between and after the places of a character. -/
def pieces (delimiter : Char) (text : String) : List String :=
  (text.toList.splitOn delimiter).map String.ofList

/-- The characters of joined texts are the joined characters. -/
theorem toList_joinWith (separator : String) (texts : List String) :
    (joinWith separator texts).toList =
      separator.toList.intercalate (texts.map String.toList) := by
  induction texts with
  | nil => rfl
  | cons text rest ih =>
      cases rest with
      | nil => simp
      | cons next rest =>
          rw [joinWith_cons_cons, String.toList_append, String.toList_append, ih]
          simp [List.intercalate_cons_cons]

/-- Joining texts of which the first is not empty gives a text that is not empty. -/
theorem joinWith_cons_ne_empty {text : String} (h : text ≠ "") (separator : String)
    (rest : List String) : joinWith separator (text :: rest) ≠ "" := by
  cases rest with
  | nil => exact h
  | cons next rest =>
      rw [joinWith_cons_cons, ne_eq, String.append_eq_empty_iff, String.append_eq_empty_iff]
      rintro ⟨⟨hempty, -⟩, -⟩
      exact h hempty

/-- Texts are taken apart into characters and put together again. -/
theorem map_ofList_toList (texts : List String) :
    (texts.map String.toList).map String.ofList = texts := by
  rw [List.map_map]
  exact List.map_id'' (fun _ => String.ofList_toList) texts

section

variable {delimiter : Char} {separator : String} {texts : List String}

/-- Texts that are joined by a character which none of them has are the pieces of what results. -/
theorem pieces_joinWith (hseparator : separator.toList = [delimiter]) (hsome : texts ≠ [])
    (h : ∀ text ∈ texts, delimiter ∉ text.toList) :
    pieces delimiter (joinWith separator texts) = texts := by
  have hapart : ∀ cs ∈ texts.map String.toList, delimiter ∉ cs := by
    intro cs hcs
    obtain ⟨text, htext, rfl⟩ := List.mem_map.mp hcs
    exact h text htext
  have hsplit : (joinWith separator texts).toList.splitOn delimiter =
      texts.map String.toList := by
    rw [toList_joinWith, hseparator]
    apply List.splitOn_intercalate delimiter hapart
    rwa [ne_eq, List.map_eq_nil_iff]
  rw [pieces, hsplit, map_ofList_toList]

/-- A word without the delimiter is in joined texts only if it is in one of them. -/
theorem infix_joinWith (hseparator : separator.toList = [delimiter]) {word : List Char}
    (hword : word ≠ []) (hdelimiter : delimiter ∉ word)
    (h : word <:+: (joinWith separator texts).toList) :
    ∃ text ∈ texts, word <:+: text.toList := by
  induction texts with
  | nil => exact absurd (List.eq_nil_of_infix_nil h) hword
  | cons text rest ih =>
      cases rest with
      | nil => exact ⟨text, List.mem_singleton_self text, h⟩
      | cons next rest =>
          rw [joinWith_cons_cons, String.toList_append, String.toList_append, hseparator,
            List.append_assoc, List.singleton_append, infix_append_cons_iff hdelimiter] at h
          rcases h with hfirst | hrest
          · exact ⟨text, List.mem_cons_self, hfirst⟩
          · obtain ⟨found, hfound, hinfix⟩ := ih hrest
            exact ⟨found, List.mem_cons_of_mem text hfound, hinfix⟩

end

/-! ### Headings -/

/-- What stands between a heading and the rest of a line. -/
def headingEnd : List Char := [':', ' ']

/-- The text in front of the first colon with a blank behind it, and the text behind these two. -/
def cutHeading : List Char → List Char × List Char
  | [] => ([], [])
  | ':' :: ' ' :: rest => ([], rest)
  | c :: rest => (c :: (cutHeading rest).1, (cutHeading rest).2)

/-- A character that does not begin the end of a heading belongs to the heading. -/
theorem cutHeading_cons {c : Char} {rest : List Char} (h : ¬ headingEnd <+: c :: rest) :
    cutHeading (c :: rest) = (c :: (cutHeading rest).1, (cutHeading rest).2) := by
  rw [cutHeading]
  rintro back rfl rfl
  exact h ⟨back, rfl⟩

/-- A heading in front of its end is cut off there. -/
theorem cutHeading_append {heading : List Char} (h : ¬ headingEnd <:+: heading)
    (rest : List Char) : cutHeading (heading ++ (headingEnd ++ rest)) = (heading, rest) := by
  induction heading with
  | nil => rfl
  | cons c heading ih =>
      have hlater : ¬ headingEnd <:+: heading := by
        intro hinfix
        exact h (List.infix_cons hinfix)
      have hhere : ¬ headingEnd <+: c :: (heading ++ (headingEnd ++ rest)) := by
        rintro ⟨back, hback⟩
        obtain ⟨rfl, htail⟩ := List.cons.inj hback
        cases heading with
        | nil => cases htail
        | cons d heading =>
            obtain ⟨rfl, -⟩ := List.cons.inj htail
            exact h ⟨[], heading, rfl⟩
      rw [List.cons_append, cutHeading_cons hhere, ih hlater]

end Rigor.Text
