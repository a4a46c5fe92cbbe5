/-!
# Erasing a word from a text

`erase` takes all occurrences of a word out of a text, from left to right. What is left of a text
can be told piece by piece, as long as no occurrence goes from one piece into the next.

* `erasedFrom_append`: a piece in which no occurrence starts is kept.
* `erasedFrom_append_of_not_mem`, `erasedFrom_append_cons`: two ways to know this of a piece. It
  does not have the first character of the word, or it does not have the word and is followed by a
  character that the word does not have.
* `erasedFrom_word_append`: an occurrence is not kept.
-/

namespace Rigor.Text

/-- The text without the occurrences of a word that is not empty, after some characters that belong
to an occurrence already. -/
def erasedFrom (word : List Char) : Nat → List Char → List Char
  | _, [] => []
  | skipped + 1, _ :: rest => erasedFrom word skipped rest
  | 0, c :: rest =>
    if word.isPrefixOf (c :: rest) then erasedFrom word (word.length - 1) rest
    else c :: erasedFrom word 0 rest

/-- The text without the occurrences of a word that is not empty. -/
def erase (word text : String) : String :=
  String.ofList (erasedFrom word.toList 0 text.toList)

variable {word cs ds : List Char}

/-- A text that belongs to an occurrence as a whole is passed over. -/
theorem erasedFrom_length_append (cs ds : List Char) :
    erasedFrom word cs.length (cs ++ ds) = erasedFrom word 0 ds := by
  induction cs with
  | nil => rfl
  | cons c cs ih => rw [List.length_cons, List.cons_append, erasedFrom, ih]

/-- An occurrence of the word is not kept. -/
theorem erasedFrom_word_append (h : word ≠ []) (ds : List Char) :
    erasedFrom word 0 (word ++ ds) = erasedFrom word 0 ds := by
  obtain ⟨c, tail, rfl⟩ := List.exists_cons_of_ne_nil h
  have hprefix : (c :: tail).isPrefixOf (c :: (tail ++ ds)) = true := by
    rw [List.isPrefixOf_iff_prefix]
    exact ⟨ds, rfl⟩
  rw [List.cons_append, erasedFrom, if_pos hprefix]
  exact erasedFrom_length_append tail ds

/-- A piece of a text in which no occurrence starts is kept. -/
theorem erasedFrom_append (h : ∀ back, back ≠ [] → back <:+ cs → ¬ word <+: back ++ ds) :
    erasedFrom word 0 (cs ++ ds) = cs ++ erasedFrom word 0 ds := by
  induction cs with
  | nil => rfl
  | cons c cs ih =>
      have hstart : ¬ word.isPrefixOf (c :: (cs ++ ds)) = true := by
        rw [List.isPrefixOf_iff_prefix]
        exact h (c :: cs) (List.cons_ne_nil c cs) (List.suffix_refl _)
      have hrest : erasedFrom word 0 (cs ++ ds) = cs ++ erasedFrom word 0 ds := by
        apply ih
        intro back hne hback
        exact h back hne (hback.trans (List.suffix_cons c cs))
      rw [List.cons_append, erasedFrom, if_neg hstart, hrest, List.cons_append]

/-- A piece without the first character of the word is kept. -/
theorem erasedFrom_append_of_not_mem {c : Char} {tail : List Char} (h : c ∉ cs) :
    erasedFrom (c :: tail) 0 (cs ++ ds) = cs ++ erasedFrom (c :: tail) 0 ds := by
  apply erasedFrom_append
  intro back hne hback hprefix
  obtain ⟨d, rest, rfl⟩ := List.exists_cons_of_ne_nil hne
  rw [List.cons_append, List.cons_prefix_cons] at hprefix
  obtain ⟨rfl, -⟩ := hprefix
  exact h (hback.subset List.mem_cons_self)

/-- A piece without the word is kept if what follows it does not complete an occurrence. -/
theorem erasedFrom_append_cons {c : Char} (hword : ¬ word <:+: cs) (hc : c ∉ word) :
    erasedFrom word 0 (cs ++ c :: ds) = cs ++ erasedFrom word 0 (c :: ds) := by
  apply erasedFrom_append
  rintro back - hback ⟨rest, heq⟩
  rcases List.append_eq_append_iff.mp heq with ⟨more, hback', -⟩ | ⟨more, hword', hmore⟩
  · have hoccurs : word <:+: back := ⟨[], more, by rw [hback', List.nil_append]⟩
    exact hword (hoccurs.trans hback.isInfix)
  · cases more with
    | nil =>
        rw [List.append_nil] at hword'
        exact hword (hword' ▸ hback.isInfix)
    | cons d more =>
        obtain ⟨rfl, -⟩ := List.cons.inj hmore
        rw [hword', List.mem_append, List.mem_cons] at hc
        exact hc (Or.inr (Or.inl rfl))

end Rigor.Text
