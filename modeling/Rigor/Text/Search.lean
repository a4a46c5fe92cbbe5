/-!
# Occurrences of one text in another

`occursIn` searches a text for a contiguous copy of another; it decides the infix relation of the
library (`occursIn_iff`).
-/

namespace Rigor.Text

/-- `needle` stands somewhere in the text as consecutive characters. -/
def occursIn (needle : List Char) : List Char → Bool
  | [] => needle.isEmpty
  | c :: rest => needle.isPrefixOf (c :: rest) || occursIn needle rest

/-- The search finds a word just if it is a contiguous part of the text. -/
theorem occursIn_iff {needle text : List Char} :
    occursIn needle text = true ↔ needle <:+: text := by
  induction text with
  | nil => simp [occursIn]
  | cons c rest ih =>
    rw [occursIn, Bool.or_eq_true, ih, List.isPrefixOf_iff_prefix, List.infix_cons_iff]

end Rigor.Text
