import Mathlib.Data.List.Forall2
import Mathlib.Data.List.Infix
import Rigor.Diagnostic
import Rigor.Proofs.Text.Pieces

/-!
# Diagnostics read back

Formatted diagnostics are delimited three times over: by line feeds, by the colon that ends a path,
and by the dots in the path. As long as the names in a path and the messages keep out of the way of
these (`Legible`), all that is shown can be read back: the messages, and the texts of the segments.
What is lost is whether a number was a name or an index, and whether the root was named.

* `LegibleText`: what a text must not have in it to stand in a path; the text of an index has no
  such thing (`legibleText_decimal`).
* `readLine_formatLine`: a line is taken apart at its colon and its dots.
* `pieces_format`: the line feeds of formatted diagnostics are those between their lines.
* `format_recoverable`: the main statement.
-/

namespace Rigor

/-- A text without dots, line feeds and the end of a heading. -/
structure LegibleText (text : String) : Prop where
  /-- It is one segment of a path. -/
  no_dot : '.' ∉ text.toList
  /-- It stays on its line. -/
  no_newline : '\n' ∉ text.toList
  /-- It does not end the path. -/
  no_end : ¬ Text.headingEnd <:+: text.toList

instance (text : String) : Decidable (LegibleText text) :=
  decidable_of_iff
    ('.' ∉ text.toList ∧ '\n' ∉ text.toList ∧ ¬ Text.headingEnd <:+: text.toList)
    ⟨fun h => ⟨h.1, h.2.1, h.2.2⟩, fun h => ⟨h.no_dot, h.no_newline, h.no_end⟩⟩

/-! ### Segments -/

/-- A decimal number has digits and perhaps a minus sign, and no other characters. -/
theorem Text.mem_decimal {n : Int} {c : Char} (h : c ∈ (Text.decimal n).toList) :
    c = '-' ∨ c.isDigit = true := by
  have hdigits : ∀ m : Nat, c ∈ Text.natDigits m → c.isDigit = true := by
    intro m
    exact Nat.isDigit_of_mem_toDigits (by decide) (by decide)
  cases n with
  | ofNat m =>
      rw [Text.decimal, String.toList_ofList] at h
      exact Or.inr (hdigits m h)
  | negSucc m =>
      rw [Text.decimal, String.toList_ofList] at h
      rcases List.mem_cons.mp h with hsign | hdigit
      · exact Or.inl hsign
      · exact Or.inr (hdigits (m + 1) hdigit)

/-- A decimal number is free of the characters that a path and its message are cut at. -/
theorem legibleText_decimal (n : Int) : LegibleText (Text.decimal n) := by
  have habsent : ∀ c, c ≠ '-' → c.isDigit = false → c ∉ (Text.decimal n).toList := by
    intro c hsign hdigit hmem
    rcases Text.mem_decimal hmem with h | h
    · exact hsign h
    · rw [hdigit] at h
      cases h
  constructor
  · exact habsent '.' (by decide) rfl
  · exact habsent '\n' (by decide) rfl
  · intro hmark
    exact habsent ':' (by decide) rfl (hmark.subset List.mem_cons_self)

namespace Segment

/-- A segment that can be read back. Indices are such. -/
def Legible : Segment → Prop
  | .name text => LegibleText text
  | .index _ => True

instance : DecidablePred Legible
  | .name text => inferInstanceAs (Decidable (LegibleText text))
  | .index _ => .isTrue trivial

/-- A legible segment is written legibly, be it a key or a position. -/
theorem legibleText_format {segment : Segment} (h : segment.Legible) :
    LegibleText segment.format := by
  cases segment with
  | name text => exact h
  | index n => exact legibleText_decimal n

end Segment

namespace Diagnostic

/-- A diagnostic that can be read back. -/
structure Legible (d : Diagnostic) : Prop where
  path : ∀ segment ∈ d.path, segment.Legible
  message : '\n' ∉ d.message.toList

instance (d : Diagnostic) : Decidable d.Legible :=
  decidable_of_iff ((∀ segment ∈ d.path, segment.Legible) ∧ '\n' ∉ d.message.toList)
    ⟨fun h => ⟨h.1, h.2⟩, fun h => ⟨h.path, h.message⟩⟩

/-- The texts of the segments of a path; the empty path looks like that to a member called root. -/
def shownPath (path : List Segment) : List String :=
  if path = [] then ["root"] else path.map Segment.format

/-- What the line of a diagnostic shows. -/
def shown (d : Diagnostic) : List String × String :=
  (shownPath d.path, d.message)

/-- Two diagnostics show the same path and have the same message. -/
def Alike (d e : Diagnostic) : Prop :=
  shownPath d.path = shownPath e.path ∧ d.message = e.message

/-- Two lists show the same just if their errors are alike one by one. -/
theorem map_shown_eq_iff {ds es : List Diagnostic} :
    ds.map shown = es.map shown ↔ List.Forall₂ Alike ds es := by
  have halike : ∀ d e : Diagnostic, shown d = shown e ↔ Alike d e := by
    intro d e
    rw [shown, shown, Prod.mk.injEq, Alike]
  rw [← List.forall₂_eq_eq_eq, List.forall₂_map_left_iff, List.forall₂_map_right_iff]
  simp only [halike]

/-! ### Lines -/

/-- A path is written as its shown segments with dots between them. -/
theorem formatPath_eq (path : List Segment) :
    formatPath path = Text.joinWith "." (shownPath path) := by
  cases path with
  | nil => rfl
  | cons segment rest => rfl

/-- Even the empty path shows a segment. -/
theorem shownPath_ne_nil (path : List Segment) : shownPath path ≠ [] := by
  cases path with
  | nil => exact List.cons_ne_nil _ _
  | cons segment rest => exact List.cons_ne_nil _ _

/-- All that is shown of a legible path is legible. -/
theorem legibleText_of_mem_shownPath {path : List Segment} (h : ∀ segment ∈ path, segment.Legible)
    {text : String} (htext : text ∈ shownPath path) : LegibleText text := by
  unfold shownPath at htext
  split at htext
  · rw [List.mem_singleton.mp htext]
    constructor <;> decide
  · obtain ⟨segment, hsegment, rfl⟩ := List.mem_map.mp htext
    exact Segment.legibleText_format (h segment hsegment)

/-- What a line shows. -/
def readLine (line : String) : List String × String :=
  let parts := Text.cutHeading (line.toList.drop 4)
  (Text.pieces '.' (String.ofList parts.1), String.ofList parts.2)

/-- The characters of a line: the bullet, the path, the end of the heading and the message. -/
theorem toList_formatLine (d : Diagnostic) :
    d.formatLine.toList =
      [' ', ' ', '-', ' '] ++
        ((formatPath d.path).toList ++ (Text.headingEnd ++ d.message.toList)) := by
  simp [formatLine, Text.headingEnd]

/-- No error is written as the empty text. -/
theorem formatLine_ne_empty (d : Diagnostic) : d.formatLine ≠ "" := by
  intro h
  have hline := toList_formatLine d
  rw [h] at hline
  cases hline

/-- A line is taken apart at its colon and its dots. -/
theorem readLine_formatLine {d : Diagnostic} (h : d.Legible) : readLine d.formatLine = d.shown := by
  have htexts : ∀ text ∈ shownPath d.path, LegibleText text := by
    intro text htext
    exact legibleText_of_mem_shownPath h.path htext
  have hheading : ¬ Text.headingEnd <:+: (formatPath d.path).toList := by
    rw [formatPath_eq]
    intro hinfix
    obtain ⟨text, htext, hend⟩ := Text.infix_joinWith rfl (by decide) (by decide) hinfix
    exact (htexts text htext).no_end hend
  have hcut : Text.cutHeading (d.formatLine.toList.drop 4) =
      ((formatPath d.path).toList, d.message.toList) := by
    rw [toList_formatLine]
    exact Text.cutHeading_append hheading d.message.toList
  have hpath : Text.pieces '.' (formatPath d.path) = shownPath d.path := by
    rw [formatPath_eq]
    apply Text.pieces_joinWith rfl (shownPath_ne_nil d.path)
    intro text htext
    exact (htexts text htext).no_dot
  rw [readLine, hcut, String.ofList_toList, String.ofList_toList, hpath, shown]

/-- A legible error is written on one line. -/
theorem newline_not_mem_formatLine {d : Diagnostic} (h : d.Legible) :
    '\n' ∉ d.formatLine.toList := by
  have hpath : '\n' ∉ (formatPath d.path).toList := by
    rw [formatPath_eq]
    intro hmem
    have hinfix := (List.singleton_infix_iff _ _).mpr hmem
    obtain ⟨text, htext, hnewline⟩ := Text.infix_joinWith rfl (by decide) (by decide) hinfix
    rw [List.singleton_infix_iff] at hnewline
    exact (legibleText_of_mem_shownPath h.path htext).no_newline hnewline
  rw [toList_formatLine]
  simp [Text.headingEnd, hpath, h.message]

/-! ### Texts -/

section

variable {ds es : List Diagnostic}

/-- The line feeds of formatted diagnostics are those between their lines. -/
theorem pieces_format (hsome : ds ≠ []) (h : ∀ d ∈ ds, d.Legible) :
    Text.pieces '\n' (format ds) = ds.map formatLine := by
  have hlines : ∀ line ∈ ds.map formatLine, '\n' ∉ line.toList := by
    intro line hline
    obtain ⟨d, hd, rfl⟩ := List.mem_map.mp hline
    exact newline_not_mem_formatLine (h d hd)
  exact Text.pieces_joinWith rfl (mt List.map_eq_nil_iff.mp hsome) hlines

/-- Only the empty list is written as the empty text. -/
theorem format_eq_empty_iff : format ds = "" ↔ ds = [] := by
  constructor
  · intro h
    cases ds with
    | nil => rfl
    | cons d rest => exact absurd h (Text.joinWith_cons_ne_empty (formatLine_ne_empty d) _ _)
  · rintro rfl
    rfl

/-- What formatted diagnostics show. -/
def readLines (text : String) : List (List String × String) :=
  if text = "" then [] else (Text.pieces '\n' text).map readLine

/-- Reading the lines of legible errors gives back what they show. -/
theorem readLines_format (h : ∀ d ∈ ds, d.Legible) : readLines (format ds) = ds.map shown := by
  by_cases hsome : ds = []
  · rw [hsome]
    rfl
  · rw [readLines, if_neg (mt format_eq_empty_iff.mp hsome), pieces_format hsome h, List.map_map]
    apply List.map_congr_left
    intro d hd
    exact readLine_formatLine (h d hd)

/-- What is not shown of diagnostics is not in their text. -/
theorem format_eq_of_alike (h : List.Forall₂ Alike ds es) : format ds = format es := by
  have hlines : ds.map formatLine = es.map formatLine := by
    rw [← List.forall₂_eq_eq_eq, List.forall₂_map_left_iff, List.forall₂_map_right_iff]
    refine h.imp fun d e halike => ?_
    rw [formatLine, formatLine, formatPath_eq, formatPath_eq, halike.1, halike.2]
  rw [format, format, hlines]

/-- Lists of legible errors that are written alike are alike one by one. -/
theorem alike_of_format_eq (hds : ∀ d ∈ ds, d.Legible) (hes : ∀ e ∈ es, e.Legible)
    (h : format ds = format es) : List.Forall₂ Alike ds es := by
  apply map_shown_eq_iff.mp
  rw [← readLines_format hds, h, readLines_format hes]

end

/-! ### Main statement -/

/-- **Formatted diagnostics can be read back.** What legible diagnostics show, the texts of the
segments of each path and the message, is read off their text, in order. So two lists of them have
the same text exactly if they show the same, one by one. Each of them has a line of its own, and
only of none at all there is no text. -/
theorem format_recoverable :
    (∀ ds : List Diagnostic, (∀ d ∈ ds, d.Legible) → readLines (format ds) = ds.map shown) ∧
    (∀ ds es : List Diagnostic, (∀ d ∈ ds, d.Legible) → (∀ e ∈ es, e.Legible) →
      (format ds = format es ↔ List.Forall₂ Alike ds es)) ∧
    (∀ ds : List Diagnostic, ds ≠ [] → (∀ d ∈ ds, d.Legible) →
      Text.pieces '\n' (format ds) = ds.map formatLine) ∧
    ∀ ds : List Diagnostic, format ds = "" ↔ ds = [] := by
  refine ⟨fun ds => readLines_format, fun ds es hds hes => ⟨?_, ?_⟩, fun ds => pieces_format,
    fun ds => format_eq_empty_iff⟩
  · exact alike_of_format_eq hds hes
  · exact format_eq_of_alike

/-- A name that ends with a colon, an empty one, a message with all the delimiters that it may have;
and an index that looks like the name with its digits, the root that looks like a member. -/
theorem format_recoverable_delimited :
    let ds : List Diagnostic :=
      [⟨[.name "limits:", .name "", .index (-1)], "expected: a.b"⟩, ⟨[], ": "⟩]
    let es : List Diagnostic :=
      [⟨[.name "limits:", .name "", .name "-1"], "expected: a.b"⟩, ⟨[.name "root"], ": "⟩]
    (∀ d ∈ ds, d.Legible) ∧ (∀ e ∈ es, e.Legible) ∧ ds ≠ [] ∧
      format ds = format es ∧ List.Forall₂ Alike ds es ∧
      readLines (format ds) = [(["limits:", "", "-1"], "expected: a.b"), (["root"], ": ")] ∧
      Text.pieces '\n' (format ds) = ["  - limits:..-1: expected: a.b", "  - root: : "] := by
  intro ds es
  have hds : ∀ d ∈ ds, d.Legible := by decide
  have hes : ∀ e ∈ es, e.Legible := by decide
  have hsome : ds ≠ [] := List.cons_ne_nil _ _
  have halike : List.Forall₂ Alike ds es := by
    rw [← map_shown_eq_iff]
    decide
  obtain ⟨hread, hiff, hpieces, -⟩ := format_recoverable
  refine ⟨hds, hes, hsome, (hiff ds es hds hes).mpr halike, halike, ?_, ?_⟩
  · rw [hread ds hds]
    decide
  · rw [hpieces ds hsome hds]
    decide

end Diagnostic

end Rigor
