import Rigor.Proofs.Sample.Unambiguous
import Rigor.Proofs.Text.Erasure
import Rigor.Text.Search

/-!
# Strictness only adds marks

A strict expression is the expression that is not strict with marks added to it. Where no key that
is spelled out has the text of a mark or a line feed in it, the marks can be told from the rest of
the expression and be taken out again.

* `unmarked_print`: without its marks, a shape that is printed strictly is the shape printed. The
  induction is on the sample that the shape is of and its members together. A mark begins with a
  full stop, which nothing but a mark or a key has in it, and a key is followed by a colon, which a
  mark does not have in it.
* `unmarked_items`: the same for the items of an array. They have as many distinct texts with marks
  as without, because both tell their shapes apart (`text_inj`).
* `erase_emit`: the main statement.
-/

namespace Rigor.Sample

open Shape (closing comma indentBy_of_not_mem lineStart opening print printMembers strictMark text
  text_inj toList_text)
open Text (erase erasedFrom erasedFrom_append_cons erasedFrom_append_of_not_mem
  erasedFrom_word_append listing separator)

/-- A key that is legible without quotes: it has no line feed in it, and not the text of a mark. -/
def IsClear (key : String) : Prop :=
  '\n' ∉ key.toList ∧ ¬ ".strict()".toList <:+: key.toList

instance (key : String) : Decidable (IsClear key) :=
  decidable_of_iff ('\n' ∉ key.toList ∧ ¬ Text.occursIn ".strict()".toList key.toList = true)
    (by rw [Text.occursIn_iff, IsClear])

/-- The text without the marks of strictness. -/
def unmarked (cs : List Char) : List Char :=
  erasedFrom ".strict()".toList 0 cs

/-- A text without a dot has no mark to take away. -/
theorem unmarked_append {cs : List Char} (h : '.' ∉ cs) (ds : List Char) :
    unmarked (cs ++ ds) = cs ++ unmarked ds :=
  erasedFrom_append_of_not_mem h

/-- A mark in front of a text is taken away. -/
theorem unmarked_strictMark_append (ds : List Char) :
    unmarked (strictMark true ++ ds) = strictMark false ++ unmarked ds := by
  have hword : ".strict()".toList ≠ [] := by decide
  exact erasedFrom_word_append hword ds

/-- A key stays as it is, because a colon follows. -/
theorem unmarked_key {key : String} (h : IsClear key) (ds : List Char) :
    unmarked (key.toList ++ ([':', ' '] ++ ds)) = key.toList ++ ([':', ' '] ++ unmarked ds) := by
  have hkey : unmarked (key.toList ++ ':' :: ([' '] ++ ds)) =
      key.toList ++ unmarked (':' :: ([' '] ++ ds)) :=
    erasedFrom_append_cons h.2 (by decide)
  have hcolon : unmarked ([':', ' '] ++ ds) = [':', ' '] ++ unmarked ds :=
    unmarked_append (by decide) ds
  rw [← hcolon]
  exact hkey

/-- The expression of a schema has no marks. -/
theorem unmarked_chars (schema : Schema) (ds : List Char) :
    unmarked (schema.chars ++ ds) = schema.chars ++ unmarked ds :=
  unmarked_append (schema.not_mem_chars (by decide)) ds

/-- There is no dot in the start of a line. -/
theorem dot_not_mem_lineStart (depth : Nat) : '.' ∉ lineStart depth := by
  intro h
  rcases List.mem_cons.mp h with h | h
  · cases h
  · cases List.eq_of_mem_replicate h

/-! ### Objects -/

mutual

/-- Without its marks, a shape that is printed strictly is the shape printed. -/
theorem unmarked_print : ∀ (depth : Nat) (sample : Sample) (ds : List Char),
    (∀ key ∈ sample.fieldKeys, IsClear key) →
      unmarked (print true depth sample.shape ++ ds) =
        print false depth sample.shape ++ unmarked ds
  | depth, .obj members, ds, h => by
      have hmembers := unmarked_printMembers depth true members
        (closing ++ (strictMark true ++ ds)) h
      have hopening : '.' ∉ opening := by decide
      have hclosing : '.' ∉ closing := by decide
      rw [shape, print, print]
      simp only [List.append_assoc]
      rw [unmarked_append hopening, hmembers, unmarked_append hclosing, unmarked_strictMark_append]
  | _, .null, ds, _ => unmarked_chars _ ds
  | _, .undefined, ds, _ => unmarked_chars _ ds
  | _, .bool _, ds, _ => unmarked_chars _ ds
  | _, .int _, ds, _ => unmarked_chars _ ds
  | _, .float _, ds, _ => unmarked_chars _ ds
  | _, .str _, ds, _ => unmarked_chars _ ds
  | _, .arr _, ds, _ => unmarked_chars _ ds
  | _, .foreign, ds, _ => unmarked_chars _ ds

/-- Without its marks, a strict object is printed as one that is not, field by field. -/
theorem unmarked_printMembers : ∀ (depth : Nat) (first : Bool) (members : List (String × Sample))
    (ds : List Char), (∀ key ∈ memberKeys members, IsClear key) →
      unmarked (printMembers true depth first (memberShapes members) ++ ds) =
        printMembers false depth first (memberShapes members) ++ unmarked ds
  | depth, first, [], ds, _ => by
      cases first with
      | true => rfl
      | false => exact unmarked_append (dot_not_mem_lineStart depth) ds
  | depth, first, (key, value) :: rest, ds, h => by
      have hkey : IsClear key := h key List.mem_cons_self
      have hvalue := unmarked_print (depth + 1) value
        (printMembers true depth false (memberShapes rest) ++ ds)
        fun k hk => h k (List.mem_cons_of_mem _ (List.mem_append_left _ hk))
      have hrest := unmarked_printMembers depth false rest ds
        fun k hk => h k (List.mem_cons_of_mem _ (List.mem_append_right _ hk))
      have hcomma : '.' ∉ comma first := by cases first <;> decide
      rw [memberShapes, printMembers, printMembers, indentBy_of_not_mem hkey.1]
      simp only [List.append_assoc]
      rw [unmarked_append hcomma, unmarked_append (dot_not_mem_lineStart _), unmarked_key hkey,
        hvalue, hrest]

end

/-! ### Arrays -/

/-- A listing without the marks in its items. -/
theorem unmarked_listing {α : Type} {item plain : α → List Char} {as : List α}
    (h : ∀ a ∈ as, ∀ ds, unmarked (item a ++ ds) = plain a ++ unmarked ds) (first : Bool)
    (ds : List Char) :
    unmarked (listing item first as ++ ds) = listing plain first as ++ unmarked ds := by
  induction as generalizing first with
  | nil =>
      have hclose : '.' ∉ [')'] := by decide
      exact unmarked_append hclose ds
  | cons a rest ih =>
      have hseparator : '.' ∉ separator first := by cases first <;> decide
      have hrest := ih (fun b hb => h b (List.mem_cons_of_mem a hb)) false
      simp only [listing, List.append_assoc]
      rw [unmarked_append hseparator, h a List.mem_cons_self, hrest]

/-- An array without the marks in its items. -/
theorem unmarked_items {shapes : List Shape} (hne : shapes ≠ [])
    (h : ∀ shape ∈ shapes, ∀ ds,
      unmarked (print true 0 shape ++ ds) = print false 0 shape ++ unmarked ds) :
    unmarked ((Outline.items shapes).print true).toList =
      ((Outline.items shapes).print false).toList := by
  have harray : '.' ∉ "array(".toList := by decide
  have hunion : '.' ∉ "union(".toList := by decide
  have hclose : unmarked [')'] = [')'] := rfl
  rcases shapes with _ | ⟨a, _ | ⟨b, rest⟩⟩
  · exact absurd rfl hne
  · rw [Outline.print, Outline.print, List.map_singleton, List.map_singleton,
      Outline.toList_arrayText_singleton, Outline.toList_arrayText_singleton,
      unmarked_append harray, h a List.mem_cons_self, hclose]
  · rw [Outline.print, Outline.print, Outline.toList_arrayText_cons_cons,
      Outline.toList_arrayText_cons_cons, unmarked_append harray, unmarked_append hunion,
      unmarked_listing h, hclose]

/-- Without its marks, an outline that is printed strictly is the outline printed. -/
theorem unmarked_outline (sample : Sample) (h : ∀ key ∈ sample.spelledKeys, IsClear key) :
    unmarked (sample.outline.print true).toList = (sample.outline.print false).toList := by
  have hsingle : (∀ key ∈ sample.fieldKeys, IsClear key) →
      unmarked ((Outline.single sample.shape).print true).toList =
        ((Outline.single sample.shape).print false).toList := by
    intro hkeys
    have hprint := unmarked_print 0 sample [] hkeys
    rw [List.append_nil, show unmarked [] = [] from rfl, List.append_nil] at hprint
    rw [Outline.print, Outline.print, toList_text, toList_text]
    exact hprint
  cases sample with
  | arr items =>
      cases items with
      | nil => rfl
      | cons first rest =>
          apply unmarked_items
          · rw [ne_eq, Schema.distinct_eq_nil]
            exact List.cons_ne_nil _ _
          · intro shape hshape ds
            obtain ⟨item, hitem, rfl⟩ := List.mem_map.mp (Schema.mem_distinct.mp hshape)
            exact unmarked_print 0 item ds fun key hkey =>
              h key (List.mem_flatMap.mpr ⟨item, hitem, hkey⟩)
  | _ => exact hsingle h

/-- **Strictness only adds marks**: without its marks a strict expression is the one that is not
strict, provided that no key that is spelled out has a line feed or the text of a mark in it. The
items of an array that strict expressions merge are those that other expressions merge, and as many
distinct ones are left. -/
theorem erase_emit (sample : Sample) (h : ∀ key ∈ sample.spelledKeys, IsClear key) :
    erase ".strict()" (sample.emit true) = sample.emit false ∧
      ∀ items, sample = .arr items →
        (∀ a ∈ items, ∀ b ∈ items,
          (a.emitField true = b.emitField true ↔ a.emitField false = b.emitField false)) ∧
        (elementTexts true items).length = (elementTexts false items).length := by
  have hlines : ∀ key ∈ sample.spelledKeys, '\n' ∉ key.toList := fun key hkey => (h key hkey).1
  constructor
  · have hunmarked := unmarked_outline sample h
    rw [emit_eq_print true sample hlines, emit_eq_print false sample hlines, ← String.toList_inj,
      erase, String.toList_ofList]
    exact hunmarked
  · rintro items rfl
    constructor
    · intro a ha b hb
      have hshapes : ∀ strict, a.emitField strict = b.emitField strict ↔ a.shape = b.shape := by
        intro strict
        rw [emitField_eq_text, emitField_eq_text]
        exact text_inj (legible_item hlines ha) (legible_item hlines hb)
      rw [hshapes true, hshapes false]
    · rw [elementTexts_eq_map true hlines, elementTexts_eq_map false hlines, List.length_map,
        List.length_map]

/-- Items with keys that are parts of a mark. -/
def partsOfMark : List Sample :=
  [.obj [("strict()", .obj [(".strict(", .obj [])])], .obj [], .obj []]

/-- Parts of a mark are kept, and the two empty objects are merged. -/
theorem erase_emit_partsOfMark :
    (∀ key ∈ (Sample.arr partsOfMark).spelledKeys, IsClear key) ∧
      erase ".strict()" ((Sample.arr partsOfMark).emit true) =
        (Sample.arr partsOfMark).emit false ∧
      (elementTexts true partsOfMark).length = (elementTexts false partsOfMark).length := by
  have hclear : ∀ key ∈ (Sample.arr partsOfMark).spelledKeys, IsClear key := by decide +kernel
  obtain ⟨herase, hitems⟩ := erase_emit (.arr partsOfMark) hclear
  exact ⟨hclear, herase, (hitems partsOfMark rfl).2⟩

end Rigor.Sample
