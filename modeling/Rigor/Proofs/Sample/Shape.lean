import Rigor.Proofs.Schema.Decoder

/-!
# Shapes

What of a sample its expression depends on. The shape of an object is the list of its keys with the
shapes of their values, and the shape of any other sample is its schema.

`Sample.emitField` indents by rewriting: the text of a field is indented as a whole, so that a line
of an object at depth `n` is rewritten `n` times. `Shape.print` writes every line once, at the depth
where it stands.

* `indentBy_print`: to indent a printed shape is to print it deeper.
* `toList_emitField`: an object is emitted as its shape is printed at depth zero, whatever its keys
  are.
-/

namespace Rigor

/-- What of a sample its expression depends on. -/
inductive Shape where
  /-- A sample that is no object. -/
  | leaf (schema : Schema)
  /-- The keys of an object with the shapes of their values. -/
  | fields (members : List (String × Shape))
  deriving Inhabited

namespace Shape

mutual

/-- Equality of shapes. -/
def same : Shape → Shape → Bool
  | .leaf a, .leaf b => decide (a = b)
  | .fields as, .fields bs => sameMembers as bs
  | _, _ => false

/-- Equality key by key. -/
def sameMembers : List (String × Shape) → List (String × Shape) → Bool
  | [], [] => true
  | (k, a) :: as, (l, b) :: bs => k == l && same a b && sameMembers as bs
  | _, _ => false

end

mutual

/-- The test for equality of shapes is equality. -/
theorem same_iff : ∀ a b : Shape, same a b = true ↔ a = b
  | .leaf a, b => by cases b <;> simp [same]
  | .fields as, b => by
      cases b with
      | leaf _ => simp [same]
      | fields bs => simp [same, sameMembers_iff as bs]

/-- So is the test for equality of fields. -/
theorem sameMembers_iff : ∀ as bs : List (String × Shape), sameMembers as bs = true ↔ as = bs
  | [], bs => by cases bs <;> simp [sameMembers]
  | (k, a) :: as, bs => by
      cases bs with
      | nil => simp [sameMembers]
      | cons b bs => simp [sameMembers, same_iff a b.2, sameMembers_iff as bs, Prod.ext_iff]

end

instance : DecidableEq Shape :=
  fun a b => decidable_of_iff (same a b = true) (same_iff a b)

/-! ### Indentation -/

/-- A line feed and the indentation of the line after it. -/
def lineStart (depth : Nat) : List Char :=
  '\n' :: List.replicate (2 * depth) ' '

/-- The text with its lines after the first standing `depth` steps further in. -/
def indentBy (depth : Nat) (cs : List Char) : List Char :=
  cs.flatMap fun c => if c = '\n' then lineStart depth else [c]

/-- A text is indented in two parts. -/
theorem indentBy_append (depth : Nat) (cs ds : List Char) :
    indentBy depth (cs ++ ds) = indentBy depth cs ++ indentBy depth ds :=
  List.flatMap_append

/-- A text on one line stays as it is. -/
theorem indentBy_of_not_mem {depth : Nat} {cs : List Char} (h : '\n' ∉ cs) :
    indentBy depth cs = cs := by
  induction cs with
  | nil => rfl
  | cons c cs ih =>
      rw [List.mem_cons, not_or] at h
      obtain ⟨hc, hcs⟩ := h
      unfold indentBy at ih ⊢
      rw [List.flatMap_cons, if_neg (Ne.symm hc), ih hcs]
      rfl

/-- Indenting by nothing changes nothing. -/
theorem indentBy_zero (cs : List Char) : indentBy 0 cs = cs := by
  induction cs with
  | nil => rfl
  | cons c cs ih =>
      unfold indentBy at ih ⊢
      rw [List.flatMap_cons, ih]
      by_cases hc : c = '\n'
      · rw [if_pos hc, hc]
        rfl
      · rw [if_neg hc]
        rfl

/-- Indenting a line adds to its depth. -/
theorem indentBy_lineStart (m n : Nat) : indentBy m (lineStart n) = lineStart (n + m) := by
  have hspaces : indentBy m (List.replicate (2 * n) ' ') = List.replicate (2 * n) ' ' := by
    apply indentBy_of_not_mem
    intro h
    have := List.eq_of_mem_replicate h
    cases this
  have hcons : lineStart n = ['\n'] ++ List.replicate (2 * n) ' ' := rfl
  rw [hcons, indentBy_append, hspaces, show indentBy m ['\n'] = lineStart m by simp [indentBy]]
  unfold lineStart
  rw [List.cons_append, List.replicate_append_replicate]
  congr 2
  omega

/-- Indenting twice is indenting by the sum. -/
theorem indentBy_indentBy (m n : Nat) (cs : List Char) :
    indentBy m (indentBy n cs) = indentBy (n + m) cs := by
  induction cs with
  | nil => rfl
  | cons c cs ih =>
      have hstep : ∀ depth, indentBy depth (c :: cs) =
          (if c = '\n' then lineStart depth else [c]) ++ indentBy depth cs :=
        fun depth => List.flatMap_cons
      rw [hstep, hstep, indentBy_append, ih]
      by_cases hc : c = '\n'
      · rw [if_pos hc, if_pos hc, indentBy_lineStart]
      · rw [if_neg hc, if_neg hc, indentBy_of_not_mem (by simpa using Ne.symm hc)]

/-! ### Printing at a depth -/

/-- What an object begins with. -/
def opening : List Char :=
  ['o', 'b', 'j', 'e', 'c', 't', '(', '{']

/-- What closes an object. -/
def closing : List Char :=
  ['}', ')']

/-- What an object ends with if it admits no other fields. -/
def strictMark (strict : Bool) : List Char :=
  if strict then ".strict()".toList else []

/-- What stands between a field and the line of the next one. -/
def comma (first : Bool) : List Char :=
  if first then [] else [',']

mutual

/-- The expression of a shape whose first line stands at the given depth. -/
def print (strict : Bool) : Nat → Shape → List Char
  | _, .leaf schema => schema.chars
  | depth, .fields members =>
    opening ++ (printMembers strict depth true members ++ (closing ++ strictMark strict))

/-- A line for each field of an object at the given depth, and the start of the line that closes the
object. An object without fields has no lines. -/
def printMembers (strict : Bool) : Nat → Bool → List (String × Shape) → List Char
  | depth, first, [] => if first then [] else lineStart depth
  | depth, first, (key, value) :: rest =>
    comma first ++ (lineStart (depth + 1) ++ (indentBy depth key.toList ++
      ([':', ' '] ++ (print strict (depth + 1) value ++ printMembers strict depth false rest))))

end

/-- The mark of strictness stays on its line. -/
theorem newline_not_mem_strictMark (strict : Bool) : '\n' ∉ strictMark strict := by
  cases strict <;> decide

mutual

/-- To indent a printed shape is to print it deeper. -/
theorem indentBy_print (strict : Bool) (m : Nat) : ∀ (depth : Nat) (shape : Shape),
    indentBy m (print strict depth shape) = print strict (depth + m) shape
  | _, .leaf schema => by
      have hline : '\n' ∉ schema.chars := schema.not_mem_chars (by decide)
      rw [print, print, indentBy_of_not_mem hline]
  | depth, .fields members => by
      have hopening : indentBy m opening = opening := indentBy_of_not_mem (by decide)
      have hclosing : indentBy m closing = closing := indentBy_of_not_mem (by decide)
      rw [print, print, indentBy_append, indentBy_append, indentBy_append,
        indentBy_printMembers strict m depth true members, hopening, hclosing,
        indentBy_of_not_mem (newline_not_mem_strictMark strict)]

/-- Indenting the fields of an object is printing them at a greater depth. -/
theorem indentBy_printMembers (strict : Bool) (m : Nat) :
    ∀ (depth : Nat) (first : Bool) (members : List (String × Shape)),
      indentBy m (printMembers strict depth first members) =
        printMembers strict (depth + m) first members
  | depth, first, [] => by
      cases first with
      | true => rfl
      | false => exact indentBy_lineStart m depth
  | depth, first, (key, value) :: rest => by
      have hcomma : indentBy m (comma first) = comma first := by
        apply indentBy_of_not_mem
        cases first <;> decide
      have hcolon : indentBy m [':', ' '] = [':', ' '] := indentBy_of_not_mem (by decide)
      have hline : indentBy m (lineStart (depth + 1)) = lineStart (depth + m + 1) := by
        rw [indentBy_lineStart, Nat.add_right_comm]
      have hvalue : indentBy m (print strict (depth + 1) value) =
          print strict (depth + m + 1) value := by
        rw [indentBy_print strict m (depth + 1) value, Nat.add_right_comm]
      rw [printMembers, printMembers, indentBy_append, indentBy_append, indentBy_append,
        indentBy_append, indentBy_append, hcomma, hline, indentBy_indentBy, hcolon, hvalue,
        indentBy_printMembers strict m depth false rest]

end

end Shape

namespace Sample

open Shape (lineStart indentBy strictMark print printMembers)

mutual

/-- The keys of an object with the shapes of their values, or the schema of any other sample. -/
def shape : Sample → Shape
  | .obj members => .fields (memberShapes members)
  | sample => .leaf sample.infer

/-- Each key with the shape of its value. -/
def memberShapes : List (String × Sample) → List (String × Shape)
  | [] => []
  | (key, value) :: rest => (key, shape value) :: memberShapes rest

end

/-- The lines of an expression after the first are indented by one step. -/
theorem toList_indentRest (expression : String) :
    (indentRest expression).toList = indentBy 1 expression.toList := by
  unfold indentRest
  rw [String.toList_ofList]
  rfl

/-- The characters of an object with fields, before they are indented. -/
theorem toList_objectText_cons (strict : Bool) (field : String) (fields : List String) :
    (objectText strict (field :: fields)).toList =
      "object(\x7b\n".toList ++ (field.toList ++
        ((fields.flatMap fun t => ",\n".toList ++ t.toList) ++
          ("\n\x7d)".toList ++ strictMark strict))) := by
  unfold objectText
  rw [List.isEmpty_cons, if_neg Bool.false_ne_true, String.toList_append, String.toList_append,
    String.toList_append, Text.toList_joinWith_cons]
  cases strict <;> simp [strictMark]

/-- The text of a field, without the line feed in front of it. -/
theorem toList_member {strict : Bool} {value : Sample}
    (h : (value.emitField strict).toList = print strict 0 value.shape) (key : String) :
    (indentation ++ key ++ ": " ++ indentRest (value.emitField strict)).toList =
      [' ', ' '] ++ (key.toList ++ ([':', ' '] ++ print strict 1 value.shape)) := by
  have hvalue : (indentRest (value.emitField strict)).toList = print strict 1 value.shape := by
    rw [toList_indentRest, h, Shape.indentBy_print]
  rw [String.toList_append, String.toList_append, String.toList_append, hvalue, List.append_assoc,
    List.append_assoc]
  rfl

mutual

/-- An object is emitted as its shape is printed at depth zero. -/
theorem toList_emitField (strict : Bool) :
    ∀ sample : Sample, (sample.emitField strict).toList = print strict 0 sample.shape
  | .obj [] => by cases strict <;> rfl
  | .obj ((key, value) :: rest) => by
      have hshape : (Sample.obj ((key, value) :: rest)).shape =
          .fields ((key, value.shape) :: memberShapes rest) := rfl
      have hfirst := toList_member (toList_emitField strict value) key
      have hrest := flatMap_emitMembers strict rest
      rw [emitField, emitMembers, toList_objectText_cons, hfirst, hshape, print, printMembers,
        ← hrest, Shape.indentBy_zero]
      simp [Shape.comma, Shape.opening, Shape.closing, lineStart, List.replicate]
  | .null => rfl
  | .undefined => rfl
  | .bool _ => rfl
  | .int _ => rfl
  | .float _ => rfl
  | .str _ => rfl
  | .arr _ => rfl
  | .foreign => rfl

/-- The fields of an object are emitted as its shape is printed, each after a comma. -/
theorem flatMap_emitMembers (strict : Bool) : ∀ members : List (String × Sample),
    ((emitMembers strict members).flatMap fun t => ",\n".toList ++ t.toList) ++ ['\n'] =
      printMembers strict 0 false (memberShapes members)
  | [] => rfl
  | (key, value) :: rest => by
      have hfirst := toList_member (toList_emitField strict value) key
      have hrest := flatMap_emitMembers strict rest
      rw [emitMembers, List.flatMap_cons, hfirst, memberShapes, printMembers, List.append_assoc,
        hrest, Shape.indentBy_zero]
      simp [Shape.comma, lineStart, List.replicate]

end

end Sample

end Rigor
