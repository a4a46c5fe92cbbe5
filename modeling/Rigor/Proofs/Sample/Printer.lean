import Rigor.Proofs.Sample.Shape

/-!
# Objects printed at their depth

`Sample.emitField` writes the text of a field as if it stood at the margin, and indents it as a
whole for each object around it. `Sample.printAt` is a printer that knows how deep it is: it writes
every line once, where it stands.

* `toList_printAt`: to print a sample at some depth is to print its shape there. The induction is on
  the sample and its members together; `flatMap_linesAt` is the half for the members.
* `emitField_eq_printAt`: the main statement. The two ways from an object to its text come to the
  same, whatever strings its keys are. Since an array is printed by its schema, it stays on one line
  and has no mark of strictness, at any depth.
-/

namespace Rigor.Sample

open Shape (indentBy lineStart print printMembers strictMark)

/-! ### The printer -/

/-- The spaces in front of a line at the given depth. -/
def spaces (depth : Nat) : String :=
  String.ofList (List.replicate (2 * depth) ' ')

/-- A key of an object at the given depth. A line feed in it is followed by spaces, too. -/
def keyAt (depth : Nat) (key : String) : String :=
  String.ofList (key.toList.flatMap fun c => if c = '\n' then c :: (spaces depth).toList else [c])

/-- The text of an object at the given depth whose fields have these lines. -/
def objectAt (strict : Bool) (depth : Nat) (lines : List String) : String :=
  (if lines.isEmpty then "object(\x7b\x7d)"
    else "object(\x7b\n" ++ Text.joinWith ",\n" lines ++ "\n" ++ spaces depth ++ "\x7d)")
  ++ (if strict then ".strict()" else "")

mutual

/-- The text of a sample whose first line stands at the given depth: that of an object field by
field, that of any other sample on one line. -/
def printAt (strict : Bool) : Nat → Sample → String
  | depth, .obj members => objectAt strict depth (linesAt strict depth members)
  | _, sample => sample.infer.render

/-- The lines of the fields of an object at the given depth. -/
def linesAt (strict : Bool) : Nat → List (String × Sample) → List String
  | _, [] => []
  | depth, (key, value) :: rest =>
    (spaces (depth + 1) ++ keyAt depth key ++ ": " ++ printAt strict (depth + 1) value)
      :: linesAt strict depth rest

end

/-! ### Printing samples and printing shapes -/

/-- The spaces of a line are two for each step of its depth. -/
theorem toList_spaces (depth : Nat) : (spaces depth).toList = List.replicate (2 * depth) ' ' :=
  String.toList_ofList

/-- A key is indented line by line. -/
theorem toList_keyAt (depth : Nat) (key : String) :
    (keyAt depth key).toList = indentBy depth key.toList := by
  unfold keyAt
  rw [String.toList_ofList, toList_spaces]
  unfold indentBy lineStart
  congr 1
  funext c
  by_cases hc : c = '\n'
  · rw [if_pos hc, if_pos hc, hc]
  · rw [if_neg hc, if_neg hc]

/-- The characters of an object without fields. -/
theorem toList_objectAt_nil (strict : Bool) (depth : Nat) :
    (objectAt strict depth []).toList = Shape.opening ++ (Shape.closing ++ strictMark strict) := by
  unfold objectAt
  rw [List.isEmpty_nil, if_pos rfl]
  cases strict <;> rfl

/-- The characters of an object with fields. -/
theorem toList_objectAt_cons (strict : Bool) (depth : Nat) (line : String) (lines : List String) :
    (objectAt strict depth (line :: lines)).toList =
      "object(\x7b\n".toList ++ (line.toList ++
        ((lines.flatMap fun t => ",\n".toList ++ t.toList) ++
          (lineStart depth ++ ("\x7d)".toList ++ strictMark strict)))) := by
  unfold objectAt
  rw [List.isEmpty_cons, if_neg Bool.false_ne_true]
  simp only [String.toList_append, Text.toList_joinWith_cons, toList_spaces]
  cases strict <;> simp [strictMark, lineStart]

/-- The line of a field starts at the depth of the field. -/
theorem toList_line {strict : Bool} {depth : Nat} {value : Sample}
    (h : (value.printAt strict (depth + 1)).toList = print strict (depth + 1) value.shape)
    (key : String) :
    '\n' :: (spaces (depth + 1) ++ keyAt depth key ++ ": " ++
        printAt strict (depth + 1) value).toList =
      lineStart (depth + 1) ++ (indentBy depth key.toList ++
        ([':', ' '] ++ print strict (depth + 1) value.shape)) := by
  simp only [String.toList_append, toList_spaces, toList_keyAt, h, lineStart, List.append_assoc,
    List.cons_append]
  rfl

mutual

/-- To print a sample is to print its shape at the same depth. -/
theorem toList_printAt (strict : Bool) : ∀ (depth : Nat) (sample : Sample),
    (sample.printAt strict depth).toList = print strict depth sample.shape
  | depth, .obj [] => by
      rw [printAt, linesAt, toList_objectAt_nil]
      rfl
  | depth, .obj ((key, value) :: rest) => by
      have hfirst := toList_line (toList_printAt strict (depth + 1) value) key
      have hrest := flatMap_linesAt strict depth rest
      have hshape : (Sample.obj ((key, value) :: rest)).shape =
          .fields ((key, value.shape) :: memberShapes rest) := rfl
      have hopening : "object(\x7b\n".toList = Shape.opening ++ ['\n'] := rfl
      rw [printAt, linesAt, toList_objectAt_cons, hshape, print, printMembers, ← hrest, hopening]
      simp only [Shape.comma, if_true, List.nil_append, List.append_assoc, List.cons_append]
      rw [← List.cons_append, hfirst]
      simp only [Shape.closing, List.append_assoc]
      rfl
  | _, .null => rfl
  | _, .undefined => rfl
  | _, .bool _ => rfl
  | _, .int _ => rfl
  | _, .float _ => rfl
  | _, .str _ => rfl
  | _, .arr _ => rfl
  | _, .foreign => rfl

/-- The lines of all fields but the first one, and the start of the line after them. -/
theorem flatMap_linesAt (strict : Bool) : ∀ (depth : Nat) (members : List (String × Sample)),
    ((linesAt strict depth members).flatMap fun t => ",\n".toList ++ t.toList) ++ lineStart depth =
      printMembers strict depth false (memberShapes members)
  | _, [] => rfl
  | depth, (key, value) :: rest => by
      have hfirst := toList_line (toList_printAt strict (depth + 1) value) key
      have hrest := flatMap_linesAt strict depth rest
      have hcomma : ",\n".toList = Shape.comma false ++ ['\n'] := rfl
      rw [linesAt, List.flatMap_cons, memberShapes, printMembers, List.append_assoc, hrest, hcomma]
      simp only [List.append_assoc, List.cons_append, List.nil_append]
      rw [← List.cons_append, hfirst]
      simp only [List.append_assoc]
      rfl

end

/-- **Objects are printed at their depth**: the text of an object, which is indented again and again
while it grows, is the one that is printed line by line. The text of an array is on one line and has
no mark of strictness, at whatever depth it is printed. -/
theorem emitField_eq_printAt (strict : Bool) (members : List (String × Sample)) :
    (Sample.obj members).emitField strict = (Sample.obj members).printAt strict 0 ∧
      ∀ (depth : Nat) (items : List Sample),
        (Sample.arr items).printAt strict depth = (Sample.arr items).infer.render ∧
          '\n' ∉ ((Sample.arr items).printAt strict depth).toList ∧
          ¬ ".strict()".toList <:+: ((Sample.arr items).printAt strict depth).toList := by
  constructor
  · rw [← String.toList_inj, toList_emitField, toList_printAt]
  · intro depth items
    have hchars : ((Sample.arr items).printAt strict depth).toList =
        (Sample.arr items).infer.chars := rfl
    refine ⟨rfl, ?_, ?_⟩
    · rw [hchars]
      exact Schema.not_mem_chars _ (by decide)
    · intro hmark
      rw [hchars] at hmark
      have hdot : '.' ∈ (Sample.arr items).infer.chars := hmark.subset (by decide)
      exact Schema.not_mem_chars _ (by decide) hdot

/-- A key with a line feed in it, and an array of objects. -/
example : (Sample.obj [("a", .obj [("b\n", .null)]), ("c", .arr [.obj [("d", .null)]])]).printAt
    true 0 =
    "object(\x7b\n  a: object(\x7b\n    b\n  : null()\n  \x7d).strict(),\n"
      ++ "  c: array(object(\x7b\x7d))\n\x7d).strict()" := by
  decide +kernel

end Rigor.Sample
