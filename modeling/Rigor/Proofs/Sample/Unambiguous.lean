import Rigor.Proofs.Sample.Shape
import Rigor.Proofs.Schema.Distinct

/-!
# Emission is unambiguous

A key stands in an expression as it is, without quotes or escapes, and may have any of the
characters in it that expressions are written with. Still the expression of a sample determines its
outline, as long as no key that is spelled out has a line feed in it.

* `label_append_inj`: a key ends at the last colon of its line, because what follows a key on its
  line has no colon (`plain_print`).
* `print_append_inj`: no printed shape begins another one at the same depth. The induction is on the
  first shape and its fields together. After a field a comma goes on to the next one and a line feed
  to the end of the object, so the spaces in front of a line need not be counted.
* `Outline.print_inj`: the same for whole samples, where the items of an array are a listing.
* `emit_eq_iff_outline_eq`: the main statement. The items of an array are merged by their texts, and
  the texts tell the shapes of the items apart.
-/

namespace Rigor

namespace Shape

open Schema (chars)

/-! ### The end of a key -/

/-- No colon comes before the first line feed. -/
def Plain (cs : List Char) : Prop :=
  ∀ before after, cs = before ++ ':' :: after → '\n' ∈ before

/-- No colon comes before a line feed in front. -/
theorem plain_newline (cs : List Char) : Plain ('\n' :: cs) := by
  intro before after h
  cases before with
  | nil => simp at h
  | cons c before =>
      obtain ⟨rfl, -⟩ := List.cons.inj h
      exact List.mem_cons_self

/-- Characters other than colons in front put none before the first line feed. -/
theorem plain_append {cs ds : List Char} (hcs : ':' ∉ cs) (hds : Plain ds) : Plain (cs ++ ds) := by
  induction cs with
  | nil => exact hds
  | cons c cs ih =>
      rw [List.mem_cons, not_or] at hcs
      obtain ⟨hc, hrest⟩ := hcs
      intro before after h
      cases before with
      | nil => exact absurd (List.cons.inj h).1.symm hc
      | cons d before =>
          obtain ⟨-, htail⟩ := List.cons.inj h
          exact List.mem_cons_of_mem _ (ih hrest before after htail)

/-- A longer key would have the colon of the other one and the rest of its line in it. -/
theorem longer_eq_nil {key part more cs ds : List Char} (hkey : '\n' ∉ key)
    (hmore : key = part ++ more) (hcs : Plain cs) (h : ':' :: cs = more ++ ':' :: ds) :
    more = [] := by
  cases more with
  | nil => rfl
  | cons c more =>
      obtain ⟨-, htail⟩ := List.cons.inj h
      have hbreak : '\n' ∈ more := hcs more ds htail
      subst hmore
      exact absurd (List.mem_append_right _ (List.mem_cons_of_mem _ hbreak)) hkey

/-- A key ends at the last colon of its line. -/
theorem label_append_inj {k l cs ds : List Char} (hk : '\n' ∉ k) (hl : '\n' ∉ l)
    (hcs : Plain cs) (hds : Plain ds) (h : k ++ ':' :: cs = l ++ ':' :: ds) :
    k = l ∧ cs = ds := by
  rcases List.append_eq_append_iff.mp h with ⟨more, hmore, heq⟩ | ⟨more, hmore, heq⟩
  · obtain rfl := longer_eq_nil hl hmore hcs heq
    rw [List.append_nil] at hmore
    exact ⟨hmore.symm, (List.cons.inj heq).2⟩
  · obtain rfl := longer_eq_nil hk hmore hds heq
    rw [List.append_nil] at hmore
    exact ⟨hmore, (List.cons.inj heq).2.symm⟩

/-- After a field there is a line feed before the next colon. -/
theorem plain_printMembers (strict : Bool) (depth : Nat) (members : List (String × Shape))
    (cs : List Char) : Plain (printMembers strict depth false members ++ cs) := by
  cases members with
  | nil => exact plain_newline _
  | cons member rest =>
      obtain ⟨key, value⟩ := member
      have hcomma : ':' ∉ comma false := by decide
      rw [printMembers, List.append_assoc]
      exact plain_append hcomma (plain_newline _)

/-- There is no colon on the first line of a shape. -/
theorem plain_print (strict : Bool) (depth : Nat) (shape : Shape) {cs : List Char}
    (hcs : Plain cs) : Plain (print strict depth shape ++ cs) := by
  cases shape with
  | leaf schema => exact plain_append (schema.not_mem_chars (by decide)) hcs
  | fields members =>
      have hopening : ':' ∉ opening := by decide
      rw [print, List.append_assoc, List.append_assoc]
      refine plain_append hopening ?_
      cases members with
      | nil =>
          have hclosing : ':' ∉ closing ++ strictMark strict := by cases strict <;> decide
          rw [printMembers, if_pos rfl, List.nil_append]
          exact plain_append hclosing hcs
      | cons member rest => exact plain_newline _

/-! ### Printed shapes -/

mutual

/-- A shape whose expression can be taken apart: no key has a line feed in it, and no leaf is taken
for an object. -/
def Legible : Shape → Prop
  | .leaf schema => schema ≠ .object
  | .fields members => LegibleMembers members

/-- The same for each field. -/
def LegibleMembers : List (String × Shape) → Prop
  | [] => True
  | (key, value) :: rest => '\n' ∉ key.toList ∧ Legible value ∧ LegibleMembers rest

end

/-- The text of a schema does not begin as an object that is spelled out does. -/
theorem chars_ne_opening {schema : Schema} (h : schema ≠ .object) (u v : List Char) :
    schema.chars ++ u ≠ opening ++ v := by
  intro heq
  have hkind : schema.kind = "object" := Schema.kind_eq_of_chars (by decide) heq
  cases schema with
  | object => exact h rfl
  | _ => simp [Schema.kind] at hkind

mutual

/-- No printed shape begins another one at the same depth. -/
theorem print_append_inj (strict : Bool) : ∀ (depth : Nat) (a b : Shape) (u v : List Char),
    a.Legible → b.Legible → print strict depth a ++ u = print strict depth b ++ v → a = b ∧ u = v
  | _, .leaf a, .leaf b, u, v, _, _, h => by
      obtain ⟨rfl, huv⟩ := Schema.chars_append_inj (u := u) (v := v) h
      exact ⟨rfl, huv⟩
  | _, .leaf a, .fields members, u, v, ha, _, h => by
      rw [print, print, List.append_assoc] at h
      exact absurd h (chars_ne_opening ha _ _)
  | _, .fields members, .leaf b, u, v, _, hb, h => by
      rw [print, print, List.append_assoc] at h
      exact absurd h.symm (chars_ne_opening hb _ _)
  | depth, .fields as, .fields bs, u, v, ha, hb, h => by
      rw [print, print] at h
      simp only [List.append_assoc, List.append_cancel_left_eq] at h
      obtain ⟨rfl, hclose⟩ := printMembers_append_inj strict depth true as bs _ _ ha hb h
      exact ⟨rfl, List.append_cancel_left hclose⟩

/-- The fields of an object, and what follows them, can be read off the text. -/
theorem printMembers_append_inj (strict : Bool) : ∀ (depth : Nat) (first : Bool)
    (as bs : List (String × Shape)) (u v : List Char), LegibleMembers as → LegibleMembers bs →
      printMembers strict depth first as ++ (closing ++ u) =
        printMembers strict depth first bs ++ (closing ++ v) → as = bs ∧ u = v
  | depth, first, [], [], u, v, _, _, h => by
      rw [List.append_cancel_left_eq, List.append_cancel_left_eq] at h
      exact ⟨rfl, h⟩
  | depth, first, [], (l, b) :: bs, u, v, _, _, h => by
      cases first <;> simp [printMembers, comma, lineStart, closing] at h
  | depth, first, (k, a) :: as, [], u, v, _, _, h => by
      cases first <;> simp [printMembers, comma, lineStart, closing] at h
  | depth, first, (k, a) :: as, (l, b) :: bs, u, v, ha, hb, h => by
      obtain ⟨hk, ha, has⟩ := ha
      obtain ⟨hl, hb, hbs⟩ := hb
      rw [printMembers, printMembers, indentBy_of_not_mem hk, indentBy_of_not_mem hl] at h
      simp only [List.append_assoc, List.append_cancel_left_eq] at h
      -- after the colon of either key, the rest of its line is plain
      have hplain : ∀ (shape : Shape) (members : List (String × Shape)) (w : List Char),
          Plain (' ' :: (print strict (depth + 1) shape ++
            (printMembers strict depth false members ++ w))) := by
        intro shape members w
        have hspace : ':' ∉ [' '] := by decide
        exact plain_append hspace
          (plain_print strict _ shape (plain_printMembers strict depth members w))
      obtain ⟨hkey, hvalue⟩ := label_append_inj hk hl (hplain a as _) (hplain b bs _) h
      obtain ⟨rfl, hrest⟩ :=
        print_append_inj strict (depth + 1) a b _ _ ha hb (List.cons.inj hvalue).2
      obtain ⟨rfl, huv⟩ := printMembers_append_inj strict depth false as bs u v has hbs hrest
      rw [String.toList_inj] at hkey
      exact ⟨by rw [hkey], huv⟩

end

/-- The expression of a shape at depth zero. -/
def text (strict : Bool) (shape : Shape) : String :=
  String.ofList (print strict 0 shape)

/-- The characters of a shape are those printed at depth zero. -/
theorem toList_text (strict : Bool) (shape : Shape) :
    (text strict shape).toList = print strict 0 shape :=
  String.toList_ofList

/-- Legible shapes are equal just if their texts are. -/
theorem text_inj {strict : Bool} {a b : Shape} (ha : a.Legible) (hb : b.Legible) :
    text strict a = text strict b ↔ a = b := by
  constructor
  · intro h
    have hprint : print strict 0 a ++ [] = print strict 0 b ++ [] := by
      rw [← toList_text, ← toList_text, h]
    exact (print_append_inj strict 0 a b [] [] ha hb hprint).1
  · rintro rfl
    rfl

end Shape

/-- What of a sample its whole expression depends on. -/
inductive Outline where
  /-- The shape of a sample that is no array. -/
  | single (shape : Shape)
  /-- The shapes of the items of an array. -/
  | items (shapes : List Shape)
  deriving DecidableEq, Inhabited

namespace Outline

open Shape (text toList_text)
open Text (listing Separable)

/-- The expression of an outline. -/
def print (strict : Bool) : Outline → String
  | .single shape => text strict shape
  | .items shapes => Sample.arrayText (shapes.map (text strict))

/-- An outline that a sample has and whose expression can be taken apart. An array has at least one
item to its outline, and no item is a union. -/
def Legible : Outline → Prop
  | .single shape => shape.Legible ∧ ∀ element, shape ≠ .leaf (.array element)
  | .items shapes => shapes ≠ [] ∧
      ∀ shape ∈ shapes, shape.Legible ∧ ∀ variants, shape ≠ .leaf (.union variants)

/-- Only objects begin with the word for objects, so a shape that begins with another word is a leaf
of this kind. -/
theorem exists_leaf_of_print {strict : Bool} {shape : Shape} {u v : List Char} (word : String)
    (hword : '(' ∉ word.toList) (hobject : "object" ≠ word)
    (h : shape.print strict 0 ++ u = word.toList ++ '(' :: v) :
    ∃ schema, shape = .leaf schema ∧ schema.kind = word := by
  cases shape with
  | leaf schema => exact ⟨schema, rfl, Schema.kind_eq_of_chars hword h⟩
  | fields members =>
      have hparen : '(' ∉ "object".toList := by decide
      exact absurd (String.toList_inj.mp (Schema.append_cons_inj_left hparen hword h)) hobject

/-- Only the schema of an array is printed with the word for arrays in front. -/
theorem eq_array_of_print {strict : Bool} {shape : Shape} {u v : List Char}
    (h : shape.print strict 0 ++ u = "array(".toList ++ v) :
    ∃ element, shape = .leaf (.array element) := by
  obtain ⟨schema, rfl, hkind⟩ := exists_leaf_of_print "array" (by decide) (by decide) h
  cases schema with
  | array element => exact ⟨element, rfl⟩
  | _ => simp [Schema.kind] at hkind

/-- Only a union is printed with the word for unions in front. -/
theorem eq_union_of_print {strict : Bool} {shape : Shape} {u v : List Char}
    (h : shape.print strict 0 ++ u = "union(".toList ++ v) :
    ∃ variants, shape = .leaf (.union variants) := by
  obtain ⟨schema, rfl, hkind⟩ := exists_leaf_of_print "union" (by decide) (by decide) h
  cases schema with
  | union variants => exact ⟨variants, rfl⟩
  | _ => simp [Schema.kind] at hkind

/-- Legible shapes, each followed by something, can be told apart by their text. -/
theorem separable_print (strict : Bool) : Separable (Shape.print strict 0) Shape.Legible :=
  fun a b u v ha hb h => Shape.print_append_inj strict 0 a b u v ha hb h

/-- The characters of an array whose items have one shape. -/
theorem toList_arrayText_singleton (strict : Bool) (shape : Shape) :
    (Sample.arrayText [text strict shape]).toList =
      "array(".toList ++ (shape.print strict 0 ++ [')']) := by
  simp only [Sample.arrayText, String.toList_append, toList_text, List.append_assoc]
  rfl

/-- The characters of an array whose items have several shapes, which are listed as a union. -/
theorem toList_arrayText_cons_cons (strict : Bool) (a b : Shape) (rest : List Shape) :
    (Sample.arrayText ((a :: b :: rest).map (text strict))).toList =
      "array(".toList ++ ("union(".toList ++
        (listing (Shape.print strict 0) true (a :: b :: rest) ++ [')'])) := by
  have hlisting : listing String.toList true ((a :: b :: rest).map (text strict)) =
      listing (Shape.print strict 0) true (a :: b :: rest) := by
    rw [Text.listing_map]
    simp only [toList_text]
  rw [← hlisting]
  simp only [List.map_cons, Sample.arrayText, String.toList_append, Text.toList_unionText,
    List.append_assoc]
  rfl

/-- The text of an array begins with the word for arrays. -/
theorem exists_toList_arrayText {shapes : List Shape} (h : shapes ≠ []) (strict : Bool) :
    ∃ rest, (Sample.arrayText (shapes.map (text strict))).toList = "array(".toList ++ rest := by
  rcases shapes with _ | ⟨a, _ | ⟨b, rest⟩⟩
  · exact absurd rfl h
  · exact ⟨_, toList_arrayText_singleton strict a⟩
  · exact ⟨_, toList_arrayText_cons_cons strict a b rest⟩

/-- The outline of a single shape is not printed as that of the items of an array. -/
theorem single_ne_items {strict : Bool} {shape : Shape} {shapes : List Shape}
    (hshape : (single shape).Legible) (hshapes : (items shapes).Legible) :
    (single shape).print strict ≠ (items shapes).print strict := by
  intro h
  obtain ⟨rest, hrest⟩ := exists_toList_arrayText hshapes.1 strict
  rw [print, print] at h
  rw [← h, toList_text, ← List.append_nil (Shape.print strict 0 shape)] at hrest
  obtain ⟨element, helement⟩ := eq_array_of_print hrest
  exact hshape.2 element helement

/-- One item is not taken for several. -/
theorem singleton_ne_cons_cons {strict : Bool} {a b c : Shape} {rest : List Shape}
    (ha : ∀ variants, a ≠ .leaf (.union variants)) :
    Sample.arrayText [text strict a] ≠
      Sample.arrayText ((b :: c :: rest).map (text strict)) := by
  intro h
  have htext := congrArg String.toList h
  rw [toList_arrayText_singleton, toList_arrayText_cons_cons, List.append_cancel_left_eq] at htext
  obtain ⟨variants, hvariants⟩ := eq_union_of_print htext
  exact ha variants hvariants

/-- The shapes of the items of an array can be read off its text. -/
theorem items_inj {strict : Bool} {as bs : List Shape} (has : (items as).Legible)
    (hbs : (items bs).Legible) (h : (items as).print strict = (items bs).print strict) :
    as = bs := by
  obtain ⟨has, ha⟩ := has
  obtain ⟨hbs, hb⟩ := hbs
  rw [print, print] at h
  rcases as with _ | ⟨a, _ | ⟨a', as⟩⟩
  · exact absurd rfl has
  · rcases bs with _ | ⟨b, _ | ⟨b', bs⟩⟩
    · exact absurd rfl hbs
    · have htext := congrArg String.toList h
      rw [List.map_singleton, List.map_singleton, toList_arrayText_singleton,
        toList_arrayText_singleton, List.append_cancel_left_eq] at htext
      obtain ⟨rfl, -⟩ := separable_print strict a b _ _ (ha a List.mem_cons_self).1
        (hb b List.mem_cons_self).1 htext
      rfl
    · exact absurd h (singleton_ne_cons_cons (ha a List.mem_cons_self).2)
  · rcases bs with _ | ⟨b, _ | ⟨b', bs⟩⟩
    · exact absurd rfl hbs
    · exact absurd h.symm (singleton_ne_cons_cons (hb b List.mem_cons_self).2)
    · have htext := congrArg String.toList h
      rw [toList_arrayText_cons_cons, toList_arrayText_cons_cons, List.append_cancel_left_eq,
        List.append_cancel_left_eq] at htext
      exact (Text.listing_append_inj (separable_print strict) (fun c hc => (ha c hc).1)
        (fun c hc => (hb c hc).1) htext).1

/-- Outlines of one expression are equal. -/
theorem print_inj {strict : Bool} {a b : Outline} (ha : a.Legible) (hb : b.Legible)
    (h : a.print strict = b.print strict) : a = b := by
  cases a with
  | single a =>
      cases b with
      | single b => rw [(Shape.text_inj ha.1 hb.1).mp h]
      | items bs => exact absurd h (single_ne_items ha hb)
  | items as =>
      cases b with
      | single b => exact absurd h.symm (single_ne_items hb ha)
      | items bs => rw [items_inj ha hb h]

end Outline

namespace Sample

open Shape (text toList_text text_inj)
open Schema (distinct distinct_map)

/-! ### Outlines of samples -/

/-- What of a sample its whole expression depends on. An array without items counts as one of
unknown items. -/
def outline : Sample → Outline
  | .arr [] => .items [.leaf .unknown]
  | .arr items => .items (distinct (items.map shape))
  | sample => .single sample.shape

mutual

/-- The keys of an object and of the objects that are reached from it through fields. -/
def fieldKeys : Sample → List String
  | .obj members => memberKeys members
  | _ => []

/-- Each key with the keys below it. -/
def memberKeys : List (String × Sample) → List String
  | [] => []
  | (key, value) :: rest => key :: (fieldKeys value ++ memberKeys rest)

end

/-- The keys that are spelled out in the expression of a sample. -/
def spelledKeys : Sample → List String
  | .arr items => items.flatMap fieldKeys
  | sample => sample.fieldKeys

mutual

/-- The shape of a sample is legible if no key of its fields has a line feed. -/
theorem legible_shape : ∀ sample : Sample, (∀ key ∈ sample.fieldKeys, '\n' ∉ key.toList) →
    sample.shape.Legible
  | .obj members, h => legible_memberShapes members h
  | .null, _ => Schema.noConfusion
  | .undefined, _ => Schema.noConfusion
  | .bool _, _ => Schema.noConfusion
  | .int _, _ => Schema.noConfusion
  | .float _, _ => Schema.noConfusion
  | .str _, _ => Schema.noConfusion
  | .arr _, _ => Schema.noConfusion
  | .foreign, _ => Schema.noConfusion

/-- So are the shapes of the members of an object. -/
theorem legible_memberShapes : ∀ members : List (String × Sample),
    (∀ key ∈ memberKeys members, '\n' ∉ key.toList) → Shape.LegibleMembers (memberShapes members)
  | [], _ => trivial
  | (key, value) :: rest, h => by
      have hkey := h key List.mem_cons_self
      have hvalue := legible_shape value fun k hk =>
        h k (List.mem_cons_of_mem _ (List.mem_append_left _ hk))
      have hrest := legible_memberShapes rest fun k hk =>
        h k (List.mem_cons_of_mem _ (List.mem_append_right _ hk))
      exact ⟨hkey, hvalue, hrest⟩

end

/-- No sample has the shape of a union. -/
theorem shape_ne_union (sample : Sample) (variants : List Schema) :
    sample.shape ≠ .leaf (.union variants) := by
  cases sample <;> simp [shape, infer]

/-- The items of an array are legible if the array is. -/
theorem legible_item {items : List Sample}
    (h : ∀ key ∈ (Sample.arr items).spelledKeys, '\n' ∉ key.toList) {item : Sample}
    (hitem : item ∈ items) : item.shape.Legible :=
  legible_shape item fun key hkey => h key (List.mem_flatMap.mpr ⟨item, hitem, hkey⟩)

/-- The outline of a sample is legible if no key that is spelled out has a line feed. -/
theorem legible_outline (sample : Sample)
    (h : ∀ key ∈ sample.spelledKeys, '\n' ∉ key.toList) : sample.outline.Legible := by
  cases sample with
  | arr items =>
      cases items with
      | nil => simp [outline, Outline.Legible, Shape.Legible]
      | cons first rest =>
          refine ⟨?_, ?_⟩
          · rw [ne_eq, Schema.distinct_eq_nil]
            simp
          · intro shape hshape
            obtain ⟨item, hitem, rfl⟩ := List.mem_map.mp (Schema.mem_distinct.mp hshape)
            exact ⟨legible_item h hitem, shape_ne_union item⟩
  | obj members => exact ⟨legible_shape (.obj members) h, by simp [shape]⟩
  | _ => exact ⟨legible_shape _ h, by simp [shape, infer]⟩

/-- A field is emitted as the text of its shape. -/
theorem emitField_eq_text (strict : Bool) (sample : Sample) :
    sample.emitField strict = text strict sample.shape := by
  rw [← String.toList_inj, toList_emitField, toList_text]

/-- The distinct texts of the items of an array are the texts of their distinct shapes. -/
theorem elementTexts_eq_map (strict : Bool) {items : List Sample}
    (h : ∀ key ∈ (Sample.arr items).spelledKeys, '\n' ∉ key.toList) :
    elementTexts strict items = (distinct (items.map shape)).map (text strict) := by
  have hitems : items.map (emitField strict) = (items.map shape).map (text strict) := by
    rw [List.map_map]
    exact List.map_congr_left fun item _ => emitField_eq_text strict item
  rw [elementTexts, hitems]
  apply distinct_map
  intro a ha b hb hab
  obtain ⟨item, hitem, rfl⟩ := List.mem_map.mp ha
  obtain ⟨other, hother, rfl⟩ := List.mem_map.mp hb
  exact (text_inj (legible_item h hitem) (legible_item h hother)).mp hab

/-- A sample is emitted as its outline: the texts of the items of an array repeat where their shapes
do. -/
theorem emit_eq_print (strict : Bool) (sample : Sample)
    (h : ∀ key ∈ sample.spelledKeys, '\n' ∉ key.toList) :
    sample.emit strict = sample.outline.print strict := by
  cases sample with
  | arr items =>
      cases items with
      | nil => rfl
      | cons first rest =>
          rw [emit, elementTexts_eq_map strict h]
          rfl
  | _ => exact emitField_eq_text strict _

/-- **Emission is faithful to structure**: samples have one expression exactly if they have one
outline, provided that no key that is spelled out has a line feed in it. In particular the items of
an array have one text exactly if they have one shape. -/
theorem emit_eq_iff_outline_eq (strict : Bool) (v w : Sample)
    (hv : ∀ key ∈ v.spelledKeys, '\n' ∉ key.toList)
    (hw : ∀ key ∈ w.spelledKeys, '\n' ∉ key.toList) :
    (v.emit strict = w.emit strict ↔ v.outline = w.outline) ∧
      ∀ items, v = .arr items → ∀ a ∈ items, ∀ b ∈ items,
        (a.emitField strict = b.emitField strict ↔ a.shape = b.shape) := by
  refine ⟨⟨fun h => ?_, fun h => ?_⟩, ?_⟩
  · rw [emit_eq_print strict v hv, emit_eq_print strict w hw] at h
    exact Outline.print_inj (legible_outline v hv) (legible_outline w hw) h
  · rw [emit_eq_print strict v hv, emit_eq_print strict w hw, h]
  · rintro items rfl a ha b hb
    rw [emitField_eq_text, emitField_eq_text]
    exact text_inj (legible_item hv ha) (legible_item hv hb)

/-- A key that reads like the start of an object is told from an object under the shorter key. -/
theorem emit_ne_of_key_like_object :
    (∀ key ∈ (Sample.arr [.obj [("a", .obj [("b", .null)])], .null]).spelledKeys,
        '\n' ∉ key.toList) ∧
      (∀ key ∈ (Sample.arr [.obj [("a: object(\x7b", .null)], .null]).spelledKeys,
        '\n' ∉ key.toList) ∧
      (Sample.arr [.obj [("a", .obj [("b", .null)])], .null]).emit true ≠
        (Sample.arr [.obj [("a: object(\x7b", .null)], .null]).emit true := by
  have hv : ∀ key ∈ (Sample.arr [.obj [("a", .obj [("b", .null)])], .null]).spelledKeys,
      '\n' ∉ key.toList := by decide
  have hw : ∀ key ∈ (Sample.arr [.obj [("a: object(\x7b", .null)], .null]).spelledKeys,
      '\n' ∉ key.toList := by decide
  refine ⟨hv, hw, fun h => ?_⟩
  have houtline := (emit_eq_iff_outline_eq true _ _ hv hw).1.mp h
  revert houtline
  decide

end Sample

end Rigor
