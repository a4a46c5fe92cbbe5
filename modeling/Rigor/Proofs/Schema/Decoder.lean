import Rigor.Proofs.Text.Listing

/-!
# Reading schema expressions back

`render` writes a schema on one line, with the same parentheses and the same `, ` at every depth.
The line can be read back: `decode` accepts a text exactly if some schema is rendered as it, and
finds this schema.

* `schemaAt_chars`: at the expression of a schema, whatever follows it, the reader takes this
  expression and no more. The induction is on the schema and its list of variants together, and the
  length of the text bounds the steps.
* `chars_of_schemaAt`: what the reader takes is the expression of what it finds.
* `chars_append_inj`: no expression begins another one, so an expression with more text after it
  falls into its two parts in one way only.
* `decode_eq_some_iff`, `render_recoverable`: the main statements.

The schemas without parts are few and their expressions are told apart by a table, `leaves`.
-/

namespace Rigor.Schema

open Text (separator listing listing_map listing_length_pos toList_unionText)

/-! ### The characters of an expression -/

/-- The characters of the expression of a schema. -/
def chars (schema : Schema) : List Char :=
  schema.render.toList

/-- The characters of an array are those of its element in parentheses. -/
theorem chars_array (element : Schema) :
    (Schema.array element).chars = "array(".toList ++ (element.chars ++ [')']) := by
  simp [chars, render]

/-- Variants are rendered one by one. -/
theorem renderAll_eq_map (schemas : List Schema) : renderAll schemas = schemas.map render := by
  induction schemas with
  | nil => rfl
  | cons schema rest ih => rw [renderAll, ih, List.map_cons]

/-- The characters of a union are those of its variants, listed. -/
theorem chars_union (variants : List Schema) :
    (Schema.union variants).chars = "union(".toList ++ listing chars true variants := by
  rw [chars, render, toList_unionText, renderAll_eq_map, listing_map]
  rfl

/-- An expression begins with the word for the kind of its schema and a parenthesis. -/
theorem exists_chars_eq_kind (schema : Schema) :
    ∃ rest, schema.chars = schema.kind.toList ++ '(' :: rest := by
  cases schema with
  | string format => cases format <;> exact ⟨_, rfl⟩
  | number integral => cases integral <;> exact ⟨_, rfl⟩
  | array element => exact ⟨element.chars ++ [')'], by simp [chars_array, kind]⟩
  | union variants => exact ⟨listing chars true variants, by simp [chars_union, kind]⟩
  | _ => exact ⟨_, rfl⟩

/-- No schema is rendered as nothing. -/
theorem chars_length_pos (schema : Schema) : 0 < schema.chars.length := by
  obtain ⟨rest, hrest⟩ := exists_chars_eq_kind schema
  rw [hrest, List.length_append, List.length_cons]
  omega

/-- What stands before the first occurrence of a character is determined. -/
theorem append_cons_inj_left {c : Char} {ks ls cs ds : List Char} (hks : c ∉ ks) (hls : c ∉ ls)
    (h : ks ++ c :: cs = ls ++ c :: ds) : ks = ls := by
  have htake : ∀ js es : List Char, c ∉ js → (js ++ c :: es).takeWhile (· != c) = js := by
    intro js es hjs
    rw [List.takeWhile_append_of_pos fun a ha => bne_iff_ne.mpr (ne_of_mem_of_not_mem ha hjs),
      List.takeWhile_cons_of_neg (by simp), List.append_nil]
  rw [← htake ks cs hks, h, htake ls ds hls]

/-- A text that begins with an expression and with a word before a parenthesis tells the kind. -/
theorem kind_eq_of_chars {schema : Schema} {word : String} {u v : List Char}
    (hword : '(' ∉ word.toList) (h : schema.chars ++ u = word.toList ++ '(' :: v) :
    schema.kind = word := by
  have hkind : '(' ∉ schema.kind.toList := by cases schema <;> simp [kind]
  obtain ⟨rest, hrest⟩ := exists_chars_eq_kind schema
  rw [hrest, List.append_assoc] at h
  exact String.toList_inj.mp (append_cons_inj_left hkind hword h)

/-- A character that expressions are written with. -/
def isExpressionChar (c : Char) : Bool :=
  c.isLower || ['(', ')', '{', '}', '=', ',', ' '].contains c

mutual

/-- A schema is rendered in the characters of expressions only. -/
theorem all_chars : ∀ schema : Schema, schema.chars.all isExpressionChar = true
  | .array element => by
      rw [chars_array, List.all_append, List.all_append, all_chars element]
      decide
  | .union variants => by
      rw [chars_union, List.all_append, all_listing_chars true variants]
      decide
  | .string format => by cases format <;> decide
  | .number integral => by cases integral <;> decide
  | .null => by decide
  | .undefined => by decide
  | .unknown => by decide
  | .boolean => by decide
  | .object => by decide

/-- So are its variants, listed. -/
theorem all_listing_chars : ∀ (first : Bool) (variants : List Schema),
    (listing chars first variants).all isExpressionChar = true
  | _, [] => rfl
  | first, schema :: variants => by
      rw [listing, List.all_append, List.all_append, all_chars schema,
        all_listing_chars false variants]
      cases first <;> decide

end

/-- No expression has a line feed, a full stop or a colon in it. -/
theorem not_mem_chars (schema : Schema) {c : Char} (h : isExpressionChar c = false) :
    c ∉ schema.chars := by
  intro hc
  have := List.all_eq_true.mp (all_chars schema) c hc
  rw [h] at this
  cases this

/-! ### The reader -/

/-- What follows `word` in a text that begins with it. -/
def after? : List Char → List Char → Option (List Char)
  | [], cs => some cs
  | _ :: _, [] => none
  | w :: word, c :: cs => if w = c then after? word cs else none

/-- What follows a word is found just if the text begins with the word. -/
theorem after?_eq_some_iff {word cs rest : List Char} :
    after? word cs = some rest ↔ cs = word ++ rest := by
  induction word generalizing cs with
  | nil => simp [after?]
  | cons w word ih =>
      cases cs with
      | nil => simp [after?]
      | cons c cs =>
          by_cases h : w = c
          · simp [after?, h, ih]
          · simp [after?, h, Ne.symm h]

@[simp] theorem after?_append (word rest : List Char) : after? word (word ++ rest) = some rest :=
  after?_eq_some_iff.mpr rfl

/-- The schemas without parts. -/
def leaves : List Schema :=
  [.null, .undefined, .unknown, .boolean, .object, .number true, .number false]
    ++ Format.all.map .string

/-- The schema without parts at the start of a text, and what follows it. -/
def leafAt? (cs : List Char) : Option (Schema × List Char) :=
  leaves.findSome? fun schema => (after? schema.chars cs).map fun rest => (schema, rest)

mutual

/-- The schema at the start of a text, and what follows it. Each level of an expression takes one
step. -/
def schemaAt : Nat → List Char → Option (Schema × List Char)
  | 0, _ => none
  | steps + 1, cs =>
    match after? "array(".toList cs, after? "union(".toList cs with
    | some cs, _ => do
      let (element, cs) ← schemaAt steps cs
      let cs ← after? [')'] cs
      return (.array element, cs)
    | none, some cs => do
      let (variants, cs) ← variantsAt steps true cs
      return (.union variants, cs)
    | none, none => leafAt? cs

/-- The variants up to the parenthesis that closes their union, and what follows it. -/
def variantsAt : Nat → Bool → List Char → Option (List Schema × List Char)
  | 0, _, _ => none
  | steps + 1, first, cs =>
    match after? [')'] cs with
    | some cs => some ([], cs)
    | none => do
      let cs ← after? (separator first) cs
      let (schema, cs) ← schemaAt steps cs
      let (variants, cs) ← variantsAt steps false cs
      return (schema :: variants, cs)

end

/-- The schema whose expression the text is. -/
def decode (text : String) : Option Schema :=
  match schemaAt text.toList.length text.toList with
  | some (schema, []) => some schema
  | _ => none

/-! ### Every expression is read -/

/-- The expression of a schema without parts begins neither like an array nor like a union, and the
table finds it. -/
theorem leafAt?_chars {schema : Schema} (h : schema ∈ leaves) (rest : List Char) :
    after? "array(".toList (schema.chars ++ rest) = none ∧
      after? "union(".toList (schema.chars ++ rest) = none ∧
      leafAt? (schema.chars ++ rest) = some (schema, rest) := by
  simp only [leaves, Format.all, List.map_cons, List.map_nil, List.cons_append, List.nil_append,
    List.mem_cons, List.not_mem_nil, or_false] at h
  rcases h with rfl | rfl | rfl | rfl | rfl | rfl | rfl | rfl | rfl | rfl | rfl | rfl <;>
    exact ⟨rfl, rfl, rfl⟩

/-- A schema without parts is decoded, and what follows it is left. -/
theorem schemaAt_leaf {schema : Schema} (h : schema ∈ leaves) {steps : Nat}
    (hsteps : schema.chars.length ≤ steps) (rest : List Char) :
    schemaAt steps (schema.chars ++ rest) = some (schema, rest) := by
  have hpos := chars_length_pos schema
  obtain ⟨steps, rfl⟩ := Nat.exists_eq_add_one_of_ne_zero (by omega : steps ≠ 0)
  obtain ⟨harray, hunion, hleaf⟩ := leafAt?_chars h rest
  rw [schemaAt, harray, hunion]
  exact hleaf

/-- Every text schema is one without parts. -/
theorem string_mem_leaves (format : Format) : .string format ∈ leaves := by
  cases format <;> simp [leaves, Format.all]

/-- Both number schemas are without parts. -/
theorem number_mem_leaves (integral : Bool) : .number integral ∈ leaves := by
  cases integral <;> simp [leaves]

/-- A union does not begin as an array does. -/
theorem after?_array_union (variants : List Schema) (rest : List Char) :
    after? "array(".toList ("union(".toList ++ (listing chars true variants ++ rest)) = none := rfl

/-- No expression begins with the parenthesis that closes a union. -/
theorem after?_close_variant (first : Bool) (schema : Schema) (rest : List Char) :
    after? [')'] (separator first ++ (schema.chars ++ rest)) = none := by
  cases first with
  | false => rfl
  | true =>
      cases schema with
      | string format => cases format <;> rfl
      | number integral => cases integral <;> rfl
      | array element => rw [chars_array]; rfl
      | union variants => rw [chars_union]; rfl
      | _ => rfl

mutual

/-- At the expression of a schema the reader takes this expression, whatever follows it. -/
theorem schemaAt_chars : ∀ (schema : Schema) (steps : Nat) (rest : List Char),
    schema.chars.length ≤ steps → schemaAt steps (schema.chars ++ rest) = some (schema, rest)
  | .array element, steps, rest, h => by
      have hword : "array(".toList.length = 6 := rfl
      rw [chars_array, List.length_append, List.length_append, hword, List.length_singleton] at h
      obtain ⟨steps, rfl⟩ := Nat.exists_eq_add_one_of_ne_zero (by omega : steps ≠ 0)
      have helement := schemaAt_chars element steps ([')'] ++ rest) (by omega)
      rw [chars_array, schemaAt, List.append_assoc, List.append_assoc, after?_append]
      simp only [helement, Option.bind_eq_bind, Option.bind_some, after?_append]
      rfl
  | .union variants, steps, rest, h => by
      have hword : "union(".toList.length = 6 := rfl
      rw [chars_union, List.length_append, hword] at h
      obtain ⟨steps, rfl⟩ := Nat.exists_eq_add_one_of_ne_zero (by omega : steps ≠ 0)
      have hvariants := variantsAt_chars variants steps true rest (by omega)
      rw [chars_union, schemaAt, List.append_assoc, after?_array_union, after?_append]
      simp only [hvariants, Option.bind_eq_bind, Option.bind_some]
      rfl
  | .null, _, rest, h => schemaAt_leaf (by simp [leaves]) h rest
  | .undefined, _, rest, h => schemaAt_leaf (by simp [leaves]) h rest
  | .unknown, _, rest, h => schemaAt_leaf (by simp [leaves]) h rest
  | .boolean, _, rest, h => schemaAt_leaf (by simp [leaves]) h rest
  | .object, _, rest, h => schemaAt_leaf (by simp [leaves]) h rest
  | .string format, _, rest, h => schemaAt_leaf (string_mem_leaves format) h rest
  | .number integral, _, rest, h => schemaAt_leaf (number_mem_leaves integral) h rest

/-- The variants of a union are decoded, and what follows them is left. -/
theorem variantsAt_chars : ∀ (variants : List Schema) (steps : Nat) (first : Bool)
    (rest : List Char), (listing chars first variants).length ≤ steps →
      variantsAt steps first (listing chars first variants ++ rest) = some (variants, rest)
  | [], steps, first, rest, h => by
      have hpos := listing_length_pos chars first ([] : List Schema)
      obtain ⟨steps, rfl⟩ := Nat.exists_eq_add_one_of_ne_zero (by omega : steps ≠ 0)
      rw [variantsAt, listing, after?_append]
  | schema :: variants, steps, first, rest, h => by
      have hschema := chars_length_pos schema
      have hpos := listing_length_pos chars false variants
      simp only [listing, List.length_append] at h
      obtain ⟨steps, rfl⟩ := Nat.exists_eq_add_one_of_ne_zero (by omega : steps ≠ 0)
      have hfirst := schemaAt_chars schema steps (listing chars false variants ++ rest) (by omega)
      have hrest := variantsAt_chars variants steps false rest (by omega)
      rw [variantsAt, listing, List.append_assoc, List.append_assoc, after?_close_variant]
      simp only [after?_append, hfirst, hrest, Option.bind_eq_bind, Option.bind_some]
      rfl

end

/-! ### Only expressions are read -/

/-- What was decoded as a schema without parts are its characters. -/
theorem chars_of_leafAt? {cs rest : List Char} {schema : Schema}
    (h : leafAt? cs = some (schema, rest)) : cs = schema.chars ++ rest := by
  obtain ⟨leaf, -, hleaf⟩ := List.exists_of_findSome?_eq_some h
  obtain ⟨tail, htail, heq⟩ := Option.map_eq_some_iff.mp hleaf
  cases heq
  exact after?_eq_some_iff.mp htail

mutual

/-- What the reader takes is the expression of the schema it finds. -/
theorem chars_of_schemaAt : ∀ {steps : Nat} {cs rest : List Char} {schema : Schema},
    schemaAt steps cs = some (schema, rest) → cs = schema.chars ++ rest
  | 0, _, _, _, h => by cases h
  | steps + 1, cs, rest, schema, h => by
      rw [schemaAt] at h
      split at h
      next _ _ tail harray =>
        obtain ⟨⟨element, tail'⟩, helement, h⟩ := Option.bind_eq_some_iff.mp h
        obtain ⟨tail'', hclose, h⟩ := Option.bind_eq_some_iff.mp h
        cases h
        rw [after?_eq_some_iff.mp harray, chars_of_schemaAt helement,
          after?_eq_some_iff.mp hclose, chars_array]
        simp only [List.append_assoc]
      next _ _ tail _ hunion =>
        obtain ⟨⟨variants, tail'⟩, hvariants, h⟩ := Option.bind_eq_some_iff.mp h
        cases h
        rw [after?_eq_some_iff.mp hunion, chars_of_variantsAt hvariants, chars_union,
          List.append_assoc]
      next => exact chars_of_leafAt? h

/-- What was decoded as variants are their characters, listed. -/
theorem chars_of_variantsAt : ∀ {steps : Nat} {first : Bool} {cs rest : List Char}
    {variants : List Schema},
    variantsAt steps first cs = some (variants, rest) → cs = listing chars first variants ++ rest
  | 0, _, _, _, _, h => by cases h
  | steps + 1, first, cs, rest, variants, h => by
      rw [variantsAt] at h
      split at h
      next tail hclose =>
        cases h
        exact after?_eq_some_iff.mp hclose
      next =>
        obtain ⟨tail, hseparator, h⟩ := Option.bind_eq_some_iff.mp h
        obtain ⟨⟨schema, tail'⟩, hschema, h⟩ := Option.bind_eq_some_iff.mp h
        obtain ⟨⟨more, tail''⟩, hmore, h⟩ := Option.bind_eq_some_iff.mp h
        cases h
        rw [after?_eq_some_iff.mp hseparator, chars_of_schemaAt hschema,
          chars_of_variantsAt hmore, listing]
        simp only [List.append_assoc]

end

/-! ### The text determines the schema -/

/-- An expression with more text after it falls into the two in one way only. -/
theorem chars_append_inj {a b : Schema} {u v : List Char} (h : a.chars ++ u = b.chars ++ v) :
    a = b ∧ u = v := by
  have ha := schemaAt_chars a (a.chars.length + b.chars.length) u (by omega)
  have hb := schemaAt_chars b (a.chars.length + b.chars.length) v (by omega)
  rw [h, hb] at ha
  cases ha
  exact ⟨rfl, rfl⟩

/-- Different schemas have different characters. -/
theorem chars_inj {a b : Schema} : a.chars = b.chars ↔ a = b := by
  refine ⟨fun h => ?_, fun h => h ▸ rfl⟩
  have h' : a.chars ++ [] = b.chars ++ [] := by rw [h]
  exact (chars_append_inj h').1

/-- Different schemas are rendered differently. -/
theorem render_inj {a b : Schema} : a.render = b.render ↔ a = b := by
  rw [← chars_inj, chars, chars, String.toList_inj]

/-- A text is decoded as a schema just if it is what the schema is rendered as. -/
theorem decode_eq_some_iff {text : String} {schema : Schema} :
    decode text = some schema ↔ schema.render = text := by
  constructor
  · intro h
    unfold decode at h
    split at h
    next found hread =>
      cases h
      have htext := chars_of_schemaAt hread
      rw [List.append_nil, chars, String.toList_inj] at htext
      exact htext.symm
    next => cases h
  · rintro rfl
    have hread := schemaAt_chars schema schema.chars.length [] (Nat.le_refl _)
    rw [List.append_nil] at hread
    unfold decode
    rw [show schema.render.toList = schema.chars from rfl, hread]

/-- **Expressions can be read back**: schemas of the same expression are equal, and the reader
accepts exactly the expressions and finds the schema of each. -/
theorem render_recoverable :
    Function.Injective render ∧
      ∀ (text : String) (schema : Schema), decode text = some schema ↔ schema.render = text :=
  ⟨fun _ _ h => render_inj.mp h, fun _ _ => decode_eq_some_iff⟩

end Rigor.Schema
