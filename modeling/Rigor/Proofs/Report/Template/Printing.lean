import Rigor.Report.Template.Printer

/-!
# What printing comes to

Printing can move the cursors of the open loops and can fail. The parts of a template that read
values of the report and have loops without a cursor do neither: they *yield* a text (`Yields`). The
lemmas here follow the definition of printing, one for each way to go on.

* `yields_follow_member`, `yields_upper`, `yields_bullets`: the members of objects, and filters.
* `yields_resolve`: references, which are made of a name, a path and filters.
* `yields_text`, `yields_print`, `yields_loop`: the parts of a template, where a loop yields what
  its body yields for one element after the other.
-/

namespace Rigor.Report.Template.Printing

variable {α β : Type}

/-- The action succeeds with the answer and leaves the cursors alone. -/
def Yields (act : Printing α) (a : α) : Prop :=
  ∀ cursors, act.run cursors = .ok (a, cursors)

namespace Yields

/-- Returning a value yields it. -/
theorem pure (a : α) : Yields (Pure.pure a) a :=
  fun _ => rfl

/-- Two steps in a row yield what the second makes of what the first yields. -/
theorem bind {act : Printing α} {next : α → Printing β} {a : α} {b : β} (h : Yields act a)
    (hnext : Yields (next a) b) : Yields (act >>= next) b := by
  intro cursors
  rw [StateT.run_bind, h cursors]
  exact hnext cursors

end Yields

/-! ### Values -/

/-- A JSON value is printed in its plain form. -/
theorem yields_plain (value : Json) : Yields (plain (.data value)) value.plain :=
  fun _ => rfl

/-- A name under which an object of the report has nothing but a member of its own. -/
def IsOwn (name : String) : Prop :=
  name ∉ ["__class__", "__doc__", "__module__"] ∧ Kind.mapping.find? name = none

instance (name : String) : Decidable (IsOwn name) :=
  inferInstanceAs (Decidable (_ ∧ _))

/-- Under a name of its own, an object has the member of this name. -/
theorem ask_member {members : List (String × Json)} {name : String} {value : Json}
    (hown : IsOwn name) (hvalue : Table.get? members name = some value) :
    Value.ask (.data (.obj members)) name = .ok (.data value) := by
  obtain ⟨hfact, hkind⟩ := hown
  have hnofact : Value.fact? (.data (.obj members)) name = none := by
    unfold Value.fact?
    split <;> simp_all
  have hnomember : (Value.data (.obj members)).kindOf.find? name = none := hkind
  simp only [Value.ask, hnofact, hnomember, hvalue, Value.ofOption]

/-- Following no parts yields the value itself. -/
theorem yields_follow_nil (value : Value) : Yields (follow value []) value :=
  Yields.pure value

/-- Following a name of its own yields the member of an object. -/
theorem yields_follow_member {members : List (String × Json)} {name : String} {value : Json}
    (hown : IsOwn name) (hvalue : Table.get? members name = some value) :
    Yields (follow (.data (.obj members)) [.member name]) (.data value) := by
  have hpart : Yields (part (.data (.obj members)) (.member name)) (.data value) := by
    intro cursors
    show (liftM (Value.ask (.data (.obj members)) name) : Printing Value).run cursors = _
    rw [ask_member hown hvalue]
    rfl
  exact hpart.bind (yields_follow_nil _)

/-! ### Lists -/

section Lists

variable {print : Value → Printing String} {value : α → Json} {text : α → String} {items : List α}

/-- Printing each item yields the texts of the items in order. -/
theorem yields_eachItem (h : ∀ a ∈ items, Yields (print (.data (value a))) (text a)) :
    Yields (eachItem print (items.map fun a => .data (value a))) (items.map text) := by
  induction items with
  | nil => exact Yields.pure []
  | cons a rest ih =>
      have hrest := ih fun b hb => h b (List.mem_cons_of_mem a hb)
      exact (h a List.mem_cons_self).bind (hrest.bind (Yields.pure _))

/-- What is yielded for a list is what is yielded for its elements. -/
theorem yields_each (h : ∀ a ∈ items, Yields (print (.data (value a))) (text a)) :
    Yields (each (.data (.arr (items.map value))) print) (items.map text) := by
  have helements : (items.map value).map Value.data = items.map fun a => .data (value a) :=
    List.map_map
  have hitems : Yields (eachItem print ((items.map value).map .data)) (items.map text) := by
    rw [helements]
    exact yields_eachItem h
  exact fun cursors => hitems cursors

end Lists

/-! ### Filters -/

/-- Without filters a value stays as it is. -/
theorem yields_filterAll_nil (value : Value) : Yields (filterAll value []) value :=
  Yields.pure value

/-- The filter for capitals turns a text into capital letters. -/
theorem yields_upper (text : String) :
    Yields (filterAll (.ofText text) [.upper]) (.ofText (Text.toUpper text)) := by
  have hfilter : Yields (filter (.ofText text) .upper) (.ofText (Text.toUpper text)) :=
    (yields_plain (.str text)).bind (Yields.pure _)
  exact hfilter.bind (yields_filterAll_nil _)

/-- The filter for lists puts each text on a line after a bullet. -/
theorem yields_bullets (texts : List String) :
    Yields (filterAll (.data (.arr (texts.map .str))) [.bullets])
      (.ofText (Text.joinWith "\n" (texts.map fun text => "- " ++ text))) := by
  have htexts : Yields
      (each (.data (.arr (texts.map .str))) fun item => return "- " ++ (← plain item))
      (texts.map fun text => "- " ++ text) :=
    yields_each fun text _ => (yields_plain (.str text)).bind (Yields.pure _)
  have hfilter : Yields (filter (.data (.arr (texts.map .str))) .bullets)
      (.ofText (Text.joinWith "\n" (texts.map fun text => "- " ++ text))) :=
    htexts.bind (Yields.pure _)
  exact hfilter.bind (yields_filterAll_nil _)

/-! ### Parts of templates -/

variable {scope : Scope}

/-- A text of the template yields itself. -/
theorem yields_text (text : String) : Yields (node scope (.text text.toList)) text := by
  intro cursors
  show Except.ok (String.ofList text.toList, cursors) = _
  rw [String.ofList_toList]

/-- A reference to a name goes to its value, along the path, and through the filters. -/
theorem yields_resolve {name : String} {path : List Part} {filters : List Filter}
    {found reached value : Value} (hfind : scope.find name = found)
    (hpath : Yields (follow found path) reached)
    (hfilters : Yields (filterAll reached filters) value) :
    Yields (resolve scope ⟨.name name, path, filters⟩) value := by
  subst hfind
  exact hpath.bind hfilters

/-- A reference is printed as the plain form of the value it comes to. -/
theorem yields_print {source : Reference} {value : Json}
    (h : Yields (resolve scope source) (.data value)) :
    Yields (node scope (.print source)) value.plain := by
  rw [node]
  exact h.bind (yields_plain value)

/-- A reference that comes to a text is printed as this text. -/
theorem yields_print_text {source : Reference} {text : String}
    (h : Yields (resolve scope source) (.ofText text)) :
    Yields (node scope (.print source)) text :=
  yields_print h

/-- A loop without a cursor prints its body once for each item, in order. -/
theorem yields_loop {item : String} {source : Reference} {body : List Node} {items : List α}
    {value : α → Json} {text : α → String}
    (hsource : Yields (resolve scope source) (.data (.arr (items.map value))))
    (hcursor : readsCursor body = false)
    (hbody : ∀ a ∈ items,
      Yields (nodes (scope.enter [(item, .data (value a))] body) body) (text a)) :
    Yields (node scope (.loop item source body)) (Text.joinWith "" (items.map text)) := by
  rw [node, hcursor]
  exact hsource.bind ((yields_each hbody).bind (Yields.pure _))

/-- No parts print nothing. -/
theorem Yields.nodes_nil : Yields (nodes scope []) "" :=
  Yields.pure ""

/-- The first part is printed before the rest. -/
theorem Yields.nodes_cons {first : Node} {rest : List Node} {text texts : String}
    (h : Yields (node scope first) text) (hrest : Yields (nodes scope rest) texts) :
    Yields (nodes scope (first :: rest)) (text ++ texts) := by
  rw [nodes]
  exact h.bind (hrest.bind (Yields.pure _))

end Rigor.Report.Template.Printing
