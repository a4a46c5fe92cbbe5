import Rigor.Schema.Expression

/-!
# Listings

The items of a union are written one after the other with `, ` between them, up to a closing
parenthesis. `listing` spells this out item by item, which is the form to reason by.

* `toList_unionText`: a choice between expressions is a listing of them.
* `mem_listing`: a listing has the characters of its items.
* `listing_append_inj`: if the texts of the items cannot be continued in two ways, then neither can
  the listing, since a comma goes on and a parenthesis ends it.
-/

namespace Rigor.Text

variable {α β : Type}

/-- The characters of joined texts are those of the first and then those of the others, each after
the separator. -/
theorem toList_joinWith_cons (separator text : String) (texts : List String) :
    (joinWith separator (text :: texts)).toList =
      text.toList ++ texts.flatMap fun t => separator.toList ++ t.toList := by
  induction texts generalizing text with
  | nil => simp
  | cons next rest ih =>
      rw [joinWith_cons_cons, String.toList_append, String.toList_append, ih, List.flatMap_cons,
        List.append_assoc, List.append_assoc]

/-- What stands in front of an item. -/
def separator (first : Bool) : List Char :=
  if first then [] else [',', ' ']

/-- The items with `, ` between them and the parenthesis that closes the listing. -/
def listing (item : α → List Char) : Bool → List α → List Char
  | _, [] => [')']
  | first, a :: rest => separator first ++ (item a ++ listing item false rest)

/-- Listing changed items is listing them as changed. -/
theorem listing_map (item : β → List Char) (f : α → β) (first : Bool) (as : List α) :
    listing item first (as.map f) = listing (fun a => item (f a)) first as := by
  induction as generalizing first with
  | nil => rfl
  | cons a rest ih => rw [List.map_cons, listing, listing, ih]

/-- A listing is never empty, for it is closed. -/
theorem listing_length_pos (item : α → List Char) (first : Bool) (as : List α) :
    0 < (listing item first as).length := by
  induction as generalizing first with
  | nil => exact Nat.one_pos
  | cons a rest ih =>
      have := ih false
      simp only [listing, List.length_append]
      omega

/-- Each character of an item is in the listing. -/
theorem mem_listing {item : α → List Char} {first : Bool} {as : List α} {a : α} (h : a ∈ as)
    {c : Char} (hc : c ∈ item a) : c ∈ listing item first as := by
  induction as generalizing first with
  | nil => cases h
  | cons b rest ih =>
      refine List.mem_append_right _ ?_
      rcases List.mem_cons.mp h with rfl | h
      · exact List.mem_append_left _ hc
      · exact List.mem_append_right _ (ih h)

/-- The items after the first one, closed. -/
theorem flatMap_append_close (texts : List String) :
    (texts.flatMap fun t => ", ".toList ++ t.toList) ++ [')'] =
      listing String.toList false texts := by
  induction texts with
  | nil => rfl
  | cons text rest ih =>
      rw [List.flatMap_cons, List.append_assoc, ih, listing, List.append_assoc]
      rfl

/-- The text of a union lists its variants. -/
theorem toList_unionText (texts : List String) :
    (unionText texts).toList = "union(".toList ++ listing String.toList true texts := by
  unfold unionText
  rw [String.toList_append, String.toList_append, List.append_assoc]
  cases texts with
  | nil => rfl
  | cons text rest =>
      have hclose := flatMap_append_close rest
      rw [toList_joinWith_cons, List.append_assoc, show ")".toList = [')'] from rfl, hclose]
      rfl

/-- Texts that go on in one way only, for the given items. -/
def Separable (item : α → List Char) (p : α → Prop) : Prop :=
  ∀ a b u v, p a → p b → item a ++ u = item b ++ v → a = b ∧ u = v

/-- After the first item a listing goes on with a comma or ends with a parenthesis. -/
theorem listing_false_append_inj {item : α → List Char} {p : α → Prop} (h : Separable item p)
    {as bs : List α} (has : ∀ a ∈ as, p a) (hbs : ∀ b ∈ bs, p b) {u v : List Char}
    (heq : listing item false as ++ u = listing item false bs ++ v) : as = bs ∧ u = v := by
  induction as generalizing bs with
  | nil =>
      cases bs with
      | nil => exact ⟨rfl, by simpa [listing] using heq⟩
      | cons b bs => simp [listing, separator] at heq
  | cons a as ih =>
      cases bs with
      | nil => simp [listing, separator] at heq
      | cons b bs =>
          simp only [listing, List.append_assoc, List.append_cancel_left_eq] at heq
          obtain ⟨rfl, hrest⟩ := h a b _ _ (has a List.mem_cons_self) (hbs b List.mem_cons_self) heq
          obtain ⟨rfl, huv⟩ := ih (fun a ha => has a (List.mem_cons_of_mem _ ha))
            (fun b hb => hbs b (List.mem_cons_of_mem _ hb)) hrest
          exact ⟨rfl, huv⟩

/-- The items of a listing, and what follows it, can be read off the text if the items can be told
apart. -/
theorem listing_append_inj {item : α → List Char} {p : α → Prop} (h : Separable item p)
    {a b : α} {as bs : List α} (has : ∀ c ∈ a :: as, p c) (hbs : ∀ c ∈ b :: bs, p c)
    {u v : List Char}
    (heq : listing item true (a :: as) ++ u = listing item true (b :: bs) ++ v) :
    a :: as = b :: bs ∧ u = v := by
  simp only [listing, List.append_assoc, List.append_cancel_left_eq] at heq
  obtain ⟨rfl, hrest⟩ := h a b _ _ (has a List.mem_cons_self) (hbs b List.mem_cons_self) heq
  obtain ⟨rfl, huv⟩ := listing_false_append_inj h (fun c hc => has c (List.mem_cons_of_mem _ hc))
    (fun c hc => hbs c (List.mem_cons_of_mem _ hc)) hrest
  exact ⟨rfl, huv⟩

end Rigor.Text
