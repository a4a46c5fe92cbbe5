/-!
# Joining texts

`joinWith` puts a separator between neighbouring texts. It appends to one growing text;
`joinWith_cons_cons` is the equation to reason by.
-/

namespace Rigor.Text

/-- The texts with `separator` between neighbours. -/
def joinWith (separator : String) : List String → String
  | [] => ""
  | s :: rest => rest.foldl (fun joined t => joined ++ separator ++ t) s

@[simp] theorem joinWith_nil (separator : String) : joinWith separator [] = "" := rfl

@[simp] theorem joinWith_singleton (separator s : String) : joinWith separator [s] = s := rfl

/-- What is joined to a text is joined behind it, whatever the text begins with. -/
theorem foldl_append (separator s t : String) (rest : List String) :
    rest.foldl (fun joined t => joined ++ separator ++ t) (s ++ t)
      = s ++ rest.foldl (fun joined t => joined ++ separator ++ t) t := by
  induction rest generalizing t with
  | nil => rfl
  | cons u rest ih =>
    rw [List.foldl_cons, List.foldl_cons, String.append_assoc, String.append_assoc, ih,
      ← String.append_assoc]

/-- The separator stands between the first part and the others. -/
theorem joinWith_cons_cons (separator s t : String) (rest : List String) :
    joinWith separator (s :: t :: rest) = s ++ separator ++ joinWith separator (t :: rest) := by
  rw [joinWith, List.foldl_cons, foldl_append, joinWith]

end Rigor.Text
