/-!
# Text patterns

Regular patterns over characters, matched by derivatives.

* `Pattern`: single characters of a class, sequence, choice and repetition, with `times`, `plus` and
  `maybe` built from them.
* `Pattern.accepts p cs`: the whole of `cs` fits `p`. The derivative of `p` by a character is what
  has to follow it; a text fits if the empty text fits the derivative by all of its characters.
  Derivatives drop alternatives that are out of reach (`then_`, `or_`), so they stay small.
* `Pattern.fits p cs`: `cs` fits `p`, either whole or without one line feed at its end.
-/

namespace Rigor.Text

/-- A regular pattern. -/
inductive Pattern where
  /-- No text. -/
  | never
  /-- The empty text. -/
  | empty
  /-- One character of a class. -/
  | one (isIn : Char → Bool)
  /-- A text of the first pattern followed by one of the second. -/
  | seq (first second : Pattern)
  /-- A text of either pattern. -/
  | alt (left right : Pattern)
  /-- Any number of texts of the pattern, one after the other. -/
  | many (body : Pattern)

namespace Pattern

/-- The character `c` alone. -/
def char (c : Char) : Pattern :=
  .one (· == c)

/-- The characters of a text in order. -/
def literal (s : String) : Pattern :=
  s.toList.foldr (fun c rest => .seq (char c) rest) .empty

/-- `n` texts of the pattern. -/
def times : Nat → Pattern → Pattern
  | 0, _ => .empty
  | n + 1, p => .seq p (times n p)

/-- At least one text of the pattern. -/
def plus (p : Pattern) : Pattern :=
  .seq p (.many p)

/-- A text of the pattern, or the empty one. -/
def maybe (p : Pattern) : Pattern :=
  .alt p .empty

/-- The patterns one after the other. -/
def all : List Pattern → Pattern
  | [] => .empty
  | p :: rest => .seq p (all rest)

/-- The empty text fits. -/
def nullable : Pattern → Bool
  | .never => false
  | .empty => true
  | .one _ => false
  | .seq p q => p.nullable && q.nullable
  | .alt p q => p.nullable || q.nullable
  | .many _ => true

/-- `seq`, without a part that no text fits. -/
def then_ (p q : Pattern) : Pattern :=
  match p with
  | .never => .never
  | .empty => q
  | p => .seq p q

/-- `alt`, without a part that no text fits. -/
def or_ (p q : Pattern) : Pattern :=
  match p, q with
  | .never, q => q
  | p, .never => p
  | p, q => .alt p q

/-- What has to follow the character `c` in a text of the pattern. -/
def derivative (c : Char) : Pattern → Pattern
  | .never => .never
  | .empty => .never
  | .one isIn => if isIn c then .empty else .never
  | .seq p q =>
    if p.nullable then or_ (then_ (derivative c p) q) (derivative c q)
    else then_ (derivative c p) q
  | .alt p q => or_ (derivative c p) (derivative c q)
  | .many p => then_ (derivative c p) (.many p)

/-- The whole text fits the pattern. -/
def accepts : Pattern → List Char → Bool
  | p, [] => p.nullable
  | p, c :: rest => accepts (derivative c p) rest

/-- The text fits the pattern, whole or without one line feed at its end. -/
def fits (p : Pattern) (cs : List Char) : Bool :=
  p.accepts cs || (cs.getLast? == some '\n' && p.accepts cs.dropLast)

end Pattern

end Rigor.Text
