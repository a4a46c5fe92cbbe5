/-!
# Kinds of values

Every value that a template can name has a kind, and a kind has members: a text can be turned into
capital letters, a list can be reversed. A template can name these members but has no way to apply
them, so what matters is which members there are and what a template sees of one. That depends on
the form of the member, and on whether it is a value of the kind or the kind itself that is asked.

* `Kind.title`, `Kind.name`: what a kind is called.
* `Kind.find?`: the member of a kind under a name, its own or that of a wider kind.
-/

namespace Rigor.Report.Template

/-- The kinds of values. -/
inductive Kind where
  /-- The kind that all values are of. -/
  | object
  | text
  | integer
  | truth
  | nothing
  | list
  | mapping
  | tuple
  /-- A kind as a value. -/
  | kind
  | range
  /-- An operation of a value. -/
  | operation
  /-- What stands behind a sign, such as a sum. -/
  | operator
  /-- A member of a kind that the template engine defines. -/
  | method
  /-- A function that belongs to no value. -/
  | function
  /-- An operation, asked of the kind. -/
  | operationMark
  /-- An operator, asked of the kind. -/
  | operatorMark
  /-- A field, asked of the kind. -/
  | fieldMark
  /-- A stored field, asked of the kind. -/
  | cellMark
  /-- A computed member, asked of the kind. -/
  | property
  /-- A kind with an argument. -/
  | applied
  /-- The cursor of a loop. -/
  | cursor
  /-- The template itself. -/
  | page
  /-- No value. -/
  | absent
  /-- A name without a value. -/
  | unset
  | cycler
  | joiner
  | holder
  deriving DecidableEq, Repr

/-- The forms that a member of a kind can have. -/
inductive Form where
  /-- Something to apply to a value. -/
  | operation
  /-- What stands behind a sign. -/
  | operator
  /-- Something that belongs to the kind as a whole. -/
  | shared
  /-- What makes new values of the kind. -/
  | maker
  /-- A function that is only kept with the kind. -/
  | loose
  /-- A fact about a value. -/
  | field
  /-- A fact that is stored with a value. -/
  | cell
  /-- A function of the template engine. -/
  | method
  /-- A function of the template engine that stands in for several members. -/
  | refusal
  /-- A fact that the template engine computes. -/
  | property
  /-- A member that the kind does without. -/
  | void
  deriving DecidableEq, Repr

namespace Kind

/-- Where a kind is defined, if it is not built in. -/
def home? : Kind → Option String
  | .applied => some "types"
  | .cursor => some "jinja2.runtime"
  | .page => some "jinja2.runtime"
  | .absent => some "jinja2.runtime"
  | .unset => some "jinja2.utils"
  | .cycler => some "jinja2.utils"
  | .joiner => some "jinja2.utils"
  | .holder => some "jinja2.utils"
  | _ => none

/-- The name of a kind. -/
def name : Kind → String
  | .object => "object"
  | .text => "str"
  | .integer => "int"
  | .truth => "bool"
  | .nothing => "NoneType"
  | .list => "list"
  | .mapping => "dict"
  | .tuple => "tuple"
  | .kind => "type"
  | .range => "range"
  | .operation => "builtin_function_or_method"
  | .operator => "method-wrapper"
  | .method => "method"
  | .function => "function"
  | .operationMark => "method_descriptor"
  | .operatorMark => "wrapper_descriptor"
  | .fieldMark => "getset_descriptor"
  | .cellMark => "member_descriptor"
  | .property => "property"
  | .applied => "GenericAlias"
  | .cursor => "LoopContext"
  | .page => "TemplateReference"
  | .absent => "Undefined"
  | .unset => "MissingType"
  | .cycler => "Cycler"
  | .joiner => "Joiner"
  | .holder => "Namespace"

/-- The name of a kind with the place where it is defined. -/
def title (k : Kind) : String :=
  match k.home? with
  | some home => home ++ "." ++ k.name
  | none => k.name

/-- The next wider kind. -/
def parent? : Kind → Option Kind
  | .object => none
  | .truth => some .integer
  | _ => some .object

/-- The kind and all wider ones, the narrowest first. -/
def ancestry : Kind → List Kind
  | .object => [.object]
  | .truth => [.truth, .integer, .object]
  | k => [k, .object]

/-- A kind that can be given an argument. -/
def takesArgument : Kind → Bool
  | .list => true
  | .mapping => true
  | .tuple => true
  | .kind => true
  | _ => false

/-- The members that a kind adds to those of wider kinds, by form. -/
def members : Kind → List (Form × List String)
  | .object =>
    [(.operation, ["__dir__", "__format__", "__getstate__", "__reduce__", "__reduce_ex__",
       "__sizeof__"]),
     (.operator, ["__delattr__", "__eq__", "__ge__", "__getattribute__", "__gt__", "__hash__",
       "__init__", "__le__", "__lt__", "__ne__", "__repr__", "__setattr__", "__str__"]),
     (.shared, ["__init_subclass__", "__subclasshook__"]),
     (.maker, ["__new__"])]
  | .text =>
    [(.operation, ["__format__", "__getnewargs__", "__sizeof__", "capitalize", "casefold", "center",
       "count", "encode", "endswith", "expandtabs", "find", "format", "format_map", "index",
       "isalnum", "isalpha", "isascii", "isdecimal", "isdigit", "isidentifier", "islower",
       "isnumeric", "isprintable", "isspace", "istitle", "isupper", "join", "ljust", "lower",
       "lstrip", "partition", "removeprefix", "removesuffix", "replace", "rfind", "rindex", "rjust",
       "rpartition", "rsplit", "rstrip", "split", "splitlines", "startswith", "strip", "swapcase",
       "title", "translate", "upper", "zfill"]),
     (.operator, ["__add__", "__contains__", "__eq__", "__ge__", "__getattribute__", "__getitem__",
       "__gt__", "__hash__", "__iter__", "__le__", "__len__", "__lt__", "__mod__", "__mul__",
       "__ne__", "__repr__", "__rmod__", "__rmul__", "__str__"]),
     (.maker, ["__new__"]),
     (.loose, ["maketrans"])]
  | .integer =>
    [(.operation, ["__ceil__", "__floor__", "__format__", "__getnewargs__", "__round__",
       "__sizeof__", "__trunc__", "as_integer_ratio", "bit_count", "bit_length", "conjugate",
       "to_bytes"]),
     (.operator, ["__abs__", "__add__", "__and__", "__bool__", "__divmod__", "__eq__", "__float__",
       "__floordiv__", "__ge__", "__getattribute__", "__gt__", "__hash__", "__index__", "__int__",
       "__invert__", "__le__", "__lshift__", "__lt__", "__mod__", "__mul__", "__ne__", "__neg__",
       "__or__", "__pos__", "__pow__", "__radd__", "__rand__", "__rdivmod__", "__repr__",
       "__rfloordiv__", "__rlshift__", "__rmod__", "__rmul__", "__ror__", "__rpow__", "__rrshift__",
       "__rshift__", "__rsub__", "__rtruediv__", "__rxor__", "__sub__", "__truediv__", "__xor__"]),
     (.shared, ["from_bytes"]),
     (.maker, ["__new__"]),
     (.field, ["denominator", "imag", "numerator", "real"])]
  | .truth =>
    [(.operator, ["__and__", "__or__", "__rand__", "__repr__", "__ror__", "__rxor__", "__xor__"]),
     (.maker, ["__new__"])]
  | .nothing =>
    [(.operator, ["__bool__", "__repr__"]),
     (.maker, ["__new__"])]
  | .list =>
    [(.operation, ["__getitem__", "__reversed__", "__sizeof__", "append", "clear", "copy", "count",
       "extend", "index", "insert", "pop", "remove", "reverse", "sort"]),
     (.operator, ["__add__", "__contains__", "__delitem__", "__eq__", "__ge__", "__getattribute__",
       "__gt__", "__iadd__", "__imul__", "__init__", "__iter__", "__le__", "__len__", "__lt__",
       "__mul__", "__ne__", "__repr__", "__rmul__", "__setitem__"]),
     (.shared, ["__class_getitem__"]),
     (.maker, ["__new__"]),
     (.void, ["__hash__"])]
  | .mapping =>
    [(.operation, ["__contains__", "__getitem__", "__reversed__", "__sizeof__", "clear", "copy",
       "get", "items", "keys", "pop", "popitem", "setdefault", "update", "values"]),
     (.operator, ["__delitem__", "__eq__", "__ge__", "__getattribute__", "__gt__", "__init__",
       "__ior__", "__iter__", "__le__", "__len__", "__lt__", "__ne__", "__or__", "__repr__",
       "__ror__", "__setitem__"]),
     (.shared, ["__class_getitem__", "fromkeys"]),
     (.maker, ["__new__"]),
     (.void, ["__hash__"])]
  | .tuple =>
    [(.operation, ["__getnewargs__", "count", "index"]),
     (.operator, ["__add__", "__contains__", "__eq__", "__ge__", "__getattribute__", "__getitem__",
       "__gt__", "__hash__", "__iter__", "__le__", "__len__", "__lt__", "__mul__", "__ne__",
       "__repr__", "__rmul__"]),
     (.shared, ["__class_getitem__"]),
     (.maker, ["__new__"])]
  | .kind =>
    [(.operation, ["__dir__", "__instancecheck__", "__sizeof__", "__subclasscheck__",
       "__subclasses__", "mro"]),
     (.operator, ["__call__", "__delattr__", "__getattribute__", "__init__", "__or__", "__repr__",
       "__ror__", "__setattr__"]),
     (.shared, ["__prepare__"]),
     (.maker, ["__new__"]),
     (.field, ["__abstractmethods__", "__annotations__", "__bases__", "__dict__", "__module__",
       "__name__", "__qualname__", "__text_signature__"]),
     (.cell, ["__base__", "__basicsize__", "__dictoffset__", "__flags__", "__itemsize__", "__mro__",
       "__weakrefoffset__"])]
  | .range =>
    [(.operation, ["__reduce__", "__reversed__", "count", "index"]),
     (.operator, ["__bool__", "__contains__", "__eq__", "__ge__", "__getattribute__", "__getitem__",
       "__gt__", "__hash__", "__iter__", "__le__", "__len__", "__lt__", "__ne__", "__repr__"]),
     (.maker, ["__new__"]),
     (.cell, ["start", "step", "stop"])]
  | .operation =>
    [(.operation, ["__reduce__"]),
     (.operator, ["__call__", "__eq__", "__ge__", "__getattribute__", "__gt__", "__hash__",
       "__le__", "__lt__", "__ne__", "__repr__"]),
     (.field, ["__name__", "__qualname__", "__self__", "__text_signature__"]),
     (.cell, ["__module__"])]
  | .operator =>
    [(.operation, ["__reduce__"]),
     (.operator, ["__call__", "__eq__", "__ge__", "__getattribute__", "__gt__", "__hash__",
       "__le__", "__lt__", "__ne__", "__repr__"]),
     (.field, ["__name__", "__objclass__", "__qualname__", "__text_signature__"]),
     (.cell, ["__self__"])]
  | .method =>
    [(.operation, ["__reduce__"]),
     (.operator, ["__call__", "__delattr__", "__eq__", "__ge__", "__getattribute__", "__gt__",
       "__hash__", "__le__", "__lt__", "__ne__", "__repr__", "__setattr__"]),
     (.maker, ["__new__"]),
     (.cell, ["__func__", "__self__"])]
  | .function =>
    [(.operator, ["__call__", "__get__", "__repr__"]),
     (.maker, ["__new__"]),
     (.field, ["__annotations__", "__code__", "__defaults__", "__dict__", "__kwdefaults__",
       "__name__", "__qualname__"]),
     (.cell, ["__builtins__", "__closure__", "__globals__", "__module__"])]
  | .operationMark =>
    [(.operation, ["__reduce__"]),
     (.operator, ["__call__", "__get__", "__getattribute__", "__repr__"]),
     (.field, ["__qualname__", "__text_signature__"]),
     (.cell, ["__name__", "__objclass__"])]
  | .operatorMark =>
    [(.operation, ["__reduce__"]),
     (.operator, ["__call__", "__get__", "__getattribute__", "__repr__"]),
     (.field, ["__qualname__", "__text_signature__"]),
     (.cell, ["__name__", "__objclass__"])]
  | .fieldMark =>
    [(.operator, ["__delete__", "__get__", "__getattribute__", "__repr__", "__set__"]),
     (.field, ["__qualname__"]),
     (.cell, ["__name__", "__objclass__"])]
  | .cellMark =>
    [(.operation, ["__reduce__"]),
     (.operator, ["__delete__", "__get__", "__getattribute__", "__repr__", "__set__"]),
     (.field, ["__qualname__"]),
     (.cell, ["__name__", "__objclass__"])]
  | .property =>
    [(.operation, ["__set_name__", "deleter", "getter", "setter"]),
     (.operator, ["__delete__", "__get__", "__getattribute__", "__init__", "__set__"]),
     (.maker, ["__new__"]),
     (.field, ["__isabstractmethod__"]),
     (.cell, ["fdel", "fget", "fset"])]
  | .applied =>
    [(.operation, ["__dir__", "__instancecheck__", "__mro_entries__", "__reduce__",
       "__subclasscheck__"]),
     (.operator, ["__call__", "__eq__", "__ge__", "__getattribute__", "__getitem__", "__gt__",
       "__hash__", "__iter__", "__le__", "__lt__", "__ne__", "__or__", "__repr__", "__ror__"]),
     (.maker, ["__new__"]),
     (.field, ["__parameters__", "__typing_unpacked_tuple_args__"]),
     (.cell, ["__args__", "__origin__", "__unpacked__"])]
  | .cursor =>
    [(.method, ["__call__", "__init__", "__iter__", "__len__", "__next__", "__repr__", "_peek_next",
       "changed", "cycle"]),
     (.property, ["depth", "first", "index", "last", "length", "nextitem", "previtem", "revindex",
       "revindex0"])]
  | .page => [(.method, ["__getitem__", "__init__", "__repr__"])]
  | .absent =>
    [(.method, ["__bool__", "__eq__", "__getattr__", "__hash__", "__init__", "__iter__", "__len__",
       "__ne__", "__repr__", "__str__", "_fail_with_undefined_error"]),
     (.refusal, ["__add__", "__call__", "__complex__", "__div__", "__float__", "__floordiv__",
       "__ge__", "__getitem__", "__gt__", "__int__", "__le__", "__lt__", "__mod__", "__mul__",
       "__neg__", "__pos__", "__pow__", "__radd__", "__rdiv__", "__rfloordiv__", "__rmod__",
       "__rmul__", "__rpow__", "__rsub__", "__rtruediv__", "__sub__", "__truediv__"])]
  | .unset => [(.method, ["__reduce__", "__repr__"])]
  | .cycler => [(.method, ["__init__", "__next__", "next", "reset"]), (.property, ["current"])]
  | .joiner => [(.method, ["__call__", "__init__"])]
  | .holder => [(.method, ["__getattribute__", "__init__", "__repr__", "__setitem__"])]

/-- The form of the member that a kind adds under a name. -/
def form? (k : Kind) (name : String) : Option Form :=
  (k.members.find? fun row => row.2.contains name).map Prod.fst

/-- The member of a kind under a name: the kind that adds it, and its form. -/
def find? (k : Kind) (name : String) : Option (Kind × Form) :=
  k.ancestry.findSome? fun wider => (wider.form? name).map (wider, ·)

end Kind

end Rigor.Report.Template
