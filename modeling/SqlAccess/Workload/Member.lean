import SqlAccess.Value

/-!
# Members

Whatever a variable holds has members, which can be asked for but not set.  A
refusal to set one is worded in one of two ways: a member of an integer that is
worked out from it is not writable, and any other member is read-only.  The kinds
listed here are those of which an entity gives values.
-/

namespace SqlAccess.Workload

/-- The members that everything has. -/
def sharedMembers : List String :=
  ["__delattr__", "__dir__", "__doc__", "__eq__", "__format__", "__ge__", "__getattribute__",
    "__getstate__", "__gt__", "__hash__", "__init__", "__init_subclass__", "__le__", "__lt__",
    "__ne__", "__new__", "__reduce__", "__reduce_ex__", "__repr__", "__setattr__",
    "__sizeof__", "__str__", "__subclasshook__"]

/-- The members that integers have besides. -/
def integerMembers : List String :=
  ["__abs__", "__add__", "__and__", "__bool__", "__ceil__", "__divmod__", "__float__",
    "__floor__", "__floordiv__", "__getnewargs__", "__index__", "__int__", "__invert__",
    "__lshift__", "__mod__", "__mul__", "__neg__", "__or__", "__pos__", "__pow__", "__radd__",
    "__rand__", "__rdivmod__", "__rfloordiv__", "__rlshift__", "__rmod__", "__rmul__",
    "__ror__", "__round__", "__rpow__", "__rrshift__", "__rshift__", "__rsub__",
    "__rtruediv__", "__rxor__", "__sub__", "__truediv__", "__trunc__", "__xor__",
    "as_integer_ratio", "bit_count", "bit_length", "conjugate", "from_bytes", "to_bytes"]

/-- The members of an integer that are worked out from it. -/
def derivedMembers : List String :=
  ["denominator", "imag", "numerator", "real"]

/-- The members that lists have besides. -/
def listMembers : List String :=
  ["__add__", "__class_getitem__", "__contains__", "__delitem__", "__getitem__", "__iadd__",
    "__imul__", "__iter__", "__len__", "__mul__", "__reversed__", "__rmul__", "__setitem__",
    "append", "clear", "copy", "count", "extend", "index", "insert", "pop", "remove",
    "reverse", "sort"]

/-- The members of a value that are read-only. -/
def membersOf : Value → List String
  | .null => "__bool__" :: sharedMembers
  | .int _ => integerMembers ++ sharedMembers
  | .list _ => listMembers ++ sharedMembers
  | _ => sharedMembers

end SqlAccess.Workload
