/-!
# How many arguments methods take

The methods of the language's own classes take a fixed range of positional arguments; a call
with fewer or more fails with a type error before the method does anything. Each row below
is a class, the least and the most count (none when there is no most), and the methods
with that range.
-/

namespace GraphProbe.Code

/-- The methods of the language's classes by the range of positional arguments they take. -/
def methodArityRows : List (String × Nat × Option Nat × String) :=
  let textual (cls : String) (zero : String) : List (String × Nat × Option Nat × String) :=
    [(cls, 0, some 0, "capitalize isalnum isalpha isascii isdigit islower isspace istitle " ++
        "isupper lower swapcase title upper __iter__ __len__ " ++ zero),
     (cls, 1, some 1, "__add__ __contains__ __getitem__ __mod__ __mul__ __rmod__ __rmul__ " ++
        "join partition removeprefix removesuffix rpartition zfill"),
     (cls, 1, some 2, "center ljust rjust"),
     (cls, 1, some 3, "count endswith find index rfind rindex startswith"),
     (cls, 0, some 1, "expandtabs lstrip rstrip splitlines strip"),
     (cls, 0, some 2, "rsplit split"),
     (cls, 2, some 3, "replace")]
  textual "str" "casefold isdecimal isidentifier isnumeric isprintable" ++
  [("str", 1, some 1, "translate format_map __format__"), ("str", 0, some 2, "encode"),
   ("str", 1, some 3, "maketrans")] ++
  textual "bytes" "__bytes__" ++
  [("bytes", 1, some 1, "fromhex"), ("bytes", 1, some 2, "translate"),
   ("bytes", 0, some 2, "decode hex"), ("bytes", 2, some 2, "maketrans")] ++
  textual "bytearray" "clear copy reverse __alloc__" ++
  [("bytearray", 1, some 1, "__delitem__ __iadd__ __imul__ append extend fromhex remove"),
   ("bytearray", 2, some 2, "__setitem__ insert maketrans"),
   ("bytearray", 1, some 2, "translate"), ("bytearray", 0, some 2, "decode hex"),
   ("bytearray", 0, some 1, "pop"),
   ("list", 0, some 0, "__iter__ __len__ __reversed__ clear copy reverse sort"),
   ("list", 1, some 1, "__add__ __contains__ __delitem__ __getitem__ __iadd__ __imul__ " ++
      "__mul__ __rmul__ append count extend remove"),
   ("list", 2, some 2, "__setitem__ insert"), ("list", 1, some 3, "index"),
   ("list", 0, some 1, "pop"),
   ("tuple", 0, some 0, "__iter__ __len__"),
   ("tuple", 1, some 1, "__add__ __contains__ __getitem__ __mul__ __rmul__ count"),
   ("tuple", 1, some 3, "index"),
   ("dict", 0, some 0, "__iter__ __len__ __reversed__ clear copy items keys popitem values"),
   ("dict", 1, some 1, "__contains__ __delitem__ __getitem__ __ior__ __or__ __ror__"),
   ("dict", 2, some 2, "__setitem__"), ("dict", 1, some 2, "fromkeys get pop setdefault"),
   ("dict", 0, some 1, "update"),
   ("set", 0, some 0, "__iter__ __len__ clear copy pop"),
   ("set", 1, some 1, "__and__ __contains__ __iand__ __ior__ __isub__ __ixor__ __or__ " ++
      "__rand__ __ror__ __rsub__ __rxor__ __sub__ __xor__ add discard isdisjoint issubset " ++
      "issuperset remove symmetric_difference symmetric_difference_update"),
   ("frozenset", 0, some 0, "__iter__ __len__ copy"),
   ("frozenset", 1, some 1, "__and__ __contains__ __or__ __rand__ __ror__ __rsub__ __rxor__ " ++
      "__sub__ __xor__ isdisjoint issubset issuperset symmetric_difference"),
   ("int", 0, some 0, "__abs__ __bool__ __ceil__ __float__ __floor__ __index__ __int__ " ++
      "__invert__ __neg__ __pos__ __trunc__ as_integer_ratio bit_count bit_length conjugate"),
   ("int", 1, some 1, "__add__ __and__ __divmod__ __floordiv__ __lshift__ __mod__ __mul__ " ++
      "__or__ __radd__ __rand__ __rdivmod__ __rfloordiv__ __rlshift__ __rmod__ __rmul__ " ++
      "__ror__ __rrshift__ __rshift__ __rsub__ __rtruediv__ __rxor__ __sub__ __truediv__ " ++
      "__xor__"),
   ("int", 1, some 2, "__pow__ __rpow__ from_bytes"), ("int", 0, some 2, "to_bytes"),
   ("int", 1, some 1, "__format__"),
   ("int", 0, some 1, "__round__"),
   ("float", 0, some 0, "__abs__ __bool__ __ceil__ __float__ __floor__ __int__ __neg__ " ++
      "__pos__ __trunc__ as_integer_ratio conjugate hex is_integer"),
   ("float", 1, some 1, "__add__ __divmod__ __floordiv__ __mod__ __mul__ __radd__ " ++
      "__rdivmod__ __rfloordiv__ __rmod__ __rmul__ __rsub__ __rtruediv__ __sub__ " ++
      "__truediv__ fromhex"),
   ("float", 1, some 2, "__pow__ __rpow__"), ("float", 1, some 1, "__format__"),
   ("float", 0, some 1, "__round__"),
   ("complex", 0, some 0, "__abs__ __bool__ __complex__ __neg__ __pos__ conjugate"),
   ("complex", 1, some 1, "__add__ __mul__ __radd__ __rmul__ __rsub__ __rtruediv__ __sub__ " ++
      "__truediv__"),
   ("complex", 1, some 2, "__pow__ __rpow__"),
   ("range", 0, some 0, "__bool__ __iter__ __len__ __reversed__"),
   ("range", 1, some 1, "__contains__ __getitem__ count index")]

/-- The least and most counts of positional arguments a method of a class of the language
takes, if known. -/
def methodArity? (cls method : String) : Option (Nat × Option Nat) :=
  let cls := if cls == "bool" then "int" else cls
  (methodArityRows.find? fun (c, _, _, names) =>
    c == cls && (names.splitOn " ").contains method).map fun (_, lo, hi, _) => (lo, hi)

/-- The message of a call of a method with a count of positional arguments it does not
take. -/
def arityMessage (cls method : String) (lo : Nat) (hi : Option Nat) (given : Nat) : String :=
  match hi with
  | some 0 => s!"{cls}.{method}() takes no arguments ({given} given)"
  | some 1 =>
    if lo == 1 then s!"{cls}.{method}() takes exactly one argument ({given} given)"
    else s!"{method} expected at most 1 argument, got {given}"
  | some m =>
    let plural := if lo == 1 then "" else "s"
    if given > m then s!"{method} expected at most {m} arguments, got {given}"
    else s!"{method} expected at least {lo} argument{plural}, got {given}"
  | none => s!"{method} expected at least {lo} argument, got {given}"

end GraphProbe.Code
