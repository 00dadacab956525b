import GraphProbe.Code.Value
import Std.Data.HashMap

/-!
# Classes of the language

The classes the language provides: its types and its exceptions, each with the classes it
derives from, the module that defines it, whether the name is one of the language's own
names, whether code may derive from it, the class that fixes the layout of its instances,
and the names of its methods and of its data attributes.

The method resolution order of a class is the C3 linearization of its bases: the class
first, then a merge of its bases' orders that keeps each of them, and the bases' own order,
taking at each step the first head that is in no tail.
-/

namespace GraphProbe.Code

/-- A class of the language. -/
structure BuiltinClass where
  name : String
  bases : List String
  module : String
  /-- Whether the class is one of the language's own names. -/
  exposed : Bool
  /-- Whether no class may derive from it. -/
  final : Bool
  /-- The class whose instances have the same layout. -/
  layout : String
  methods : List String
  /-- The data attributes its instances take from it. -/
  fields : List String
  deriving Inhabited

/-- The classes of the language. -/
def builtinClassList : List BuiltinClass := [
  ⟨"ArithmeticError", ["Exception"], "builtins", true, false, "BaseException",
    ["__new__", "__init__"],
    []⟩,
  ⟨"AssertionError", ["Exception"], "builtins", true, false, "BaseException",
    ["__new__", "__init__"],
    []⟩,
  ⟨"AttributeError", ["Exception"], "builtins", true, false, "AttributeError",
    ["__str__", "__init__"],
    ["name", "obj"]⟩,
  ⟨"BaseException", ["object"], "builtins", true, false, "BaseException",
    ["__new__", "__repr__", "__str__", "__getattribute__", "__setattr__", "__delattr__", "__init__", "__reduce__", "__setstate__", "with_traceback", "add_note"],
    ["__suppress_context__", "args", "__traceback__", "__context__", "__cause__"]⟩,
  ⟨"BaseExceptionGroup", ["BaseException"], "builtins", true, false, "BaseExceptionGroup",
    ["__new__", "__str__", "__init__", "__class_getitem__", "derive", "split", "subgroup"],
    ["message", "exceptions"]⟩,
  ⟨"BlockingIOError", ["OSError"], "builtins", true, false, "OSError",
    ["__init__"],
    []⟩,
  ⟨"BrokenPipeError", ["ConnectionError"], "builtins", true, false, "OSError",
    ["__init__"],
    []⟩,
  ⟨"BufferError", ["Exception"], "builtins", true, false, "BaseException",
    ["__new__", "__init__"],
    []⟩,
  ⟨"BytesWarning", ["Warning"], "builtins", true, false, "BaseException",
    ["__new__", "__init__"],
    []⟩,
  ⟨"ChildProcessError", ["OSError"], "builtins", true, false, "OSError",
    ["__init__"],
    []⟩,
  ⟨"ConnectionAbortedError", ["ConnectionError"], "builtins", true, false, "OSError",
    ["__init__"],
    []⟩,
  ⟨"ConnectionError", ["OSError"], "builtins", true, false, "OSError",
    ["__init__"],
    []⟩,
  ⟨"ConnectionRefusedError", ["ConnectionError"], "builtins", true, false, "OSError",
    ["__init__"],
    []⟩,
  ⟨"ConnectionResetError", ["ConnectionError"], "builtins", true, false, "OSError",
    ["__init__"],
    []⟩,
  ⟨"DeprecationWarning", ["Warning"], "builtins", true, false, "BaseException",
    ["__new__", "__init__"],
    []⟩,
  ⟨"EOFError", ["Exception"], "builtins", true, false, "BaseException",
    ["__new__", "__init__"],
    []⟩,
  ⟨"EncodingWarning", ["Warning"], "builtins", true, false, "BaseException",
    ["__new__", "__init__"],
    []⟩,
  ⟨"Exception", ["BaseException"], "builtins", true, false, "BaseException",
    ["__new__", "__init__"],
    []⟩,
  ⟨"ExceptionGroup", ["BaseExceptionGroup", "Exception"], "builtins", true, false, "ExceptionGroup",
    [],
    []⟩,
  ⟨"FileExistsError", ["OSError"], "builtins", true, false, "OSError",
    ["__init__"],
    []⟩,
  ⟨"FileNotFoundError", ["OSError"], "builtins", true, false, "OSError",
    ["__init__"],
    []⟩,
  ⟨"FloatingPointError", ["ArithmeticError"], "builtins", true, false, "BaseException",
    ["__new__", "__init__"],
    []⟩,
  ⟨"FutureWarning", ["Warning"], "builtins", true, false, "BaseException",
    ["__new__", "__init__"],
    []⟩,
  ⟨"GeneratorExit", ["BaseException"], "builtins", true, false, "BaseException",
    ["__new__", "__init__"],
    []⟩,
  ⟨"ImportError", ["Exception"], "builtins", true, false, "ImportError",
    ["__str__", "__init__", "__reduce__"],
    ["msg", "name", "path"]⟩,
  ⟨"ImportWarning", ["Warning"], "builtins", true, false, "BaseException",
    ["__new__", "__init__"],
    []⟩,
  ⟨"IndentationError", ["SyntaxError"], "builtins", true, false, "SyntaxError",
    ["__init__"],
    []⟩,
  ⟨"IndexError", ["LookupError"], "builtins", true, false, "BaseException",
    ["__new__", "__init__"],
    []⟩,
  ⟨"InterruptedError", ["OSError"], "builtins", true, false, "OSError",
    ["__init__"],
    []⟩,
  ⟨"IsADirectoryError", ["OSError"], "builtins", true, false, "OSError",
    ["__init__"],
    []⟩,
  ⟨"KeyError", ["LookupError"], "builtins", true, false, "BaseException",
    ["__str__", "__init__"],
    []⟩,
  ⟨"KeyboardInterrupt", ["BaseException"], "builtins", true, false, "BaseException",
    ["__new__", "__init__"],
    []⟩,
  ⟨"LookupError", ["Exception"], "builtins", true, false, "BaseException",
    ["__new__", "__init__"],
    []⟩,
  ⟨"MemoryError", ["Exception"], "builtins", true, false, "BaseException",
    ["__new__", "__init__"],
    []⟩,
  ⟨"ModuleNotFoundError", ["ImportError"], "builtins", true, false, "ImportError",
    ["__init__"],
    []⟩,
  ⟨"NameError", ["Exception"], "builtins", true, false, "NameError",
    ["__str__", "__init__"],
    ["name"]⟩,
  ⟨"NotADirectoryError", ["OSError"], "builtins", true, false, "OSError",
    ["__init__"],
    []⟩,
  ⟨"NotImplementedError", ["RuntimeError"], "builtins", true, false, "BaseException",
    ["__new__", "__init__"],
    []⟩,
  ⟨"OSError", ["Exception"], "builtins", true, false, "OSError",
    ["__new__", "__str__", "__init__", "__reduce__"],
    ["errno", "strerror", "filename", "filename2", "characters_written"]⟩,
  ⟨"OverflowError", ["ArithmeticError"], "builtins", true, false, "BaseException",
    ["__new__", "__init__"],
    []⟩,
  ⟨"PendingDeprecationWarning", ["Warning"], "builtins", true, false, "BaseException",
    ["__new__", "__init__"],
    []⟩,
  ⟨"PermissionError", ["OSError"], "builtins", true, false, "OSError",
    ["__init__"],
    []⟩,
  ⟨"ProcessLookupError", ["OSError"], "builtins", true, false, "OSError",
    ["__init__"],
    []⟩,
  ⟨"RecursionError", ["RuntimeError"], "builtins", true, false, "BaseException",
    ["__new__", "__init__"],
    []⟩,
  ⟨"ReferenceError", ["Exception"], "builtins", true, false, "BaseException",
    ["__new__", "__init__"],
    []⟩,
  ⟨"ResourceWarning", ["Warning"], "builtins", true, false, "BaseException",
    ["__new__", "__init__"],
    []⟩,
  ⟨"RuntimeError", ["Exception"], "builtins", true, false, "BaseException",
    ["__new__", "__init__"],
    []⟩,
  ⟨"RuntimeWarning", ["Warning"], "builtins", true, false, "BaseException",
    ["__new__", "__init__"],
    []⟩,
  ⟨"StopAsyncIteration", ["Exception"], "builtins", true, false, "BaseException",
    ["__new__", "__init__"],
    []⟩,
  ⟨"StopIteration", ["Exception"], "builtins", true, false, "StopIteration",
    ["__init__"],
    ["value"]⟩,
  ⟨"SyntaxError", ["Exception"], "builtins", true, false, "SyntaxError",
    ["__str__", "__init__"],
    ["msg", "filename", "lineno", "offset", "text", "end_lineno", "end_offset", "print_file_and_line"]⟩,
  ⟨"SyntaxWarning", ["Warning"], "builtins", true, false, "BaseException",
    ["__new__", "__init__"],
    []⟩,
  ⟨"SystemError", ["Exception"], "builtins", true, false, "BaseException",
    ["__new__", "__init__"],
    []⟩,
  ⟨"SystemExit", ["BaseException"], "builtins", true, false, "SystemExit",
    ["__init__"],
    ["code"]⟩,
  ⟨"TabError", ["IndentationError"], "builtins", true, false, "SyntaxError",
    ["__init__"],
    []⟩,
  ⟨"TimeoutError", ["OSError"], "builtins", true, false, "OSError",
    ["__init__"],
    []⟩,
  ⟨"TypeError", ["Exception"], "builtins", true, false, "BaseException",
    ["__new__", "__init__"],
    []⟩,
  ⟨"UnboundLocalError", ["NameError"], "builtins", true, false, "NameError",
    ["__init__"],
    []⟩,
  ⟨"UnicodeDecodeError", ["UnicodeError"], "builtins", true, false, "UnicodeDecodeError",
    ["__new__", "__str__", "__init__"],
    ["encoding", "object", "start", "end", "reason"]⟩,
  ⟨"UnicodeEncodeError", ["UnicodeError"], "builtins", true, false, "UnicodeEncodeError",
    ["__new__", "__str__", "__init__"],
    ["encoding", "object", "start", "end", "reason"]⟩,
  ⟨"UnicodeError", ["ValueError"], "builtins", true, false, "BaseException",
    ["__new__", "__init__"],
    []⟩,
  ⟨"UnicodeTranslateError", ["UnicodeError"], "builtins", true, false, "UnicodeTranslateError",
    ["__new__", "__str__", "__init__"],
    ["encoding", "object", "start", "end", "reason"]⟩,
  ⟨"UnicodeWarning", ["Warning"], "builtins", true, false, "BaseException",
    ["__new__", "__init__"],
    []⟩,
  ⟨"UserWarning", ["Warning"], "builtins", true, false, "BaseException",
    ["__new__", "__init__"],
    []⟩,
  ⟨"ValueError", ["Exception"], "builtins", true, false, "BaseException",
    ["__new__", "__init__"],
    []⟩,
  ⟨"Warning", ["Exception"], "builtins", true, false, "BaseException",
    ["__new__", "__init__"],
    []⟩,
  ⟨"ZeroDivisionError", ["ArithmeticError"], "builtins", true, false, "BaseException",
    ["__new__", "__init__"],
    []⟩,
  ⟨"bool", ["int"], "builtins", true, true, "bool",
    ["__new__", "__repr__", "__and__", "__rand__", "__xor__", "__rxor__", "__or__", "__ror__"],
    []⟩,
  ⟨"bytearray", ["object"], "builtins", true, false, "bytearray",
    ["__new__", "__repr__", "__str__", "__getattribute__", "__lt__", "__le__", "__eq__", "__ne__", "__gt__", "__ge__", "__iter__", "__init__", "__mod__", "__rmod__", "__len__", "__getitem__", "__setitem__", "__delitem__", "__add__", "__mul__", "__rmul__", "__contains__", "__iadd__", "__imul__", "__alloc__", "__reduce__", "__reduce_ex__", "__sizeof__", "append", "capitalize", "center", "clear", "copy", "count", "decode", "endswith", "expandtabs", "extend", "find", "fromhex", "hex", "index", "insert", "isalnum", "isalpha", "isascii", "isdigit", "islower", "isspace", "istitle", "isupper", "join", "ljust", "lower", "lstrip", "maketrans", "partition", "pop", "remove", "replace", "removeprefix", "removesuffix", "reverse", "rfind", "rindex", "rjust", "rpartition", "rsplit", "rstrip", "split", "splitlines", "startswith", "strip", "swapcase", "title", "translate", "upper", "zfill"],
    []⟩,
  ⟨"bytes", ["object"], "builtins", true, false, "bytes",
    ["__new__", "__repr__", "__hash__", "__str__", "__getattribute__", "__lt__", "__le__", "__eq__", "__ne__", "__gt__", "__ge__", "__iter__", "__mod__", "__rmod__", "__len__", "__getitem__", "__add__", "__mul__", "__rmul__", "__contains__", "__getnewargs__", "__bytes__", "capitalize", "center", "count", "decode", "endswith", "expandtabs", "find", "fromhex", "hex", "index", "isalnum", "isalpha", "isascii", "isdigit", "islower", "isspace", "istitle", "isupper", "join", "ljust", "lower", "lstrip", "maketrans", "partition", "replace", "removeprefix", "removesuffix", "rfind", "rindex", "rjust", "rpartition", "rsplit", "rstrip", "split", "splitlines", "startswith", "strip", "swapcase", "title", "translate", "upper", "zfill"],
    []⟩,
  ⟨"classmethod", ["object"], "builtins", true, false, "classmethod",
    ["__new__", "__repr__", "__get__", "__init__"],
    ["__func__", "__wrapped__", "__isabstractmethod__"]⟩,
  ⟨"complex", ["object"], "builtins", true, false, "complex",
    ["__new__", "__repr__", "__hash__", "__getattribute__", "__lt__", "__le__", "__eq__", "__ne__", "__gt__", "__ge__", "__add__", "__radd__", "__sub__", "__rsub__", "__mul__", "__rmul__", "__pow__", "__rpow__", "__neg__", "__pos__", "__abs__", "__bool__", "__truediv__", "__rtruediv__", "conjugate", "__complex__", "__getnewargs__", "__format__"],
    ["real", "imag"]⟩,
  ⟨"dict", ["object"], "builtins", true, false, "dict",
    ["__new__", "__repr__", "__getattribute__", "__lt__", "__le__", "__eq__", "__ne__", "__gt__", "__ge__", "__iter__", "__init__", "__or__", "__ror__", "__ior__", "__len__", "__getitem__", "__setitem__", "__delitem__", "__contains__", "__sizeof__", "get", "setdefault", "pop", "popitem", "keys", "items", "values", "update", "fromkeys", "clear", "copy", "__reversed__", "__class_getitem__"],
    []⟩,
  ⟨"enumerate", ["object"], "builtins", true, false, "enumerate",
    ["__new__", "__getattribute__", "__iter__", "__next__", "__reduce__", "__class_getitem__"],
    []⟩,
  ⟨"filter", ["object"], "builtins", true, false, "filter",
    ["__new__", "__getattribute__", "__iter__", "__next__", "__reduce__"],
    []⟩,
  ⟨"float", ["object"], "builtins", true, false, "float",
    ["__new__", "__repr__", "__hash__", "__getattribute__", "__lt__", "__le__", "__eq__", "__ne__", "__gt__", "__ge__", "__add__", "__radd__", "__sub__", "__rsub__", "__mul__", "__rmul__", "__mod__", "__rmod__", "__divmod__", "__rdivmod__", "__pow__", "__rpow__", "__neg__", "__pos__", "__abs__", "__bool__", "__int__", "__float__", "__floordiv__", "__rfloordiv__", "__truediv__", "__rtruediv__", "conjugate", "__trunc__", "__floor__", "__ceil__", "__round__", "as_integer_ratio", "fromhex", "hex", "is_integer", "__getnewargs__", "__getformat__", "__format__"],
    ["real", "imag"]⟩,
  ⟨"frozenset", ["object"], "builtins", true, false, "frozenset",
    ["__new__", "__repr__", "__hash__", "__getattribute__", "__lt__", "__le__", "__eq__", "__ne__", "__gt__", "__ge__", "__iter__", "__sub__", "__rsub__", "__and__", "__rand__", "__xor__", "__rxor__", "__or__", "__ror__", "__len__", "__contains__", "copy", "difference", "intersection", "isdisjoint", "issubset", "issuperset", "__reduce__", "__sizeof__", "symmetric_difference", "union", "__class_getitem__"],
    []⟩,
  ⟨"int", ["object"], "builtins", true, false, "int",
    ["__new__", "__repr__", "__hash__", "__getattribute__", "__lt__", "__le__", "__eq__", "__ne__", "__gt__", "__ge__", "__add__", "__radd__", "__sub__", "__rsub__", "__mul__", "__rmul__", "__mod__", "__rmod__", "__divmod__", "__rdivmod__", "__pow__", "__rpow__", "__neg__", "__pos__", "__abs__", "__bool__", "__invert__", "__lshift__", "__rlshift__", "__rshift__", "__rrshift__", "__and__", "__rand__", "__xor__", "__rxor__", "__or__", "__ror__", "__int__", "__float__", "__floordiv__", "__rfloordiv__", "__truediv__", "__rtruediv__", "__index__", "conjugate", "bit_length", "bit_count", "to_bytes", "from_bytes", "as_integer_ratio", "__trunc__", "__floor__", "__ceil__", "__round__", "__getnewargs__", "__format__", "__sizeof__"],
    ["real", "imag", "numerator", "denominator"]⟩,
  ⟨"list", ["object"], "builtins", true, false, "list",
    ["__new__", "__repr__", "__getattribute__", "__lt__", "__le__", "__eq__", "__ne__", "__gt__", "__ge__", "__iter__", "__init__", "__len__", "__getitem__", "__setitem__", "__delitem__", "__add__", "__mul__", "__rmul__", "__contains__", "__iadd__", "__imul__", "__reversed__", "__sizeof__", "clear", "copy", "append", "insert", "extend", "pop", "remove", "index", "count", "reverse", "sort", "__class_getitem__"],
    []⟩,
  ⟨"map", ["object"], "builtins", true, false, "map",
    ["__new__", "__getattribute__", "__iter__", "__next__", "__reduce__"],
    []⟩,
  ⟨"memoryview", ["object"], "builtins", true, true, "memoryview",
    ["__new__", "__repr__", "__hash__", "__getattribute__", "__lt__", "__le__", "__eq__", "__ne__", "__gt__", "__ge__", "__iter__", "__len__", "__getitem__", "__setitem__", "__delitem__", "release", "tobytes", "hex", "tolist", "cast", "toreadonly", "__enter__", "__exit__"],
    ["obj", "nbytes", "readonly", "itemsize", "format", "ndim", "shape", "strides", "suboffsets", "c_contiguous", "f_contiguous", "contiguous"]⟩,
  ⟨"object", [], "builtins", true, false, "object",
    ["__new__", "__repr__", "__hash__", "__str__", "__getattribute__", "__setattr__", "__delattr__", "__lt__", "__le__", "__eq__", "__ne__", "__gt__", "__ge__", "__init__", "__reduce_ex__", "__reduce__", "__getstate__", "__subclasshook__", "__init_subclass__", "__format__", "__sizeof__", "__dir__"],
    ["__class__"]⟩,
  ⟨"property", ["object"], "builtins", true, false, "property",
    ["__new__", "__getattribute__", "__get__", "__set__", "__delete__", "__init__", "getter", "setter", "deleter", "__set_name__"],
    ["fget", "fset", "fdel", "__isabstractmethod__"]⟩,
  ⟨"range", ["object"], "builtins", true, true, "range",
    ["__new__", "__repr__", "__hash__", "__getattribute__", "__lt__", "__le__", "__eq__", "__ne__", "__gt__", "__ge__", "__iter__", "__bool__", "__len__", "__getitem__", "__contains__", "__reversed__", "__reduce__", "count", "index"],
    ["start", "stop", "step"]⟩,
  ⟨"reversed", ["object"], "builtins", true, false, "reversed",
    ["__new__", "__getattribute__", "__iter__", "__next__", "__length_hint__", "__reduce__", "__setstate__"],
    []⟩,
  ⟨"set", ["object"], "builtins", true, false, "set",
    ["__new__", "__repr__", "__getattribute__", "__lt__", "__le__", "__eq__", "__ne__", "__gt__", "__ge__", "__iter__", "__init__", "__sub__", "__rsub__", "__and__", "__rand__", "__xor__", "__rxor__", "__or__", "__ror__", "__isub__", "__iand__", "__ixor__", "__ior__", "__len__", "__contains__", "add", "clear", "copy", "discard", "difference", "difference_update", "intersection", "intersection_update", "isdisjoint", "issubset", "issuperset", "pop", "__reduce__", "remove", "__sizeof__", "symmetric_difference", "symmetric_difference_update", "union", "update", "__class_getitem__"],
    []⟩,
  ⟨"slice", ["object"], "builtins", true, true, "slice",
    ["__new__", "__repr__", "__getattribute__", "__lt__", "__le__", "__eq__", "__ne__", "__gt__", "__ge__", "indices", "__reduce__"],
    ["start", "stop", "step"]⟩,
  ⟨"staticmethod", ["object"], "builtins", true, false, "staticmethod",
    ["__new__", "__repr__", "__call__", "__get__", "__init__"],
    ["__func__", "__wrapped__", "__isabstractmethod__"]⟩,
  ⟨"str", ["object"], "builtins", true, false, "str",
    ["__new__", "__repr__", "__hash__", "__str__", "__getattribute__", "__lt__", "__le__", "__eq__", "__ne__", "__gt__", "__ge__", "__iter__", "__mod__", "__rmod__", "__len__", "__getitem__", "__add__", "__mul__", "__rmul__", "__contains__", "encode", "replace", "split", "rsplit", "join", "capitalize", "casefold", "title", "center", "count", "expandtabs", "find", "partition", "index", "ljust", "lower", "lstrip", "rfind", "rindex", "rjust", "rstrip", "rpartition", "splitlines", "strip", "swapcase", "translate", "upper", "startswith", "endswith", "removeprefix", "removesuffix", "isascii", "islower", "isupper", "istitle", "isspace", "isdecimal", "isdigit", "isnumeric", "isalpha", "isalnum", "isidentifier", "isprintable", "zfill", "format", "format_map", "__format__", "maketrans", "__sizeof__", "__getnewargs__"],
    []⟩,
  ⟨"super", ["object"], "builtins", true, false, "super",
    ["__new__", "__repr__", "__getattribute__", "__get__", "__init__"],
    ["__thisclass__", "__self__", "__self_class__"]⟩,
  ⟨"tuple", ["object"], "builtins", true, false, "tuple",
    ["__new__", "__repr__", "__hash__", "__getattribute__", "__lt__", "__le__", "__eq__", "__ne__", "__gt__", "__ge__", "__iter__", "__len__", "__getitem__", "__add__", "__mul__", "__rmul__", "__contains__", "__getnewargs__", "index", "count", "__class_getitem__"],
    []⟩,
  ⟨"type", ["object"], "builtins", true, false, "type",
    ["__new__", "__repr__", "__call__", "__getattribute__", "__setattr__", "__delattr__", "__init__", "__or__", "__ror__", "mro", "__subclasses__", "__prepare__", "__instancecheck__", "__subclasscheck__", "__dir__", "__sizeof__"],
    ["__basicsize__", "__itemsize__", "__flags__", "__weakrefoffset__", "__base__", "__dictoffset__", "__mro__", "__name__", "__qualname__", "__bases__", "__abstractmethods__", "__text_signature__", "__annotations__"]⟩,
  ⟨"zip", ["object"], "builtins", true, false, "zip",
    ["__new__", "__getattribute__", "__iter__", "__next__", "__reduce__", "__setstate__"],
    []⟩,
  ⟨"NoneType", ["object"], "builtins", false, true, "object",
    ["__new__", "__repr__", "__bool__"],
    []⟩,
  ⟨"NotImplementedType", ["object"], "builtins", false, true, "object",
    ["__new__", "__repr__", "__bool__", "__reduce__"],
    []⟩,
  ⟨"ellipsis", ["object"], "builtins", false, true, "object",
    ["__new__", "__repr__", "__getattribute__", "__reduce__"],
    []⟩,
  ⟨"function", ["object"], "builtins", false, true, "function",
    ["__new__", "__repr__", "__call__", "__get__"],
    ["__closure__", "__globals__", "__builtins__", "__code__", "__defaults__", "__kwdefaults__", "__annotations__", "__name__", "__qualname__"]⟩,
  ⟨"builtin_function_or_method", ["object"], "builtins", false, true, "builtin_function_or_method",
    ["__repr__", "__hash__", "__call__", "__getattribute__", "__lt__", "__le__", "__eq__", "__ne__", "__gt__", "__ge__", "__reduce__"],
    ["__name__", "__qualname__", "__self__", "__text_signature__"]⟩,
  ⟨"method", ["object"], "builtins", false, true, "method",
    ["__new__", "__repr__", "__hash__", "__call__", "__getattribute__", "__setattr__", "__delattr__", "__lt__", "__le__", "__eq__", "__ne__", "__gt__", "__ge__", "__reduce__"],
    ["__func__", "__self__"]⟩,
  ⟨"module", ["object"], "builtins", false, false, "module",
    ["__new__", "__repr__", "__getattribute__", "__setattr__", "__delattr__", "__init__", "__dir__"],
    ["__annotations__"]⟩,
  ⟨"generator", ["object"], "builtins", false, true, "generator",
    ["__repr__", "__getattribute__", "__iter__", "__next__", "__del__", "send", "throw", "close", "__sizeof__"],
    ["gi_code", "__name__", "__qualname__", "gi_yieldfrom", "gi_running", "gi_frame", "gi_suspended"]⟩,
  ⟨"iterator", ["object"], "builtins", false, true, "iterator",
    ["__getattribute__", "__iter__", "__next__", "__length_hint__", "__reduce__", "__setstate__"],
    []⟩,
  ⟨"list_iterator", ["object"], "builtins", false, true, "list_iterator",
    ["__getattribute__", "__iter__", "__next__", "__length_hint__", "__reduce__", "__setstate__"],
    []⟩,
  ⟨"tuple_iterator", ["object"], "builtins", false, true, "tuple_iterator",
    ["__getattribute__", "__iter__", "__next__", "__length_hint__", "__reduce__", "__setstate__"],
    []⟩,
  ⟨"str_ascii_iterator", ["object"], "builtins", false, true, "str_ascii_iterator",
    ["__getattribute__", "__iter__", "__next__", "__length_hint__", "__reduce__", "__setstate__"],
    []⟩,
  ⟨"str_iterator", ["object"], "builtins", false, true, "str_iterator",
    ["__getattribute__", "__iter__", "__next__", "__length_hint__", "__reduce__", "__setstate__"],
    []⟩,
  ⟨"range_iterator", ["object"], "builtins", false, true, "range_iterator",
    ["__getattribute__", "__iter__", "__next__", "__length_hint__", "__reduce__", "__setstate__"],
    []⟩,
  ⟨"dict_keyiterator", ["object"], "builtins", false, true, "dict_keyiterator",
    ["__getattribute__", "__iter__", "__next__", "__length_hint__", "__reduce__"],
    []⟩,
  ⟨"dict_valueiterator", ["object"], "builtins", false, true, "dict_valueiterator",
    ["__getattribute__", "__iter__", "__next__", "__length_hint__", "__reduce__"],
    []⟩,
  ⟨"dict_itemiterator", ["object"], "builtins", false, true, "dict_itemiterator",
    ["__getattribute__", "__iter__", "__next__", "__length_hint__", "__reduce__"],
    []⟩,
  ⟨"set_iterator", ["object"], "builtins", false, true, "set_iterator",
    ["__getattribute__", "__iter__", "__next__", "__length_hint__", "__reduce__"],
    []⟩,
  ⟨"bytes_iterator", ["object"], "builtins", false, true, "bytes_iterator",
    ["__getattribute__", "__iter__", "__next__", "__length_hint__", "__reduce__", "__setstate__"],
    []⟩,
  ⟨"dict_keys", ["object"], "builtins", false, true, "dict_keys",
    ["__repr__", "__getattribute__", "__lt__", "__le__", "__eq__", "__ne__", "__gt__", "__ge__", "__iter__", "__sub__", "__rsub__", "__and__", "__rand__", "__xor__", "__rxor__", "__or__", "__ror__", "__len__", "__contains__", "isdisjoint", "__reversed__"],
    ["mapping"]⟩,
  ⟨"dict_values", ["object"], "builtins", false, true, "dict_values",
    ["__repr__", "__getattribute__", "__iter__", "__len__", "__reversed__"],
    ["mapping"]⟩,
  ⟨"dict_items", ["object"], "builtins", false, true, "dict_items",
    ["__repr__", "__getattribute__", "__lt__", "__le__", "__eq__", "__ne__", "__gt__", "__ge__", "__iter__", "__sub__", "__rsub__", "__and__", "__rand__", "__xor__", "__rxor__", "__or__", "__ror__", "__len__", "__contains__", "isdisjoint", "__reversed__"],
    ["mapping"]⟩,
  ⟨"method_descriptor", ["object"], "builtins", false, true, "method_descriptor",
    ["__repr__", "__call__", "__getattribute__", "__get__", "__reduce__"],
    ["__objclass__", "__name__", "__qualname__", "__text_signature__"]⟩,
  ⟨"mappingproxy", ["object"], "builtins", false, true, "mappingproxy",
    ["__new__", "__repr__", "__str__", "__getattribute__", "__lt__", "__le__", "__eq__", "__ne__", "__gt__", "__ge__", "__iter__", "__or__", "__ror__", "__ior__", "__len__", "__getitem__", "__contains__", "get", "keys", "values", "items", "copy", "__class_getitem__", "__reversed__"],
    []⟩,
  ⟨"callable_iterator", ["object"], "builtins", false, true, "callable_iterator",
    ["__getattribute__", "__iter__", "__next__", "__reduce__"],
    []⟩,
  ⟨"cell", ["object"], "builtins", false, true, "cell",
    ["__new__", "__repr__", "__getattribute__", "__lt__", "__le__", "__eq__", "__ne__", "__gt__", "__ge__"],
    ["cell_contents"]⟩,
  ⟨"code", ["object"], "builtins", false, true, "code",
    ["__new__", "__repr__", "__hash__", "__getattribute__", "__lt__", "__le__", "__eq__", "__ne__", "__gt__", "__ge__", "__sizeof__", "co_lines", "co_positions", "replace", "_varname_from_oparg"],
    ["co_argcount", "co_posonlyargcount", "co_kwonlyargcount", "co_stacksize", "co_flags", "co_nlocals", "co_consts", "co_names", "co_filename", "co_name", "co_qualname", "co_firstlineno", "co_linetable", "co_exceptiontable", "co_lnotab", "_co_code_adaptive", "co_varnames", "co_cellvars", "co_freevars", "co_code"]⟩,
  ⟨"list_reverseiterator", ["object"], "builtins", false, true, "list_reverseiterator",
    ["__getattribute__", "__iter__", "__next__", "__length_hint__", "__reduce__", "__setstate__"],
    []⟩,
  ⟨"bytearray_iterator", ["object"], "builtins", false, true, "bytearray_iterator",
    ["__getattribute__", "__iter__", "__next__", "__length_hint__", "__reduce__", "__setstate__"],
    []⟩,
  ⟨"SimpleNamespace", ["object"], "types", false, false, "object",
    ["__new__", "__repr__", "__getattribute__", "__setattr__", "__delattr__", "__lt__", "__le__", "__eq__", "__ne__", "__gt__", "__ge__", "__init__", "__reduce__"],
    []⟩,
  ⟨"method-wrapper", ["object"], "builtins", false, true, "method-wrapper",
    ["__repr__", "__hash__", "__call__", "__getattribute__", "__lt__", "__le__", "__eq__", "__ne__", "__gt__", "__ge__", "__reduce__"],
    ["__self__", "__objclass__", "__name__", "__qualname__", "__text_signature__"]⟩,
  ⟨"wrapper_descriptor", ["object"], "builtins", false, true, "wrapper_descriptor",
    ["__repr__", "__call__", "__getattribute__", "__get__", "__reduce__"],
    ["__objclass__", "__name__", "__qualname__", "__text_signature__"]⟩,
  ⟨"getset_descriptor", ["object"], "builtins", false, true, "getset_descriptor",
    ["__repr__", "__getattribute__", "__get__", "__set__", "__delete__"],
    ["__objclass__", "__name__", "__qualname__"]⟩,
  ⟨"member_descriptor", ["object"], "builtins", false, true, "member_descriptor",
    ["__repr__", "__getattribute__", "__get__", "__set__", "__delete__", "__reduce__"],
    ["__objclass__", "__name__", "__qualname__"]⟩,
  ⟨"classmethod_descriptor", ["object"], "builtins", false, true, "classmethod_descriptor",
    ["__repr__", "__call__", "__getattribute__", "__get__"],
    ["__objclass__", "__name__", "__qualname__", "__text_signature__"]⟩,
  ⟨"traceback", ["object"], "builtins", false, true, "traceback",
    ["__new__", "__getattribute__", "__dir__"],
    ["tb_frame", "tb_lasti", "tb_next", "tb_lineno"]⟩,
  ⟨"frame", ["object"], "builtins", false, true, "frame",
    ["__repr__", "__getattribute__", "__setattr__", "__delattr__", "clear", "__sizeof__"],
    ["f_trace_lines", "f_trace_opcodes", "f_back", "f_locals", "f_lineno", "f_trace", "f_lasti", "f_globals", "f_builtins", "f_code"]⟩,
  ⟨"longrange_iterator", ["object"], "builtins", false, true, "longrange_iterator",
    ["__getattribute__", "__iter__", "__next__", "__length_hint__", "__reduce__", "__setstate__"],
    []⟩,
  ⟨"JSONDecodeError", ["ValueError"], "json.decoder", false, false, "BaseException",
    ["__init__", "__reduce__"],
    []⟩,
  ⟨"_IOBase", ["object"], "_io", false, false, "_IOBase",
    ["__new__", "__enter__", "__exit__", "__iter__", "__next__", "readlines", "readline", "close", "readable", "writable", "seekable", "flush", "fileno", "isatty", "writelines", "tell", "seek", "truncate", "__del__"],
    ["closed", "__dict__"]⟩,
  ⟨"_TextIOBase", ["_IOBase"], "_io", false, false, "_IOBase",
    ["detach", "read", "readline", "write"],
    ["encoding", "newlines", "errors"]⟩,
  ⟨"_BufferedIOBase", ["_IOBase"], "_io", false, false, "_IOBase",
    ["detach", "read", "read1", "readinto", "readinto1", "write"],
    []⟩,
  ⟨"TextIOWrapper", ["_TextIOBase"], "_io", false, false, "TextIOWrapper",
    ["__new__", "__repr__", "__next__", "__init__", "detach", "reconfigure", "write", "read", "readline", "flush", "close", "fileno", "seekable", "readable", "writable", "isatty", "seek", "tell", "truncate"],
    ["encoding", "buffer", "line_buffering", "write_through", "_finalizing", "name", "closed", "newlines", "errors", "_CHUNK_SIZE"]⟩,
  ⟨"BufferedReader", ["_BufferedIOBase"], "_io", false, false, "BufferedReader",
    ["__new__", "__repr__", "__next__", "__init__", "detach", "flush", "close", "seekable", "readable", "fileno", "isatty", "_dealloc_warn", "read", "peek", "read1", "readinto", "readinto1", "readline", "seek", "tell", "truncate", "__sizeof__"],
    ["raw", "_finalizing", "closed", "name", "mode"]⟩

]

/-- The classes of the language, by name. -/
def builtinClassMap : Std.HashMap String BuiltinClass :=
  Std.HashMap.ofList (builtinClassList.map fun c => (c.name, c))

/-- The class of the language of a name. -/
def builtinClass? (name : String) : Option BuiltinClass := builtinClassMap.get? name

/-- Take the first head of the lists that is in no list's tail, and remove it from every
list's front; `none` when no head qualifies. -/
def mergeStep (seqs : List (List ClassRef)) : Option (ClassRef × List (List ClassRef)) :=
  let free? := seqs.findSome? fun
    | h :: _ => if seqs.any (fun t => t.tail.contains h) then none else some h
    | [] => none
  free?.map fun h => (h, seqs.map fun
    | x :: r => if x == h then r else x :: r
    | [] => [])

/-- The C3 merge of lists, at most `fuel` steps. -/
def c3Merge : Nat -> List (List ClassRef) -> Array ClassRef -> Option (Array ClassRef)
  | 0, _, _ => none
  | fuel + 1, seqs, acc =>
    let seqs := seqs.filter (!·.isEmpty)
    if seqs.isEmpty then some acc else
    match mergeStep seqs with
    | none => none
    | some (h, rest) => c3Merge fuel rest (acc.push h)

/-- The method resolution order of a class with these bases and their orders: `none` when
the orders cannot be merged. -/
def linearize (self : ClassRef) (bases : List ClassRef) (orders : List (List ClassRef)) :
    Option (Array ClassRef) :=
  let seqs := orders ++ [bases]
  c3Merge (seqs.foldl (fun n s => n + s.length) 1) seqs #[self]

/-- The method resolution order of a class of the language, looking up at most `fuel`
levels of bases. -/
def builtinOrder : Nat -> String -> List ClassRef
  | 0, n => [.builtin n]
  | fuel + 1, n =>
    match builtinClass? n with
    | none => [.builtin n]
    | some c =>
      let bases := c.bases.map ClassRef.builtin
      let orders := c.bases.map (builtinOrder fuel)
      ((linearize (.builtin n) bases orders).map Array.toList).getD [.builtin n]

/-- The method resolution orders of the classes of the language, by name. -/
def builtinOrderMap : Std.HashMap String (Array ClassRef) :=
  Std.HashMap.ofList (builtinClassList.map fun c => (c.name, (builtinOrder 12 c.name).toArray))

/-- The method resolution order of a class of the language. -/
def builtinMro (name : String) : Array ClassRef :=
  (builtinOrderMap.get? name).getD #[.builtin name, .builtin "object"]

end GraphProbe.Code
