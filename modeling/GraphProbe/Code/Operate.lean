import GraphProbe.Code.Printf

/-!
# Operators, items and attributes

The operations code writes with symbols: arithmetic and bitwise operators, item access
`x[k]` with its assignment and deletion, membership `in`, and attribute access `x.a`.

An operator first asks the operands' classes. When a class the code defined provides the
special method (`__add__`, or `__radd__` on the right operand), it is called; the right
operand's reflected method goes first when its class derives from the left one's. A method
that returns `NotImplemented` passes the turn on. Values of the language's own classes then
follow their class's rule (`builtinBinary`): numbers by the numeric tower, texts, byte
strings, tuples and lists concatenate and repeat, sets combine, and `%` formats. When no
side applies, the error names the operator and both classes, except where a sequence has its
own message (`can only concatenate str (not "int") to str`).

Dictionaries and sets take only hashable keys: numbers, texts, tuples of hashable values and
objects whose class keeps a hash; lists, dictionaries, sets and classes that define `__eq__`
without `__hash__` are refused.
-/

namespace GraphProbe.Code

/-- The symbol of an operator, as messages show it. -/
def BinaryOp.symbol : BinaryOp -> String
  | .add => "+" | .sub => "-" | .mul => "*" | .matMul => "@" | .div => "/"
  | .floorDiv => "//" | .mod => "%" | .pow => "**" | .shiftLeft => "<<" | .shiftRight => ">>"
  | .bitOr => "|" | .bitXor => "^" | .bitAnd => "&"

/-- The stem of an operator's special methods (`add` for `__add__`, `__radd__`, `__iadd__`). -/
def BinaryOp.stem : BinaryOp -> String
  | .add => "add" | .sub => "sub" | .mul => "mul" | .matMul => "matmul" | .div => "truediv"
  | .floorDiv => "floordiv" | .mod => "mod" | .pow => "pow" | .shiftLeft => "lshift"
  | .shiftRight => "rshift" | .bitOr => "or" | .bitXor => "xor" | .bitAnd => "and"

/-- The positions a slice selects in a sequence of a length, by the language's rule for
bounds: negative bounds count from the end, and bounds beyond the ends are clipped. -/
def slicePositions (len : Nat) (start stop : Option Int) (step : Int) : List Nat :=
  let n : Int := len
  let clip (i : Int) : Int :=
    let i := if i < 0 then i + n else i
    if i < 0 then (if step < 0 then -1 else 0)
    else if i ≥ n then (if step < 0 then n - 1 else n)
    else i
  let a := match start with
    | some i => clip i
    | none => if step < 0 then n - 1 else 0
  let b := match stop with
    | some i => clip i
    | none => if step < 0 then -1 else n
  let count : Nat :=
    if step < 0 then (if b < a then ((a - b - 1) / (-step) + 1).toNat else 0)
    else if a < b then ((b - a - 1) / step + 1).toNat else 0
  (List.range count).map fun (k : Nat) => (a + step * (k : Int)).toNat

/-- The items of an array at positions. -/
def pickPositions (xs : Array α) (ps : List Nat) [Inhabited α] : Array α :=
  (ps.map fun p => xs[p]!).toArray

/-- The classes of the language whose instances are unhashable. -/
def unhashableClasses : List String := ["list", "dict", "set", "bytearray"]

/-- The position of a key among a dictionary's entries, by a key comparison. -/
def findKey (eq : Val -> Val -> Run Bool) (es : Array (Val × Val)) (k : Val) : Run (Option Nat) := do
  for i in [0:es.size] do
    if <- eq es[i]!.1 k then return some i
  return none

/-- The position of an item in an array, by a comparison. -/
def findItem (eq : Val -> Val -> Run Bool) (xs : Array Val) (k : Val) : Run (Option Nat) := do
  for i in [0:xs.size] do
    if <- eq xs[i]! k then return some i
  return none

/-- Whether a class keeps a hash for its instances: the first class of its lineage that says
decides (a class the code defined sets `__hash__`, to `None` when it defines `__eq__`
alone). -/
def classHashable (c : ClassRef) : Run Bool := do
  for k in <- c.mro do
    match k with
    | .user id =>
      match lookupName (<- Run.userClass id).attrs "__hash__" with
      | some .none => return false
      | some _ => return true
      | none => pure ()
    | .builtin b =>
      if unhashableClasses.contains b then return false
      if b != "object" then
        if b == "frozenset" || b == "tuple" || b == "int" || b == "str" then return true
  return true

/-- Whether a value is hashable; `fuel` bounds nested tuples. -/
def hashableWith : Nat -> Val -> Run Bool
  | 0, _ => pure true
  | fuel + 1, v => do
    match v with
    | .tuple xs => xs.allM (hashableWith fuel)
    | .slice .. => pure false
    | .ref id =>
      match <- Run.obj id with
      | .list _ | .dict _ | .bytearray _ => pure false
      | .set _ frozen => pure frozen
      | .inst i => classHashable i.cls
      | _ => pure true
    | _ => pure true

/-- Refuse a value that is not hashable as a key. -/
def requireHashable (v : Val) : Run Unit := do
  if !(<- hashableWith 100 v) then Run.typeError s!"unhashable type: '{<- typeName v}'"

/-- Raise a key error for a key. -/
def keyError (k : Val) : Run α := do
  throw (.thrown (<- Run.newError "KeyError" #[k]))

/-- The index an item access asks for, or the slice. -/
inductive Key where
  | index (i : Int)
  | slice (start stop : Option Int) (step : Int)

/-- The position of an index into a sequence of a length, if it is inside. -/
def indexPosition (len : Nat) (i : Int) : Option Nat :=
  let j := if i < 0 then i + len else i
  if j < 0 || j ≥ len then none else some j.toNat

/-- Read an item or slice of a sequence of fixed items: the item, or the selected items
made a sequence by `rebuild`. -/
def seqGet (xs : Array Val) (k : Key) (outOfRange : String) (rebuild : Array Val -> Run Val) :
    Run Val := do
  match k with
  | .index i =>
    match indexPosition xs.size i with
    | some p => pure xs[p]!
    | none => Run.raise "IndexError" outOfRange
  | .slice a b c => rebuild (pickPositions xs (slicePositions xs.size a b c))

/-- The code points of a text as one-character texts. -/
def pointVals (s : String) : Array Val := (Text.codes s).toArray.map fun n => .str (Text.pointText n)

/-- Replace the items of an array at a slice by new items: a plain slice takes any number,
an extended one exactly as many as it selects. -/
def spliceItems (xs : Array α) (a b : Option Int) (step : Int) (new : Array α) : Run (Array α) := do
  if step == 1 then
    let n : Int := xs.size
    let clip (i : Int) : Nat := (max 0 (min n (if i < 0 then i + n else i))).toNat
    let lo := (a.map clip).getD 0
    let hi := max lo ((b.map clip).getD xs.size)
    pure (xs.extract 0 lo ++ new ++ xs.extract hi xs.size)
  else
    let ps := slicePositions xs.size a b step
    if ps.length != new.size then
      Run.valueError s!"attempt to assign sequence of size {new.size} to extended slice of size {ps.length}"
    let mut out := xs
    for (p, x) in ps.zip new.toList do
      out := out.set! p x
    pure out

/-- Remove the items of an array at a slice. -/
def removeSlice (xs : Array α) (a b : Option Int) (step : Int) : Array α :=
  let ps := slicePositions xs.size a b step
  (xs.toList.zipIdx.filter fun (_, i) => !ps.contains i).toArray.map Prod.fst

/-- Whether a value can be iterated over without calling into code. -/
def iterable (v : Val) : Run Bool := do
  match v with
  | .str _ | .bytes _ | .tuple _ | .range .. => pure true
  | .ref id =>
    match <- Run.obj id with
    | .list _ | .dict _ | .set .. | .bytearray _ | .iterator _ | .view .. | .file _ => pure true
    | .inst i =>
      if (<- userMethod? v "__iter__").isSome || (<- userMethod? v "__getitem__").isSome then pure true
      else match i.core with
        | .none => pure false
        | _ => pure true
    | _ => pure false
  | _ => pure false

/-- Repeat a sequence of items a number of times, stalling on results too large. -/
def repeatItems (xs : Array α) (n : Int) : Run (Array α) := do
  if n ≤ 0 || xs.isEmpty then return #[]
  if xs.size * n.toNat > 100000000 then Run.stall
  let mut out := #[]
  for _ in [0:n.toNat] do out := out ++ xs
  return out

/-- The items of a set or frozen set with whether it is frozen. -/
def setOf? (v : Val) : Run (Option (Array Val × Bool)) := do
  match v with
  | .ref id =>
    match <- Run.obj id with
    | .set xs frozen => pure (some (xs, frozen))
    | _ => pure none
  | _ => pure none

/-- Whether a value is a sequence of the language that repeats by an integer. -/
def isSequence (v : Val) : Run Bool := do
  match v with
  | .str _ | .bytes _ | .tuple _ => pure true
  | .ref id =>
    match <- Run.obj id with
    | .list _ | .bytearray _ => pure true
    | _ => pure false
  | _ => pure false

/-- The error of an operator no side applies to; `symbol` is how the statement wrote it
(`+` or `+=`). -/
def binaryFailure (op : BinaryOp) (symbol : String) (a b : Val) : Run α := do
  let ca <- coreOf a
  let cb <- coreOf b
  let ta <- typeName a
  let tb <- typeName b
  if op == .add then
    match ca with
    | .str _ => Run.typeError s!"can only concatenate str (not \"{tb}\") to str"
    | .tuple _ => Run.typeError s!"can only concatenate tuple (not \"{tb}\") to tuple"
    | .bytes _ => Run.typeError s!"can't concat {tb} to bytes"
    | .ref id =>
      match <- Run.obj id with
      | .list _ => Run.typeError s!"can only concatenate list (not \"{tb}\") to list"
      | .bytearray _ => Run.typeError s!"can't concat {tb} to bytearray"
      | _ => pure ()
    | _ => pure ()
  if op == .mul then
    if <- isSequence ca then
      Run.typeError s!"can't multiply sequence by non-int of type '{tb}'"
    if <- isSequence cb then
      Run.typeError s!"can't multiply sequence by non-int of type '{ta}'"
  let shown := if op == .pow && symbol == "**" then "** or pow()" else symbol
  Run.typeError s!"unsupported operand type(s) for {shown}: '{ta}' and '{tb}'"

/-- The exception fields that read as `None` until set. -/
def exceptionFieldDefault (n : String) : Val :=
  if n == "__suppress_context__" then .bool false else .none

/-- The value of a data attribute of a class of the language (`int.real`) on a value. -/
def fieldValue (v : Val) (q : String) : Run Val := do
  let n := ((q.splitOn ".").getLast?).getD q
  let core <- coreOf v
  match core, n with
  | .int i, "real" | .int i, "numerator" => return .int i
  | .bool b, "real" | .bool b, "numerator" => return .int (if b then 1 else 0)
  | .int _, "imag" | .bool _, "imag" => return .int 0
  | .int _, "denominator" | .bool _, "denominator" => return .int 1
  | .float x, "real" => return .float x
  | .float _, "imag" => return .float 0.0
  | .complex re _, "real" => return .float re
  | .complex _ im, "imag" => return .float im
  | .range a _ _, "start" => return .int a
  | .range _ b _, "stop" => return .int b
  | .range _ _ c, "step" => return .int c
  | .slice a _ _, "start" => return a
  | .slice _ b _, "stop" => return b
  | .slice _ _ c, "step" => return c
  | .bound f _, "__func__" => return f
  | .bound _ s, "__self__" => return s
  | .builtin b, "__name__" => return .str (((b.splitOn ".").getLast?).getD b)
  | .builtin b, "__qualname__" => return .str b
  | .method _ b, "__name__" => return .str (((b.splitOn ".").getLast?).getD b)
  | .method _ b, "__qualname__" => return .str b
  | .method s _, "__self__" => return s
  | _, _ => pure ()
  match v with
  | .ref id =>
    match <- Run.obj id with
    | .inst i =>
      if n == "args" then return .tuple i.args
      match i.field n with
      | some x => return x
      | none => return exceptionFieldDefault n
    | .function f =>
      match n with
      | "__name__" => return .str f.name
      | "__qualname__" => return .str f.qualname
      | "__defaults__" => return (if f.defaults.isEmpty then .none else .tuple f.defaults)
      | "__kwdefaults__" =>
        if f.kwDefaults.isEmpty then return .none
        return <- Run.newDict (f.kwDefaults.map fun (k, x) => (.str k, x))
      | "__globals__" => return .ref f.module
      | "__closure__" => return .none
      | "__annotations__" => Run.newDict (f.notes.map fun (k, x) => (.str k, x))
      | _ => Run.stall
    | .property g s d _ =>
      match n with
      | "fget" => return g
      | "fset" => return s
      | "fdel" => return d
      | _ => Run.stall
    | .staticMethod f | .classMethod f =>
      if n == "__func__" || n == "__wrapped__" then return f else Run.stall
    | .frame fr =>
      match lookupName fr.vars "contents" with
      | some x => return x
      | none => Run.valueError "Cell is empty"
    | .file f =>
      match n with
      | "name" => return .str f.path
      | "closed" => return .bool f.closed
      | "encoding" => return .str "UTF-8"
      | "mode" => return .str (if f.encoding.isSome then "r" else "rb")
      | _ => Run.stall
    | _ => Run.stall
  | _ => Run.stall

/-- The names of a class's own data, as `type` gives them. -/
def classField (c : ClassRef) (n : String) : Run (Option Val) := do
  match n with
  | "__name__" => return some (.str (<- c.name))
  | "__qualname__" => return some (.str (<- c.qualname))
  | "__mro__" => return some (.tuple ((<- c.mro).map Val.cls))
  | "__class__" => return some (.cls (.builtin "type"))
  | "__bases__" =>
    match c with
    | .builtin b =>
      match builtinClass? b with
      | some bc => return some (.tuple (bc.bases.toArray.map fun x => .cls (.builtin x)))
      | none => return some (.tuple #[])
    | .user id => return some (.tuple ((<- Run.userClass id).bases.map Val.cls))
  | "__base__" =>
    match c with
    | .builtin b =>
      match (builtinClass? b).bind (·.bases.head?) with
      | some x => return some (.cls (.builtin x))
      | none => return some .none
    | .user id =>
      match (<- Run.userClass id).bases[0]? with
      | some x => return some (.cls x)
      | none => return some .none
  | "__module__" =>
    match c with
    | .builtin b => return some (.str (((builtinClass? b).map (·.module)).getD "builtins"))
    | .user _ => return none
  | "__doc__" =>
    match c with
    | .builtin _ => return some .none
    | .user _ => return none
  | _ => return none

/-- Whether an attribute found on a class takes precedence over an instance's own: a
property, or an object whose class defines `__set__` or `__delete__`. -/
def isDataDescriptor (attr : Val) : Run Bool := do
  match attr with
  | .ref id =>
    match <- Run.obj id with
    | .property .. => pure true
    | .inst _ => return (<- userMethod? attr "__set__").isSome || (<- userMethod? attr "__delete__").isSome
    | _ => pure false
  | _ => pure false

/-- The error of setting an attribute a value of the language cannot take. -/
def refuseSetAttr (v : Val) (n : String) : Run Unit := do
  let t <- typeOf v
  match <- lookupClass t n with
  | some (.builtin q, _) =>
    if isBuiltinField q then
      Run.noAttribute s!"attribute '{n}' of '{<- t.name}' objects is not writable" n v
    else Run.noAttribute s!"'{<- t.name}' object attribute '{n}' is read-only" n v
  | _ => Run.noAttribute s!"'{<- t.name}' object has no attribute '{n}'" n v

/-- Every name the modules of the system library hold, modelled or not (empty for a module
whose names are not all known here). A name outside it is no attribute of the module. -/
def libraryAllNames : String -> List String
  | "math" => ["__doc__", "__loader__", "__name__", "__package__", "__spec__", "acos",
      "acosh", "asin", "asinh", "atan", "atan2", "atanh", "cbrt", "ceil", "comb", "copysign",
      "cos", "cosh", "degrees", "dist", "e", "erf", "erfc", "exp", "exp2", "expm1", "fabs",
      "factorial", "floor", "fmod", "frexp", "fsum", "gamma", "gcd", "hypot", "inf", "isclose",
      "isfinite", "isinf", "isnan", "isqrt", "lcm", "ldexp", "lgamma", "log", "log10", "log1p",
      "log2", "modf", "nan", "nextafter", "perm", "pi", "pow", "prod", "radians", "remainder",
      "sin", "sinh", "sqrt", "tan", "tanh", "tau", "trunc", "ulp"]
  | "json" => ["JSONDecodeError", "JSONDecoder", "JSONEncoder", "__all__", "__author__",
      "__builtins__", "__cached__", "__doc__", "__file__", "__loader__", "__name__",
      "__package__", "__path__", "__spec__", "__version__", "_default_decoder",
      "_default_encoder", "codecs", "decoder", "detect_encoding", "dump", "dumps", "encoder",
      "load", "loads", "scanner"]
  | "os.path" => ["__all__", "__builtins__", "__doc__", "__file__", "__loader__", "__name__",
      "__package__", "__spec__", "_get_sep", "_joinrealpath", "_path_normpath", "_varprog",
      "_varprogb", "abspath", "altsep", "basename", "commonpath", "commonprefix", "curdir",
      "defpath", "devnull", "dirname", "exists", "expanduser", "expandvars", "extsep",
      "genericpath", "getatime", "getctime", "getmtime", "getsize", "isabs", "isdir", "isfile",
      "islink", "ismount", "join", "lexists", "normcase", "normpath", "os", "pardir",
      "pathsep", "realpath", "relpath", "samefile", "sameopenfile", "samestat", "sep", "split",
      "splitdrive", "splitext", "stat", "supports_unicode_filenames", "sys"]
  | "string" => ["Formatter", "Template", "_ChainMap", "__all__", "__builtins__",
      "__cached__", "__doc__", "__file__", "__loader__", "__name__", "__package__", "__spec__",
      "_re", "_sentinel_dict", "_string", "ascii_letters", "ascii_lowercase",
      "ascii_uppercase", "capwords", "digits", "hexdigits", "octdigits", "printable",
      "punctuation", "whitespace"]
  | _ => []

/-- The name a module of the system library goes by in messages. -/
def libraryShownName (m : String) : String := if m == "os.path" then "posixpath" else m

namespace Hooks

variable (h : Hooks)


/-! ### Hashing -/

/-! ### Dictionaries -/

/-- The value of a key in a dictionary, if present. -/
def dictGet? (id : Nat) (k : Val) : Run (Option Val) := do
  requireHashable k
  let es <- Run.dictEntries id
  match <- findKey h.keyEqual es k with
  | some i => pure (some es[i]!.2)
  | none => pure none

/-- Set a key of a dictionary, keeping the place of a key already there. -/
def dictSet (id : Nat) (k v : Val) : Run Unit := do
  requireHashable k
  let es <- Run.dictEntries id
  match <- findKey h.keyEqual es k with
  | some i => Run.change id fun
      | .dict es => .dict (es.set! i (es[i]!.1, v))
      | o => o
  | none => Run.change id fun
      | .dict es => .dict (es.push (k, v))
      | o => o

/-- Remove a key from a dictionary: its value, if it was there. -/
def dictRemove (id : Nat) (k : Val) : Run (Option Val) := do
  requireHashable k
  let es <- Run.dictEntries id
  match <- findKey h.keyEqual es k with
  | some i =>
    Run.change id fun
      | .dict es => .dict (es.eraseIdx! i)
      | o => o
    pure (some es[i]!.2)
  | none => pure none

/-! ### Sets -/

/-- Whether a set holds an item. -/
def setHas (xs : Array Val) (x : Val) : Run Bool := do
  return (<- findItem h.keyEqual xs x).isSome

/-- Add items to an array of set items, leaving out those already present. -/
def setAddAll (xs : Array Val) (ys : Array Val) : Run (Array Val) := do
  let mut out := xs
  for y in ys do
    requireHashable y
    if !(<- h.setHas out y) then out := out.push y
  return out

/-! ### Items -/

/-- The items of a value that iterates, collected. -/
def collect (v : Val) : Run (Array Val) := do
  match v with
  | .tuple xs => pure xs
  | _ =>
    match v with
    | .ref id =>
      match <- Run.obj id with
      | .list xs => return xs
      | _ => pure ()
    | _ => pure ()
    let it <- h.iterOf v
    let mut out : Array Val := #[]
    for _ in [0:stepLimit] do
      Run.tick
      match <- h.next it with
      | .item x => out := out.push x
      | .finished _ => return out
    Run.stall

/-- A bound of a slice: none, or an index. -/
def sliceBound (v : Val) : Run (Option Int) := do
  match v with
  | .none => pure none
  | _ =>
    match <- h.toIndex? v with
    | some i => pure (some i)
    | none => Run.typeError "slice indices must be integers or None or have an __index__ method"

/-- Read the key of an item access on a sequence; `none` when it is neither an index nor a
slice. -/
def seqKey (k : Val) : Run (Option Key) := do
  match k with
  | .slice a b c =>
    let step <- match c with
      | .none => pure 1
      | _ =>
        match <- h.toIndex? c with
        | some s => pure s
        | none => Run.typeError "slice indices must be integers or None or have an __index__ method"
    if step == 0 then Run.valueError "slice step cannot be zero"
    return some (.slice (<- h.sliceBound a) (<- h.sliceBound b) step)
  | _ =>
    match <- h.toIndex? k with
    | some i => pure (some (.index i))
    | none => pure none

/-- The item of a value that is not an instance of a class the code defined, at a key. -/
def coreGetItem (obj key : Val) : Run Val := do
  match obj with
  | .str s =>
    match <- h.seqKey key with
    | some k =>
      seqGet (pointVals s) k "string index out of range" fun xs =>
        pure (.str (String.join (xs.toList.map fun | .str c => c | _ => "")))
    | none => Run.typeError s!"string indices must be integers, not '{<- typeName key}'"
  | .bytes bs =>
    match <- h.seqKey key with
    | some k =>
      seqGet (bs.map fun b => .int b.toNat) k "index out of range" fun xs =>
        pure (.bytes (xs.map fun | .int n => n.toNat.toUInt8 | _ => 0))
    | none => Run.typeError s!"byte indices must be integers or slices, not {<- typeName key}"
  | .tuple xs =>
    match <- h.seqKey key with
    | some k => seqGet xs k "tuple index out of range" fun ys => pure (.tuple ys)
    | none => Run.typeError s!"tuple indices must be integers or slices, not {<- typeName key}"
  | .range a b c =>
    match <- h.seqKey key with
    | some (.index i) =>
      match indexPosition (rangeLength a b c) i with
      | some p => pure (.int (a + c * p))
      | none => Run.raise "IndexError" "range object index out of range"
    | some (.slice s t u) =>
      let ps := slicePositions (rangeLength a b c) s t u
      let n := rangeLength a b c
      -- the slice of a range is a range: recompute its bounds from the positions chosen
      let clip (i : Int) : Int :=
        let i := if i < 0 then i + n else i
        if i < 0 then (if u < 0 then -1 else 0) else if i ≥ n then (if u < 0 then n - 1 else n) else i
      let first : Int := match s with
        | some i => clip i
        | none => if u < 0 then n - 1 else 0
      let start := a + c * first
      let stop := start + c * u * ps.length
      pure (.range start stop (c * u))
    | none => Run.typeError s!"range indices must be integers or slices, not {<- typeName key}"
  | .cls c =>
    match c with
    | .user _ =>
      match <- lookupClass c "__class_getitem__" with
      | some (f, _) => h.call (<- h.bindFound obj c f false) #[key] #[]
      | none => Run.typeError s!"type '{<- c.name}' is not subscriptable"
    | .builtin b =>
      if ["list", "dict", "tuple", "set", "frozenset", "type"].contains b then Run.stall
      else Run.typeError s!"type '{b}' is not subscriptable"
  | .ref id =>
    match <- Run.obj id with
    | .list xs =>
      match <- h.seqKey key with
      | some k => seqGet xs k "list index out of range" fun ys => Run.newList ys
      | none => Run.typeError s!"list indices must be integers or slices, not {<- typeName key}"
    | .bytearray bs =>
      match <- h.seqKey key with
      | some k =>
        seqGet (bs.map fun b => .int b.toNat) k "bytearray index out of range" fun xs =>
          Run.alloc (.bytearray (xs.map fun | .int n => n.toNat.toUInt8 | _ => 0))
      | none => Run.typeError s!"bytearray indices must be integers or slices, not {<- typeName key}"
    | .dict _ =>
      match <- h.dictGet? id key with
      | some v => pure v
      | none => keyError key
    | _ => Run.typeError s!"'{<- typeName obj}' object is not subscriptable"
  | _ => Run.typeError s!"'{<- typeName obj}' object is not subscriptable"

/-- The item of a value at a key: `obj[key]`. An instance of a class the code defined takes
its class's `__getitem__`, else the item of the value it extends, a dictionary's missing
keys going to `__missing__`. -/
def getItem (obj key : Val) : Run Val := do
  match obj with
  | .ref id =>
    match <- Run.obj id with
    | .inst i =>
      match <- userMethod? obj "__getitem__" with
      | some f => h.callFound obj f #[key]
      | none =>
        match i.core with
        | .none => Run.typeError s!"'{<- typeName obj}' object is not subscriptable"
        | c@(.ref cid) =>
          match <- Run.obj cid with
          | .dict _ =>
            match <- h.dictGet? cid key with
            | some v => pure v
            | none =>
              match <- userMethod? obj "__missing__" with
              | some f => h.callFound obj f #[key]
              | none => keyError key
          | _ => h.coreGetItem c key
        | c => h.coreGetItem c key
    | _ => h.coreGetItem obj key
  | _ => h.coreGetItem obj key

/-- The octet a value stands for in a byte array. -/
def octetOf (v : Val) : Run UInt8 := do
  let n <- h.toIndex v
  if n < 0 || n > 255 then Run.valueError "byte must be in range(0, 256)"
  pure n.toNat.toUInt8

/-- Set the item of a value that is not an instance of a class the code defined. -/
def coreSetItem (obj key v : Val) : Run Unit := do
  match obj with
  | .ref id =>
    match <- Run.obj id with
    | .list xs =>
      match <- h.seqKey key with
      | some (.index i) =>
        match indexPosition xs.size i with
        | some p => Run.change id fun
            | .list ys => .list (ys.set! p v)
            | o => o
        | none => Run.raise "IndexError" "list assignment index out of range"
      | some (.slice a b c) =>
        let new <- h.collect v
        let xs <- Run.listItems id
        let ys <- spliceItems xs a b c new
        Run.store id (.list ys)
      | none => Run.typeError s!"list indices must be integers or slices, not {<- typeName key}"
    | .bytearray bs =>
      match <- h.seqKey key with
      | some (.index i) =>
        let b <- h.octetOf v
        match indexPosition bs.size i with
        | some p => Run.store id (.bytearray (bs.set! p b))
        | none => Run.raise "IndexError" "bytearray index out of range"
      | some (.slice a b c) =>
        let new <- match <- octets? v with
          | some os => pure os
          | none => (<- h.collect v).mapM h.octetOf
        Run.store id (.bytearray (<- spliceItems bs a b c new))
      | none => Run.typeError s!"bytearray indices must be integers or slices, not {<- typeName key}"
    | .dict _ => h.dictSet id key v
    | _ => Run.typeError s!"'{<- typeName obj}' object does not support item assignment"
  | _ => Run.typeError s!"'{<- typeName obj}' object does not support item assignment"

/-- Set the item of a value at a key: `obj[key] = v`. -/
def setItem (obj key v : Val) : Run Unit := do
  match obj with
  | .ref id =>
    match <- Run.obj id with
    | .inst i =>
      match <- userMethod? obj "__setitem__" with
      | some f => discard <| h.callFound obj f #[key, v]
      | none =>
        match i.core with
        | .ref cid => h.coreSetItem (.ref cid) key v
        | _ => Run.typeError s!"'{<- typeName obj}' object does not support item assignment"
    | _ => h.coreSetItem obj key v
  | _ => h.coreSetItem obj key v

/-- Delete the item of a value that is not an instance of a class the code defined. -/
def coreDelItem (obj key : Val) : Run Unit := do
  match obj with
  | .ref id =>
    match <- Run.obj id with
    | .list xs =>
      match <- h.seqKey key with
      | some (.index i) =>
        match indexPosition xs.size i with
        | some p => Run.store id (.list (xs.eraseIdx! p))
        | none => Run.raise "IndexError" "list assignment index out of range"
      | some (.slice a b c) => Run.store id (.list (removeSlice xs a b c))
      | none => Run.typeError s!"list indices must be integers or slices, not {<- typeName key}"
    | .bytearray bs =>
      match <- h.seqKey key with
      | some (.index i) =>
        match indexPosition bs.size i with
        | some p => Run.store id (.bytearray (bs.eraseIdx! p))
        | none => Run.raise "IndexError" "bytearray index out of range"
      | some (.slice a b c) => Run.store id (.bytearray (removeSlice bs a b c))
      | none => Run.typeError s!"bytearray indices must be integers or slices, not {<- typeName key}"
    | .dict _ =>
      match <- h.dictRemove id key with
      | some _ => pure ()
      | none => keyError key
    | _ => Run.typeError s!"'{<- typeName obj}' object doesn't support item deletion"
  | _ => Run.typeError s!"'{<- typeName obj}' object doesn't support item deletion"

/-- Delete the item of a value at a key: `del obj[key]`. -/
def delItem (obj key : Val) : Run Unit := do
  match obj with
  | .ref id =>
    match <- Run.obj id with
    | .inst i =>
      match <- userMethod? obj "__delitem__" with
      | some f => discard <| h.callFound obj f #[key]
      | none =>
        match i.core with
        | .ref cid => h.coreDelItem (.ref cid) key
        | _ => Run.typeError s!"'{<- typeName obj}' object doesn't support item deletion"
    | _ => h.coreDelItem obj key
  | _ => h.coreDelItem obj key

/-! ### Membership -/

/-- Whether a container holds an item: `item in container`. -/
def contains (container item : Val) : Run Bool := do
  match <- userMethod? container "__contains__" with
  | some f => h.truth (<- h.callFound container f #[item])
  | none =>
  let c <- coreOf container
  match c with
  | .str s =>
    match <- coreOf item with
    | .str t => pure (Seq.find? (Seq.ofText s) (Seq.ofText t) 0 (Text.codeLength s)).isSome
    | _ => Run.typeError s!"'in <string>' requires string as left operand, not {<- typeName item}"
  | .tuple xs => return (<- findItem h.keyEqual xs item).isSome
  | .range a b st =>
    match <- coreOf item with
    | .int n =>
      let inside := if st > 0 then a ≤ n && n < b else b < n && n ≤ a
      pure (inside && (n - a) % st == 0)
    | .bool bv =>
      let n : Int := if bv then 1 else 0
      let inside := if st > 0 then a ≤ n && n < b else b < n && n ≤ a
      pure (inside && (n - a) % st == 0)
    | _ => return (<- findItem h.keyEqual (<- h.collect c) item).isSome
  | _ =>
  match <- octets? c with
  | some bs =>
    match <- coreOf item with
    | .int n =>
      if n < 0 || n > 255 then Run.valueError "byte must be in range(0, 256)"
      pure (bs.contains n.toNat.toUInt8)
    | .bool bv => pure (bs.contains (if bv then 1 else 0))
    | _ =>
      match <- octets? item with
      | some sub => pure (Seq.find? (Seq.ofBytes bs) (Seq.ofBytes sub) 0 bs.size).isSome
      | none => Run.typeError s!"a bytes-like object is required, not '{<- typeName item}'"
  | none =>
  match c with
  | .ref id =>
    match <- Run.obj id with
    | .list xs => return (<- findItem h.keyEqual xs item).isSome
    | .dict _ => return (<- h.dictGet? id item).isSome
    | .set xs _ =>
      requireHashable item
      h.setHas xs item
    | .view d 0 => return (<- h.dictGet? d item).isSome
    | _ =>
      if !(<- iterable c) then
        Run.typeError s!"argument of type '{<- typeName container}' is not iterable"
      let it <- h.iterOf c
      for _ in [0:stepLimit] do
        Run.tick
        match <- h.next it with
        | .item x => if <- h.keyEqual x item then return true
        | .finished _ => return false
      Run.stall
  | _ => Run.typeError s!"argument of type '{<- typeName container}' is not iterable"

/-! ### Operators -/

/-- The count of a sequence repetition, if the value is an integer. -/
def repeatCount (v : Val) : Run (Option Int) := do
  match v with
  | .int n => pure (some n)
  | .bool b => pure (some (if b then 1 else 0))
  | .float _ | .complex .. | .str _ | .bytes _ | .tuple _ | .none => pure none
  | _ => h.toIndex? v

/-- Combine two sets by an operator. -/
def setCombine (op : BinaryOp) (xs ys : Array Val) : Run (Option (Array Val)) := do
  match op with
  | .bitOr => some <$> h.setAddAll xs ys
  | .bitAnd => some <$> xs.filterM (h.setHas ys)
  | .sub => some <$> xs.filterM fun x => do return !(<- h.setHas ys x)
  | .bitXor =>
    let left <- xs.filterM fun x => do return !(<- h.setHas ys x)
    let right <- ys.filterM fun y => do return !(<- h.setHas xs y)
    pure (some (left ++ right))
  | _ => pure none

/-- An operator as a class of the language applies it to two values (the values themselves,
or those an instance extends): the result, or `none` when the class has no rule for the
pair. -/
def builtinBinary (op : BinaryOp) (a b : Val) : Run (Option Val) := do
  match a.num?, b.num? with
  | some x, some y =>
    match numBinary op x y with
    | some r => return some (<- Run.ofExcept r)
    | none => return none
  | _, _ => pure ()
  match op, a, b with
  | .add, .str x, .str y => return some (.str (x ++ y))
  | .add, .tuple xs, .tuple ys => return some (.tuple (xs ++ ys))
  | .mod, .str s, _ =>
    let out <- h.percentFormat false (Text.codes s) b h.getItem
    return some (.str (Text.ofPoints out))
  | .mod, .bytes bs, _ =>
    let out <- h.percentFormat true (bs.toList.map UInt8.toNat) b h.getItem
    return some (.bytes (out.toArray.map Nat.toUInt8))
  | .mul, .str s, _ =>
    match <- h.repeatCount b with
    | some n => return some (.str (String.join (<- repeatItems #[s] n).toList))
    | none => return none
  | .mul, _, .str s =>
    match <- h.repeatCount a with
    | some n => return some (.str (String.join (<- repeatItems #[s] n).toList))
    | none => return none
  | .mul, .tuple xs, _ =>
    match <- h.repeatCount b with
    | some n => return some (.tuple (<- repeatItems xs n))
    | none => return none
  | .mul, _, .tuple xs =>
    match <- h.repeatCount a with
    | some n => return some (.tuple (<- repeatItems xs n))
    | none => return none
  | .mul, .bytes bs, _ =>
    match <- h.repeatCount b with
    | some n => return some (.bytes (<- repeatItems bs n))
    | none => return none
  | .mul, _, .bytes bs =>
    match <- h.repeatCount a with
    | some n => return some (.bytes (<- repeatItems bs n))
    | none => return none
  | _, _, _ => pure ()
  -- byte strings and byte arrays join with any bytes-like value
  if op == .add then
    match <- octets? a, <- octets? b with
    | some x, some y =>
      match a with
      | .bytes _ => return some (.bytes (x ++ y))
      | _ => return some (<- Run.alloc (.bytearray (x ++ y)))
    | _, _ => pure ()
  match a, b with
  | .ref i, .ref j =>
    match <- Run.obj i, <- Run.obj j with
    | .list xs, .list ys => if op == .add then return some (<- Run.newList (xs ++ ys))
    | .dict xs, .dict _ =>
      if op == .bitOr then
        let d <- Run.allocId (.dict xs)
        for (k, v) in <- Run.dictEntries j do h.dictSet d k v
        return some (.ref d)
    | .set xs frozen, .set ys _ =>
      match <- h.setCombine op xs ys with
      | some zs => return some (<- Run.alloc (.set zs frozen))
      | none => pure ()
    | _, _ => pure ()
  | _, _ => pure ()
  match a with
  | .ref i =>
    match <- Run.obj i with
    | .list xs =>
      if op == .mul then
        match <- h.repeatCount b with
        | some n => return some (<- Run.newList (<- repeatItems xs n))
        | none => pure ()
    | .bytearray xs =>
      if op == .mul then
        match <- h.repeatCount b with
        | some n => return some (<- Run.alloc (.bytearray (<- repeatItems xs n)))
        | none => pure ()
      if op == .mod then
        let out <- h.percentFormat true (xs.toList.map UInt8.toNat) b h.getItem
        return some (<- Run.alloc (.bytearray (out.toArray.map Nat.toUInt8)))
    | _ => pure ()
  | _ => pure ()
  match b with
  | .ref j =>
    match <- Run.obj j with
    | .list ys =>
      if op == .mul then
        match <- h.repeatCount a with
        | some n => return some (<- Run.newList (<- repeatItems ys n))
        | none => pure ()
    | _ => pure ()
  | _ => pure ()
  return none

/-- A binary operator: the special methods of classes the code defined in the language's
order, then the rule of the language's classes. -/
def binaryOp (op : BinaryOp) (a b : Val) (symbol : String) : Run Val := do
  let name := "__" ++ op.stem ++ "__"
  let rname := "__r" ++ op.stem ++ "__"
  let ta <- typeOf a
  let tb <- typeOf b
  let ua <- userMethod? a name
  let ub <- if ta == tb then pure none else userMethod? b rname
  let builtin : Run Val := do
    match <- h.builtinBinary op (<- coreOf a) (<- coreOf b) with
    | some v => pure v
    | none => pure .notImplemented
  let mut ub := ub
  if ua.isNone && ub.isNone then
    let r <- builtin
    if !(r matches .notImplemented) then return r
    binaryFailure op symbol a b
  if let some f := ub then
    if <- tb.derives ta then
      let r <- h.callFound b f #[a]
      if !(r matches .notImplemented) then return r
      ub := none
  let r <- match ua with
    | some f => h.callFound a f #[b]
    | none => builtin
  if !(r matches .notImplemented) then return r
  match ub with
  | some f =>
    let r <- h.callFound b f #[a]
    if !(r matches .notImplemented) then return r
  | none =>
    if ua.isSome then
      let r <- builtin
      if !(r matches .notImplemented) then return r
  binaryFailure op symbol a b

/-- An augmented assignment's operator (`a += b`): the in-place special method of a class
the code defined, the in-place rule of lists, sets, dictionaries and byte arrays, else the
plain operator. -/
def inplaceOp (op : BinaryOp) (a b : Val) : Run Val := do
  let symbol := op.symbol ++ "="
  match <- userMethod? a ("__i" ++ op.stem ++ "__") with
  | some f =>
    let r <- h.callFound a f #[b]
    if !(r matches .notImplemented) then return r
    return <- h.binaryOp op a b symbol
  | none => pure ()
  match <- coreOf a with
  | .ref id =>
    match <- Run.obj id with
    | .list xs =>
      if op == .add then
        let ys <- h.collect b
        Run.store id (.list ((<- Run.listItems id) ++ ys))
        return a
      if op == .mul then
        match <- h.repeatCount b with
        | some n =>
          Run.store id (.list (<- repeatItems xs n))
          return a
        | none => pure ()
    | .set xs false =>
      match <- setOf? (<- coreOf b) with
      | some (ys, _) =>
        match <- h.setCombine op xs ys with
        | some zs =>
          Run.store id (.set zs false)
          return a
        | none => pure ()
      | none => pure ()
    | .dict _ =>
      if op == .bitOr then
        match <- coreOf b with
        | .ref j =>
          match <- Run.obj j with
          | .dict es =>
            for (k, v) in es do h.dictSet id k v
            return a
          | _ => pure ()
        | _ => pure ()
    | .bytearray xs =>
      if op == .add then
        match <- octets? b with
        | some ys =>
          Run.store id (.bytearray (xs ++ ys))
          return a
        | none => pure ()
    | _ => pure ()
  | _ => pure ()
  h.binaryOp op a b symbol

/-- A unary operator. -/
def unaryOp (op : UnaryOp) (a : Val) : Run Val := do
  if op == .not then return .bool !(<- h.truth a)
  let (name, sym) := match op with
    | .minus => ("__neg__", "-")
    | .plus => ("__pos__", "+")
    | _ => ("__invert__", "~")
  match <- userMethod? a name with
  | some f => h.callFound a f #[]
  | none =>
    let fail : Run Val := do Run.typeError s!"bad operand type for unary {sym}: '{<- typeName a}'"
    match op, <- coreOf a with
    | .minus, .int n => pure (.int (-n))
    | .minus, .bool b => pure (.int (if b then -1 else 0))
    | .minus, .float x => pure (.float (-x))
    | .minus, .complex re im => pure (.complex (-re) (-im))
    | .plus, .int n => pure (.int n)
    | .plus, .bool b => pure (.int (if b then 1 else 0))
    | .plus, .float x => pure (.float x)
    | .plus, .complex re im => pure (.complex re im)
    | .invert, .int n => pure (.int (-n - 1))
    | .invert, .bool b => pure (.int (if b then -2 else -1))
    | _, _ => fail

/-! ### Attributes -/

/-- An attribute of a module. -/
def moduleAttr (v : Val) (m : ModuleData) (n : String) : Run Val := do
  if n == "__dict__" then return .ref m.dict
  match <- h.dictGet? m.dict (.str n) with
  | some x => pure x
  | none =>
    match <- h.dictGet? m.dict (.str "__getattr__") with
    | some f => h.call f #[.str n] #[]
    | none =>
      if !m.known then
        let all := libraryAllNames m.name
        if all.isEmpty || all.contains n then Run.stall
        Run.noAttribute s!"module '{libraryShownName m.name}' has no attribute '{n}'" n v
      if m.ready then Run.noAttribute s!"module '{m.name}' has no attribute '{n}'" n v
      else
        Run.noAttribute s!"partially initialized module '{m.name}' has no attribute '{n}' (most likely due to a circular import)" n v

/-- The attribute of a value that is neither a class nor a module. -/
def instanceAttr (v : Val) (o : Obj) (n : String) : Run Val := do
  let t <- typeOf v
  if n == "__class__" then return .cls t
  let found <- lookupClass t n
  if let some (attr, owner) := found then
    if <- isDataDescriptor attr then return <- h.bindFound v owner attr true
  let own : Option Val := match o with
    | .inst i => lookupName i.attrs n
    | .function f => lookupName f.attrs n
    | _ => none
  if let some x := own then return x
  if n == "__dict__" then
    match o with
    | .inst i => return <- Run.newDict (i.attrs.map fun (k, x) => (.str k, x))
    | .function f => return <- Run.newDict (f.attrs.map fun (k, x) => (.str k, x))
    | _ => pure ()
  match found with
  | some (.builtin q, owner) =>
    if isBuiltinField q then fieldValue v q else h.bindFound v owner (.builtin q) true
  | some (attr, owner) => h.bindFound v owner attr true
  | none =>
    match <- userMethod? v "__getattr__" with
    | some f => h.callFound v f #[.str n]
    | none => Run.noAttribute s!"'{<- t.name}' object has no attribute '{n}'" n v

/-- The attribute of a value: `v.n`. -/
def getAttr (v : Val) (n : String) : Run Val := do
  match v with
  | .cls c =>
    match <- classField c n with
    | some x => return x
    | none => pure ()
    match <- lookupClass c n with
    | some (attr, owner) => h.bindFound v owner attr false
    | none =>
      match <- lookupClass (.builtin "type") n with
      | some (.builtin q, _) => return .method v q
      | _ => Run.noAttribute s!"type object '{<- c.name}' has no attribute '{n}'" n v
  | .ref id =>
    match <- Run.obj id with
    | .module m => h.moduleAttr v m n
    | .superOf start self =>
      let cls <- match self with
        | .cls c => pure c
        | _ => typeOf self
      let order <- cls.mro
      let pos := ((order.findIdx? (· == start)).map (· + 1)).getD order.size
      match <- lookupFrom order pos n with
      | some (attr, owner) =>
        match attr with
        | .builtin q =>
          if isBuiltinField q then fieldValue self q
          else
            match self with
            | .cls _ => h.bindFound self owner attr false
            | _ => h.bindFound self owner attr true
        | _ =>
          match self with
          | .cls _ => h.bindFound self owner attr false
          | _ => h.bindFound self owner attr true
      | none => Run.noAttribute s!"'super' object has no attribute '{n}'" n v
    | o => h.instanceAttr v o n
  | _ => h.instanceAttr v Obj.hole n
/-- Whether a value has an attribute: reading it raises no attribute error. -/
def hasAttr (v : Val) (n : String) : Run Bool := do
  return (<- Run.catching "AttributeError" (h.getAttr v n)).isSome

/-- Set an attribute of an exception's own data. -/
def setExceptionField (id : Nat) (i : Instance) (n : String) (x : Val) : Run Bool := do
  if n == "args" then
    let xs <- h.collect x
    Run.store id (.inst { i with args := xs })
    return true
  if n == "__cause__" || n == "__context__" then
    match x with
    | .none => pure ()
    | _ =>
      if !(<- isA x "BaseException") then
        let what := if n == "__cause__" then "cause" else "context"
        Run.typeError s!"exception {what} must be None or derive from BaseException"
  match <- lookupClass i.cls n with
  | some (.builtin q, _) =>
    if isBuiltinField q then
      Run.store id (.inst { i with fields := setName i.fields n x })
      return true
    return false
  | _ => return false

/-- The only attributes the instances of a class may hold, when every class it derives from
lists them in `__slots__` and none lists `__dict__`; none when its instances hold any. -/
def slotNames (c : ClassRef) : Run (Option (List String)) := do
  let mut names : List String := []
  for k in <- c.mro do
    match k with
    | .user cid =>
      match lookupName (<- Run.userClass cid).attrs "__slots__" with
      | none => return none
      | some s =>
        let items <- match s with
          | .str t => pure #[Val.str t]
          | _ => h.collect s
        for item in items do
          match item with
          | .str t => if t == "__dict__" then return none else names := t :: names
          | _ => return none
    | .builtin b => if b != "object" then return none
  return some names

/-- Set an attribute of an instance without its class's `__setattr__`. -/
def plainSetAttr (v : Val) (id : Nat) (n : String) (x : Val) : Run Unit := do
  match <- Run.obj id with
  | .inst i =>
    if <- h.setExceptionField id i n x then return
    match <- lookupClass i.cls n with
    | some (.builtin q, _) =>
      if isBuiltinField q then
        Run.noAttribute s!"attribute '{n}' of '{<- typeName v}' objects is not writable" n v
    | _ => pure ()
    if let some names <- h.slotNames i.cls then
      if !names.contains n then
        Run.noAttribute s!"'{<- typeName v}' object has no attribute '{n}'" n v
    Run.change id fun
      | .inst i => .inst { i with attrs := setName i.attrs n x }
      | o => o
  | _ => Run.stall

/-- Set an attribute: `v.n = x`. -/
def setAttr (v : Val) (n : String) (x : Val) : Run Unit := do
  match v with
  | .cls (.user cid) =>
    let c <- Run.userClass cid
    let c := if n == "__name__" then
      match x with
      | .str s => { c with name := s }
      | _ => c
    else if n == "__qualname__" then
      match x with
      | .str s => { c with qualname := s }
      | _ => c
    else c
    Run.store cid (.cls { c with attrs := setName c.attrs n x })
  | .cls (.builtin b) =>
    Run.typeError s!"cannot set '{n}' attribute of immutable type '{b}'"
  | .ref id =>
    match <- Run.obj id with
    | .module m => h.dictSet m.dict (.str n) x
    | .inst i =>
      match <- lookupClass i.cls n with
      | some (attr, _) =>
        match attr with
        | .ref aid =>
          match <- Run.obj aid with
          | .property _ setter _ _ =>
            match setter with
            | .none => Run.noAttribute s!"property '{n}' of '{<- typeName v}' object has no setter" n v
            | _ => discard <| h.call setter #[v, x] #[]
            return
          | .inst _ =>
            match <- userMethod? attr "__set__" with
            | some f =>
              discard <| h.callFound attr f #[v, x]
              return
            | none => pure ()
          | _ => pure ()
        | _ => pure ()
      | none => pure ()
      match <- userMethod? v "__setattr__" with
      | some f => discard <| h.callFound v f #[.str n, x]
      | none => h.plainSetAttr v id n x
    | .function f =>
      if n == "__name__" || n == "__qualname__" then
        match x with
        | .str s =>
          let f := if n == "__name__" then { f with name := s } else { f with qualname := s }
          Run.store id (.function f)
        | _ => Run.typeError s!"{n} must be set to a string object"
      else Run.store id (.function { f with attrs := setName f.attrs n x })
    | _ => refuseSetAttr v n
  | _ => refuseSetAttr v n
/-- Delete an attribute: `del v.n`. -/
def delAttr (v : Val) (n : String) : Run Unit := do
  match v with
  | .cls (.user cid) =>
    let c <- Run.userClass cid
    if (lookupName c.attrs n).isNone then
      Run.noAttribute s!"type object '{c.name}' has no attribute '{n}'" n v
    Run.store cid (.cls { c with attrs := eraseName c.attrs n })
  | .cls (.builtin b) =>
    Run.typeError s!"cannot set '{n}' attribute of immutable type '{b}'"
  | .ref id =>
    match <- Run.obj id with
    | .module m =>
      match <- h.dictRemove m.dict (.str n) with
      | some _ => pure ()
      | none => Run.noAttribute s!"'module' object has no attribute '{n}'" n v
    | .inst i =>
      match <- lookupClass i.cls n with
      | some (.ref aid, _) =>
        match <- Run.obj aid with
        | .property _ _ deleter _ =>
          match deleter with
          | .none => Run.noAttribute s!"property '{n}' of '{<- typeName v}' object has no deleter" n v
          | _ => discard <| h.call deleter #[v] #[]
          return
        | _ => pure ()
      | _ => pure ()
      match <- userMethod? v "__delattr__" with
      | some f => discard <| h.callFound v f #[.str n]
      | none =>
        if (lookupName i.attrs n).isNone then
          Run.noAttribute s!"'{<- typeName v}' object has no attribute '{n}'" n v
        Run.store id (.inst { i with attrs := eraseName i.attrs n })
    | .function f =>
      if (lookupName f.attrs n).isNone then
        Run.noAttribute s!"'function' object has no attribute '{n}'" n v
      Run.store id (.function { f with attrs := eraseName f.attrs n })
    | _ => refuseSetAttr v n
  | _ => refuseSetAttr v n

end Hooks

end GraphProbe.Code
