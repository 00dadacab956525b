import GraphProbe.Code.Operate
import GraphProbe.Text.Charset

/-!
# Making values of classes

Calling a class makes an instance of it. A class of the language builds its value from the
arguments by its own rule (`int('12', 8)`, `dict(a=1)`, `range(1, 9, 2)`); an exception
class keeps its arguments and reads the fields its kind has from them. A class the code
defined runs `__new__` and then `__init__` along its lineage: the class of the language its
instances extend (its *layout*) makes the value they carry.

A system error made by `OSError` itself with a number becomes the error class that number
selects (`OSError(2, 'x')` is a `FileNotFoundError`), and with a file name keeps only the
number and reason as arguments. An exception group checks its message and members and is an
`ExceptionGroup` when every member is an `Exception`.

The class statement and `type(name, bases, namespace)` make classes: the bases must be
classes that can be derived from, no two alike, with layouts one of which extends all the
others, and with a consistent method resolution order (the C3 merge of the bases' orders).
-/

namespace GraphProbe.Code

/-! ### Numbers from text -/

/-- The value of a digit in bases up to 36, if the code point is one. -/
def digitIn (n : Nat) : Option Nat :=
  if 0x30 ≤ n && n ≤ 0x39 then some (n - 0x30)
  else if 0x61 ≤ n && n ≤ 0x7A then some (n - 0x61 + 10)
  else if 0x41 ≤ n && n ≤ 0x5A then some (n - 0x41 + 10)
  else none

/-- Digits of a base with single underscores between them (one may follow a prefix): their
values, or `none`. -/
def radixDigits (base : Nat) (afterPrefix : Bool) : List Nat -> Option (List Nat)
  | [] => none
  | cs =>
    let cs := if afterPrefix then (match cs with
      | 0x5F :: r => r
      | r => r) else cs
    go cs
where
  /-- Digits, an underscore only between two of them. -/
  go : List Nat -> Option (List Nat)
    | [] => none
    | [c] => do
      let d <- digitIn c
      if d < base then some [d] else none
    | c :: 0x5F :: rest => do
      let d <- digitIn c
      if d ≥ base then none
      let r <- go rest
      pure (d :: r)
    | c :: rest => do
      let d <- digitIn c
      if d ≥ base then none
      let r <- go rest
      pure (d :: r)

/-- A text of code points as its number text: blanks outside ASCII become spaces and
decimal digits of other scripts their ASCII digits; any other character outside ASCII ends
it with a mark no number admits. -/
def numberPoints (cs : List Nat) : List Nat :=
  (Number.asciiNumberText (cs.map pointCharOf)).map Char.toNat

/-- Whether a code point is an ASCII blank. -/
def isAsciiBlankPoint (n : Nat) : Bool := n == 32 || (9 ≤ n && n ≤ 13)

/-- How reading an integer from text fails: the text is no integer, or has too many
digits. -/
inductive IntTextFault where
  | invalid
  | tooLong (digits : Nat)

/-- Read an integer in a base (`0`: by its prefix, decimal without one): ASCII blanks around
it, a sign, a prefix `0x`, `0o` or `0b` where the base allows, digits with single
underscores. Decimal texts of more than 4300 digits are refused. -/
def readIntText (cs : List Nat) (base : Nat) : Except IntTextFault Int := do
  let cs := numberPoints cs
  let cs := ((cs.dropWhile isAsciiBlankPoint).reverse.dropWhile isAsciiBlankPoint).reverse
  let (neg, body) := match cs with
    | 0x2D :: r => (true, r)
    | 0x2B :: r => (false, r)
    | r => (false, r)
  let prefixBase : Option Nat := match body with
    | 0x30 :: p :: _ =>
      if p == 0x78 || p == 0x58 then some 16
      else if p == 0x6F || p == 0x4F then some 8
      else if p == 0x62 || p == 0x42 then some 2
      else none
    | _ => none
  let (b, digits, afterPrefix) :=
    match prefixBase with
    | some pb => if base == 0 || base == pb then (pb, body.drop 2, true) else (base, body, false)
    | none => (if base == 0 then 10 else base, body, false)
  let ds <- match radixDigits b afterPrefix digits with
    | some ds => pure ds
    | none => throw .invalid
  -- without a prefix, base 0 takes no leading zero unless the number is zero
  if base == 0 && prefixBase.isNone && ds.length > 1 && ds.head? == some 0 && ds.any (· != 0) then
    throw .invalid
  if b == 10 && ds.length > 4300 then throw (.tooLong ds.length)
  let v := ds.foldl (fun acc d => b * acc + d) 0
  pure (if neg then -(v : Int) else v)

/-- The exception field names a layout reads from keyword arguments. -/
def keywordFields (layout : String) : List String :=
  match layout with
  | "ImportError" => ["name", "path"]
  | "AttributeError" => ["name", "obj"]
  | "NameError" => ["name"]
  | _ => []

/-- The layout of an exception class, as its instances' fields follow it. -/
def exceptionLayout (c : ClassRef) : Run String := do
  for k in <- c.mro do
    match k with
    | .builtin b =>
      if ["OSError", "ImportError", "AttributeError", "NameError", "StopIteration",
          "SystemExit", "SyntaxError", "UnicodeDecodeError", "UnicodeEncodeError",
          "UnicodeTranslateError", "BaseExceptionGroup", "KeyError"].contains b then
        return b
      if b == "BaseException" then return b
    | _ => pure ()
  return "BaseException"

/-- Whether a class keeps the arguments of `OSError` for its own `__init__`: a class the code
defined with an `__init__` of its own before the system error's. -/
def keepsInit (c : ClassRef) : Run Bool := do
  for k in <- c.mro do
    match k with
    | .user id =>
      if (lookupName (<- Run.userClass id).attrs "__init__").isSome then return true
      if (lookupName (<- Run.userClass id).attrs "__new__").isSome then return false
    | .builtin _ => return false
  return false

/-- The fields of a system error from its arguments: number, reason, file names. -/
def systemErrorFields (c : ClassRef) (args : Array Val) : Run (Array Val × Array (String × Val)) := do
  if args.size < 2 || args.size > 5 then return (args, #[])
  let mut fields : Array (String × Val) := #[("errno", args[0]!), ("strerror", args[1]!)]
  let mut kept := args
  match args[2]? with
  | some Val.none | none => pure ()
  | some file =>
    let blocking <- c.derivesFrom "BlockingIOError"
    match blocking, file with
    | true, .int n => fields := fields.push ("characters_written", .int n)
    | _, _ =>
      fields := fields.push ("filename", file)
      match args[4]? with
      | some Val.none | none => pure ()
      | some f2 => fields := fields.push ("filename2", f2)
      kept := args.extract 0 2
  return (kept, fields)

namespace Hooks

variable (h : Hooks)

/-- Check the five arguments of an error of a character set, and read its fields. -/
def charsetErrorFields (decoding : Bool) (args : Array Val) : Run (Array (String × Val)) := do
  if args.size != 5 then
    Run.typeError s!"function takes exactly 5 arguments ({args.size} given)"
  let enc <- match <- coreOf args[0]! with
    | .str s => pure (Val.str s)
    | _ => Run.typeError s!"argument 1 must be str, not {<- typeName args[0]!}"
  let obj <- if decoding then
      match <- octets? args[1]! with
      | some bs => pure (Val.bytes bs)
      | none => Run.typeError s!"a bytes-like object is required, not '{<- typeName args[1]!}'"
    else
      match <- coreOf args[1]! with
      | .str s => pure (Val.str s)
      | _ => Run.typeError s!"argument 2 must be str, not {<- typeName args[1]!}"
  let start <- h.toIndex args[2]!
  let stop <- h.toIndex args[3]!
  let reason <- match <- coreOf args[4]! with
    | .str s => pure (Val.str s)
    | _ => Run.typeError s!"argument 5 must be str, not {<- typeName args[4]!}"
  return #[("encoding", enc), ("object", obj), ("start", .int start), ("end", .int stop),
    ("reason", reason)]

/-- The fields an exception's `__init__` reads from its arguments, by its layout. -/
def initFields (c : ClassRef) (layout : String) (args : Array Val)
    (kwargs : Array (String × Val)) : Run (Array Val × Array (String × Val)) := do
  let allowed := keywordFields layout
  let name <- c.name
  if !kwargs.isEmpty && allowed.isEmpty && layout != "OSError" then
    Run.typeError s!"{name}() takes no keyword arguments"
  for (k, _) in kwargs do
    if !allowed.contains k then
      Run.typeError s!"'{k}' is an invalid keyword argument for {name}()"
  let kw : Array (String × Val) := kwargs
  match layout with
  | "ImportError" =>
    let msg := if args.size == 1 then args[0]! else .none
    return (args, #[("msg", msg)] ++ kw)
  | "StopIteration" => return (args, #[("value", args[0]?.getD .none)])
  | "SystemExit" =>
    let code := if args.size == 0 then .none else if args.size == 1 then args[0]! else .tuple args
    return (args, #[("code", code)])
  | "SyntaxError" =>
    let mut fields : Array (String × Val) := #[]
    if args.size ≥ 1 then fields := fields.push ("msg", args[0]!)
    if args.size == 2 then
      match <- coreOf args[1]! with
      | .tuple info =>
        if info.size < 4 || info.size > 6 then
          Run.typeError s!"function takes at least 4 arguments ({info.size} given)"
        let names := ["filename", "lineno", "offset", "text", "end_lineno", "end_offset"]
        for (n, v) in names.zip info.toList do fields := fields.push (n, v)
      | _ => Run.typeError "argument 2 must be tuple"
    return (args, fields)
  | "UnicodeDecodeError" => return (args, <- h.charsetErrorFields true args)
  | "UnicodeEncodeError" => return (args, <- h.charsetErrorFields false args)
  | _ => return (args, kw)

/-- Make an exception of a class from the arguments of a call: what `__new__` and the
language's `__init__` of its layout make of them. -/
def newException (c : ClassRef) (args : Array Val) (kwargs : Array (String × Val)) (runInit : Bool) :
    Run Val := do
  let layout <- exceptionLayout c
  match layout with
  | "OSError" =>
    let own <- keepsInit c
    if own then return <- Run.alloc (.inst { cls := c, args := #[] })
    if !kwargs.isEmpty then Run.typeError s!"{<- c.name}() takes no keyword arguments"
    let c <- match c, args[0]? with
      | ClassRef.builtin "OSError", some (Val.int n) =>
        pure (match errnoClasses.lookup n with
          | some k => ClassRef.builtin k
          | none => c)
      | _, _ => pure c
    let (kept, fields) <- systemErrorFields c args
    Run.alloc (.inst { cls := c, args := kept, fields := fields })
  | "BaseExceptionGroup" =>
    if args.size != 2 then
      Run.typeError s!"BaseExceptionGroup.__new__() takes exactly 2 arguments ({args.size} given)"
    let msg <- match <- coreOf args[0]! with
      | .str _ => pure args[0]!
      | _ => Run.typeError s!"BaseExceptionGroup.__new__() argument 1 must be str, not {<- typeName args[0]!}"
    let isSeq <- match <- coreOf args[1]! with
      | .tuple _ | .str _ | .range .. | .bytes _ => pure true
      | .ref id =>
        match <- Run.obj id with
        | .list _ | .bytearray _ => pure true
        | .inst _ => pure (<- userMethod? args[1]! "__getitem__").isSome
        | _ => pure false
      | _ => pure false
    if !isSeq then Run.typeError "second argument (exceptions) must be a sequence"
    let members <- h.collect args[1]!
    if members.isEmpty then
      Run.valueError "second argument (exceptions) must be a non-empty sequence"
    let mut allPlain := true
    for i in [0:members.size] do
      if !(<- isA members[i]! "BaseException") then
        Run.valueError s!"Item {i} of second argument (exceptions) is not an exception"
      if !(<- isA members[i]! "Exception") then allPlain := false
    let c <- if c == .builtin "BaseExceptionGroup" && allPlain then pure (ClassRef.builtin "ExceptionGroup")
      else pure c
    if (<- c.derivesFrom "Exception") && !allPlain then
      Run.typeError "Cannot nest BaseExceptions in an ExceptionGroup"
    let fields : Array (String × Val) := #[("message", msg), ("exceptions", .tuple members)]
    Run.alloc (.inst { cls := c, args := args, fields := fields })
  | _ =>
    if !runInit then return <- Run.alloc (.inst { cls := c, args := args })
    let (kept, fields) <- h.initFields c layout args kwargs
    Run.alloc (.inst { cls := c, args := kept, fields := fields })

/-- The language's `__init__` of an exception run on an instance already made (through
`super().__init__(...)`): it sets the arguments and the fields they give. -/
def initException (self : Val) (args : Array Val) (kwargs : Array (String × Val)) : Run Unit := do
  match self with
  | .ref id =>
    match <- Run.obj id with
    | .inst i =>
      let layout <- exceptionLayout i.cls
      match layout with
      | "OSError" =>
        if <- keepsInit i.cls then
          let (kept, fields) <- systemErrorFields i.cls args
          Run.store id (.inst { i with args := kept, fields := fields })
      | "BaseExceptionGroup" => Run.store id (.inst { i with args := args })
      | _ =>
        let (kept, fields) <- h.initFields i.cls layout args kwargs
        let merged := fields.foldl (fun acc (k, v) => setName acc k v) i.fields
        Run.store id (.inst { i with args := kept, fields := merged })
    | _ => Run.typeError "descriptor '__init__' requires a 'BaseException' object"
  | _ => Run.typeError "descriptor '__init__' requires a 'BaseException' object"

/-- An exception of a class of the language made from a fault of the kit's text
operations. -/
def ofFault (f : Fault) : Run α := do
  match f with
  | .raised k args =>
    let rec conv : Value -> Val
      | .null => .none
      | .bool b => .bool b
      | .int n => .int n
      | .float x => .float x
      | .str s => .str s
      | .bytes bs => .bytes bs.toArray
      | .arr xs => .tuple (xs.map conv).toArray
      | .obj _ => .none
    let cls := k.name
    let c := if (builtinClass? cls).isSome then ClassRef.builtin cls else ClassRef.builtin "ValueError"
    let e <- h.newException c (args.map conv).toArray #[] true
    throw (.thrown e)
  | _ => Run.valueError f.text

/-! ### Numbers -/

/-- The integer `int(v)` or `int(v, base)` makes. -/
def intOf (v : Val) (base : Option Val) : Run Val := do
  let shownText (s : Val) : Run String := h.repr s
  match base with
  | some bv =>
    let b <- h.toIndex bv
    if b != 0 && (b < 2 || b > 36) then Run.valueError "int() base must be >= 2 and <= 36, or 0"
    -- octets of any kind show as a bytes object
    let (points, shown) <- match <- coreOf v with
      | .str s => pure (Text.codes s, v)
      | _ =>
        match <- octets? v with
        | some bs => pure (bs.toList.map UInt8.toNat, Val.bytes bs)
        | none => Run.typeError "int() can't convert non-string with explicit base"
    match readIntText points b.toNat with
    | .ok n => pure (.int n)
    | .error .invalid => Run.valueError s!"invalid literal for int() with base {b}: {<- shownText shown}"
    | .error (.tooLong n) =>
      Run.valueError s!"Exceeds the limit (4300 digits) for integer string conversion: value has {n} digits; use sys.set_int_max_str_digits() to increase the limit"
  | none =>
    match <- userMethod? v "__int__" with
    | some f =>
      let r <- h.callFound v f #[]
      match r with
      | .int _ => return r
      | .bool b => return .int (if b then 1 else 0)
      | _ => Run.typeError s!"__int__ returned non-int (type {<- typeName r})"
    | none => pure ()
    match <- userMethod? v "__index__" with
    | some _ => return .int (<- h.toIndex v)
    | none => pure ()
    match <- userMethod? v "__trunc__" with
    | some f => return <- h.callFound v f #[]
    | none => pure ()
    match <- coreOf v with
    | .int n => pure (.int n)
    | .bool b => pure (.int (if b then 1 else 0))
    | .float x => pure (.int (<- Run.ofExcept (floatToInt x)))
    | .str s =>
      match readIntText (Text.codes s) 10 with
      | .ok n => pure (.int n)
      | .error .invalid => Run.valueError s!"invalid literal for int() with base 10: {<- shownText v}"
      | .error (.tooLong n) =>
        Run.valueError s!"Exceeds the limit (4300 digits) for integer string conversion: value has {n} digits; use sys.set_int_max_str_digits() to increase the limit"
    | c =>
      match <- octets? c with
      | some bs =>
        match readIntText (bs.toList.map UInt8.toNat) 10 with
        | .ok n => pure (.int n)
        | .error .invalid =>
          Run.valueError s!"invalid literal for int() with base 10: {<- shownText (.bytes bs)}"
        | .error (.tooLong n) =>
          Run.valueError s!"Exceeds the limit (4300 digits) for integer string conversion: value has {n} digits; use sys.set_int_max_str_digits() to increase the limit"
      | none =>
        Run.typeError s!"int() argument must be a string, a bytes-like object or a real number, not '{<- typeName v}'"

/-- The double `float(v)` makes. -/
def floatOf (v : Val) : Run Float := do
  match <- userMethod? v "__float__" with
  | some f =>
    match <- h.callFound v f #[] with
    | .float x => return x
    | r => Run.typeError s!"{<- typeName v}.__float__ returned non-float (type {<- typeName r})"
  | none => pure ()
  match <- userMethod? v "__index__" with
  | some _ => return <- Run.ofExcept (intToFloat (<- h.toIndex v))
  | none => pure ()
  match <- coreOf v with
  | .float x => pure x
  | .int n => Run.ofExcept (intToFloat n)
  | .bool b => pure (if b then 1.0 else 0.0)
  | .str s =>
    match Number.readFloat (Text.ofPoints (Text.codes s)) with
    | some x => if (Text.codes s).any isSurrogate then Run.valueError s!"could not convert string to float: {<- h.repr v}" else pure x
    | none => Run.valueError s!"could not convert string to float: {<- h.repr v}"
  | c =>
    match <- octets? c with
    | some bs =>
      let s := String.ofList (bs.toList.map fun b => Char.ofNat b.toNat)
      match (if bs.all (· < 128) then Number.readFloat s else none) with
      | some x => pure x
      | none => Run.valueError s!"could not convert string to float: {<- h.repr v}"
    | none => Run.typeError s!"float() argument must be a string or a real number, not '{<- typeName v}'"

/-- Read a complex number from text: a real part, an imaginary part with `j`, or both. -/
def readComplex (s : String) : Option (Float × Float) := do
  let cs := (Text.codes s).map pointCharOf
  let cs := ((cs.dropWhile Char.isWhitespace).reverse.dropWhile Char.isWhitespace).reverse
  let cs := match cs with
    | '(' :: r => if r.getLast? == some ')' then r.dropLast else cs
    | _ => cs
  let text := String.ofList cs
  if text.isEmpty then none
  if cs.getLast? == some 'j' || cs.getLast? == some 'J' then
    let body := cs.dropLast
    -- the imaginary part starts at the last sign that is not after an exponent mark
    let idx := (List.range body.length).reverse.find? fun i =>
      i > 0 && (body[i]! == '+' || body[i]! == '-') &&
        body[i - 1]! != 'e' && body[i - 1]! != 'E'
    match idx with
    | some i =>
      let re <- Number.readFloat (String.ofList (body.take i))
      let imText := body.drop i
      let im <- if imText == ['+'] then some 1.0 else if imText == ['-'] then some (-1.0)
        else Number.readFloat (String.ofList imText)
      pure (re, im)
    | none =>
      let im <- if body.isEmpty || body == ['+'] then some 1.0 else if body == ['-'] then some (-1.0)
        else Number.readFloat (String.ofList body)
      pure (0.0, im)
  else
    let re <- Number.readFloat text
    pure (re, 0.0)

/-- The complex number `complex(re, im)` makes. -/
def complexOf (args : Array Val) : Run Val := do
  -- a part of a complex number is a number, or an object that says how it is one
  let complexPart (c : Val) : Run Bool := do
    match c with
    | .int _ | .bool _ | .float _ => pure true
    | _ =>
      return (<- userMethod? c "__float__").isSome || (<- userMethod? c "__index__").isSome ||
        (<- userMethod? c "__complex__").isSome
  match args with
  | #[] => pure (.complex 0.0 0.0)
  | #[v] =>
    match <- coreOf v with
    | .str s =>
      match readComplex s with
      | some (re, im) => pure (.complex re im)
      | none => Run.valueError "complex() arg is a malformed string"
    | .complex re im => pure (.complex re im)
    | c =>
      if !(<- complexPart c) then
        Run.typeError s!"complex() first argument must be a string or a number, not '{<- typeName v}'"
      pure (.complex (<- h.floatOf v) 0.0)
  | _ =>
    let (a, b) := (args[0]!, args[1]!)
    let (ar, ai) <- match <- coreOf a with
      | .complex re im => pure (re, im)
      | .str _ => Run.typeError "complex() can't take second arg if first is a string"
      | c =>
        if !(<- complexPart c) then
          Run.typeError s!"complex() first argument must be a string or a number, not '{<- typeName a}'"
        pure (<- h.floatOf a, 0.0)
    let (br, bi) <- match <- coreOf b with
      | .complex re im => pure (re, im)
      | .str _ => Run.typeError "complex() second arg can't be a string"
      | c =>
        if !(<- complexPart c) then
          Run.typeError s!"complex() second argument must be a number, not '{<- typeName b}'"
        pure (<- h.floatOf b, 0.0)
    pure (.complex (ar - bi) (ai + br))

/-! ### Containers -/

/-- Add the entries of a mapping or of an iterable of pairs to a dictionary. -/
def dictUpdate (id : Nat) (src : Val) : Run Unit := do
  match <- coreOf src with
  | .ref j =>
    match <- Run.obj j with
    | .dict es =>
      if (<- userMethod? src "keys").isNone then
        for (k, v) in es do h.dictSet id k v
        return
    | _ => pure ()
  | _ => pure ()
  if <- h.hasAttr src "keys" then
    let keys <- h.collect (<- h.call (<- h.getAttr src "keys") #[] #[])
    for k in keys do h.dictSet id k (<- h.getItem src k)
    return
  let items <- h.collect src
  for i in [0:items.size] do
    let item := items[i]!
    if !(<- iterable item) then
      Run.typeError s!"cannot convert dictionary update sequence element #{i} to a sequence"
    let pair <- h.collect item
    if pair.size != 2 then
      Run.valueError s!"dictionary update sequence element #{i} has length {pair.size}; 2 is required"
    h.dictSet id pair[0]! pair[1]!

/-- The items of a set made from an iterable, each once. -/
def setItemsOf (v : Val) : Run (Array Val) := do
  h.setAddAll #[] (<- h.collect v)

/-- Encode a text by the name of a character set. -/
def encodeText (s : String) (enc : String) (errors : String := "strict") :
    Run (Array UInt8) := do
  match Charset.ofName? enc with
  | some c =>
    match Charset.encode c s with
    | .ok bs => pure bs.toArray
    | .error f =>
      if errors == "strict" then h.ofFault f
      else if Charset.replacingHandlers.contains errors then
        let ns := Text.codes s
        match Charset.encodeHandled c (Charset.encodeReplacement c errors) (ns.length + 1) ns with
        | .ok bs => pure bs.toArray
        | .error f => h.ofFault f
      else if ["surrogateescape", "surrogatepass", "namereplace"].contains errors then Run.stall
      else Run.raise "LookupError" s!"unknown error handler name '{errors}'"
  | none =>
    match Charset.lookup enc with
    | some _ => h.ofFault (Charset.notText enc "codecs.encode()")
    | none =>
      match Charset.unmodelledModule? enc with
      | some m =>
        let ns := Text.codes s
        if Charset.passesPlain m ns then pure (ns.map Nat.toUInt8).toArray else Run.stall
      | none => h.ofFault (Charset.unknown enc)

/-- Decode octets by the name of a character set. -/
def decodeOctets (bs : Array UInt8) (enc : String) (errors : String := "strict") :
    Run String := do
  match Charset.ofName? enc with
  | some c =>
    match Charset.decode c bs.toList with
    | .ok s => pure s
    | .error f =>
      if errors == "strict" then h.ofFault f
      else if ["ignore", "replace", "backslashreplace"].contains errors then
        match Charset.decodeHandled c (Charset.decodeReplacement errors) (bs.size + 1) bs.toList with
        | .ok s => pure s
        | .error f => h.ofFault f
      else if errors == "xmlcharrefreplace" then
        Run.typeError "don't know how to handle UnicodeDecodeError in error callback"
      else if ["surrogateescape", "surrogatepass", "namereplace"].contains errors then Run.stall
      else Run.raise "LookupError" s!"unknown error handler name '{errors}'"
  | none =>
    match Charset.lookup enc with
    | some _ => h.ofFault (Charset.notText enc "codecs.decode()")
    | none =>
      match Charset.unmodelledModule? enc with
      | some m =>
        if Charset.passesPlain m (bs.toList.map UInt8.toNat) then
          pure (String.ofList (bs.toList.map fun b => Char.ofNat b.toNat))
        else Run.stall
      | none => h.ofFault (Charset.unknown enc)

/-- The octets `bytes(v)` makes of one argument. -/
def octetsOf (v : Val) : Run (Array UInt8) := do
  match <- userMethod? v "__bytes__" with
  | some f =>
    match <- h.callFound v f #[] with
    | .bytes bs => return bs
    | r => Run.typeError s!"__bytes__ returned non-bytes (type {<- typeName r})"
  | none => pure ()
  match <- octets? v with
  | some bs => return bs
  | none => pure ()
  match <- coreOf v with
  | .str _ => Run.typeError "string argument without an encoding"
  | .bool b => return Array.replicate (if b then 1 else 0) 0
  | .int n =>
    if n < 0 then Run.valueError "negative count"
    if n ≥ 2 ^ 63 then Run.raise "OverflowError" "cannot fit 'int' into an index-sized integer"
    if n > 100000000 then Run.stall
    return Array.replicate n.toNat 0
  | c =>
    if !(<- iterable c) then
      Run.typeError s!"cannot convert '{<- typeName v}' object to bytes"
    let items <- h.collect c
    items.mapM fun x => do
      let n <- h.toIndex x
      if n < 0 || n > 255 then Run.valueError "bytes must be in range(0, 256)"
      pure n.toNat.toUInt8

/-- The text of a keyword argument, if given. -/
def kwText (kwargs : Array (String × Val)) (n : String) : Run (Option String) := do
  match lookupName kwargs n with
  | some (.str s) => pure (some s)
  | some v => Run.typeError s!"{n}() argument must be str, not {<- typeName v}"
  | none => pure none

/-- The octets `bytes(...)` makes of its arguments. -/
def octetsOfArgs (args : Array Val) (kwargs : Array (String × Val)) : Run (Array UInt8) := do
  let enc : Option String <- match args[1]? with
    | some (Val.str e) => pure (some e)
    | some v => Run.typeError s!"bytes() argument 'encoding' must be str, not {<- typeName v}"
    | none => kwText kwargs "encoding"
  let errors : String <- match args[2]? with
    | some (Val.str e) => pure e
    | some v => Run.typeError s!"bytes() argument 'errors' must be str, not {<- typeName v}"
    | none => pure ((<- kwText kwargs "errors").getD "strict")
  match args[0]?, enc with
  | none, _ => pure #[]
  | some v, some e =>
    match <- coreOf v with
    | .str s => h.encodeText s e errors
    | _ => Run.typeError "encoding without a string argument"
  | some v, none => h.octetsOf v

/-! ### Classes -/

/-- Make a class from its name, bases and namespace, with the checks the language makes. -/
def makeClass (name qualname : String) (bases : Array Val) (ns : Array (String × Val))
    (module : Val) : Run Val := do
  let mut refs : Array ClassRef := #[]
  for b in bases do
    match b with
    | .cls c =>
      if refs.contains c then Run.typeError s!"duplicate base class {<- c.name}"
      match c with
      | .builtin n =>
        match builtinClass? n with
        | some bc =>
          if bc.final then Run.typeError s!"type '{n}' is not an acceptable base type"
        | none => Run.stall
      | .user _ => pure ()
      refs := refs.push c
    | _ => Run.typeError "bases must be types"
  if refs.isEmpty then refs := #[.builtin "object"]
  -- one layout must extend all the others
  let mut layouts : Array String := #[]
  for c in refs do layouts := layouts.push (<- c.layout)
  let winner := layouts.find? fun l =>
    layouts.all fun m => m == "object" || m == l || (builtinMro l).contains (.builtin m)
  let layout <- match winner with
    | some l => pure l
    | none => Run.typeError "multiple bases have instance lay-out conflict"
  let orders <- refs.toList.mapM fun c => do return (<- c.mro).toList
  let id := (<- get).heap.size
  let self := ClassRef.user id
  let mro <- match linearize self refs.toList orders with
    | some m => pure m
    | none =>
      let names <- refs.mapM (·.name)
      let listed := ", ".intercalate names.toList
      Run.typeError s!"Cannot create a consistent method resolution order (MRO) for bases {listed}"
  let mut attrs : Array (String × Val) := #[]
  attrs := attrs.push ("__module__", module)
  for (k, v) in ns do
    if k != "__qualname__" then attrs := setName attrs k v
  let qual := match lookupName ns "__qualname__" with
    | some (.str q) => q
    | _ => qualname
  if (lookupName attrs "__doc__").isNone then attrs := attrs.push ("__doc__", .none)
  if (lookupName attrs "__eq__").isSome && (lookupName attrs "__hash__").isNone then
    attrs := attrs.push ("__hash__", .none)
  -- these functions are class methods and static methods without being marked
  let mut marked : Array (String × Val) := #[]
  for (k, v) in attrs do
    let v <- match k, v with
      | "__init_subclass__", .ref fid | "__class_getitem__", .ref fid =>
        match <- Run.obj fid with
        | .function _ => Run.alloc (.classMethod v)
        | _ => pure v
      | "__new__", .ref fid =>
        match <- Run.obj fid with
        | .function _ => Run.alloc (.staticMethod v)
        | _ => pure v
      | _, _ => pure v
    marked := marked.push (k, v)
  let data : ClassData := { name := name, qualname := qual, bases := refs, mro := mro,
                            attrs := marked, layout := layout }
  let cid <- Run.allocId (.cls data)
  if cid != id then Run.stall
  -- descriptors learn their names, then the nearest base hears of its new subclass
  for (k, v) in marked do
    match <- userMethod? v "__set_name__" with
    | some f => discard <| h.callFound v f #[.cls self, .str k]
    | none => pure ()
  match <- lookupFrom mro 1 "__init_subclass__" with
  | some (f, owner) =>
    match owner with
    | .user _ =>
      let bound <- h.bindFound (.cls self) owner f false
      discard <| h.call bound #[] #[]
    | _ => pure ()
  | none => pure ()
  return .cls self

/-- Make an instance of a class the code defined, or of a class of the language, as
`__new__` of its layout does: the value it extends, or the exception it is. -/
def plainNew (c : ClassRef) (args : Array Val) (kwargs : Array (String × Val)) : Run Val := do
  if <- c.derivesFrom "BaseException" then return <- h.newException c args kwargs false
  let layout <- c.layout
  let core : Val <- match layout with
    | "int" =>
      match args[0]? with
      | some v => h.intOf v args[1]?
      | none => pure (.int 0)
    | "float" =>
      match args[0]? with
      | some v => pure (.float (<- h.floatOf v))
      | none => pure (.float 0.0)
    | "complex" => h.complexOf args
    | "str" =>
      match args[0]? with
      | some v => pure (.str (<- h.str v))
      | none => pure (.str "")
    | "bytes" => pure (.bytes (<- h.octetsOfArgs args kwargs))
    | "tuple" =>
      match args[0]? with
      | some v => pure (.tuple (<- h.collect v))
      | none => pure (.tuple #[])
    | "frozenset" =>
      match args[0]? with
      | some v => Run.alloc (.set (<- h.setItemsOf v) true)
      | none => Run.alloc (.set #[] true)
    | "list" => Run.newList #[]
    | "dict" => Run.newDict #[]
    | "set" => Run.alloc (.set #[] false)
    | "bytearray" => Run.alloc (.bytearray #[])
    | "object" => pure .none
    | _ => Run.stall
  Run.alloc (.inst { cls := c, core := core })

/-- Run the `__init__` of a layout of the language on an instance the code's class made:
containers take their items from the arguments. -/
def plainInit (self : Val) (layout : String) (args : Array Val) (kwargs : Array (String × Val)) :
    Run Unit := do
  let core <- coreOf self
  match layout, core with
  | "list", .ref id =>
    if let some v := args[0]? then Run.store id (.list (<- h.collect v))
  | "dict", .ref id =>
    if let some v := args[0]? then h.dictUpdate id v
    for (k, v) in kwargs do h.dictSet id (.str k) v
  | "set", .ref id =>
    if let some v := args[0]? then Run.store id (.set (<- h.setItemsOf v) false)
  | "bytearray", .ref id =>
    Run.store id (.bytearray (<- h.octetsOfArgs args kwargs))
  | _, _ => pure ()

end Hooks

end GraphProbe.Code
