import GraphProbe.Code.Library
import GraphProbe.Code.Arity

/-!
# Calling what the language provides

A function the language provides is a `.builtin` value named by its dotted name: a plain
name is a function of the language (`len`), a name under a module of the system library is
a function of that module (`math.sqrt`), and a name under a class of the language is a
method of that class (`str.upper`). A method read through a value is bound to it
(`.method self "str.upper"`); read through the class it is a descriptor that takes the
value as its first argument and refuses a value of another class.

Special methods of the language's classes (`__init__`, `__repr__`, `__eq__`, ...) act on
what the class itself provides: for an instance of a class the code derived from a class of
the language, on the value it extends, so that `super().__repr__()` inside a method of the
code does not call that method again.
-/

namespace GraphProbe.Code

/-- The class and the method of a dotted method name: `("str", "upper")` for `str.upper`. -/
def splitQualified (q : String) : String × String :=
  match q.splitOn "." with
  | [c, m] => (c, m)
  | _ => ("", q)

/-- The operator of a special method of an arithmetic operator, and whether it is the
reflected one (`__radd__`). -/
def binaryOfName (m : String) : Option (BinaryOp × Bool) :=
  let ops : List BinaryOp := [.add, .sub, .mul, .matMul, .div, .floorDiv, .mod, .pow,
    .shiftLeft, .shiftRight, .bitOr, .bitXor, .bitAnd]
  ops.findSome? fun op =>
    if m == "__" ++ op.stem ++ "__" then some (op, false)
    else if m == "__r" ++ op.stem ++ "__" then some (op, true)
    else none

/-- The comparison of a special method of comparison. -/
def compareOfName (m : String) : Option CompareOp :=
  match m with
  | "__eq__" => some .eq
  | "__ne__" => some .ne
  | "__lt__" => some .lt
  | "__le__" => some .le
  | "__gt__" => some .gt
  | "__ge__" => some .ge
  | _ => none

/-- Text read from a file in text mode, with every line end (`\r\n` or `\r`) made `\n`. -/
def universalNewlines (s : String) : String :=
  go s.toList [] (s.length + 1)
where
  /-- Translate with the characters left. -/
  go : List Char -> List Char -> Nat -> String
    | _, acc, 0 => String.ofList acc.reverse
    | [], acc, _ => String.ofList acc.reverse
    | '\r' :: '\n' :: rest, acc, fuel + 1 => go rest ('\n' :: acc) fuel
    | '\r' :: rest, acc, fuel + 1 => go rest ('\n' :: acc) fuel
    | c :: rest, acc, fuel + 1 => go rest (c :: acc) fuel

/-- The first line of a list of items and the rest: up to and with the first item that
`isEnd` accepts. -/
def firstLine (isEnd : α -> Bool) (xs : List α) : List α × List α :=
  match xs.findIdx? isEnd with
  | some k => (xs.take (k + 1), xs.drop (k + 1))
  | none => (xs, [])

namespace Hooks

variable (h : Hooks)

/-! ### Files -/

/-- The open file at a place of the heap. -/
def openFileAt (id : Nat) : Run OpenFile := do
  match <- Run.obj id with
  | .file f =>
    if f.closed then Run.valueError "I/O operation on closed file."
    pure f
  | _ => Run.stall

/-- The text of a file opened in text mode, decoded once and kept. -/
def fileText (id : Nat) (f : OpenFile) (enc : String) : Run String := do
  match f.text with
  | some t => pure t
  | none =>
    let t := universalNewlines (<- h.decodeOctets f.data enc)
    Run.store id (.file { f with text := some t })
    pure t

/-- Read what is left of a file, or up to `limit` characters (octets in binary mode). -/
def fileRead (id : Nat) (limit : Option Nat) : Run Val := do
  let f <- openFileAt id
  match f.encoding with
  | some enc =>
    let t <- h.fileText id f enc
    let cs := (t.toList.drop f.pos)
    let taken := match limit with
      | some n => cs.take n
      | none => cs
    Run.change id fun
      | .file g => .file { g with pos := g.pos + taken.length }
      | o => o
    pure (.str (String.ofList taken))
  | none =>
    let bs := f.data.extract f.pos f.data.size
    let taken := match limit with
      | some n => bs.extract 0 n
      | none => bs
    Run.store id (.file { f with pos := f.pos + taken.size })
    pure (.bytes taken)

/-- Read the next line of an open file, none at its end. -/
def readLine (id : Nat) : Run (Option Val) := do
  let f <- openFileAt id
  match f.encoding with
  | some enc =>
    let t <- h.fileText id f enc
    let (line, _) := firstLine (· == '\n') (t.toList.drop f.pos)
    if line.isEmpty then return none
    Run.change id fun
      | .file g => .file { g with pos := g.pos + line.length }
      | o => o
    pure (some (.str (String.ofList line)))
  | none =>
    let (line, _) := firstLine (· == 10) (f.data.toList.drop f.pos)
    if line.isEmpty then return none
    Run.store id (.file { f with pos := f.pos + line.length })
    pure (some (.bytes line.toArray))

/-- Call a method of an open file. -/
def fileMethod (self : Val) (id : Nat) (m : String) (args : Array Val) : Run Val := do
  match m with
  | "read" =>
    let limit <- match args[0]? with
      | none | some Val.none => pure none
      | some v =>
        let n <- h.toIndex v
        pure (if n < 0 then none else some n.toNat)
    h.fileRead id limit
  | "readline" =>
    match <- h.readLine id with
    | some v => pure v
    | none =>
      let f <- openFileAt id
      pure (if f.encoding.isSome then .str "" else .bytes #[])
  | "readlines" =>
    let mut out : Array Val := #[]
    for _ in [0:stepLimit] do
      match <- h.readLine id with
      | some v => out := out.push v
      | none => return <- Run.newList out
    Run.stall
  | "close" =>
    Run.change id fun
      | .file g => .file { g with closed := true }
      | o => o
    pure .none
  | "__enter__" =>
    discard <| openFileAt id
    pure self
  | "__exit__" =>
    Run.change id fun
      | .file g => .file { g with closed := true }
      | o => o
    pure .none
  | "__iter__" =>
    discard <| openFileAt id
    pure self
  | "__next__" =>
    match <- h.readLine id with
    | some v => pure v
    | none => throw (.thrown (<- Run.newError "StopIteration" #[]))
  | "readable" | "seekable" =>
    discard <| openFileAt id
    pure (.bool true)
  | "writable" =>
    discard <| openFileAt id
    pure (.bool false)
  | _ => Run.stall

/-! ### Numbers -/

/-- The octets of an integer in a length, order and signedness: `int.to_bytes`. -/
def intToOctets (n : Int) (len : Nat) (little signed : Bool) : Run (Array UInt8) := do
  if n < 0 && !signed then Run.raise "OverflowError" "can't convert negative int to unsigned"
  let limit : Int := if signed then 2 ^ (8 * len) / 2 else 2 ^ (8 * len)
  if (signed && (n ≥ limit || n < -limit)) || (!signed && n ≥ limit) then
    Run.raise "OverflowError" "int too big to convert"
  let u : Nat := (if n < 0 then n + 2 ^ (8 * len) else n).toNat
  let big := (List.range len).reverse.map fun k => (u / 2 ^ (8 * k) % 256).toUInt8
  pure (if little then big.reverse.toArray else big.toArray)

/-- The byte order argument of `to_bytes` and `from_bytes`: whether it is little-endian. -/
def byteOrderArg (v : Val) : Run Bool := do
  match v with
  | .str "little" => pure true
  | .str "big" => pure false
  | .str _ => Run.valueError "byteorder must be either 'little' or 'big'"
  | _ => Run.typeError s!"to_bytes() argument 'byteorder' must be str, not {<- typeName v}"

/-- Call a method of an integer. -/
def intMethod (n : Int) (m : String) (args : Array Val) (kwargs : Array (String × Val)) :
    Run Val := do
  match m with
  | "bit_length" => pure (.int (bitLength n))
  | "bit_count" => pure (.int ((Nat.toDigits 2 n.natAbs).filter (· == '1')).length)
  | "conjugate" | "__int__" | "__index__" | "__trunc__" | "__floor__" | "__ceil__" => pure (.int n)
  | "as_integer_ratio" => pure (.tuple #[.int n, .int 1])
  | "to_bytes" =>
    let len <- h.toIndex (argOr args kwargs 0 "length" (.int 1))
    if len < 0 then Run.valueError "length argument must be non-negative"
    let little <- byteOrderArg (argOr args kwargs 1 "byteorder" (.str "big"))
    let signed <- h.truth ((lookupName kwargs "signed").getD (.bool false))
    pure (.bytes (<- intToOctets n len.toNat little signed))
  | "__float__" => pure (.float (<- Run.ofExcept (intToFloat n)))
  | "__bool__" => pure (.bool (n != 0))
  | _ => Run.stall

/-- Call a method of a double. -/
def floatMethod (x : Float) (m : String) : Run Val := do
  match m with
  | "is_integer" => pure (.bool (isFiniteFloat x && x.floor == x))
  | "conjugate" | "__float__" => pure (.float x)
  | "__int__" | "__trunc__" => pure (.int (<- Run.ofExcept (floatToInt x)))
  | "__floor__" => pure (.int (<- Run.ofExcept (floatToInt x.floor)))
  | "__ceil__" => pure (.int (<- Run.ofExcept (floatToInt x.ceil)))
  | "__bool__" => pure (.bool (x != 0.0))
  | "hex" => pure (.str (Number.floatHex x))
  | "as_integer_ratio" =>
    match Number.classify x with
    | .nan => Run.valueError "cannot convert NaN to integer ratio"
    | .infinite _ => Run.raise "OverflowError" "cannot convert Infinity to integer ratio"
    | .finite b =>
      let (num, den) := floatRatio b
      let g := Nat.gcd num.natAbs den
      pure (.tuple #[.int (num / g), .int (den / g : Nat)])
  | _ => Run.stall

/-! ### Special methods of the language's classes -/

/-- The literal the class of the language gives a value, without a method of the code. -/
def ownRepr (v : Val) : Run String := do
  match v with
  | .ref id =>
    match <- Run.obj id with
    | .inst i =>
      if <- i.cls.derivesFrom "BaseException" then
        let name <- i.cls.name
        if i.args.size == 1 then pure (name ++ "(" ++ (<- h.repr i.args[0]!) ++ ")")
        else pure (name ++ (<- h.repr (.tuple i.args)))
      else
        match i.core with
        | .none => defaultText v
        | c => h.repr c
    | _ => h.repr v
  | _ => h.repr v

/-- The message of an exception by its class's rule, without a method of the code. -/
def ownExceptionText (v : Val) : Run String := do
  match v with
  | .ref id =>
    match <- Run.obj id with
    | .inst i => exceptionText h showLimit [] i
    | _ => h.str v
  | _ => h.str v

/-- The hash the class of the language gives a value. -/
def ownHash (v : Val) : Run Int := do
  match <- coreOf v with
  | .ref id =>
    match <- Run.obj id with
    | .inst _ => pure ((0x7f3a000000 + 16 * id : Nat) / 16)
    | _ => h.hashOf (.ref id)
  | c => h.hashOf c

/-- Call a special method that every class of the language provides in its own way. -/
def specialMethod (self : Val) (owner m : String) (args : Array Val)
    (kwargs : Array (String × Val)) : Run Val := do
  let arg (i : Nat) : Run Val := argAt m args i
  let core <- coreOf self
  let ownerCls := ClassRef.builtin owner
  match m with
  | "__init__" =>
    if <- ownerCls.derivesFrom "BaseException" then
      h.initException self args kwargs
    else if ["list", "dict", "set", "bytearray"].contains owner then
      h.plainInit self owner args kwargs
    else if !args.isEmpty || !kwargs.isEmpty then
      Run.typeError "object.__init__() takes exactly one argument (the instance to initialize)"
    pure .none
  | "__new__" =>
    match args[0]? with
    | some (Val.cls c) =>
      if !(<- c.derives ownerCls) then
        Run.typeError s!"{owner}.__new__({<- c.name}): {<- c.name} is not a subtype of {owner}"
      h.plainNew c (args.extract 1 args.size) kwargs
    | some v => Run.typeError s!"{owner}.__new__(X): X is not a type object ({<- typeName v})"
    | none => Run.typeError s!"{owner}.__new__(): not enough arguments"
  | "__repr__" => pure (.str (<- h.ownRepr self))
  | "__str__" =>
    if <- ownerCls.derivesFrom "BaseException" then pure (.str (<- h.ownExceptionText self))
    else if owner == "object" then pure (.str (<- h.repr self))
    else pure (.str (<- h.str core))
  | "__format__" =>
    let spec <- match <- arg 0 with
      | .str s => pure s
      | v => Run.typeError s!"__format__() argument must be str, not {<- typeName v}"
    if owner == "object" || (<- ownerCls.derivesFrom "BaseException") then
      if !spec.isEmpty then
        Run.typeError s!"unsupported format string passed to {<- typeName self}.__format__"
      pure (.str (<- h.str self))
    else pure (.str (<- h.formatValue core spec))
  | "__hash__" => pure (.int (<- h.ownHash self))
  | "__len__" =>
    match <- coreLength? core with
    | some n => pure (.int n)
    | none => Run.stall
  | "__getitem__" => h.coreGetItem core (<- arg 0)
  | "__setitem__" =>
    h.coreSetItem core (<- arg 0) (<- arg 1)
    pure .none
  | "__delitem__" =>
    h.coreDelItem core (<- arg 0)
    pure .none
  | "__contains__" => pure (.bool (<- h.contains core (<- arg 0)))
  | "__iter__" => coreIterOf core
  | "__next__" =>
    match <- h.next self with
    | .item x => pure x
    | .finished r =>
      throw (.thrown (<- Run.newError "StopIteration" (if r matches .none then #[] else #[r])))
  | "__bool__" => pure (.bool (<- coreTruth core))
  | "__getattribute__" =>
    match <- arg 0 with
    | .str n => h.getAttr self n
    | v => Run.typeError s!"attribute name must be string, not '{<- typeName v}'"
  | "__setattr__" =>
    match <- arg 0, self with
    | .str n, .ref id =>
      h.plainSetAttr self id n (<- arg 1)
      pure .none
    | .str n, _ => do
      refuseSetAttr self n
      pure .none
    | v, _ => Run.typeError s!"attribute name must be string, not '{<- typeName v}'"
  | "__delattr__" =>
    match <- arg 0, self with
    | .str n, .ref id =>
      match <- Run.obj id with
      | .inst i =>
        if (lookupName i.attrs n).isNone then
          Run.noAttribute s!"'{<- typeName self}' object has no attribute '{n}'" n self
        Run.store id (.inst { i with attrs := eraseName i.attrs n })
        pure .none
      | _ => Run.stall
    | _, _ => Run.stall
  | "__init_subclass__" => pure .none
  | "__subclasshook__" => pure .notImplemented
  | "__neg__" => h.unaryOp .minus core
  | "__pos__" => h.unaryOp .plus core
  | "__invert__" => h.unaryOp .invert core
  | "__abs__" => h.callFunction "abs" #[core] #[]
  | "__round__" => h.callFunction "round" (#[core] ++ args) kwargs
  | "__divmod__" | "__rdivmod__" =>
    let other <- coreOf (<- arg 0)
    let numeric (v : Val) : Bool := match v with
      | .int _ | .bool _ | .float _ => true
      | _ => false
    if !(numeric core && numeric other) then return .notImplemented
    if m == "__divmod__" then h.callFunction "divmod" #[core, other] #[]
    else h.callFunction "divmod" #[other, core] #[]
  | _ =>
    match compareOfName m with
    | some op =>
      if owner == "object" then
        pure (identityCompare op (sameValue self (<- arg 0)))
      else builtinCompare h nestLimit op core (<- arg 0)
    | none =>
      match binaryOfName m with
      | some (op, reflected) =>
        let other <- coreOf (<- arg 0)
        let r <- if reflected then h.builtinBinary op other core else h.builtinBinary op core other
        -- a sequence joins and repeats through its own operations, which refuse other operands
        if r.isNone && (op == .add || op == .mul) &&
            ["str", "bytes", "bytearray", "list", "tuple"].contains owner then
          let (l, r) := if reflected then (other, core) else (core, other)
          return <- h.binaryOp op l r (if op == .add then "+" else "*")
        pure (r.getD .notImplemented)
      | none => Run.stall

/-! ### Dispatch -/

/-- Call a method of the language bound to a value. -/
def callMethod (self : Val) (q : String) (args : Array Val) (kwargs : Array (String × Val)) :
    Run Val := do
  let (owner, m) := splitQualified q
  if let some (lo, hi) := methodArity? owner m then
    if args.size < lo || hi.any (args.size > ·) then
      Run.typeError (arityMessage owner m lo hi args.size)
  -- the in-place joins of the containers are their own methods, not operators
  let inPlace := ["list.__iadd__", "bytearray.__iadd__", "dict.__ior__"].contains q
  if m.startsWith "__" && m.endsWith "__" && !inPlace then
    match <- coreOf self with
    | .ref id =>
      match <- Run.obj id with
      | .file _ => return <- h.fileMethod self id m args
      | _ => pure ()
    | .int n => if owner == "int" || owner == "bool" then
        if ["__int__", "__index__", "__float__", "__trunc__", "__floor__", "__ceil__"].contains m then
          return <- h.intMethod n m args kwargs
    | .float x => if owner == "float" then
        if ["__int__", "__float__", "__trunc__", "__floor__", "__ceil__"].contains m then
          return <- floatMethod x m
    | _ => pure ()
    return <- h.specialMethod self owner m args kwargs
  match self with
  | .cls c =>
    match q with
    | "dict.fromkeys" =>
      if c != .builtin "dict" then Run.stall
      let keys <- h.collect (<- argAt m args 0)
      let id <- Run.allocId (.dict #[])
      for k in keys do h.dictSet id k (args[1]?.getD .none)
      return .ref id
    | "int.from_bytes" =>
      if c != .builtin "int" then Run.stall
      let bs <- h.octetsOf (argOr args kwargs 0 "bytes" .none)
      let little <- byteOrderArg (argOr args kwargs 1 "byteorder" (.str "big"))
      let signed <- h.truth ((lookupName kwargs "signed").getD (.bool false))
      let ordered := if little then bs.reverse else bs
      let u : Nat := ordered.foldl (fun acc b => acc * 256 + b.toNat) 0
      let n : Int := if signed && bs.size > 0 && u ≥ 2 ^ (8 * bs.size - 1) then u - 2 ^ (8 * bs.size) else u
      return .int n
    | "str.maketrans" => return <- h.textTranslation args
    | "bytes.maketrans" | "bytearray.maketrans" =>
      if args.size != 2 then
        Run.typeError s!"maketrans expected 2 arguments, got {args.size}"
      let side (v : Val) : Run (Array UInt8) := do
        match <- octets? v with
        | some bs => pure bs
        | none => Run.typeError s!"a bytes-like object is required, not '{<- typeName v}'"
      let src <- side args[0]!
      let dst <- side args[1]!
      if src.size != dst.size then Run.valueError "maketrans arguments must have same length"
      let table := (src.zip dst).foldl (fun t (a, b) => t.set! a.toNat b)
        ((Array.range 256).map Nat.toUInt8)
      return .bytes table
    | "float.fromhex" =>
      match <- argAt m args 0 with
      | .str s =>
        match Number.floatOfHex? s with
        | some x =>
          if x.isInf then Run.raise "OverflowError" "hexadecimal value too large to represent as a float"
          return .float x
        | none => Run.valueError "invalid hexadecimal floating-point string"
      | v => Run.typeError s!"must be str, not {<- typeName v}"
    | "bytes.fromhex" =>
      match <- argAt m args 0 with
      | .str s => return .bytes (<- octetsOfHex s)
      | v => Run.typeError s!"fromhex() argument must be str, not {<- typeName v}"
    | "type.mro" =>
      let order <- c.mro
      return <- Run.newList (order.map Val.cls)
    | _ => Run.stall
  | _ => pure ()
  match <- coreOf self with
  | .str s =>
    h.seqMethod false owner (Seq.ofText s) m args kwargs fun q => pure (.str (Seq.toText q))
  | .bytes bs =>
    h.seqMethod true owner (Seq.ofBytes bs) m args kwargs fun q => pure (.bytes (Seq.toBytes q))
  | .int n => h.intMethod n m args kwargs
  | .bool b => h.intMethod (if b then 1 else 0) m args kwargs
  | .float x => floatMethod x m
  | .complex re im =>
    if m == "conjugate" then pure (.complex re (-im)) else Run.stall
  | .tuple xs => h.tupleMethod xs m args
  | .range a b st =>
    let x <- argAt m args 0
    -- an integer is found by arithmetic; what is no number is in no range
    let n? : Option Int <- match <- coreOf x with
      | .int n => pure (some n)
      | .bool v => pure (some (if v then 1 else 0))
      | .float _ | .complex .. => Run.stall
      | .ref r =>
        match <- Run.obj r with
        | .inst _ => Run.stall
        | _ => pure none
      | _ => pure none
    let place : Option Int := n?.bind fun n =>
      let inside := if st > 0 then a ≤ n && n < b else b < n && n ≤ a
      if inside && (n - a) % st == 0 then some ((n - a) / st) else none
    match m with
    | "index" =>
      match place with
      | some i => pure (.int i)
      | none =>
        if n?.isSome then Run.valueError s!"{<- h.repr x} is not in range"
        Run.valueError "sequence.index(x): x not in sequence"
    | "count" => pure (.int (if place.isSome then 1 else 0))
    | _ => Run.stall
  | .ref id =>
    match <- Run.obj id with
    | .list _ => h.listMethod id m args kwargs
    | .dict _ => h.dictMethod id m args kwargs
    | .set .. => h.setMethod id m args kwargs
    | .bytearray bs =>
      match m with
      | "append" =>
        let b <- h.octetOf (<- argAt m args 0)
        Run.store id (.bytearray (bs.push b))
        pure .none
      | "extend" | "__iadd__" =>
        let v <- argAt m args 0
        -- a count or a text is no sequence of octets here
        if m == "__iadd__" && (<- octets? v).isNone then
          Run.typeError s!"can't concat {<- typeName v} to bytearray"
        if (<- coreOf v) matches .int _ | .bool _ | .str _ then
          Run.typeError s!"can't extend bytearray with {<- typeName v}"
        let more <- h.octetsOf v
        Run.store id (.bytearray (bs ++ more))
        pure (if m == "extend" then .none else self)
      | "insert" =>
        let i := clipPosition bs.size (<- h.toIndex (<- argAt m args 0))
        let b <- h.octetOf (<- argAt m args 1)
        Run.store id (.bytearray ((bs.extract 0 i).push b ++ bs.extract i bs.size))
        pure .none
      | "pop" =>
        if bs.isEmpty then Run.raise "IndexError" "pop from empty bytearray"
        let i <- match args[0]? with
          | some v => h.toIndex v
          | none => pure (-1)
        let j := if i < 0 then i + bs.size else i
        if j < 0 || j ≥ bs.size then Run.raise "IndexError" "pop index out of range"
        Run.store id (.bytearray (bs.eraseIdx! j.toNat))
        pure (.int bs[j.toNat]!.toNat)
      | "remove" =>
        let b <- h.octetOf (<- argAt m args 0)
        match bs.idxOf? b with
        | some i =>
          Run.store id (.bytearray (bs.eraseIdx! i))
          pure .none
        | none => Run.valueError "value not found in bytearray"
      | "reverse" =>
        Run.store id (.bytearray bs.reverse)
        pure .none
      | "clear" =>
        Run.store id (.bytearray #[])
        pure .none
      | "copy" => Run.alloc (.bytearray bs)
      | _ =>
        h.seqMethod true owner (Seq.ofBytes bs) m args kwargs fun q =>
          Run.alloc (.bytearray (Seq.toBytes q))
    | .file _ => h.fileMethod self id m args
    | .inst i =>
      match m with
      | "with_traceback" => pure self
      | "add_note" =>
        match <- argAt m args 0 with
        | .str _ =>
          let notes <- match lookupName i.attrs "__notes__" with
            | some n => pure n
            | none =>
              let n <- Run.newList #[]
              Run.store id (.inst { i with attrs := setName i.attrs "__notes__" n })
              pure n
          match notes with
          | .ref nid =>
            match <- Run.obj nid with
            | .list xs =>
              Run.store nid (.list (xs.push args[0]!))
              pure .none
            | _ => Run.typeError "Cannot add note: __notes__ is not a list"
          | _ => Run.typeError "Cannot add note: __notes__ is not a list"
        | v => Run.typeError s!"note must be a str, not '{<- typeName v}'"
      | _ => Run.stall
    | .iterator (.generator st) =>
      -- a generator runs its whole body when first asked for an item, so only what reaches
      -- it before that, or what leaves its body alone, can be told apart
      let fresh := st matches .callPending .. || st matches .exprPending _
      let finish := Run.store id (.iterator (.generator (.produced #[] 0 (.returned .none))))
      match m with
      | "send" =>
        if !((<- argAt m args 0) matches .none) then
          if fresh then Run.typeError "can't send non-None value to a just-started generator"
          Run.stall
        match <- h.next self with
        | .item x => pure x
        | .finished r =>
          throw (.thrown (<- Run.newError "StopIteration" (if r matches .none then #[] else #[r])))
      | "throw" =>
        if !fresh then Run.stall
        let problem (v : Val) : Run Val := do
          Run.typeError s!"exceptions must be classes or instances deriving from BaseException, not {<- typeName v}"
        let e : Val <- match (args[0]? : Option Val) with
          | some (.cls c) =>
            if !(<- c.derivesFrom "BaseException") then problem (.cls c)
            else
              let given : Array Val := match (args[1]? : Option Val) with
                | some .none | none => #[]
                | some v => #[v]
              h.call (.cls c) given #[]
          | some v => if <- isA v "BaseException" then pure v else problem v
          | none => Run.typeError "throw expected at least 1 argument, got 0"
        finish
        throw (.thrown e)
      | "close" =>
        finish
        pure .none
      | _ => Run.stall
    | _ => Run.stall
  | _ => Run.stall

/-- Call a function of the language, of a module of the system library, or a method of a
class of the language read through the class (which takes the value as its first
argument). -/
def callBuiltin (q : String) (args : Array Val) (kwargs : Array (String × Val)) : Run Val := do
  if !q.contains '.' then return <- h.callFunction q args kwargs
  let (owner, m) := splitQualified q
  if owner.isEmpty || (builtinClass? owner).isNone then return <- h.libraryCall q args kwargs
  if m == "__new__" then return <- h.specialMethod (.cls (.builtin owner)) owner m args kwargs
  if classMethodNames.contains q then
    return <- h.callMethod (.cls (.builtin owner)) q args kwargs
  match args[0]? with
  | none => Run.typeError s!"unbound method {owner}.{m}() needs an argument"
  | some self =>
    if !(<- isA self owner) then
      Run.typeError s!"descriptor '{m}' for '{owner}' objects doesn't apply to a '{<- typeName self}' object"
    h.callMethod self q (args.extract 1 args.size) kwargs

end Hooks

end GraphProbe.Code
