import GraphProbe.Code.Construct

/-!
# The language's own functions

The functions every module sees without importing anything: `len`, `abs`, `isinstance`,
`sorted`, `min`, `sum`, `open` and the rest. Each checks its arguments as the language does
and computes through the operations of values, calling back into running code where a
value's class provides a special method or a key function is given.

Sorting is stable and compares with `<` only: a run at the start is found, ascending or
strictly descending, and the rest is inserted by binary search, as the language's own sort
does on short lists; longer lists are merged.

Hashes of numbers follow the language's rule: a number's hash is its value modulo the prime
`2^61 - 1`, with the sign kept and `-1` made `-2`; a tuple mixes its items' hashes.
-/

namespace GraphProbe.Code

/-- The prime hashes of numbers are reduced by. -/
def hashPrime : Nat := 2 ^ 61 - 1

/-- A hash as the language gives it: `-1` is kept for errors and becomes `-2`. -/
def fixHash (n : Int) : Int := if n == -1 then -2 else n

/-- The hash of an integer. -/
def intHash (n : Int) : Int :=
  let m : Int := (n.natAbs % hashPrime : Nat)
  fixHash (if n < 0 then -m else m)

/-- The hash of a double: that of the number it is, `314159` for infinity. -/
def floatHash (x : Float) : Int :=
  match Number.classify x with
  | .nan => 0
  | .infinite neg => if neg then -314159 else 314159
  | .finite b =>
    let e := b.exp % 61
    let m := (b.mant % hashPrime) * (2 ^ e.toNat) % hashPrime
    fixHash (if b.negative then -(m : Int) else m)

/-- Wrap an integer to a signed 64-bit word. -/
def wrapWord (n : Nat) : Int :=
  let w : Nat := n % 2 ^ 64
  if w ≥ 2 ^ 63 then (w : Int) - 2 ^ 64 else (w : Int)

/-- The hash of a tuple from its items' hashes. -/
def tupleHash (hs : List Int) : Int :=
  let p1 : Nat := 11400714785074694791
  let p2 : Nat := 14029467366897019727
  let p5 : Nat := 2870177450012600261
  let word (n : Int) : Nat := (n % (2 ^ 64 : Int)).toNat
  let acc := hs.foldl (fun acc lane =>
    let acc := (acc + word lane * p2) % 2 ^ 64
    let acc := ((acc <<< 31) ||| (acc >>> 33)) % 2 ^ 64
    acc * p1 % 2 ^ 64) p5
  let acc := (acc + (hs.length ^^^ (p5 ^^^ 3527539))) % 2 ^ 64
  if acc == 2 ^ 64 - 1 then 1546275796 else wrapWord acc

/-- A text's hash: a fixed mixing of its code points (the language varies it per run). -/
def textHash (s : String) : Int :=
  if s.isEmpty then 0 else
  wrapWord ((Text.codes s).foldl (fun acc n => (acc * 1000003 ^^^ n) % 2 ^ 64) 0x345678)

/-- Find the length of the run at the start of an array by a comparison, and whether it
descends strictly. -/
def countRun (lt : Val -> Val -> Run Bool) (xs : Array Val) : Run (Nat × Bool) := do
  if xs.size < 2 then return (xs.size, false)
  let desc <- lt xs[1]! xs[0]!
  let mut n := 2
  for i in [2:xs.size] do
    let r <- lt xs[i]! xs[i - 1]!
    if r != desc then break
    n := n + 1
  return (n, desc)

/-- Insert items one by one into a sorted prefix by binary search, keeping equal items in
order. -/
def binaryInsert (lt : Val -> Val -> Run Bool) (sorted : Array Val) (rest : List Val) :
    Run (Array Val) := do
  let mut out := sorted
  for x in rest do
    let mut lo := 0
    let mut hi := out.size
    for _ in [0:out.size + 1] do
      if lo ≥ hi then break
      let mid := (lo + hi) / 2
      if <- lt x out[mid]! then hi := mid else lo := mid + 1
    out := out.insertIdx! lo x
  return out

/-- Merge two sorted arrays, the left one's items first among equals. -/
def mergeSorted (lt : Val -> Val -> Run Bool) (a b : Array Val) : Run (Array Val) := do
  let mut out : Array Val := #[]
  let mut i := 0
  let mut j := 0
  for _ in [0:a.size + b.size] do
    if i < a.size && j < b.size then
      if <- lt b[j]! a[i]! then
        out := out.push b[j]!
        j := j + 1
      else
        out := out.push a[i]!
        i := i + 1
    else if i < a.size then
      out := out.push a[i]!
      i := i + 1
    else
      out := out.push b[j]!
      j := j + 1
  return out

/-- Sort an array stably by a comparison; `fuel` bounds the halvings. -/
def sortWith (lt : Val -> Val -> Run Bool) : Nat -> Array Val -> Run (Array Val)
  | 0, xs => pure xs
  | fuel + 1, xs => do
    if xs.size < 64 then
      let (n, desc) <- countRun lt xs
      let first := xs.extract 0 n
      let first := if desc then first.reverse else first
      binaryInsert lt first (xs.extract n xs.size).toList
    else
      let half := xs.size / 2
      let a <- sortWith lt fuel (xs.extract 0 half)
      let b <- sortWith lt fuel (xs.extract half xs.size)
      mergeSorted lt a b

/-- The integer square root by Newton's steps from above; `fuel` bounds the steps. -/
def isqrtFrom (n : Nat) : Nat -> Nat -> Nat
  | 0, x => x
  | fuel + 1, x =>
    let y := (x + n / x) / 2
    if y ≥ x then x else isqrtFrom n fuel y

/-- The integer square root. -/
def isqrt (n : Nat) : Nat := if n == 0 then 0 else isqrtFrom n (Nat.log2 n + 8) (2 ^ (Nat.log2 n / 2 + 1))

/-- The length of the vector `(x, y)`, correctly rounded: `abs` of a complex number. -/
def hypotenuse (x y : Float) : Float :=
  match Number.classify x, Number.classify y with
  | .infinite _, _ | _, .infinite _ => infFloat
  | .nan, _ | _, .nan => nanFloat
  | .finite a, .finite b =>
    if a.mant == 0 then Float.abs y
    else if b.mant == 0 then Float.abs x
    else
      let e := min a.exp b.exp
      let n := a.mant ^ 2 * 2 ^ (2 * (a.exp - e)).toNat + b.mant ^ 2 * 2 ^ (2 * (b.exp - e)).toNat
      let k : Nat := 120
      let big := n * 4 ^ k
      let r := isqrt big
      let sticky := if r * r == big then 0 else 1
      Number.roundBinary (2 * r + sticky) (e - (k : Int) - 1)

/-- The text of an integer in a base with its prefix: `0b101`, `-0x1f`. -/
def prefixedDigits (n : Int) (base : Nat) (pfx : String) : String :=
  (if n < 0 then "-" else "") ++ pfx ++ natDigits base n.natAbs

namespace Hooks

variable (h : Hooks)

/-- Sort items by an optional key function and direction. -/
def sortItems (xs : Array Val) (key : Val) (reverse : Bool) : Run (Array Val) := do
  let keyed <- xs.mapM fun x => do
    match key with
    | .none => pure (Val.tuple #[x, x])
    | f => pure (Val.tuple #[<- h.call f #[x] #[], x])
  let keyOf (v : Val) : Val := match v with
    | .tuple ys => ys[0]!
    | _ => v
  let valOf (v : Val) : Val := match v with
    | .tuple ys => ys[1]!
    | _ => v
  let lt (a b : Val) : Run Bool := h.lessThan (keyOf a) (keyOf b)
  -- descending order keeps equal items in order: sort the reversed list, then reverse
  let items := if reverse then keyed.reverse else keyed
  let sorted <- sortWith lt 64 items
  let sorted := if reverse then sorted.reverse else sorted
  return sorted.map valOf

/-- The hash of a value; `fuel` bounds nested tuples. -/
def hashWith : Nat -> Val -> Run Int
  | 0, _ => pure 0
  | fuel + 1, v => do
    match <- userMethod? v "__hash__" with
    | some f =>
      match <- h.callFound v f #[] with
      | .int n => return fixHash n
      | _ => Run.typeError "__hash__ method should return an integer"
    | none => pure ()
    requireHashable v
    match <- coreOf v with
    | .int n => pure (intHash n)
    | .bool b => pure (if b then 1 else 0)
    | .float x => pure (floatHash x)
    | .str s => pure (textHash s)
    | .bytes bs => pure (textHash (String.ofList (bs.toList.map fun b => Char.ofNat b.toNat)))
    | .tuple xs => return tupleHash (<- xs.toList.mapM (hashWith fuel))
    | .complex re im =>
      let word (n : Int) : Nat := (n % (2 ^ 64 : Int)).toNat
      return fixHash (wrapWord (word (floatHash re) + 1000003 * word (floatHash im)))
    | .range a b st =>
      -- a range hashes as its length, start and step; one of one item as its length and
      -- start with None
      let n := rangeLength a b st
      if n ≤ 1 then
        let startHash := if n == 0 then 8764561885775 else intHash a
        return tupleHash [intHash n, startHash, 8764561885775]
      return tupleHash [intHash n, intHash a, intHash st]
    | .none => pure 8764561885775
    | c => pure ((0x7f3a000000 + 16 * placeOf c : Nat) / 16)

/-- The hash of a value. -/
def hashOf (v : Val) : Run Int := hashWith h 100 v

/-- The positional argument at a place, or a type error naming the function. -/
def argAt (fn : String) (args : Array Val) (i : Nat) : Run Val :=
  match args[i]? with
  | some v => pure v
  | none => Run.typeError s!"{fn}() missing required argument (pos {i + 1})"

/-- Refuse more positional arguments than a function takes. -/
def atMost (fn : String) (args : Array Val) (n : Nat) : Run Unit := do
  if args.size > n then
    Run.typeError s!"{fn} expected at most {n} arguments, got {args.size}"

/-- Refuse keyword arguments a function does not take. -/
def noKeywords (fn : String) (kwargs : Array (String × Val)) : Run Unit := do
  if !kwargs.isEmpty then Run.typeError s!"{fn}() takes no keyword arguments"

/-- An argument given by position or keyword. -/
def argOr (args : Array Val) (kwargs : Array (String × Val)) (i : Nat) (n : String) (default : Val) : Val :=
  match args[i]? with
  | some v => v
  | none => (lookupName kwargs n).getD default

/-- Whether a value is an instance of a class or of one of a tuple of classes; `fuel`
bounds nested tuples. -/
def instanceOfSpec (fn : String) (x : Val) : Nat -> Val -> Run Bool
  | 0, _ => pure false
  | fuel + 1, spec => do
    match spec with
    | .cls c => isInstance x c
    | .tuple cs => cs.anyM (instanceOfSpec fn x fuel)
    | _ => Run.typeError s!"{fn}() arg 2 must be a type, a tuple of types, or a union"

/-- Whether a class derives from a class or one of a tuple of classes. -/
def subclassOfSpec (c : ClassRef) : Nat -> Val -> Run Bool
  | 0, _ => pure false
  | fuel + 1, spec => do
    match spec with
    | .cls k => c.derives k
    | .tuple cs => cs.anyM (subclassOfSpec c fuel)
    | _ => Run.typeError "issubclass() arg 2 must be a class, a tuple of classes, or a union"

/-- Whether a value can be called. -/
def isCallable (v : Val) : Run Bool := do
  match v with
  | .cls _ | .builtin _ | .method .. | .bound .. => pure true
  | .ref id =>
    match <- Run.obj id with
    | .function _ | .cls _ => pure true
    | .inst i => return (<- lookupClass i.cls "__call__").isSome
    | _ => pure false
  | _ => pure false

/-- The name of an attribute given to `getattr` and its kin. -/
def attrName (v : Val) : Run String := do
  match <- coreOf v with
  | .str s => pure s
  | _ => Run.typeError s!"attribute name must be string, not '{<- typeName v}'"

/-- The smallest or largest item, by `<` or `>` on keys. -/
def extreme (fn : String) (op : CompareOp) (args : Array Val) (kwargs : Array (String × Val)) :
    Run Val := do
  let key := (lookupName kwargs "key").getD .none
  let default := lookupName kwargs "default"
  let items <- if args.size == 1 then h.collect args[0]!
    else if args.isEmpty then Run.typeError s!"{fn} expected at least 1 argument, got 0"
    else
      if default.isSome then
        Run.typeError s!"Cannot specify a default for {fn}() with multiple positional arguments"
      pure args
  if items.isEmpty then
    match default with
    | some d => return d
    | none => Run.valueError s!"{fn}() arg is an empty sequence"
  let keyOf (x : Val) : Run Val := match key with
    | .none => pure x
    | f => h.call f #[x] #[]
  let mut best := items[0]!
  let mut bestKey <- keyOf best
  for x in items.extract 1 items.size do
    let k <- keyOf x
    if <- h.truth (<- h.compare op k bestKey) then
      best := x
      bestKey := k
  return best

/-- The sum of items from a start. -/
def sumItems (args : Array Val) (kwargs : Array (String × Val)) : Run Val := do
  let start := argOr args kwargs 1 "start" (.int 0)
  match <- coreOf start with
  | .str _ => Run.typeError "sum() can't sum strings [use ''.join(seq) instead]"
  | .bytes _ => Run.typeError "sum() can't sum bytes [use b''.join(seq) instead]"
  | _ => pure ()
  let mut acc := start
  for x in <- h.collect (<- argAt "sum" args 0) do
    acc <- h.binaryOp .add acc x "+"
  return acc

/-- `round(x)` and `round(x, n)`. -/
def roundValue (x : Val) (digits : Val) : Run Val := do
  match <- userMethod? x "__round__" with
  | some f =>
    match digits with
    | .none => h.callFound x f #[]
    | d => h.callFound x f #[d]
  | none =>
  match <- coreOf x, digits with
  | .int n, .none => pure (.int n)
  | .bool b, .none => pure (.int (if b then 1 else 0))
  | .float f, .none => pure (.int (<- Run.ofExcept (floatRoundInt f)))
  | .int n, d =>
    let k <- h.toIndex d
    if k ≥ 0 then pure (.int n) else pure (.int (intRoundTens n k.natAbs))
  | .bool b, d =>
    let k <- h.toIndex d
    let n : Int := if b then 1 else 0
    if k ≥ 0 then pure (.int n) else pure (.int (intRoundTens n k.natAbs))
  | .float f, d => pure (.float (<- Run.ofExcept (floatRoundDigits f (<- h.toIndex d))))
  | _, _ => Run.typeError s!"type {<- typeName x} doesn't define __round__ method"

/-- The modular inverse of `a` modulo `m`, if it exists; `fuel` bounds the steps. -/
def modInverse (a m : Int) : Option Int :=
  let rec go : Nat -> Int -> Int -> Int -> Int -> Option Int
    | 0, _, _, _, _ => none
    | fuel + 1, r0, r1, s0, s1 =>
      if r1 == 0 then (if r0 == 1 then some s0 else none)
      else
        let q := r0 / r1
        go fuel r1 (r0 - q * r1) s1 (s0 - q * s1)
  (go 10000 (a % m) m 1 0).map fun x => x % m

/-- `pow(a, b)` and `pow(a, b, m)`. -/
def powValue (a b : Val) (m : Val) : Run Val := do
  match m with
  | .none => h.binaryOp .pow a b "**"
  | _ =>
    match <- coreOf a, <- coreOf b, <- coreOf m with
    | .int x, .int y, .int z =>
      if z == 0 then Run.valueError "pow() 3rd argument cannot be 0"
      let mm := z.natAbs
      let base <- if y < 0 then
          match modInverse (x % mm) mm with
          | some inv => pure inv
          | none => Run.valueError "base is not invertible for the given modulus"
        else pure (x % mm)
      let e := y.natAbs
      let mut result : Nat := 1 % mm
      let mut b := (base % mm).toNat
      let mut k := e
      for _ in [0:Nat.log2 e + 2] do
        if k == 0 then break
        if k % 2 == 1 then result := result * b % mm
        b := b * b % mm
        k := k / 2
      let r : Int := result
      pure (.int (if z < 0 && r != 0 then r + z else r))
    | _, _, _ => Run.typeError "pow() 3rd argument not allowed unless all arguments are integers"

/-- An iterator over a sequence backwards: `reversed(x)`. -/
def reversedOf (v : Val) : Run Val := do
  match <- userMethod? v "__reversed__" with
  | some f => return <- h.callFound v f #[]
  | none => pure ()
  match <- coreOf v with
  | .range a b c =>
    let n := rangeLength a b c
    if n == 0 then Run.newIter (.range a a 1)
    else Run.newIter (.range (a + c * ((n : Int) - 1)) (a - c) (-c))
  | .tuple xs => Run.newIter (.items xs.reverse 0 "reversed")
  | .str s => Run.newIter (.items (pointVals s).reverse 0 "reversed")
  | .bytes bs => Run.newIter (.items (bs.map fun b => .int b.toNat).reverse 0 "reversed")
  | .ref id =>
    match <- Run.obj id with
    | .list xs => Run.newIter (.items xs.reverse 0 "list_reverseiterator")
    | .dict es => Run.newIter (.items (es.map Prod.fst).reverse 0 "dict_reversekeyiterator")
    | .bytearray bs => Run.newIter (.items (bs.map fun b => .int b.toNat).reverse 0 "reversed")
    | _ => Run.typeError s!"'{<- typeName v}' object is not reversible"
  | _ => Run.typeError s!"'{<- typeName v}' object is not reversible"

/-- Open a file of the host for reading. -/
def openFile (args : Array Val) (kwargs : Array (String × Val)) : Run Val := do
  let pathVal <- match args[0]? with
    | some p => pure p
    | none => match lookupName kwargs "file" with
      | some p => pure p
      | none => Run.typeError "open() missing required argument 'file' (pos 1)"
  let path <- match <- coreOf pathVal with
    | .str s => pure s
    | .int _ => Run.stall
    | _ => Run.typeError s!"expected str, bytes or os.PathLike object, not {<- typeName pathVal}"
  let mode <- match argOr args kwargs 1 "mode" (.str "r") with
    | .str m => pure m
    | m => Run.typeError s!"open() argument 'mode' must be str, not {<- typeName m}"
  let chars := mode.toList
  if chars.any (fun c => !"rwxabt+U".contains c) || chars.isEmpty then
    Run.valueError s!"invalid mode: '{mode}'"
  if chars.any (fun c => "wxa+".contains c) then Run.stall
  let binary := chars.contains 'b'
  let encoding <- match argOr args kwargs 3 "encoding" .none with
    | .none => pure "utf-8"
    | .str e =>
      if binary then Run.valueError "binary mode doesn't take an encoding argument"
      pure e
    | e => Run.typeError s!"open() argument 'encoding' must be str or None, not {<- typeName e}"
  let host := (<- get).host
  match host.entry path with
  | some false =>
    let e <- h.newException (.builtin "OSError") #[.int 21, .str "Is a directory", pathVal] #[] true
    throw (.thrown e)
  | none =>
    let e <- h.newException (.builtin "OSError") #[.int 2, .str "No such file or directory", pathVal] #[] true
    throw (.thrown e)
  | some true =>
    match host.read path with
    | some (.ok data) =>
      let f : OpenFile := { path := path, data := data.toArray,
                            encoding := if binary then none else some encoding }
      Run.alloc (.file f)
    | some (.error (errno, reason)) =>
      let e <- h.newException (.builtin "OSError") #[.int errno, .str reason, pathVal] #[] true
      throw (.thrown e)
    | none => Run.stall

/-- Call a function of the language by its name. -/
def callFunction (name : String) (args : Array Val) (kwargs : Array (String × Val)) : Run Val := do
  match name with
  | "len" =>
    noKeywords name kwargs
    if args.size != 1 then Run.typeError s!"len() takes exactly one argument ({args.size} given)"
    return .int (<- h.length args[0]!)
  | "abs" =>
    if args.size != 1 then Run.typeError s!"abs() takes exactly one argument ({args.size} given)"
    let x := args[0]!
    match <- userMethod? x "__abs__" with
    | some f => h.callFound x f #[]
    | none =>
      match <- coreOf x with
      | .int n => pure (.int n.natAbs)
      | .bool b => pure (.int (if b then 1 else 0))
      | .float f => pure (.float (Float.abs f))
      | .complex re im => pure (.float (hypotenuse re im))
      | _ => Run.typeError s!"bad operand type for abs(): '{<- typeName x}'"
  | "all" =>
    for x in <- h.collect (<- argAt name args 0) do
      if !(<- h.truth x) then return .bool false
    return .bool true
  | "any" =>
    for x in <- h.collect (<- argAt name args 0) do
      if <- h.truth x then return .bool true
    return .bool false
  | "ascii" => return .str (<- h.ascii (<- argAt name args 0))
  | "repr" => return .str (<- h.repr (<- argAt name args 0))
  | "bin" => return .str (prefixedDigits (<- h.toIndex (<- argAt name args 0)) 2 "0b")
  | "oct" => return .str (prefixedDigits (<- h.toIndex (<- argAt name args 0)) 8 "0o")
  | "hex" => return .str (prefixedDigits (<- h.toIndex (<- argAt name args 0)) 16 "0x")
  | "callable" => return .bool (<- isCallable (<- argAt name args 0))
  | "chr" =>
    let n <- h.toIndex (<- argAt name args 0)
    if n ≥ 2 ^ 31 || n < -(2 ^ 31) then
      Run.raise "OverflowError" "Python int too large to convert to C int"
    if n < 0 || n ≥ 0x110000 then Run.valueError "chr() arg not in range(0x110000)"
    return .str (Text.pointText n.toNat)
  | "ord" =>
    let v <- argAt name args 0
    match <- coreOf v with
    | .str s =>
      let cs := Text.codes s
      if cs.length == 1 then return .int cs[0]!
      Run.typeError s!"ord() expected a character, but string of length {cs.length} found"
    | c =>
      match <- octets? c with
      | some bs =>
        if bs.size == 1 then return .int bs[0]!.toNat
        Run.typeError s!"ord() expected a character, but string of length {bs.size} found"
      | none => Run.typeError s!"ord() expected string of length 1, but {<- typeName v} found"
  | "getattr" =>
    let o <- argAt name args 0
    let n <- attrName (<- argAt name args 1)
    match args[2]? with
    | some d =>
      match <- Run.catching "AttributeError" (h.getAttr o n) with
      | some v => pure v
      | none => pure d
    | none => h.getAttr o n
  | "vars" =>
    match args[0]? with
    | none => Run.stall
    | some o =>
      if args.size > 1 then Run.typeError s!"vars expected at most 1 argument, got {args.size}"
      if o matches .cls _ then Run.stall
      match <- Run.catching "AttributeError" (h.getAttr o "__dict__") with
      | some d => pure d
      | none => Run.typeError "vars() argument must have __dict__ attribute"
  | "setattr" =>
    h.setAttr (<- argAt name args 0) (<- attrName (<- argAt name args 1)) (<- argAt name args 2)
    return .none
  | "delattr" =>
    h.delAttr (<- argAt name args 0) (<- attrName (<- argAt name args 1))
    return .none
  | "hasattr" => return .bool (<- h.hasAttr (<- argAt name args 0) (<- attrName (<- argAt name args 1)))
  | "divmod" =>
    let a <- argAt name args 0
    let b <- argAt name args 1
    match <- userMethod? a "__divmod__" with
    | some f => h.callFound a f #[b]
    | none =>
      match (<- coreOf a).num?, (<- coreOf b).num? with
      | some x, some y =>
        match numDivmod x y with
        | some r =>
          let (q, m) <- Run.ofExcept r
          pure (.tuple #[q, m])
        | none => Run.typeError s!"unsupported operand type(s) for divmod(): '{<- typeName a}' and '{<- typeName b}'"
      | _, _ => Run.typeError s!"unsupported operand type(s) for divmod(): '{<- typeName a}' and '{<- typeName b}'"
  | "format" =>
    let spec : String <- match args[1]? with
      | some (Val.str s) => pure s
      | some v => Run.typeError s!"format() argument 2 must be str, not {<- typeName v}"
      | none => pure ""
    return .str (<- h.formatValue (<- argAt name args 0) spec)
  | "hash" => return .int (<- h.hashOf (<- argAt name args 0))
  | "id" => return .int (0x7f3a00000000 + 16 * placeOf (<- argAt name args 0))
  | "isinstance" =>
    if args.size != 2 then Run.typeError s!"isinstance expected 2 arguments, got {args.size}"
    return .bool (<- instanceOfSpec name args[0]! 64 args[1]!)
  | "issubclass" =>
    if args.size != 2 then Run.typeError s!"issubclass expected 2 arguments, got {args.size}"
    match args[0]! with
    | .cls c => return .bool (<- subclassOfSpec c 64 args[1]!)
    | _ => Run.typeError "issubclass() arg 1 must be a class"
  | "iter" =>
    match args with
    | #[v] => h.iterOf v
    | #[f, sentinel] =>
      if !(<- isCallable f) then Run.typeError "iter(v, w): v must be callable"
      Run.newIter (.calls f sentinel)
    | _ => Run.typeError s!"iter expected at most 2 arguments, got {args.size}"
  | "next" =>
    let it <- argAt name args 0
    match <- h.next it with
    | .item x => pure x
    | .finished r =>
      match args[1]? with
      | some d => pure d
      | none =>
        let e <- h.newException (.builtin "StopIteration")
          (match r with
            | .none => #[]
            | v => #[v]) #[] true
        throw (.thrown e)
  | "max" => h.extreme name .gt args kwargs
  | "min" => h.extreme name .lt args kwargs
  | "pow" => h.powValue (<- argAt name args 0) (<- argAt name args 1) (argOr args kwargs 2 "mod" .none)
  | "print" =>
    for a in args do discard <| h.str a
    return .none
  | "round" => h.roundValue (<- argAt name args 0) (argOr args kwargs 1 "ndigits" .none)
  | "sorted" =>
    if args.size != 1 then Run.typeError s!"sorted expected 1 argument, got {args.size}"
    let xs <- h.collect args[0]!
    let reverse <- h.truth ((lookupName kwargs "reverse").getD (.bool false))
    Run.newList (<- h.sortItems xs ((lookupName kwargs "key").getD .none) reverse)
  | "sum" => h.sumItems args kwargs
  | "open" => h.openFile args kwargs
  | "__import__" =>
    match <- argAt name args 0 with
    | .str n => h.importModule n
    | v => Run.typeError s!"__import__() argument 1 must be str, not {<- typeName v}"
  | "exit" | "quit" =>
    let e <- h.newException (.builtin "SystemExit") args #[] true
    throw (.thrown e)
  | _ => Run.stall

/-- Make a value of a class of the language from the arguments of a call. -/
def constructBuiltin (b : String) (args : Array Val) (kwargs : Array (String × Val)) : Run Val := do
  let c := ClassRef.builtin b
  if <- c.derivesFrom "BaseException" then return <- h.newException c args kwargs true
  match b with
  | "int" =>
    match args[0]?, lookupName kwargs "base" with
    | some v, some bv => h.intOf v (some bv)
    | some v, none => h.intOf v args[1]?
    | none, _ => pure (.int 0)
  | "float" =>
    atMost "float" args 1
    match args[0]? with
    | some v => pure (.float (<- h.floatOf v))
    | none => pure (.float 0.0)
  | "complex" => h.complexOf args
  | "bool" =>
    noKeywords b kwargs
    atMost "bool" args 1
    match args[0]? with
    | some v => pure (.bool (<- h.truth v))
    | none => pure (.bool false)
  | "str" =>
    let v := argOr args kwargs 0 "object" (.str "")
    let enc := argOr args kwargs 1 "encoding" .none
    let errs := argOr args kwargs 2 "errors" .none
    if enc matches .none && errs matches .none then return .str (<- h.str v)
    let e <- match enc with
      | .str e => pure e
      | .none => pure "utf-8"
      | _ => Run.typeError "str() argument 'encoding' must be str"
    let errors <- match errs with
      | .str x => pure x
      | .none => pure "strict"
      | _ => Run.typeError "str() argument 'errors' must be str"
    match <- octets? v with
    | some bs => return .str (<- h.decodeOctets bs e errors)
    | none => Run.typeError s!"decoding to str: need a bytes-like object, {<- typeName v} found"
  | "bytes" => return .bytes (<- h.octetsOfArgs args kwargs)
  | "bytearray" => Run.alloc (.bytearray (<- h.octetsOfArgs args kwargs))
  | "memoryview" =>
    let v <- argAt b args 0
    if (<- octets? v).isSome then Run.stall
    Run.typeError s!"memoryview: a bytes-like object is required, not '{<- typeName v}'"
  | "list" =>
    match args[0]? with
    | some v => Run.newList (<- h.collect v)
    | none => Run.newList #[]
  | "tuple" =>
    match args[0]? with
    | some v => return .tuple (<- h.collect v)
    | none => return .tuple #[]
  | "set" | "frozenset" =>
    let items <- match args[0]? with
      | some v => h.setItemsOf v
      | none => pure #[]
    Run.alloc (.set items (b == "frozenset"))
  | "dict" =>
    let id <- Run.allocId (.dict #[])
    if let some v := args[0]? then h.dictUpdate id v
    for (k, v) in kwargs do h.dictSet id (.str k) v
    return .ref id
  | "range" =>
    atMost "range" args 3
    match args with
    | #[stop] => return .range 0 (<- h.toIndex stop) 1
    | #[a, stop] => return .range (<- h.toIndex a) (<- h.toIndex stop) 1
    | #[a, stop, st] =>
      let step <- h.toIndex st
      if step == 0 then Run.valueError "range() arg 3 must not be zero"
      return .range (<- h.toIndex a) (<- h.toIndex stop) step
    | _ => Run.typeError "range expected at least 1 argument, got 0"
  | "slice" =>
    match args with
    | #[stop] => return .slice .none stop .none
    | #[a, stop] => return .slice a stop .none
    | #[a, stop, st] => return .slice a stop st
    | _ => Run.typeError "slice expected at least 1 argument, got 0"
  | "object" =>
    if !args.isEmpty || !kwargs.isEmpty then Run.typeError "object() takes no arguments"
    Run.alloc (.inst { cls := .builtin "object" })
  | "type" =>
    match args with
    | #[v] => return .cls (<- typeOf v)
    | #[n, bases, ns] =>
      let name <- match n with
        | .str s => pure s
        | _ => Run.typeError "type.__new__() argument 1 must be str"
      let bs <- match bases with
        | .tuple xs => pure xs
        | _ => Run.typeError "type.__new__() argument 2 must be tuple"
      let entries <- match ns with
        | .ref id =>
          match <- Run.obj id with
          | .dict es => es.mapM fun (k, v) => do
              match k with
              | .str s => pure (s, v)
              | _ => Run.stall
          | _ => Run.typeError "type.__new__() argument 3 must be dict"
        | _ => Run.typeError "type.__new__() argument 3 must be dict"
      h.makeClass name name bs entries (.str "__main__")
    | _ => Run.typeError "type() takes 1 or 3 arguments"
  | "property" =>
    let g := argOr args kwargs 0 "fget" .none
    let st := argOr args kwargs 1 "fset" .none
    let d := argOr args kwargs 2 "fdel" .none
    let doc := argOr args kwargs 3 "doc" .none
    Run.alloc (.property g st d doc)
  | "staticmethod" => Run.alloc (.staticMethod (<- argAt b args 0))
  | "classmethod" => Run.alloc (.classMethod (<- argAt b args 0))
  | "enumerate" =>
    let it <- h.iterOf (argOr args kwargs 0 "iterable" .none)
    let start <- h.toIndex (argOr args kwargs 1 "start" (.int 0))
    Run.newIter (.enumerate it start)
  | "zip" =>
    let strict <- h.truth ((lookupName kwargs "strict").getD (.bool false))
    let its <- args.mapM h.iterOf
    Run.newIter (.zip its strict)
  | "map" =>
    if args.size < 2 then Run.typeError "map() must have at least two arguments."
    let its <- (args.extract 1 args.size).mapM h.iterOf
    Run.newIter (.map args[0]! its)
  | "filter" =>
    if args.size != 2 then Run.typeError s!"filter expected 2 arguments, got {args.size}"
    Run.newIter (.filter args[0]! (<- h.iterOf args[1]!))
  | "reversed" => h.reversedOf (<- argAt b args 0)
  | _ => Run.stall

end Hooks

end GraphProbe.Code
