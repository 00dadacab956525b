import GraphProbe.Code.ItemMethods

/-!
# Modules of the system library

Code may import a few modules of the system library, which the machine provides itself:
`math` (functions on doubles and integers), `json` (reading and writing JSON text), `os`
and `os.path` (names of the system and paths of the working tree), `sys` and `string`.
Each lists the names it holds (`libraryNames`); a name it does not list stalls the run,
since the real module holds more than is modelled here.

The functions of `math` follow the C library's results, with its two kinds of failure: a
result that is not a number for an argument that is one is a domain error, an infinite
result for a finite argument is a range error (for functions that can overflow) or a domain
error (for those that cannot, like `log(0)`).
-/

namespace GraphProbe.Code

/-- The texts of `string`. -/
def asciiLetters : String := "abcdefghijklmnopqrstuvwxyzABCDEFGHIJKLMNOPQRSTUVWXYZ"

/-- The punctuation of `string`. -/
def asciiPunctuation : String := "!\"#$%&'()*+,-./:;<=>?@[\\]^_`\x7b|\x7d~"

/-- The names a module of the system library holds, if the machine provides it. The
functions are `.builtin` values named by module and function. -/
def libraryNames (m : String) : Option (List (String × Val)) :=
  let fns (names : List String) : List (String × Val) :=
    names.map fun n => (n, .builtin (m ++ "." ++ n))
  match m with
  | "math" => some (fns ["sqrt", "floor", "ceil", "trunc", "fabs", "exp", "log", "log2",
      "log10", "pow", "isnan", "isinf", "isfinite", "copysign", "gcd", "factorial", "isqrt",
      "hypot", "isclose", "sin", "cos", "tan", "asin", "acos", "atan", "atan2", "degrees",
      "radians", "lcm", "comb", "perm", "prod", "fsum", "fmod", "modf", "frexp", "ldexp",
      "sinh", "cosh", "tanh", "asinh", "acosh", "atanh", "cbrt", "exp2", "nextafter",
      "ulp"] ++
      [("pi", .float 3.141592653589793), ("e", .float 2.718281828459045),
       ("tau", .float 6.283185307179586), ("inf", .float infFloat), ("nan", .float nanFloat)])
  | "json" => some (fns ["loads", "dumps"] ++
      [("JSONDecodeError", .cls (.builtin "JSONDecodeError")), ("__path__", .tuple #[])])
  | "os" => some (fns ["fspath", "getenv"] ++
      [("sep", .str "/"), ("name", .str "posix"), ("linesep", .str "\n"), ("curdir", .str "."),
       ("pardir", .str ".."), ("extsep", .str "."), ("altsep", .none), ("pathsep", .str ":"),
       ("devnull", .str "/dev/null")])
  | "os.path" => some (fns ["join", "exists", "isfile", "isdir", "basename", "dirname",
      "split", "splitext", "normpath", "isabs"] ++ [("sep", .str "/")])
  | "sys" => some (fns ["exit", "getrecursionlimit", "getdefaultencoding",
      "getfilesystemencoding", "intern"] ++
      [("maxsize", .int 9223372036854775807), ("maxunicode", .int 1114111),
       ("byteorder", .str "little"), ("platform", .str "linux")])
  | "string" => some
      [("ascii_letters", .str asciiLetters),
       ("ascii_lowercase", .str "abcdefghijklmnopqrstuvwxyz"),
       ("ascii_uppercase", .str "ABCDEFGHIJKLMNOPQRSTUVWXYZ"),
       ("digits", .str "0123456789"), ("hexdigits", .str "0123456789abcdefABCDEF"),
       ("octdigits", .str "01234567"), ("punctuation", .str asciiPunctuation),
       ("whitespace", .str " \t\n\r\x0b\x0c"),
       ("printable", .str ("0123456789" ++ asciiLetters ++ asciiPunctuation ++ " \t\n\r\x0b\x0c"))]
  | _ => none

/-- The double next to `x` toward `y`. -/
def nextToward (x y : Float) : Float :=
  if x.isNaN || y.isNaN then x + y
  else if x == y then y
  else if x == 0.0 then
    let tiny := Float.ofBits 1
    if y > 0.0 then tiny else -tiny
  else
    let bits := x.toBits
    -- away from zero when moving toward a larger magnitude
    if (y > x) == (x > 0.0) then Float.ofBits (bits + 1) else Float.ofBits (bits - 1)

/-- A summand added to partial sums that hold a sum exactly: each step keeps the rounding
error of the step before, and the last partial is the rounded running sum. -/
def addPartial (ps : Array Float) (x : Float) : Array Float × Float :=
  ps.foldl (fun (acc, x) y =>
    let (x, y) := if x.abs < y.abs then (y, x) else (x, y)
    let hi := x + y
    let lo := y - (hi - x)
    (if lo != 0.0 then acc.push lo else acc, hi)) (#[], x)

/-- The partials, largest first, summed while the sum stays exact: the sum, its last rounding
error, and the partials left. -/
def sumDown (hi : Float) : List Float -> Float × Float × List Float
  | [] => (hi, 0.0, [])
  | y :: rest =>
    let total := hi + y
    let lo := y - (total - hi)
    if lo != 0.0 then (total, lo, rest) else sumDown total rest

/-- The sum of doubles rounded once, from partial sums that hold it exactly. A running sum
beyond the doubles is an overflow even when later summands would bring it back; infinite
summands of both signs have no sum. -/
def exactSum (xs : List Float) : Except Problem Float := do
  let mut ps : Array Float := #[]
  let mut special := 0.0
  let mut infSum := 0.0
  for x in xs do
    let (rest, hi) := addPartial ps x
    ps := rest
    if hi != 0.0 then
      if hi.isNaN || isInfinite hi then
        if !(x.isNaN || isInfinite x) then
          throw (.msg "OverflowError" "intermediate overflow in fsum")
        if isInfinite x then infSum := infSum + x
        special := special + x
        ps := #[]
      else ps := ps.push hi
  if special != 0.0 then
    if infSum.isNaN then throw (.msg "ValueError" "-inf + inf in fsum")
    return special
  match ps.toList.reverse with
  | [] => return 0.0
  | top :: below =>
    let (hi, lo, rest) := sumDown top below
    -- a half-way rounding is settled by the sign of what lies below it
    match rest with
    | z :: _ =>
      if (lo < 0.0 && z < 0.0) || (lo > 0.0 && z > 0.0) then
        let y := lo * 2.0
        let x := hi + y
        return (if x - hi == y then x else hi)
      else return hi
    | [] => return hi

/-- The result of a `math` function of one double, with the library's failures. -/
def mathResult (x r : Float) (canOverflow : Bool) : Except Problem Float :=
  if r.isNaN && !x.isNaN then .error (.msg "ValueError" "math domain error")
  else if isInfinite r && isFiniteFloat x then
    if canOverflow then .error (.msg "OverflowError" "math range error")
    else .error (.msg "ValueError" "math domain error")
  else .ok r

/-- The natural logarithm with the library's failures: zero and negative numbers are out of
its domain. -/
def mathLog (x : Float) : Except Problem Float :=
  if x.isNaN then .ok x
  else if x ≤ 0.0 then .error (.msg "ValueError" "math domain error")
  else .ok x.log

/-- `math.pow` with the library's failures. -/
def mathPow (x y : Float) : Except Problem Float :=
  let r := Float.pow x y
  if r.isNaN then
    if !x.isNaN && !y.isNaN then .error (.msg "ValueError" "math domain error") else .ok r
  else if isInfinite r then
    if x == 0.0 then .error (.msg "ValueError" "math domain error")
    else if isFiniteFloat x && isFiniteFloat y then .error (.msg "OverflowError" "math range error")
    else .ok r
  else .ok r

/-- Whether two doubles are close by a relative and an absolute tolerance. -/
def closeTo (a b relTol absTol : Float) : Bool :=
  if a == b then true
  else if isInfinite a || isInfinite b then false
  else
    let diff := (b - a).abs
    diff ≤ (relTol * b).abs || diff ≤ (relTol * a).abs || diff ≤ absTol

/-- The greatest common divisor of integers, not negative. -/
def intGcd (a b : Int) : Int := (Nat.gcd a.natAbs b.natAbs : Nat)

/-- `n!`. -/
def factorialOf : Nat -> Nat
  | 0 => 1
  | n + 1 => (n + 1) * factorialOf n

/-- The last part of a path: what follows its last `/`. -/
def pathBase (p : String) : String :=
  match (p.splitOn "/").getLast? with
  | some b => b
  | none => p

/-- All of a path before its last part, without the slashes that end it (unless it is all
slashes). -/
def pathHead (p : String) : String :=
  let parts := p.splitOn "/"
  let head := "/".intercalate (parts.dropLast)
  let head := if parts.length ≤ 1 then "" else if head.isEmpty then "/" else head
  if head.toList.all (· == '/') then head
  else String.ofList (head.toList.reverse.dropWhile (· == '/')).reverse

/-- Join two paths: a second one that starts at the root replaces the first. -/
def pathJoin (a b : String) : String :=
  if b.startsWith "/" then b
  else if a.isEmpty || a.endsWith "/" then a ++ b
  else a ++ "/" ++ b

/-- A path without redundant separators and `.` and `..` parts. -/
def pathNormal (p : String) : String :=
  if p.isEmpty then "."
  else
    let initial := if p.startsWith "//" && !p.startsWith "///" then 2
      else if p.startsWith "/" then 1 else 0
    let parts := (p.splitOn "/").filter fun c => !c.isEmpty && c != "."
    let kept := parts.foldl (fun acc c =>
      if c != ".." then acc ++ [c]
      else if initial == 0 && (acc.isEmpty || acc.getLast? == some "..") then acc ++ [c]
      else if acc.isEmpty then acc
      else acc.dropLast) []
    let body := "/".intercalate kept
    let lead := String.ofList (List.replicate initial '/')
    let out := lead ++ body
    if out.isEmpty then "." else out

/-- A path split at the dot that starts its extension: the dot must follow some other
character of the last part. -/
def pathSplitExt (p : String) : String × String :=
  let base := pathBase p
  let cs := base.toList
  let lead := (cs.takeWhile (· == '.')).length
  match (cs.drop lead).reverse.findIdx? (· == '.') with
  | some k =>
    let extLen := k + 1
    let stemLen := p.length - extLen
    (String.ofList (p.toList.take stemLen), String.ofList (p.toList.drop stemLen))
  | none => (p, "")

/-- What `json.dumps` is told about values it has no JSON for: a function that makes one of
them something it has JSON for, whether to leave out keys of other kinds, and whether the
special doubles are allowed. -/
structure DumpRules where
  fallback : Option Val := none
  skipKeys : Bool := false
  allowNan : Bool := true

namespace Hooks

variable (h : Hooks)

/-- A real-number argument of a `math` function, as a double. -/
def realArg (v : Val) : Run Float := do
  match <- coreOf v with
  | .float x => pure x
  | .int n => Run.ofExcept (intToFloat n)
  | .bool b => pure (if b then 1.0 else 0.0)
  | _ =>
    match <- userMethod? v "__float__" with
    | some _ => h.floatOf v
    | none =>
      match <- userMethod? v "__index__" with
      | some _ => Run.ofExcept (intToFloat (<- h.toIndex v))
      | none => Run.typeError s!"must be real number, not {<- typeName v}"

/-- `math.floor` (`up` false) or `math.ceil` (`up` true). -/
def roundToward (up : Bool) (v : Val) : Run Val := do
  match <- coreOf v with
  | .int n => pure (.int n)
  | .bool b => pure (.int (if b then 1 else 0))
  | _ =>
    match <- userMethod? v (if up then "__ceil__" else "__floor__") with
    | some f => h.callFound v f #[]
    | none =>
      let x <- h.realArg v
      pure (.int (<- Run.ofExcept (floatToInt (if up then x.ceil else x.floor))))

/-- A path argument of a function of `os.path`. -/
def pathArg (fn : String) (v : Val) : Run String := do
  match <- coreOf v with
  | .str s => pure s
  | _ =>
    match <- userMethod? v "__fspath__" with
    | some f =>
      match <- h.callFound v f #[] with
      | .str s => pure s
      | _ => Run.stall
    | none =>
      Run.typeError s!"{fn}() argument must be str, bytes, or os.PathLike object, not '{<- typeName v}'"

/-- A value of JSON data read by `json.loads`; `fuel` bounds the nesting. -/
def jsonValue : Nat -> Value -> Run Val
  | 0, _ => Run.stall
  | fuel + 1, v => do
    match v with
    | .null => pure .none
    | .bool b => pure (.bool b)
    | .int n => pure (.int n)
    | .float x => pure (.float x)
    | .str s => pure (.str s)
    | .bytes bs => pure (.bytes bs.toArray)
    | .arr xs => Run.newList (<- xs.toArray.mapM (jsonValue fuel))
    | .obj fs =>
      let id <- Run.allocId (.dict #[])
      for (k, x) in fs do h.dictSet id (.str k) (<- jsonValue fuel x)
      pure (.ref id)

/-- `json.loads` of a text. -/
def jsonLoads (doc : String) : Run Val := do
  match Json.read doc with
  | .ok v => h.jsonValue 2000 v
  | .error (.malformed f p) =>
    let msg := Json.syntaxMessage f p
    let attrs : Array (String × Val) := #[("msg", .str f.text), ("doc", .str doc),
      ("pos", .int p.offset), ("lineno", .int p.line), ("colno", .int p.column)]
    let e <- Run.alloc (.inst { cls := .builtin "JSONDecodeError", args := #[.str msg], attrs := attrs })
    throw (.thrown e)
  | .error e => h.ofFault (Fault.ofReadError e)

/-- A double `json.dumps` may write under the rules. -/
def dumpFloat (rules : DumpRules) (x : Float) : Run Float := do
  if !rules.allowNan && (x.isNaN || isInfinite x) then
    Run.valueError "Out of range float values are not JSON compliant"
  pure x

/-- The JSON data of a value for `json.dumps`; `fuel` bounds the nesting. -/
def jsonData (rules : DumpRules) : Nat -> Val -> Run Value
  | 0, _ => Run.valueError "Circular reference detected"
  | fuel + 1, v => do
    let other : Run Value := do
      match rules.fallback with
      | some f => jsonData rules fuel (<- h.call f #[v] #[])
      | none => Run.typeError s!"Object of type {<- typeName v} is not JSON serializable"
    match <- coreOf v with
    | .none => pure .null
    | .bool b => pure (.bool b)
    | .int n => pure (.int n)
    | .float x => pure (.float (<- dumpFloat rules x))
    | .str s => pure (.str s)
    | .tuple xs => pure (.arr (<- xs.toList.mapM (jsonData rules fuel)))
    | .ref id =>
      match <- Run.obj id with
      | .list xs => pure (.arr (<- xs.toList.mapM (jsonData rules fuel)))
      | .dict es =>
        let ms <- es.toList.filterMapM fun (k, x) => do
          let key <- match <- coreOf k with
            | .str s => pure (some s)
            | .int n => pure (some (toString n))
            | .bool b => pure (some (if b then "true" else "false"))
            | .none => pure (some "null")
            | .float x => pure (some (Number.floatText .json (<- dumpFloat rules x)))
            | _ =>
              if rules.skipKeys then pure none
              else Run.typeError s!"keys must be str, int, float, bool or None, not {<- typeName k}"
          match key with
          | some key => pure (some (key, <- jsonData rules fuel x))
          | none => pure none
        pure (.obj ms)
      | _ => other
    | _ => other

/-- Call a function of a module of the system library by its dotted name. -/
def libraryCall (q : String) (args : Array Val) (kwargs : Array (String × Val)) : Run Val := do
  let arg (i : Nat) : Run Val := argAt q args i
  let real (i : Nat) : Run Float := do h.realArg (<- arg i)
  let unary (f : Float -> Float) (canOverflow : Bool) : Run Val := do
    if args.size != 1 then Run.typeError s!"{q}() takes exactly one argument ({args.size} given)"
    let x <- real 0
    pure (.float (<- Run.ofExcept (mathResult x (f x) canOverflow)))
  let host := (<- get).host
  match q with
  | "math.sqrt" => unary Float.sqrt false
  | "math.exp" => unary Float.exp true
  | "math.sin" => unary Float.sin false
  | "math.cos" => unary Float.cos false
  | "math.tan" => unary Float.tan false
  | "math.asin" => unary Float.asin false
  | "math.acos" => unary Float.acos false
  | "math.atan" => unary Float.atan false
  | "math.fabs" => unary Float.abs false
  | "math.degrees" => unary (fun x => x * (180.0 / 3.141592653589793)) true
  | "math.sinh" => unary Float.sinh true
  | "math.cosh" => unary Float.cosh true
  | "math.tanh" => unary Float.tanh false
  | "math.asinh" => unary Float.asinh false
  | "math.acosh" => unary Float.acosh false
  | "math.atanh" =>
    let x <- real 0
    if x.abs ≥ 1.0 then Run.valueError "math domain error"
    pure (.float (Float.atanh x))
  | "math.cbrt" => unary Float.cbrt false
  | "math.exp2" => unary Float.exp2 true
  | "math.fmod" =>
    let x <- real 0
    let y <- real 1
    if y == 0.0 && !x.isNaN then Run.valueError "math domain error"
    if isInfinite x && !y.isNaN then Run.valueError "math domain error"
    pure (.float (if x.isNaN || y.isNaN then x + y else fmod x y))
  | "math.modf" =>
    let x <- real 0
    if isInfinite x then return .tuple #[.float (copySign 0.0 x), .float x]
    if x.isNaN then return .tuple #[.float x, .float x]
    let whole := if x < 0.0 then x.ceil else x.floor
    pure (.tuple #[.float (copySign (x - whole) x), .float whole])
  | "math.frexp" =>
    let x <- real 0
    if x == 0.0 || x.isNaN || isInfinite x then return .tuple #[.float x, .int 0]
    let (m, e) := x.frExp
    pure (.tuple #[.float m, .int e])
  | "math.ldexp" =>
    let x <- real 0
    let i <- match <- coreOf (<- arg 1) with
      | .int n => pure n
      | .bool b => pure (if b then 1 else 0)
      | v => Run.typeError s!"Expected an int as second argument to ldexp(), not {<- typeName v}"
    if x == 0.0 || x.isNaN || isInfinite x then return .float x
    let r := if i > 2200 then x * infFloat else if i < -2200 then x * 0.0
      else x.scaleB i
    if isInfinite r then Run.raise "OverflowError" "math range error"
    pure (.float r)
  | "math.nextafter" => pure (.float (nextToward (<- real 0) (<- real 1)))
  | "math.ulp" =>
    let x := (<- real 0).abs
    if x.isNaN || isInfinite x then return .float x
    let up := nextToward x infFloat
    pure (.float (if isInfinite up then x - nextToward x 0.0 else up - x))
  | "math.lcm" =>
    let ns <- args.mapM h.toIndex
    pure (.int (ns.foldl (fun a b => if a == 0 || b == 0 then 0
      else ((Nat.lcm a.natAbs b.natAbs : Nat) : Int)) 1))
  | "math.comb" | "math.perm" =>
    let fn := if q == "math.comb" then "comb" else "perm"
    let n <- h.toIndex (<- arg 0)
    let k? <- match args[1]? with
      | some v => if v matches .none then pure none else some <$> h.toIndex v
      | none => pure none
    if q == "math.comb" && k?.isNone then
      Run.typeError s!"comb expected 2 arguments, got {args.size}"
    if n < 0 then Run.valueError "n must be a non-negative integer"
    let k := k?.getD n
    if k < 0 then Run.valueError "k must be a non-negative integer"
    if k > n then return .int 0
    if k > 10000 then Run.stall
    let falling := (List.range k.toNat).foldl (fun acc i => acc * (n.toNat - i)) 1
    pure (.int (if fn == "comb" then falling / factorialOf k.toNat else falling))
  | "math.prod" =>
    let items <- h.collect (<- arg 0)
    let start := (lookupName kwargs "start").getD (.int 1)
    items.foldlM (fun acc x => h.binaryOp .mul acc x "*") start
  | "math.fsum" =>
    let items <- h.collect (<- arg 0)
    let xs <- items.toList.mapM h.realArg
    pure (.float (<- Run.ofExcept (exactSum xs)))
  | "math.radians" => unary (fun x => x * (3.141592653589793 / 180.0)) false
  | "math.floor" => h.roundToward false (<- arg 0)
  | "math.ceil" => h.roundToward true (<- arg 0)
  | "math.trunc" =>
    match <- coreOf (<- arg 0) with
    | .int n => pure (.int n)
    | .bool b => pure (.int (if b then 1 else 0))
    | .float x => pure (.int (<- Run.ofExcept (floatToInt x)))
    | _ => Run.typeError s!"type {<- typeName (<- arg 0)} doesn't define __trunc__ method"
  | "math.log" =>
    let x <- real 0
    let num <- Run.ofExcept (mathLog x)
    match args[1]? with
    | none => pure (.float num)
    | some b =>
      let den <- Run.ofExcept (mathLog (<- h.realArg b))
      if den == 0.0 then Run.raise "ZeroDivisionError" "float division by zero"
      pure (.float (num / den))
  | "math.log2" =>
    let x <- real 0
    discard <| Run.ofExcept (mathLog x)
    pure (.float x.log2)
  | "math.log10" =>
    let x <- real 0
    discard <| Run.ofExcept (mathLog x)
    pure (.float x.log10)
  | "math.pow" => pure (.float (<- Run.ofExcept (mathPow (<- real 0) (<- real 1))))
  | "math.atan2" => pure (.float (Float.atan2 (<- real 0) (<- real 1)))
  | "math.isnan" => pure (.bool (<- real 0).isNaN)
  | "math.isinf" => pure (.bool (isInfinite (<- real 0)))
  | "math.isfinite" => pure (.bool (isFiniteFloat (<- real 0)))
  | "math.copysign" => pure (.float (copySign (<- real 0) (<- real 1)))
  | "math.hypot" =>
    match args with
    | #[] => pure (.float 0.0)
    | #[a] => pure (.float (<- h.realArg a).abs)
    | #[a, b] => pure (.float (hypotenuse (<- h.realArg a) (<- h.realArg b)))
    | _ => Run.stall
  | "math.gcd" =>
    let ns <- args.mapM h.toIndex
    pure (.int (ns.foldl intGcd 0))
  | "math.isqrt" =>
    let n <- h.toIndex (<- arg 0)
    if n < 0 then Run.valueError "isqrt() argument must be nonnegative"
    pure (.int (isqrt n.toNat))
  | "math.factorial" =>
    let n <- h.toIndex (<- arg 0)
    if n < 0 then Run.valueError "factorial() not defined for negative values"
    if n > 5000 then Run.stall
    pure (.int (factorialOf n.toNat))
  | "math.isclose" =>
    let relTol <- match lookupName kwargs "rel_tol" with
      | some v => h.realArg v
      | none => pure 1e-09
    let absTol <- match lookupName kwargs "abs_tol" with
      | some v => h.realArg v
      | none => pure 0.0
    if relTol < 0.0 || absTol < 0.0 then Run.valueError "tolerances must be non-negative"
    pure (.bool (closeTo (<- real 0) (<- real 1) relTol absTol))
  | "json.loads" =>
    let s <- arg 0
    match <- coreOf s with
    | .str doc => h.jsonLoads doc
    | _ =>
      match <- octets? s with
      | some bs => h.jsonLoads (<- h.decodeOctets bs "utf-8")
      | none =>
        Run.typeError s!"the JSON object must be str, bytes or bytearray, not {<- typeName s}"
  | "json.dumps" =>
    if args.size > 1 then
      Run.typeError s!"dumps() takes 1 positional argument but {args.size} were given"
    let flag (n : String) (d : Bool) : Run Bool := do
      match lookupName kwargs n with
      | some v => h.truth v
      | none => pure d
    for (k, v) in kwargs do
      if !(["skipkeys", "ensure_ascii", "check_circular", "allow_nan", "indent", "separators",
          "default", "sort_keys", "cls"].contains k) then
        Run.typeError s!"JSONEncoder.__init__() got an unexpected keyword argument '{k}'"
      if k == "cls" && !(v matches .none) then Run.stall
    let indent : Option String <- match lookupName kwargs "indent" with
      | none | some .none => pure none
      | some v =>
        match <- coreOf v with
        | .int n => pure (some (String.ofList (List.replicate n.toNat ' ')))
        | .str t => pure (some t)
        | _ => Run.stall
    let (itemSep, keySep) <- match lookupName kwargs "separators" with
      | none | some .none => pure (if indent.isSome then "," else ", ", ": ")
      | some v =>
        if !(<- iterable v) then Run.typeError s!"cannot unpack non-iterable {<- typeName v} object"
        match (<- h.collect v).toList with
        | [a, b] =>
          match <- coreOf a, <- coreOf b with
          | .str a, .str b => pure (a, b)
          | _, _ => Run.stall
        | items =>
          if items.length < 2 then
            Run.valueError s!"not enough values to unpack (expected 2, got {items.length})"
          Run.valueError "too many values to unpack (expected 2)"
    let fallback := match lookupName kwargs "default" with
      | some .none | none => none
      | some f => some f
    let rules : DumpRules := {
      fallback := fallback
      skipKeys := (<- flag "skipkeys" false)
      allowNan := (<- flag "allow_nan" true) }
    let data <- h.jsonData rules 1000 (<- arg 0)
    let style : Json.WriteStyle := {
      sortKeys := (<- flag "sort_keys" false)
      asciiOnly := (<- flag "ensure_ascii" true)
      itemSep, keySep, indent }
    match Json.write style data with
    | .ok t => pure (.str t)
    | .error e => Run.typeError e.message
  | "os.fspath" => pure (.str (<- h.pathArg "fspath" (<- arg 0)))
  | "os.getenv" => Run.stall
  | "os.path.join" =>
    let parts <- args.mapM (h.pathArg "join")
    match parts.toList with
    | [] => Run.typeError "join() missing 1 required positional argument: 'a'"
    | p :: ps => pure (.str (ps.foldl pathJoin p))
  | "os.path.exists" =>
    match <- coreOf (<- arg 0) with
    | .str p => pure (.bool (host.entry p).isSome)
    | _ => pure (.bool false)
  | "os.path.isfile" =>
    match <- coreOf (<- arg 0) with
    | .str p => pure (.bool (host.entry p == some true))
    | _ => pure (.bool false)
  | "os.path.isdir" =>
    match <- coreOf (<- arg 0) with
    | .str p => pure (.bool (host.entry p == some false))
    | _ => pure (.bool false)
  | "os.path.basename" => pure (.str (pathBase (<- h.pathArg "basename" (<- arg 0))))
  | "os.path.dirname" => pure (.str (pathHead (<- h.pathArg "dirname" (<- arg 0))))
  | "os.path.split" =>
    let p <- h.pathArg "split" (<- arg 0)
    pure (.tuple #[.str (pathHead p), .str (pathBase p)])
  | "os.path.splitext" =>
    let (a, b) := pathSplitExt (<- h.pathArg "splitext" (<- arg 0))
    pure (.tuple #[.str a, .str b])
  | "os.path.normpath" => pure (.str (pathNormal (<- h.pathArg "normpath" (<- arg 0))))
  | "os.path.isabs" => pure (.bool ((<- h.pathArg "isabs" (<- arg 0)).startsWith "/"))
  | "sys.exit" =>
    let e <- h.newException (.builtin "SystemExit") args #[] true
    throw (.thrown e)
  | "sys.getrecursionlimit" => pure (.int 1000)
  | "sys.getdefaultencoding" | "sys.getfilesystemencoding" => pure (.str "utf-8")
  | "sys.intern" =>
    match <- arg 0 with
    | .str s => pure (.str s)
    | v => Run.typeError s!"intern() argument must be str, not {<- typeName v}"
  | _ => Run.stall

end Hooks

end GraphProbe.Code
