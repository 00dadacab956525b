import GraphProbe.Code.Show

/-!
# Formatting values into texts

Two ways of writing values into a text.

* A format specification (`format(x, '>8.2f')`, the part after `:` in a replacement field)
  is read by `FormatSpec.parse` and applied by the value's class: texts, integers, doubles
  and complex numbers each have their rule; any other value takes only the empty
  specification, which gives its printed form.
* The `%` operator on a text or byte string reads conversions `%[(key)][flags][width][.precision]type`
  from the left operand and takes the values from the right one: the items of a tuple in
  order, the value itself, or, for conversions with a key, the items of a mapping.
  Numbers are signed and padded after their sign; `0` pads numbers only.
-/

namespace GraphProbe.Code

/-- Where the conversions of `%` take their values: the items of a tuple from a position,
or one value that may be taken once. -/
inductive PercentArgs where
  | items (xs : Array Val) (next : Nat)
  | single (v : Val) (taken : Bool)

/-- The flags of a `%` conversion. -/
structure PercentFlags where
  left : Bool := false
  sign : Bool := false
  blank : Bool := false
  alternate : Bool := false
  zero : Bool := false

/-- Write a converted value by the width and flags of a `%` conversion: the rule numbers
(`numeric`) follow puts the sign and the `0x` prefix before zero padding. -/
def percentPad (fl : PercentFlags) (width : Nat) (numeric : Bool) (conv : Char) (text : List Nat) :
    List Nat :=
  let fillZero := numeric && fl.zero
  let (signChar, body) := match numeric, text with
    | true, c :: rest =>
      if c == 0x2D || c == 0x2B then (some c, rest)
      else if fl.sign then (some 0x2B, text)
      else if fl.blank then (some 0x20, text)
      else (none, text)
    | _, _ => (none, text)
  let hasPrefix := fl.alternate && (conv == 'x' || conv == 'X' || conv == 'o')
  let (pfx, digits) := if hasPrefix then (body.take 2, body.drop 2) else ([], body)
  let signPart := signChar.toList
  let len := signPart.length + pfx.length + digits.length
  let pad := width - len
  if fl.left then signPart ++ pfx ++ digits ++ List.replicate pad 0x20
  else if fillZero then signPart ++ pfx ++ List.replicate pad 0x30 ++ digits
  else List.replicate pad 0x20 ++ signPart ++ pfx ++ digits

/-- The text of an integer for `%d`, `%o`, `%x`: sign, prefix in the alternate form, and at
least `precision` digits. -/
def percentIntText (n : Int) (conv : Char) (alt : Bool) (precision : Option Nat) :
    Except Problem String := do
  let digits <- match conv with
    | 'o' => pure (natDigits 8 n.natAbs)
    | 'x' => pure (natDigits 16 n.natAbs)
    | 'X' => pure (natDigits 16 n.natAbs).toUpper
    | _ => decimalDigits n
  let digits := match precision with
    | some p => String.ofList (List.replicate (p - digits.length) '0') ++ digits
    | none => digits
  let pfx := if !alt then "" else match conv with
    | 'o' => "0o"
    | 'x' => "0x"
    | 'X' => "0X"
    | _ => ""
  pure ((if n < 0 then "-" else "") ++ pfx ++ digits)

namespace Hooks

variable (h : Hooks)

/-- The integer a `%d`, `%o` or `%x` conversion writes: integers, and for decimal
conversions the whole part of a double. -/
def percentInt (v : Val) (conv : Char) : Run Int := do
  let hex := conv == 'o' || conv == 'x' || conv == 'X'
  let needed := if hex then "an integer" else "a real number"
  let wrong : Run Int :=
    do Run.typeError s!"%{conv} format: {needed} is required, not {<- typeName v}"
  match <- coreOf v with
  | .int n => pure n
  | .bool b => pure (if b then 1 else 0)
  | .float x =>
    if hex then wrong else Run.ofExcept (floatToInt x)
  | _ =>
    match <- h.callUser? v "__index__" #[] with
    | some (.int n) => pure n
    | _ =>
      if hex then wrong else
      match <- h.callUser? v "__int__" #[] with
      | some (.int n) => pure n
      | _ => wrong

/-- The double a `%e`, `%f` or `%g` conversion writes. -/
def percentFloat (v : Val) : Run Float := do
  match <- coreOf v with
  | .float x => pure x
  | .int n => Run.ofExcept (intToFloat n)
  | .bool b => pure (if b then 1.0 else 0.0)
  | _ =>
    match <- h.callUser? v "__float__" #[] with
    | some (.float x) => pure x
    | _ => Run.typeError s!"must be real number, not {<- typeName v}"

/-- The octets a `%s` or `%b` conversion writes into a byte string. -/
def percentOctets (v : Val) : Run (List Nat) := do
  match <- octets? v with
  | some bs => pure (bs.toList.map UInt8.toNat)
  | none =>
    match <- h.callUser? v "__bytes__" #[] with
    | some (.bytes bs) => pure (bs.toList.map UInt8.toNat)
    | _ => Run.typeError s!"%b requires a bytes-like object, or an object that implements __bytes__, not '{<- typeName v}'"

/-- Convert one value by a `%` conversion `conv`: the code points (or octets) written. -/
def percentConvert (bytes : Bool) (conv : Char) (fl : PercentFlags) (precision : Option Nat)
    (v : Val) (index : Nat) : Run (List Nat × Bool) := do
  let truncate (xs : List Nat) := match precision with
    | some p => xs.take p
    | none => xs
  match conv with
  | 's' =>
    if bytes then return (truncate (<- h.percentOctets v), false)
    else return (truncate (Text.codes (<- h.str v)), false)
  | 'b' =>
    if bytes then return (truncate (<- h.percentOctets v), false)
    else Run.valueError s!"unsupported format character 'b' (0x62) at index {index}"
  | 'r' | 'a' =>
    let t <- if bytes || conv == 'a' then h.ascii v else h.repr v
    return (truncate (Text.codes t), false)
  | 'd' | 'i' | 'u' | 'o' | 'x' | 'X' =>
    let n <- h.percentInt v conv
    let c := if conv == 'i' || conv == 'u' then 'd' else conv
    return (Text.codes (<- Run.ofExcept (percentIntText n c fl.alternate precision)), true)
  | 'e' | 'E' | 'f' | 'F' | 'g' | 'G' =>
    let x <- h.percentFloat v
    let (t, neg) := floatDigitsText x conv (precision.getD 6) false fl.alternate false
    return (Text.codes ((if neg then "-" else "") ++ t), true)
  | 'c' =>
    if bytes then
      match <- octets? v with
      | some bs =>
        if bs.size == 1 then return ([bs[0]!.toNat], false)
        else Run.typeError "%c requires an integer in range(256) or a single byte"
      | none =>
        match <- h.toIndex? v with
        | some n =>
          if n < 0 || n ≥ 256 then Run.raise "OverflowError" "%c arg not in range(256)"
          else return ([n.toNat], false)
        | none => Run.typeError "%c requires an integer in range(256) or a single byte"
    else
      match <- coreOf v with
      | .str s =>
        let cs := Text.codes s
        if cs.length == 1 then return (cs, false) else Run.typeError "%c requires int or char"
      | _ =>
        match <- h.toIndex? v with
        | some n =>
          if n < 0 || n ≥ 0x110000 then Run.raise "OverflowError" "%c arg not in range(0x110000)"
          else return ([n.toNat], false)
        | none => Run.typeError "%c requires int or char"
  | _ =>
    let n := conv.toNat
    let shown := if n < 0x80 then Text.pointText n else "?"
    Run.valueError s!"unsupported format character '{shown}' (0x{natDigits 16 n}) at index {index}"

/-- The next value for a conversion. -/
def percentNext (st : PercentArgs) : Run (Val × PercentArgs) :=
  match st with
  | .items xs i =>
    if hi : i < xs.size then pure (xs[i], .items xs (i + 1))
    else Run.typeError "not enough arguments for format string"
  | .single v taken =>
    if taken then Run.typeError "not enough arguments for format string"
    else pure (v, .single v true)

/-- A count of a conversion, given or taken from the values by `*`: the count, whether it
was negative, and the rest of the format. -/
def percentCount (cs : List Nat) (st : PercentArgs) :
    Run (Option Int × List Nat × PercentArgs × Nat) := do
  match cs with
  | 0x2A :: rest =>
    let (v, st) <- percentNext st
    match <- coreOf v with
    | .int n => pure (some n, rest, st, 1)
    | .bool b => pure (some (if b then 1 else 0), rest, st, 1)
    | _ => Run.typeError "* wants int"
  | _ =>
    let ds := cs.takeWhile fun c => 0x30 ≤ c && c ≤ 0x39
    if ds.isEmpty then pure (none, cs, st, 0)
    else pure (some (ds.foldl (fun a d => 10 * a + (d - 0x30 : Nat)) 0 : Nat), cs.drop ds.length, st, ds.length)

/-- The text of a `%` operation: the format's code points (or octets), the right operand,
and how to take an item of a mapping. -/
def percentFormat (bytes : Bool) (fmt : List Nat) (args : Val)
    (getItem : Val -> Val -> Run Val) : Run (List Nat) := do
  let core <- coreOf args
  let isMapping <- match core with
    | .tuple _ | .str _ => pure false
    | .bytes _ => pure !bytes
    | .range .. => pure true
    | .ref id =>
      match <- Run.obj id with
      | .bytearray _ => pure !bytes
      | .list _ | .dict _ | .view .. => pure true
      | .inst _ => pure (<- userMethod? args "__getitem__").isSome
      | _ => pure false
    | _ => pure false
  let mut st : PercentArgs := match core with
    | .tuple xs => .items xs 0
    | _ => .single args false
  let mut out : Array Nat := #[]
  let mut rest := fmt
  let mut pos := 0
  for _ in [0:fmt.length + 1] do
    match rest with
    | [] => break
    | c :: more =>
      if c != 0x25 then
        out := out.push c
        rest := more
        pos := pos + 1
        continue
      match more with
      | 0x25 :: after =>
        out := out.push 0x25
        rest := after
        pos := pos + 2
        continue
      | _ => pure ()
      let mut cs := more
      let mut place := pos + 1
      -- a mapping key in parentheses
      if cs.head? == some 0x28 then
        if !isMapping then Run.typeError "format requires a mapping"
        let mut depth := 1
        let mut keyPoints : Array Nat := #[]
        let mut ks := cs.tail
        place := place + 1
        for _ in [0:ks.length + 1] do
          match ks with
          | [] => break
          | k :: kr =>
            if k == 0x29 then depth := depth - 1
            else if k == 0x28 then depth := depth + 1
            if depth == 0 then break
            keyPoints := keyPoints.push k
            ks := kr
            place := place + 1
        if depth != 0 then Run.valueError "incomplete format key"
        cs := ks.drop 1
        place := place + 1
        let key : Val := if bytes then .bytes (keyPoints.map Nat.toUInt8) else .str (Text.ofPoints keyPoints.toList)
        st := .single (<- getItem args key) false
      let mut fl : PercentFlags := {}
      for _ in [0:cs.length + 1] do
        match cs with
        | 0x2D :: r => fl := { fl with left := true }; cs := r; place := place + 1
        | 0x2B :: r => fl := { fl with sign := true }; cs := r; place := place + 1
        | 0x20 :: r => fl := { fl with blank := true }; cs := r; place := place + 1
        | 0x23 :: r => fl := { fl with alternate := true }; cs := r; place := place + 1
        | 0x30 :: r => fl := { fl with zero := true }; cs := r; place := place + 1
        | _ => break
      let (w, r, st1, used) <- percentCount cs st
      st := st1
      cs := r
      place := place + used
      let mut width : Nat := 0
      match w with
      | some n =>
        if n < 0 then fl := { fl with left := true }
        width := n.natAbs
      | none => pure ()
      let mut precision : Option Nat := none
      if cs.head? == some 0x2E then
        let (p, r, st2, used) <- percentCount cs.tail st
        st := st2
        cs := r
        place := place + 1 + used
        precision := some ((p.getD 0).toNat)
      -- length modifiers are read and ignored
      for _ in [0:3] do
        match cs with
        | m :: r => if m == 0x68 || m == 0x6C || m == 0x4C then cs := r; place := place + 1 else break
        | [] => break
      match cs with
      | [] => Run.valueError "incomplete format"
      | conv :: r =>
        let (v, st3) <- percentNext st
        st := st3
        let ch := Char.ofNat conv
        let (text, numeric) <- h.percentConvert bytes ch fl precision v place
        out := out ++ (percentPad fl width numeric ch text).toArray
        rest := r
        pos := place + 1
  let kind := if bytes then "bytes" else "string"
  let unused := s!"not all arguments converted during {kind} formatting"
  match st with
  | .items xs i => if i < xs.size then Run.typeError unused
  | .single _ taken => if !taken && !isMapping then Run.typeError unused
  pure out.toList

/-- Format a value by a specification: the class's `__formplace_` of a class the code defined,
else the rule of the number or text it is. -/
def formatValue (v : Val) (spec : String) : Run String := do
  match <- userMethod? v "__formplace_" with
  | some f =>
    let r <- h.callFound v f #[.str spec]
    match r with
    | .str s => pure s
    | _ => Run.typeError s!"__formplace_ must return a str, not {<- typeName r}"
  | none =>
    let name <- typeName v
    match <- coreOf v with
    | .str s =>
      if spec.isEmpty then h.str v
      else Run.ofExcept (do formatTextSpec s (<- FormatSpec.parse spec '<' name))
    | .bool b =>
      if spec.isEmpty then h.str v
      else Run.ofExcept (do formatIntSpec (if b then 1 else 0) (<- FormatSpec.parse spec '>' name) name)
    | .int n =>
      if spec.isEmpty then h.str v
      else Run.ofExcept (do formatIntSpec n (<- FormatSpec.parse spec '>' name) name)
    | .float x =>
      if spec.isEmpty then h.str v
      else Run.ofExcept (do formatFloatSpec x (<- FormatSpec.parse spec '>' name) name)
    | .complex re im =>
      if spec.isEmpty then h.str v
      else Run.ofExcept (do formatComplexSpec re im (<- FormatSpec.parse spec '>' name))
    | _ =>
      if spec.isEmpty then h.str v
      else Run.typeError s!"unsupported format string passed to {name}.__formplace_"

end Hooks

end GraphProbe.Code
