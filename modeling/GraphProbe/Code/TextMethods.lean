import GraphProbe.Code.Functions

/-!
# Methods of texts and byte strings

Texts and byte strings share most of their methods: searching (`find`, `count`,
`startswith`), splitting and joining, stripping, padding, case changes and the tests of their
characters. Both are handled as sequences of numbers (`Seq`): code points of a text, octets
of a byte string. What differs is which items are blanks, line breaks and letters (every
Unicode class for a text, ASCII only for a byte string) and what a result is made into.

`str.format` reads replacement fields `{name!conversion:spec}`: the name is a position (given
or counted), a keyword, and attributes `.a` or items `[k]` after it; the specification may
hold nested fields itself, one level deep.
-/

namespace GraphProbe.Code

/-- Whether a sequence's items are blanks, by the kind of sequence. -/
def seqBlank (bytes : Bool) (n : Nat) : Bool :=
  if bytes then isBlankOctet n else isBlankPoint n

/-- Whether all items of a non-empty sequence pass a test. -/
def allOf (q : Seq) (p : Nat -> Bool) : Bool := !q.isEmpty && q.all p

/-- A part of a format string: literal code points, or a replacement field's name,
conversion and specification. -/
inductive FormatPart where
  | literal (q : Seq)
  | field (name : Seq) (conversion : Option Nat) (spec : Seq)

/-- Read the replacement field after its `{`: the code points up to the matching `}`, and
the rest. -/
def fieldBody (cs : List Nat) : Option (List Nat × List Nat) :=
  go cs 0 [] (cs.length + 1)
where
  /-- Scan with the depth of nested braces. -/
  go : List Nat -> Nat -> List Nat -> Nat -> Option (List Nat × List Nat)
    | _, _, _, 0 => none
    | [], _, _, _ => none
    | c :: rest, depth, acc, fuel + 1 =>
      if c == 0x7D then
        if depth == 0 then some (acc.reverse, rest) else go rest (depth - 1) (c :: acc) fuel
      else if c == 0x7B then go rest (depth + 1) (c :: acc) fuel
      else go rest depth (c :: acc) fuel

/-- Split a field's body into name, conversion and specification. -/
def splitField (body : List Nat) : Except Problem (Seq × Option Nat × Seq) := do
  -- the name ends at the first `!` or `:` outside brackets
  let rec nameEnd : List Nat -> Bool -> Nat -> Nat
    | [], _, i => i
    | c :: rest, inBracket, i =>
      if inBracket then nameEnd rest (c != 0x5D) (i + 1)
      else if c == 0x5B then nameEnd rest true (i + 1)
      else if c == 0x21 || c == 0x3A then i
      else nameEnd rest false (i + 1)
  let k := nameEnd body false 0
  let name := (body.take k).toArray
  match body.drop k with
  | [] => pure (name, none, #[])
  | 0x3A :: spec => pure (name, none, spec.toArray)
  | _ :: rest =>
    match rest with
    | [] => throw (.msg "ValueError" "unmatched '\x7b' in format spec")
    | conv :: more =>
      match more with
      | [] => pure (name, some conv, #[])
      | 0x3A :: spec => pure (name, some conv, spec.toArray)
      | _ => throw (.msg "ValueError" "expected ':' after conversion specifier")

/-- Read a format string into literal parts and fields. -/
def formatParts (cs : List Nat) : Except Problem (List FormatPart) :=
  go cs [] [] (cs.length + 1)
where
  /-- Scan with the literal collected so far. -/
  go : List Nat -> List Nat -> List FormatPart -> Nat -> Except Problem (List FormatPart)
    | _, lit, acc, 0 => pure (FormatPart.literal lit.reverse.toArray :: acc).reverse
    | [], lit, acc, _ => pure (FormatPart.literal lit.reverse.toArray :: acc).reverse
    | 0x7B :: 0x7B :: rest, lit, acc, fuel + 1 => go rest (0x7B :: lit) acc fuel
    | 0x7D :: 0x7D :: rest, lit, acc, fuel + 1 => go rest (0x7D :: lit) acc fuel
    | 0x7D :: _, _, _, _ + 1 => throw (.msg "ValueError" "Single '\x7d' encountered in format string")
    | 0x7B :: rest, lit, acc, fuel + 1 => do
      if rest.isEmpty then throw (.msg "ValueError" "Single '\x7b' encountered in format string")
      match fieldBody rest with
      | none => throw (.msg "ValueError" "expected '\x7d' before end of string")
      | some (body, after) =>
        let (name, conv, spec) <- splitField body
        go after [] (.field name conv spec :: .literal lit.reverse.toArray :: acc) fuel
    | c :: rest, lit, acc, fuel + 1 => go rest (c :: lit) acc fuel

/-- The first part of a field name and its accessors: `.attr` or `[key]`. -/
inductive Accessor where
  | attr (n : String)
  | item (k : Val)

/-- Read the accessors after a field name's first part. -/
def readAccessors (cs : List Nat) : Except Problem (List Accessor) :=
  go cs [] (cs.length + 1)
where
  /-- Scan the accessors. -/
  go : List Nat -> List Accessor -> Nat -> Except Problem (List Accessor)
    | [], acc, _ => pure acc.reverse
    | _, acc, 0 => pure acc.reverse
    | 0x2E :: rest, acc, fuel + 1 => do
      let n := rest.takeWhile fun c => c != 0x2E && c != 0x5B
      if n.isEmpty then throw (.msg "ValueError" "Empty attribute in format string")
      go (rest.drop n.length) (.attr (Text.ofPoints n) :: acc) fuel
    | 0x5B :: rest, acc, fuel + 1 => do
      let k := rest.takeWhile (· != 0x5D)
      let after := rest.drop k.length
      match after with
      | [] => throw (.msg "ValueError" "Missing ']' in format string")
      | _ :: more =>
        if k.isEmpty then throw (.msg "ValueError" "Empty attribute in format string")
        let key : Val := if k.all (fun c => 0x30 ≤ c && c ≤ 0x39)
          then .int (k.foldl (fun a d => 10 * a + (d - 0x30 : Nat)) 0 : Nat)
          else .str (Text.ofPoints k)
        match more with
        | [] | 0x2E :: _ | 0x5B :: _ => go more (.item key :: acc) fuel
        | _ => throw (.msg "ValueError" "Only '.' or '[' may follow ']' in format field specifier")
    | _ :: _, _, _ + 1 =>
      throw (.msg "ValueError" "Only '.' or '[' may follow ']' in format field specifier")

/-- How many arguments a method of texts and byte strings takes (least and most), and
the names of those it takes by keyword. -/
def seqArity (m : String) : Option (Nat × Nat × List String) :=
  if ["upper", "lower", "casefold", "swapcase", "capitalize", "title", "isupper", "islower",
      "istitle", "isspace", "isalpha", "isdigit", "isdecimal", "isnumeric", "isalnum",
      "isascii", "isprintable", "isidentifier"].contains m then some (0, 0, [])
  else match m with
    | "strip" | "lstrip" | "rstrip" => some (0, 1, [])
    | "split" | "rsplit" => some (0, 2, ["sep", "maxsplit"])
    | "splitlines" => some (0, 1, ["keepends"])
    | "join" | "partition" | "rpartition" | "zfill" | "removeprefix" | "removesuffix"
    | "format_map" => some (1, 1, [])
    | "replace" => some (2, 3, [])
    | "find" | "rfind" | "index" | "rindex" | "count" | "startswith" | "endswith" =>
      some (1, 3, [])
    | "center" | "ljust" | "rjust" => some (1, 2, [])
    | "expandtabs" => some (0, 1, ["tabsize"])
    | "encode" | "decode" => some (0, 2, ["encoding", "errors"])
    | "hex" => some (0, 2, ["sep", "bytes_per_sep"])
    | _ => none

/-- The items of a list in runs of `n` (the last one shorter). -/
def chunksOf (n : Nat) (xs : List α) : List (List α) :=
  if n == 0 then [xs] else go xs.length xs
where
  go : Nat -> List α -> List (List α)
    | 0, _ => []
    | _, [] => []
    | k + 1, ys => ys.take n :: go k (ys.drop n)

namespace Hooks

variable (h : Hooks)

/-- The positional counter of `str.format`: none yet, counting automatically, or given by
hand. -/
inductive FieldNumbering where
  | unset
  | auto (next : Nat)
  | manual

/-- Fill the fields of a format string; `depth` bounds nested specifications. -/
def formatFieldsWith : Nat -> List Nat -> Array Val -> Option (Array (String × Val)) -> Val ->
    FieldNumbering -> Run (String × FieldNumbering)
  | 0, _, _, _, _, _ => Run.valueError "Max string recursion exceeded"
  | depth + 1, cs, args, kwargs, mapping, numbering0 => do
    let parts <- Run.ofExcept (formatParts cs)
    let mut out := ""
    let mut numbering := numbering0
    for p in parts do
      match p with
      | .literal q => out := out ++ Seq.toText q
      | .field name conv spec =>
        let first := name.toList.takeWhile fun c => c != 0x2E && c != 0x5B
        let rest := name.toList.drop first.length
        let accessors <- Run.ofExcept (readAccessors rest)
        let mut v : Val := .none
        if first.isEmpty then
          let n <- match numbering with
            | .manual => Run.valueError "cannot switch from manual field specification to automatic field numbering"
            | .unset => pure 0
            | .auto k => pure k
          numbering := .auto (n + 1)
          if kwargs.isNone then Run.valueError "Format string contains positional fields"
          match args[n]? with
          | some x => v := x
          | none => Run.raise "IndexError" s!"Replacement index {n} out of range for positional args tuple"
        else if first.all (fun c => 0x30 ≤ c && c ≤ 0x39) then
          match numbering with
          | .auto _ => Run.valueError "cannot switch from automatic field numbering to manual field specification"
          | _ => numbering := .manual
          let n := first.foldl (fun a d => 10 * a + (d - 0x30 : Nat)) 0
          if kwargs.isNone then Run.valueError "Format string contains positional fields"
          match args[n]? with
          | some x => v := x
          | none => Run.raise "IndexError" s!"Replacement index {n} out of range for positional args tuple"
        else
          let key := Text.ofPoints first
          match kwargs with
          | some kw =>
            match lookupName kw key with
            | some x => v := x
            | none => keyError (.str key)
          | none => v <- h.getItem mapping (.str key)
        for a in accessors do
          match a with
          | .attr n => v <- h.getAttr v n
          | .item k => v <- h.getItem v k
        let w <- match conv with
          | none => pure v
          | some 0x72 => pure (Val.str (<- h.repr v))
          | some 0x73 => pure (Val.str (<- h.str v))
          | some 0x61 => pure (Val.str (<- h.ascii v))
          | some c => Run.valueError s!"Unknown conversion specifier {Text.pointText c}"
        let (specText, n2) <- formatFieldsWith depth spec.toList args kwargs mapping numbering
        numbering := n2
        out := out ++ (<- h.formatValue w specText)
    return (out, numbering)

/-- `str.format` with positional and keyword arguments. -/
def formatText (fmt : String) (args : Array Val) (kwargs : Array (String × Val)) : Run String := do
  return (<- formatFieldsWith h 3 (Text.codes fmt) args (some kwargs) .none .unset).1

/-- `str.format_map` with a mapping. -/
def formatTextMap (fmt : String) (mapping : Val) : Run String := do
  return (<- formatFieldsWith h 3 (Text.codes fmt) #[] none mapping .unset).1

/-- The items of a text or byte argument of a method, of the same kind as the receiver. -/
def seqArg (bytes : Bool) (v : Val) : Run Seq := do
  if bytes then
    match <- octets? v with
    | some bs => pure (Seq.ofBytes bs)
    | none => Run.typeError s!"a bytes-like object is required, not '{<- typeName v}'"
  else
    match <- coreOf v with
    | .str s => pure (Seq.ofText s)
    | _ => Run.typeError s!"must be str, not {<- typeName v}"

/-- An optional bound of a search method: none, or an index. -/
def boundArg (v : Option Val) : Run (Option Int) := do
  match v with
  | none | some .none => pure none
  | some x => some <$> h.toIndex x

/-- The needle of a search in a byte string: bytes, or one octet by number. -/
def needleArg (bytes : Bool) (v : Val) : Run Seq := do
  if bytes then
    match <- coreOf v with
    | .int n =>
      if n < 0 || n > 255 then Run.valueError "byte must be in range(0, 256)"
      pure #[n.toNat]
    | _ => seqArg bytes v
  else seqArg bytes v

/-- The table `str.maketrans` makes: from a dictionary, the same entries with text keys made
code points; from two texts of one length, each character of the first mapped to the one of
the second, and the characters of a third text mapped to `None`. -/
def textTranslation (args : Array Val) : Run Val := do
  match args.toList with
  | [] => Run.typeError "maketrans() takes at least 1 argument (0 given)"
  | [d] =>
    let entries <- match <- coreOf d with
      | .ref id => do
        match <- Run.obj id with
        | .dict _ => Run.dictEntries id
        | _ => Run.typeError "if you give only one argument to maketrans it must be a dict"
      | _ => Run.typeError "if you give only one argument to maketrans it must be a dict"
    let out <- Run.allocId (.dict #[])
    for (k, v) in entries do
      match <- coreOf k with
      | .int n => h.dictSet out (.int n) v
      | .str s =>
        match Text.codes s with
        | [c] => h.dictSet out (.int c) v
        | _ => Run.valueError "string keys in translate table must be of length 1"
      | _ => Run.typeError "keys in translate table must be strings or integers"
    return .ref out
  | x :: y :: rest =>
    if rest.length > 1 then
      Run.typeError s!"maketrans expected at most 3 arguments, got {args.size}"
    let xs <- match <- coreOf x with
      | .str s => pure (Text.codes s)
      | _ => Run.typeError "first maketrans argument must be a string if there is a second argument"
    let ys <- match <- coreOf y with
      | .str s => pure (Text.codes s)
      | v => Run.typeError s!"maketrans() argument 2 must be str, not {<- typeName v}"
    if xs.length != ys.length then
      Run.valueError "the first two maketrans arguments must have equal length"
    let out <- Run.allocId (.dict #[])
    for (a, b) in xs.zip ys do h.dictSet out (.int a) (.int b)
    if let some z := rest.head? then
      match <- coreOf z with
      | .str s => for c in Text.codes s do h.dictSet out (.int c) .none
      | v => Run.typeError s!"maketrans() argument 3 must be str, not {<- typeName v}"
    return .ref out

/-- Call a method of a text (or byte string, `bytes`) on its items; `wrap` makes a result
sequence a value of the receiver's kind. -/
def seqMethod (bytes : Bool) (kind : String) (q : Seq) (m : String) (args : Array Val)
    (kwargs : Array (String × Val)) (wrap : Seq -> Run Val) : Run Val := do
  if let some (least, most, keywords) := seqArity m then
    let owner := if kind.isEmpty then (if bytes then "bytes" else "str") else kind
    if !keywords.isEmpty then
      for (k, _) in kwargs do
        if !keywords.contains k then
          Run.typeError s!"{m}() got an unexpected keyword argument '{k}'"
    else if !kwargs.isEmpty then Run.typeError s!"{owner}.{m}() takes no keyword arguments"
    let given := args.size + kwargs.size
    if most == 0 && given > 0 then
      Run.typeError s!"{owner}.{m}() takes no arguments ({given} given)"
    if given > most then
      Run.typeError s!"{m}() takes at most {most} arguments ({given} given)"
    if args.size < least then
      Run.typeError s!"{m}() takes at least {least} arguments ({args.size} given)"
  let arg (i : Nat) (n : String) : Option Val :=
    match args[i]? with
    | some v => some v
    | none => lookupName kwargs n
  let blank := seqBlank bytes
  let lineBreak := if bytes then isLineBreakOctet else isLineBreakPoint
  let searchRange : Run (Nat × Nat) := do
    let a <- h.boundArg (arg 1 "start")
    let b <- h.boundArg (arg 2 "end")
    pure (Seq.bounds q.size a b)
  let limitArg : Run (Option Nat) := do
    match arg 1 "maxsplit" with
    | none => pure none
    | some v =>
      let n <- h.toIndex v
      pure (if n < 0 then none else some n.toNat)
  match m with
  | "upper" => wrap (if bytes then q.map octetUpper else textUpper q)
  | "lower" => wrap (if bytes then q.map octetLower else textLower q)
  | "casefold" => wrap (textFold q)
  | "swapcase" => wrap (if bytes then bytesSwap q else textSwap q)
  | "capitalize" => wrap (if bytes then bytesCapitalize q else textCapitalize q)
  | "title" => wrap (if bytes then bytesTitle q else textTitle q)
  | "isupper" => pure (.bool (if bytes then q.any (fun c => 65 ≤ c && c ≤ 90) && !q.any (fun c => 97 ≤ c && c ≤ 122) else textIsUpper q))
  | "islower" => pure (.bool (if bytes then q.any (fun c => 97 ≤ c && c ≤ 122) && !q.any (fun c => 65 ≤ c && c ≤ 90) else textIsLower q))
  | "istitle" => pure (.bool (if bytes then bytesIsTitle q else textIsTitle q))
  | "isspace" => pure (.bool (allOf q blank))
  | "isalpha" => pure (.bool (allOf q (if bytes then isAlphaOctet else Text.isLetterPoint)))
  | "isdigit" => pure (.bool (allOf q (if bytes then isDigitOctet else Text.isDigitPoint)))
  | "isdecimal" => pure (.bool (allOf q isDecimalPoint))
  | "isnumeric" => pure (.bool (allOf q Text.isNumericPoint))
  | "isalnum" => pure (.bool (allOf q (if bytes then fun c => isAlphaOctet c || isDigitOctet c else isAlnumPoint)))
  | "isascii" => pure (.bool (q.all (· < 128)))
  | "isprintable" => pure (.bool (q.all isPrintablePoint))
  | "isidentifier" => pure (.bool (textIsIdentifier q))
  | "strip" | "lstrip" | "rstrip" =>
    let keep <- match arg 0 "chars" with
      | none | some .none => pure fun c => !blank c
      | some v => do
        let cs <- seqArg bytes v
        pure fun c => !cs.contains c
    wrap (Seq.strip keep q (m != "rstrip") (m != "lstrip"))
  | "split" | "rsplit" =>
    let limit <- limitArg
    let pieces <- match arg 0 "sep" with
      | none | some .none =>
        pure (if m == "split" then Seq.splitBlank blank q limit else Seq.rsplitBlank blank q limit)
      | some v => do
        let sep <- seqArg bytes v
        if sep.isEmpty then Run.valueError "empty separator"
        pure (if m == "split" then Seq.split q sep limit else Seq.rsplit q sep limit)
    Run.newList (<- pieces.toArray.mapM wrap)
  | "splitlines" =>
    let keep <- match arg 0 "keepends" with
      | some v => pure ((<- h.toIndex v) != 0)
      | none => pure false
    Run.newList (<- (Seq.splitLines lineBreak q keep).toArray.mapM wrap)
  | "join" =>
    let items <- h.collect (<- argAt "join" args 0)
    let mut out : Seq := #[]
    for i in [0:items.size] do
      let piece <- if bytes then
          match <- octets? items[i]! with
          | some bs => pure (Seq.ofBytes bs)
          | none => Run.typeError s!"sequence item {i}: expected a bytes-like object, {<- typeName items[i]!} found"
        else
          match <- coreOf items[i]! with
          | .str s => pure (Seq.ofText s)
          | _ => Run.typeError s!"sequence item {i}: expected str instance, {<- typeName items[i]!} found"
      if i > 0 then out := out ++ q
      out := out ++ piece
    wrap out
  | "replace" =>
    let old <- seqArg bytes (<- argAt "replace" args 0)
    let new <- seqArg bytes (<- argAt "replace" args 1)
    let count <- match arg 2 "count" with
      | some v => h.toIndex v
      | none => pure (-1)
    let limit := if count < 0 then q.size + 1 else count.toNat
    wrap (Seq.replace q old new limit)
  | "find" | "rfind" | "index" | "rindex" =>
    let needle <- needleArg bytes (<- argAt m args 0)
    let (a, b) <- searchRange
    let found := if m == "find" || m == "index" then Seq.find? q needle a b else Seq.rfind? q needle a b
    match found with
    | some i => pure (.int i)
    | none =>
      if m == "find" || m == "rfind" then pure (.int (-1))
      else Run.valueError (if bytes then "subsection not found" else "substring not found")
  | "count" =>
    let needle <- needleArg bytes (<- argAt m args 0)
    let (a, b) <- searchRange
    pure (.int (Seq.count q needle a b))
  | "startswith" | "endswith" =>
    let target <- argAt m args 0
    let (a, b) <- searchRange
    let candidates <- match target with
      | .tuple xs => xs.mapM (seqArg bytes)
      | v =>
        match <- coreOf v with
        | .str _ | .bytes _ => pure #[<- seqArg bytes v]
        | _ =>
          match <- octets? v with
          | some _ => pure #[<- seqArg bytes v]
          | none =>
            let what := if bytes then "a bytes-like object" else "str"
            let kinds := if bytes then "bytes" else "str"
            Run.typeError s!"{m} first arg must be {what} or a tuple of {kinds}, not {<- typeName v}"
    let hit := candidates.any fun c =>
      if a > q.size || (b < a) then false
      else if c.size > b - a then false
      else if m == "startswith" then Seq.matchesAt q c a
      else Seq.matchesAt q c (b - c.size)
    pure (.bool hit)
  | "partition" | "rpartition" =>
    let sep <- seqArg bytes (<- argAt m args 0)
    if sep.isEmpty then Run.valueError "empty separator"
    let found := if m == "partition" then Seq.find? q sep 0 q.size else Seq.rfind? q sep 0 q.size
    match found with
    | some i =>
      return .tuple #[<- wrap (q.extract 0 i), <- wrap sep, <- wrap (q.extract (i + sep.size) q.size)]
    | none =>
      if m == "partition" then return .tuple #[<- wrap q, <- wrap #[], <- wrap #[]]
      else return .tuple #[<- wrap #[], <- wrap #[], <- wrap q]
  | "center" | "ljust" | "rjust" =>
    let width <- h.toIndex (<- argAt m args 0)
    let fill <- match arg 1 "fillchar" with
      | none => pure 32
      | some v =>
        let f <- seqArg bytes v
        if f.size != 1 then
          Run.typeError "The fill character must be exactly one character long"
        pure f[0]!
    let align := if m == "center" then '^' else if m == "ljust" then '<' else '>'
    wrap (padSeq q width fill align)
  | "zfill" => wrap (zeroFill q (<- h.toIndex (<- argAt m args 0)))
  | "expandtabs" =>
    let size <- match arg 0 "tabsize" with
      | some v => h.toIndex v
      | none => pure 8
    wrap (Seq.expandTabs q size)
  | "removeprefix" =>
    let p <- seqArg bytes (<- argAt m args 0)
    wrap (if Seq.matchesAt q p 0 then q.extract p.size q.size else q)
  | "removesuffix" =>
    let p <- seqArg bytes (<- argAt m args 0)
    wrap (if !p.isEmpty && p.size ≤ q.size && Seq.matchesAt q p (q.size - p.size)
      then q.extract 0 (q.size - p.size) else q)
  | "encode" =>
    let enc <- match arg 0 "encoding" with
      | some (.str e) => pure e
      | some v => Run.typeError s!"encode() argument 'encoding' must be str, not {<- typeName v}"
      | none => pure "utf-8"
    let errors <- match arg 1 "errors" with
      | some (.str e) => pure e
      | none => pure "strict"
      | some v => Run.typeError s!"encode() argument 'errors' must be str, not {<- typeName v}"
    pure (.bytes (<- h.encodeText (Seq.toText q) enc errors))
  | "decode" =>
    let enc <- match arg 0 "encoding" with
      | some (.str e) => pure e
      | some v => Run.typeError s!"decode() argument 'encoding' must be str, not {<- typeName v}"
      | none => pure "utf-8"
    let errors <- match arg 1 "errors" with
      | some (.str e) => pure e
      | none => pure "strict"
      | some v => Run.typeError s!"decode() argument 'errors' must be str, not {<- typeName v}"
    pure (.str (<- h.decodeOctets (Seq.toBytes q) enc errors))
  | "format" => pure (.str (<- h.formatText (Seq.toText q) args kwargs))
  | "format_map" => pure (.str (<- h.formatTextMap (Seq.toText q) (<- argAt m args 0)))
  | "translate" =>
    if bytes then
      atMost "translate" args 2
      let table <- match arg 0 "table" with
        | none | some .none => pure none
        | some v =>
          match <- octets? v with
          | some t =>
            if t.size != 256 then Run.valueError "translation table must be 256 characters long"
            pure (some t)
          | none => Run.typeError s!"a bytes-like object is required, not '{<- typeName v}'"
      let delete <- match arg 1 "delete" with
        | some v =>
          match <- octets? v with
          | some d => pure (Seq.ofBytes d)
          | none => Run.typeError s!"a bytes-like object is required, not '{<- typeName v}'"
        | none => pure #[]
      wrap (q.filterMap fun b =>
        if delete.contains b then none
        else some (match table with
          | some t => (t.getD b 0).toNat
          | none => b))
    else
      noKeywords m kwargs
      if args.size != 1 then
        Run.typeError s!"str.translate() takes exactly one argument ({args.size} given)"
      let table := args[0]!
      let mut out : Array Nat := #[]
      for n in q do
        match <- Run.catching "LookupError" (h.getItem table (.int n)) with
        | none => out := out.push n
        | some v =>
          match <- coreOf v with
          | .none => pure ()
          | .int k =>
            if k < 0 || k > 0x10FFFF then
              Run.valueError "character mapping must be in range(0x110000)"
            out := out.push k.toNat
          | .str t => out := out ++ Seq.ofText t
          | _ => Run.typeError "character mapping must return integer, None or str"
      wrap out
  | "hex" =>
    let digits := q.toList.map fun b => Text.hexPadded 2 b
    match arg 0 "sep" with
    | none => pure (.str (String.join digits))
    | some sepVal =>
      let sep <- match sepVal with
        | .str s => pure s
        | .bytes bs => pure (String.ofList (bs.toList.map fun b => Char.ofNat b.toNat))
        | v => Run.typeError s!"sep must be str or bytes, not {<- typeName v}"
      if sep.length != 1 then Run.valueError "sep must be length 1."
      if sep.toList.any (fun c => c.toNat ≥ 128) then Run.valueError "sep must be ASCII."
      let per <- match arg 1 "bytes_per_sep" with
        | some v => h.toIndex v
        | none => pure 1
      if per == 0 then return .str (String.join digits)
      let size := per.natAbs
      -- groups are counted from the right end, or from the left for a negative size
      let groups := if per > 0 then
          ((chunksOf size digits.reverse).map List.reverse).reverse
        else chunksOf size digits
      pure (.str (sep.intercalate (groups.map String.join)))
  | _ => Run.stall

/-- The octets written in hex digits, blanks between pairs allowed: `bytes.fromhex`. -/
def octetsOfHex (s : String) : Run (Array UInt8) := do
  let cs := Text.codes s
  let mut out : Array UInt8 := #[]
  let mut i := 0
  let arr := cs.toArray
  for _ in [0:arr.size + 1] do
    if i ≥ arr.size then break
    let c := arr[i]!
    if isBlankOctet c then
      i := i + 1
      continue
    match digitIn c, arr[i + 1]?.bind digitIn with
    | some hi, some lo =>
      if hi < 16 && lo < 16 then
        out := out.push (hi * 16 + lo).toUInt8
        i := i + 2
      else Run.valueError s!"non-hexadecimal number found in fromhex() arg at position {if hi < 16 then i + 1 else i}"
    | some hi, none =>
      if hi < 16 && i + 1 ≥ arr.size then
        Run.valueError s!"non-hexadecimal number found in fromhex() arg at position {i + 1}"
      Run.valueError s!"non-hexadecimal number found in fromhex() arg at position {if hi < 16 then i + 1 else i}"
    | none, _ => Run.valueError s!"non-hexadecimal number found in fromhex() arg at position {i}"
  return out

end Hooks

end GraphProbe.Code
