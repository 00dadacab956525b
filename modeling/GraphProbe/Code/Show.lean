import GraphProbe.Code.Protocol

/-!
# The texts of values

Every value has two texts: its literal (`repr`), which for numbers, texts and containers
reads back as the value, and its printed form (`str`), which for a text is the text itself
and for an exception is its message. A class the code defined may provide either
(`__repr__`, `__str__`); the printed form falls back to the literal.

A container that holds itself is shown with `...` at the inner place (`[[...]]`): the
objects being shown are kept on a list, and meeting one of them again shows the mark.

An exception's message follows its class's rule: no argument gives the empty text, one
argument its printed form, several their tuple's literal. A key error shows its one key as
a literal; a system error with a number and a reason shows `[Errno n] reason`, with the file
names after it; an error of a character set names the set, the place and the reason; an
exception group counts its members.
-/

namespace GraphProbe.Code

/-- The text a function of the language shows: a method of a class of the language, a data
attribute of one, or a plain function. -/
def builtinText (q : String) : String :=
  match q.splitOn "." with
  | [c, m] =>
    if isBuiltinField q then s!"<attribute '{m}' of '{c}' objects>"
    else if isMethodName q then
      if classMethodNames.contains q then s!"<built-in method {m} of type object at {addressText 1}>"
      else s!"<method '{m}' of '{c}' objects>"
    else s!"<built-in function {m}>"
  | parts => s!"<built-in function {parts.getLast?.getD q}>"

/-- The text of an integer, or the error of one too long to show. -/
def Run.showInt (n : Int) : Run String := Run.ofExcept (intText n)

/-- The literal of a sequence of item texts in brackets: a tuple of one item keeps its
comma. -/
def bracketed (openMark closeMark : String) (items : Array String) (tuple : Bool) : String :=
  if tuple && items.size == 1 then openMark ++ items[0]! ++ ",)"
  else openMark ++ ", ".intercalate items.toList ++ closeMark

/-- The escape of a code point in a literal: two hex digits below 256, four below 65536,
eight above. -/
def pointEscape (n : Nat) : String :=
  if n < 0x100 then "\\x" ++ Text.hexPadded 2 n
  else if n < 0x10000 then "\\u" ++ Text.hexPadded 4 n
  else "\\U" ++ Text.hexPadded 8 n

/-- The field of an exception. -/
def Instance.field (i : Instance) (n : String) : Option Val := lookupName i.fields n

namespace Hooks

variable (h : Hooks)

/-- The place a value shows in its default text. -/
def placeOf (v : Val) : Nat :=
  match v with
  | .ref id => id
  | _ => 0

/-- The default literal of an object of a class: `<module.name object at place>`. -/
def defaultText (v : Val) : Run String := do
  let c <- typeOf v
  let q <- c.qualname
  let m <- c.moduleName
  let full := match m with
    | some "builtins" | none => q
    | some m => m ++ "." ++ q
  pure s!"<{full} object at {addressText (placeOf v)}>"

mutual

/-- The literal of a value; `seen` holds the containers being shown, `fuel` bounds the
nesting. -/
def reprWith (h : Hooks) : Nat -> List Nat -> Val -> Run String
  | 0, _, _ => Run.raise "RecursionError" "maximum recursion depth exceeded while getting the repr of an object"
  | fuel + 1, seen, v => do
    match v with
    | .none => pure "None"
    | .notImplemented => pure "NotImplemented"
    | .ellipsis => pure "Ellipsis"
    | .bool b => pure (if b then "True" else "False")
    | .int n => Run.showInt n
    | .float x => pure (floatRepr x)
    | .complex re im => pure (complexRepr re im)
    | .str s => pure (Text.quote s)
    | .bytes bs => pure (Text.quoteBytes bs.toList)
    | .tuple xs => do
      let items <- xs.mapM (reprWith h fuel seen)
      pure (bracketed "(" ")" items true)
    | .range a b c =>
      if c == 1 then pure s!"range({a}, {b})" else pure s!"range({a}, {b}, {c})"
    | .slice a b c =>
      pure s!"slice({<- reprWith h fuel seen a}, {<- reprWith h fuel seen b}, {<- reprWith h fuel seen c})"
    | .cls c => c.text
    | .builtin q => pure (builtinText q)
    | .method self q =>
      let m := ((q.splitOn ".").getLast?).getD q
      match self with
      | .cls c => pure s!"<built-in method {m} of type object at {addressText (placeOf (.cls c))}>"
      | _ => pure s!"<built-in method {m} of {<- typeName self} object at {addressText (placeOf self)}>"
    | .bound fn self =>
      let q <- match fn with
        | .ref id => do
          match <- Run.obj id with
          | .function f => pure f.qualname
          | _ => pure "?"
        | _ => pure "?"
      pure s!"<bound method {q} of {<- reprWith h fuel seen self}>"
    | .ref id =>
      match <- userMethod? v "__repr__" with
      | some f =>
        let r <- h.callFound v f #[]
        match r with
        | .str s => pure s
        | _ => Run.typeError s!"__repr__ returned non-string (type {<- typeName r})"
      | none =>
      if seen.contains id then
        match <- Run.obj id with
        | .list _ => pure "[...]"
        | .dict _ => pure "\x7b...\x7d"
        | _ => defaultText v
      else
      let seen := id :: seen
      match <- Run.obj id with
      | .list xs =>
        let items <- xs.mapM (reprWith h fuel seen)
        pure (bracketed "[" "]" items false)
      | .dict es =>
        let items <- es.mapM fun (k, x) => do
          pure ((<- reprWith h fuel seen k) ++ ": " ++ (<- reprWith h fuel seen x))
        pure ("\x7b" ++ ", ".intercalate items.toList ++ "\x7d")
      | .set xs frozen =>
        let items <- (setOrder xs).mapM (reprWith h fuel seen)
        let body := "\x7b" ++ ", ".intercalate items.toList ++ "\x7d"
        if frozen then pure (if xs.isEmpty then "frozenset()" else "frozenset(" ++ body ++ ")")
        else pure (if xs.isEmpty then "set()" else body)
      | .bytearray bs => pure ("bytearray(" ++ Text.quoteBytes bs.toList ++ ")")
      | .inst i =>
        if <- i.cls.derivesFrom "BaseException" then
          let name <- i.cls.name
          if i.args.size == 1 then pure (name ++ "(" ++ (<- reprWith h fuel seen i.args[0]!) ++ ")")
          else pure (name ++ (<- reprWith h fuel seen (.tuple i.args)))
        else
          match i.core with
          | .none => defaultText v
          | c => reprWith h fuel seen c
      | .cls _ => (ClassRef.user id).text
      | .function f => pure s!"<function {f.qualname} at {addressText id}>"
      | .module m =>
        pure s!"<module {Text.quote m.name}>"
      | .frame _ => pure s!"<cell at {addressText id}>"
      | .iterator (.generator _) => pure s!"<generator object at {addressText id}>"
      | .iterator it => pure s!"<{it.className} object at {addressText id}>"
      | .property .. => pure s!"<property object at {addressText id}>"
      | .staticMethod f => pure s!"<staticmethod({<- reprWith h fuel seen f})>"
      | .classMethod f => pure s!"<classmethod({<- reprWith h fuel seen f})>"
      | .superOf c self =>
        pure s!"<super: {<- c.text}, {<- reprWith h fuel seen self}>"
      | .file f =>
        if f.encoding.isSome then
          pure s!"<_io.TextIOWrapper name={Text.quote f.path} mode='r' encoding='UTF-8'>"
        else pure s!"<_io.BufferedReader name={Text.quote f.path}>"
      | .view d k =>
        let es <- Run.dictEntries d
        let items <- es.mapM fun (key, x) =>
          if k == 0 then reprWith h fuel seen key
          else if k == 1 then reprWith h fuel seen x
          else reprWith h fuel seen (.tuple #[key, x])
        let name := if k == 0 then "dict_keys" else if k == 1 then "dict_values" else "dict_items"
        pure (name ++ "([" ++ ", ".intercalate items.toList ++ "])")

/-- The printed form of a value. -/
def strWith (h : Hooks) : Nat -> List Nat -> Val -> Run String
  | 0, _, _ => Run.raise "RecursionError" "maximum recursion depth exceeded while getting the str of an object"
  | fuel + 1, seen, v => do
    match v with
    | .str s => pure s
    | .ref id =>
      match <- userMethod? v "__str__" with
      | some f =>
        let r <- h.callFound v f #[]
        match r with
        | .str s => pure s
        | _ => Run.typeError s!"__str__ returned non-string (type {<- typeName r})"
      | none =>
        match <- Run.obj id with
        | .inst i =>
          if <- i.cls.derivesFrom "BaseException" then exceptionText h fuel seen i
          else
            match <- userMethod? v "__repr__" with
            | some _ => reprWith h fuel seen v
            | none =>
              match i.core with
              | .none => reprWith h fuel seen v
              | c => strWith h fuel seen c
        | _ => reprWith h fuel seen v
    | _ => reprWith h fuel seen v

/-- The message of an exception by its class's rule. -/
def exceptionText (h : Hooks) : Nat -> List Nat -> Instance -> Run String
  | 0, _, _ => Run.raise "RecursionError" "maximum recursion depth exceeded while getting the str of an object"
  | fuel + 1, seen, i => do
    let plain : Run String :=
      if i.args.size == 0 then pure ""
      else if i.args.size == 1 then strWith h fuel seen i.args[0]!
      else reprWith h fuel seen (.tuple i.args)
    let c := i.cls
    if <- c.derivesFrom "BaseExceptionGroup" then
      let msg <- strWith h fuel seen (i.args[0]?.getD (.str ""))
      let n := match i.field "exceptions" with
        | some (.tuple xs) => xs.size
        | _ => 0
      let noun := if n == 1 then "sub-exception" else "sub-exceptions"
      return s!"{msg} ({n} {noun})"
    if <- c.derivesFrom "UnicodeDecodeError" then
      match i.field "encoding", i.field "object", i.field "start", i.field "end", i.field "reason" with
      | some enc, some (.bytes obj), some (.int s), some (.int e), some reason =>
        let encText <- strWith h fuel seen enc
        let reasonText <- strWith h fuel seen reason
        if s.toNat < obj.size && s ≥ 0 && e == s + 1 then
          return s!"'{encText}' codec can't decode byte 0x{Text.hexPadded 2 (obj[s.toNat]!).toNat} in position {s}: {reasonText}"
        else
          return s!"'{encText}' codec can't decode bytes in position {s}-{e - 1}: {reasonText}"
      | _, _, _, _, _ => return ""
    if <- c.derivesFrom "UnicodeEncodeError" then
      match i.field "encoding", i.field "object", i.field "start", i.field "end", i.field "reason" with
      | some enc, some (.str obj), some (.int s), some (.int e), some reason =>
        let encText <- strWith h fuel seen enc
        let reasonText <- strWith h fuel seen reason
        let points := Text.codes obj
        if s.toNat < points.length && s ≥ 0 && e == s + 1 then
          let n := points[s.toNat]!
          return s!"'{encText}' codec can't encode character '{pointEscape n}' in position {s}: {reasonText}"
        else
          return s!"'{encText}' codec can't encode characters in position {s}-{e - 1}: {reasonText}"
      | _, _, _, _, _ => return ""
    if <- c.derivesFrom "KeyError" then
      if i.args.size == 1 then return <- reprWith h fuel seen i.args[0]!
      return <- plain
    if <- c.derivesFrom "OSError" then
      match i.field "errno", i.field "strerror", i.field "filename", i.field "filename2" with
      | some no, some why, some file, file2 =>
        let noText <- strWith h fuel seen no
        let whyText <- strWith h fuel seen why
        let fileText <- reprWith h fuel seen file
        match file2 with
        | some f2 => return s!"[Errno {noText}] {whyText}: {fileText} -> {<- reprWith h fuel seen f2}"
        | none => return s!"[Errno {noText}] {whyText}: {fileText}"
      | some no, some why, none, _ =>
        return s!"[Errno {<- strWith h fuel seen no}] {<- strWith h fuel seen why}"
      | _, _, _, _ => return <- plain
    if <- c.derivesFrom "SyntaxError" then
      let msg <- strWith h fuel seen ((i.field "msg").getD .none)
      let file : Option String := match i.field "filename" with
        | some (.str f) => some (((f.splitOn "/").getLast?).getD f)
        | _ => none
      let line : Option Int := match i.field "lineno" with
        | some (.int n) => some n
        | _ => none
      match file, line with
      | some f, some n => return s!"{msg} ({f}, line {n})"
      | some f, none => return s!"{msg} ({f})"
      | none, some n => return s!"{msg} (line {n})"
      | none, none => return msg
    if <- c.derivesFrom "ImportError" then
      match i.field "msg" with
      | some (.str m) => return m
      | _ => return <- plain
    plain

end

/-- The depth of nesting texts may show. -/
def showLimit : Nat := 2000

/-- The literal of a value. -/
def repr (v : Val) : Run String := reprWith h showLimit [] v

/-- The printed form of a value. -/
def str (v : Val) : Run String := strWith h showLimit [] v

/-- The literal of a value with every character outside ASCII escaped. -/
def ascii (v : Val) : Run String := do
  let s <- h.repr v
  pure (String.join ((Text.codes s).map fun n =>
    if n < 0x80 then Text.pointText n else pointEscape n))

end Hooks

end GraphProbe.Code
