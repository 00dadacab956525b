import GraphProbe.Code.Methods

/-!
# Names and arguments of running code

Running code finds a name by the kind of block it runs in:

* in a function, a local name lives in the function's frame; a name declared `global` lives
  among the module's names; any other name is looked for in the frames of the enclosing
  functions, innermost first, then among the module's names, then among the language's own
  names;
* in a class body, a name is looked for in the class's namespace first, then as in the
  block around it;
* at the top of a module, among the module's names, then the language's.

A name a function binds but has not bound yet is an unbound local (`UnboundLocalError`); a
name found nowhere is undefined (`NameError`).

A call binds its arguments to the parameters: positional arguments fill the positional
parameters in order (the rest go to `*args`), keyword arguments fill the parameters of their
name (the rest go to `**kwargs`), defaults fill what is left, and what is still missing or
given twice is a type error naming the function.
-/

namespace GraphProbe.Code

/-- The functions of the language that a name stands for. -/
def builtinFunctionNames : List String :=
  ["abs", "aiter", "all", "anext", "any", "ascii", "bin", "breakpoint", "callable", "chr",
   "compile", "delattr", "dir", "divmod", "eval", "exec", "format", "getattr", "globals",
   "hasattr", "hash", "help", "hex", "id", "input", "isinstance", "issubclass", "iter", "len",
   "locals", "max", "min", "next", "oct", "open", "ord", "pow", "print", "repr", "round",
   "setattr", "sorted", "sum", "vars", "__import__", "__build_class__", "exit", "quit",
   "copyright", "credits", "license"]

/-- The value of one of the language's own names, if it is one. -/
def builtinValue? (n : String) : Option Val :=
  if builtinFunctionNames.contains n then some (.builtin n)
  else match n with
    | "NotImplemented" => some .notImplemented
    | "Ellipsis" => some .ellipsis
    | "None" => some .none
    | "True" => some (.bool true)
    | "False" => some (.bool false)
    | "__debug__" => some (.bool true)
    | _ =>
      match builtinClass? n with
      | some bc => if bc.exposed then some (.cls (.builtin n)) else none
      | none => none

/-- A list of names as a message lists them: `'a'`, `'a' and 'b'`, `'a', 'b', and 'c'`. -/
def quotedNames (ns : List String) : String :=
  let qs := ns.map fun n => "'" ++ n ++ "'"
  match qs with
  | [] => ""
  | [a] => a
  | [a, b] => a ++ " and " ++ b
  | _ => ", ".intercalate qs.dropLast ++ ", and " ++ qs.getLastD ""

/-- A count with its noun, in the plural unless it is one. -/
def countOf (n : Nat) (noun : String) : String :=
  s!"{n} {noun}" ++ (if n == 1 then "" else "s")

/-- How control leaves a block: by its end, by `break` or `continue`, or by `return`. -/
inductive Flow where
  | next
  | breakLoop
  | continueLoop
  | returned (v : Val)
  deriving Inhabited

namespace Run

/-- The frame at a place of the heap. -/
def frameAt (id : Nat) : Run Frame := do
  match <- obj id with
  | .frame f => pure f
  | _ => stall

/-- The value of a name in a frame, if it is bound. -/
def frameGet (id : Nat) (n : String) : Run (Option Val) := do
  return lookupName (<- frameAt id).vars n

/-- Bind a name in a frame. -/
def frameSet (id : Nat) (n : String) (v : Val) : Run Unit :=
  change id fun
    | .frame f => .frame { f with vars := setName f.vars n v }
    | o => o

/-- Unbind a name in a frame; whether it was bound. -/
def frameDelete (id : Nat) (n : String) : Run Bool := do
  let f <- frameAt id
  if (lookupName f.vars n).isNone then return false
  store id (.frame { f with vars := eraseName f.vars n })
  return true

/-- Whether a name lives in a frame. -/
def frameHolds (id : Nat) (n : String) : Run Bool := do
  return (<- frameAt id).names.contains n

/-- The innermost of some frames a name lives in. -/
def holderOf (frames : List Nat) (n : String) : Run (Option Nat) := do
  for fr in frames do
    if <- frameHolds fr n then return some fr
  return none

/-- Raise an undefined name. -/
def undefinedName (n : String) : Run α := nameError n

/-- Raise an unbound local name. -/
def unboundLocal (n : String) : Run α := do
  let e <- newError "UnboundLocalError"
    #[.str s!"cannot access local variable '{n}' where it is not associated with a value"]
  throw (.thrown e)

/-- Raise an unbound name of an enclosing function. -/
def unboundFree (n : String) : Run α := do
  let e <- newError "NameError"
    #[.str s!"cannot access free variable '{n}' where it is not associated with a value in enclosing scope"]
  throw (.thrown e)

end Run

namespace Hooks

variable (h : Hooks)

/-- A name among the module's names, else among the language's. -/
def loadGlobal (env : Env) (n : String) : Run Val := do
  match <- h.dictGet? env.module (.str n) with
  | some v => pure v
  | none =>
    match builtinValue? n with
    | some v => pure v
    | none => Run.undefinedName n

/-- A name of the enclosing functions, else of the module or the language. -/
def loadOuter (env : Env) (n : String) : Run Val := do
  match <- Run.holderOf env.closure n with
  | some fr =>
    match <- Run.frameGet fr n with
    | some v => pure v
    | none => Run.unboundFree n
  | none => h.loadGlobal env n

/-- The value of a name where code runs. -/
def loadName (env : Env) (n : String) : Run Val := do
  if env.declared.contains n then return <- h.loadGlobal env n
  match env.scope with
  | .function fr =>
    if <- Run.frameHolds fr n then
      match <- Run.frameGet fr n with
      | some v => pure v
      | none => Run.unboundLocal n
    else h.loadOuter env n
  | .classBody ns _ =>
    match <- h.dictGet? ns (.str n) with
    | some v => pure v
    | none => h.loadOuter env n
  | .moduleTop => h.loadGlobal env n

/-- Bind a name where code runs. -/
def storeName (env : Env) (n : String) (v : Val) : Run Unit := do
  if env.declared.contains n then return <- h.dictSet env.module (.str n) v
  match env.scope with
  | .function fr =>
    if <- Run.frameHolds fr n then Run.frameSet fr n v
    else
      match <- Run.holderOf env.closure n with
      | some outer => Run.frameSet outer n v
      | none => h.dictSet env.module (.str n) v
  | .classBody ns _ => h.dictSet ns (.str n) v
  | .moduleTop => h.dictSet env.module (.str n) v

/-- Bind the target of an assignment expression: in the block it stands in, or for a
comprehension in the function or module around it. -/
def storeNamed (env : Env) (n : String) (v : Val) : Run Unit := do
  match env.home with
  | .here => h.storeName env n v
  | .frame fr => Run.frameSet fr n v
  | .globals => h.dictSet env.module (.str n) v

/-- Unbind a name where code runs. -/
def deleteName (env : Env) (n : String) : Run Unit := do
  let fromModule : Run Unit := do
    match <- h.dictRemove env.module (.str n) with
    | some _ => pure ()
    | none => Run.undefinedName n
  if env.declared.contains n then return <- fromModule
  match env.scope with
  | .function fr =>
    if <- Run.frameHolds fr n then
      if !(<- Run.frameDelete fr n) then Run.unboundLocal n
    else
      match <- Run.holderOf env.closure n with
      | some outer => if !(<- Run.frameDelete outer n) then Run.unboundFree n
      | none => fromModule
  | .classBody ns _ =>
    match <- h.dictRemove ns (.str n) with
    | some _ => pure ()
    | none => Run.undefinedName n
  | .moduleTop => fromModule

/-- Bind the arguments of a call to the parameters of a function: the names and values of
its frame. -/
def bindArguments (qual : String) (params : List Param) (defaults : Array Val)
    (kwDefaults : Array (String × Val)) (args : Array Val) (kwargs : Array (String × Val)) :
    Run (Array (String × Val)) := do
  let positional := params.filter fun p => p.kind == .positionalOnly || p.kind == .normal
  let keywordOnly := params.filter fun p => p.kind == .keywordOnly
  let varPositional := params.find? fun p => p.kind == .varPositional
  let varKeyword := params.find? fun p => p.kind == .varKeyword
  let n := positional.length
  if args.size > n && varPositional.isNone then
    let least := n - defaults.size
    let takes := if defaults.isEmpty then countOf n "positional argument"
      else s!"from {least} to {n} positional arguments"
    let given := if args.size == 1 then "1 was given" else s!"{args.size} were given"
    Run.typeError s!"{qual}() takes {takes} but {given}"
  let mut bound : Array (String × Val) := #[]
  for (p, v) in positional.zip args.toList do bound := bound.push (p.name, v)
  let mut extra : Array (String × Val) := #[]
  let mut misplaced : List String := []
  for (k, v) in kwargs do
    let target := params.find? fun p =>
      p.name == k && (p.kind == .normal || p.kind == .keywordOnly)
    match target with
    | some p =>
      if (lookupName bound p.name).isSome then
        Run.typeError s!"{qual}() got multiple values for argument '{k}'"
      bound := bound.push (p.name, v)
    | none =>
      if varKeyword.isSome then extra := extra.push (k, v)
      else if positional.any (fun p => p.name == k && p.kind == .positionalOnly) then
        misplaced := misplaced ++ [k]
      else Run.typeError s!"{qual}() got an unexpected keyword argument '{k}'"
  if !misplaced.isEmpty then
    let listed := ", ".intercalate misplaced
    Run.typeError s!"{qual}() got some positional-only arguments passed as keyword arguments: '{listed}'"
  -- defaults belong to the last positional parameters
  let firstDefault := n - defaults.size
  let mut missing : List String := []
  for i in [0:n] do
    let p := positional[i]!
    if (lookupName bound p.name).isNone then
      if i ≥ firstDefault then bound := bound.push (p.name, defaults[i - firstDefault]!)
      else missing := missing ++ [p.name]
  if !missing.isEmpty then
    let counted := countOf missing.length "required positional argument"
    Run.typeError s!"{qual}() missing {counted}: {quotedNames missing}"
  let mut missingKw : List String := []
  for p in keywordOnly do
    if (lookupName bound p.name).isNone then
      match lookupName kwDefaults p.name with
      | some v => bound := bound.push (p.name, v)
      | none => missingKw := missingKw ++ [p.name]
  if !missingKw.isEmpty then
    let counted := countOf missingKw.length "required keyword-only argument"
    Run.typeError s!"{qual}() missing {counted}: {quotedNames missingKw}"
  if let some p := varPositional then
    bound := bound.push (p.name, .tuple (args.extract n args.size))
  if let some p := varKeyword then
    bound := bound.push (p.name, <- Run.newDict (extra.map fun (k, v) => (.str k, v)))
  -- the frame lists parameters in the order they were declared
  let ordered := params.filterMap fun p => (lookupName bound p.name).map (p.name, ·)
  return ordered.toArray

/-- The absolute name a relative import names: `level` dots from the package of the module
running the import. -/
def relativeName (package : Option String) (level : Nat) (module : String) : Run String := do
  if level == 0 then return module
  match package with
  | none | some "" =>
    Run.raise "ImportError" "attempted relative import with no known parent package"
  | some p =>
    let parts := p.splitOn "."
    if level - 1 ≥ parts.length then
      Run.raise "ImportError" "attempted relative import beyond top-level package"
    let base := ".".intercalate (parts.take (parts.length - (level - 1)))
    return if module.isEmpty then base else base ++ "." ++ module

end Hooks

end GraphProbe.Code
