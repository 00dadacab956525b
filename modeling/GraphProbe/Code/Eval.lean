import GraphProbe.Code.Binding
import GraphProbe.Code.Compile
import GraphProbe.Code.Unparse
import GraphProbe.Code.SourceCoding

/-!
# Running code

`evalExpr` gives the value of an expression and `execBlock` runs statements, in a
machine whose heap holds the objects the code makes. Every function of the evaluator takes
a bound on the depth of nesting it may reach (`fuel`); a run that reaches it stalls, as a
run that makes more steps than the machine allows does. The operations of values reach back
into the evaluator through `hooksOf`: calling a value, running a generator, importing a
module, reading a line of a file.

A call of a function of the code makes a frame for its local names and runs the body in it;
a generator function's call makes a generator, which runs its body when first asked for a
value and keeps what it yielded. A class statement runs its body in a fresh namespace and
makes the class of it. An import runs a module's code once and keeps the module: the
modules of the working tree come from the host, a few modules of the system library from
`libraryNames`, and other modules of the system exist with names the machine does not know.

Exceptions travel as `Stop.thrown`: `try` catches them by class, `finally` runs on every
way out, and `with` hands them to the context manager's `__exit__`.
-/

namespace GraphProbe.Code

/-- How deeply a run may nest evaluations. -/
def evalDepth : Nat := 60000

/-- The hooks that stall every request: what runs once the depth bound is spent. -/
def stallHooks : Hooks where
  call _ _ _ := Run.stall
  start _ := Run.stall
  importModule _ := Run.stall
  fileLine _ := Run.stall

/-- Run an action and keep how it ended. -/
def attempt (x : Run α) : Run (Except Stop α) :=
  tryCatch (Except.ok <$> x) (fun e => pure (.error e))

/-- End as an earlier action ended. -/
def resume : Except Stop α -> Run α
  | .ok v => pure v
  | .error e => throw e

/-- The names a code block binds, with the fuel the scan of its statements takes. -/
def blockBindings (params : List String) (body : List Stmt) : Bindings :=
  Bindings.ofBody 100000 params body

/-- Whether a body is a generator's: it yields outside nested functions. -/
def bodyYields (body : List Stmt) : Bool := stmtsSuspend false 100000 body

/-- The statements of a function's body; a lambda's expression is returned. -/
def Body.statements : Body -> List Stmt
  | .block ss => ss
  | .expr e => [.returnValue (some e) 0]

/-- The text of a docstring, when a body starts with one. -/
def docstringOf : List Stmt -> Val
  | .expr (.str s) _ :: _ => .str s
  | _ => .none

/-- Record a value a generator yields; a generator that yields too many is cut off. -/
def Run.yieldValue (v : Val) : Run Unit := do
  let m <- get
  match m.yields with
  | top :: rest =>
    if top.size ≥ yieldLimit then throw .cut
    set { m with yields := top.push v :: rest }
  | [] => Run.stall

/-- The module of a name among the imported ones. -/
def Run.importedModule? (name : String) : Run (Option Val) := do
  return lookupName (<- get).modules name

/-- Keep a module among the imported ones. -/
def Run.keepModule (name : String) (v : Val) : Run Unit :=
  modify fun m => { m with modules := setName m.modules name v }

/-- Forget a module whose code failed. -/
def Run.forgetModule (name : String) : Run Unit :=
  modify fun m => { m with modules := eraseName m.modules name }

/-- The dictionary of a module value. -/
def Run.moduleDict (v : Val) : Run Nat := do
  match v with
  | .ref id =>
    match <- obj id with
    | .module m => pure m.dict
    | _ => stall
  | _ => stall

/-- Whether a module is a package: it has a `__path__`. -/
def Run.isPackage (h : Hooks) (v : Val) : Run Bool := do
  return (<- h.dictGet? (<- moduleDict v) (.str "__path__")).isSome

/-- Whether all the names of a module are known: it is no module of the system whose
contents are only partly modelled. -/
def Run.knownModule (v : Val) : Run Bool := do
  match v with
  | .ref id =>
    match <- obj id with
    | .module m => pure m.known
    | _ => pure true
  | _ => pure true

/-- Raise a missing module. -/
def Run.noModule (message name : String) : Run α := do
  let i : Instance :=
    { cls := .builtin "ModuleNotFoundError"
      args := #[.str message]
      fields := #[("msg", .str message), ("name", .str name), ("path", .none)] }
  let e <- alloc (.inst i)
  throw (.thrown e)

/-- Make a module of the system library, or one whose names the machine does not know. -/
def Run.systemModule (h : Hooks) (name : String) (names : List (String × Val)) (known : Bool) :
    Run Val := do
  let dict <- allocId (.dict #[])
  h.dictSet dict (.str "__name__") (.str name)
  for (k, v) in names do h.dictSet dict (.str k) v
  alloc (.module { name := name, dict := dict, ready := true, known := known })

/-- Whether an exception matches what an `except` clause names: a class, or a tuple of
classes. -/
def Run.exceptionMatches (exc : Val) (spec : Val) : Run Bool := do
  match spec with
  | .cls c =>
    if !(<- c.derivesFrom "BaseException") then
      Run.typeError "catching classes that do not inherit from BaseException is not allowed"
    isInstance exc c
  | .tuple cs =>
    let mut hit := false
    for c in cs do
      match c with
      | .cls k =>
        if !(<- k.derivesFrom "BaseException") then
          Run.typeError "catching classes that do not inherit from BaseException is not allowed"
        if <- isInstance exc k then hit := true
      | _ => Run.typeError "catching classes that do not inherit from BaseException is not allowed"
    return hit
  | _ => Run.typeError "catching classes that do not inherit from BaseException is not allowed"

/-- The environment of a comprehension's own block, inside `env`, with its frame. -/
def comprehensionEnv (env : Env) (frame : Nat) : Env :=
  let closure := match env.scope with
    | .function fr => fr :: env.closure
    | _ => env.closure
  let home := if env.inComprehension then env.home else match env.scope with
    | .function fr => Home.frame fr
    | _ => Home.globals
  { env with
    scope := .function frame
    closure := closure
    home := home
    inComprehension := true }

mutual

/-- The hooks operations call back through, with the depth left. -/
def hooksOf : Nat -> Hooks
  | 0 => stallHooks
  | fuel + 1 =>
    { call := callValue fuel
      start := startGenerator fuel
      importModule := importModule fuel
      fileLine := fun id => Hooks.readLine (hooksOf fuel) id }
termination_by structural fuel => fuel

/-- Call a value with positional and keyword arguments. -/
def callValue : Nat -> Val -> Array Val -> Array (String × Val) -> Run Val
  | 0, _, _, _ => Run.stall
  | fuel + 1, f, args, kwargs => do
    let h := hooksOf fuel
    Run.tick
    match f with
    | .builtin q => h.callBuiltin q args kwargs
    | .method self q => h.callMethod self q args kwargs
    | .bound fn self => callValue fuel fn (#[self] ++ args) kwargs
    | .cls c => construct fuel c args kwargs
    | .ref id =>
      match <- Run.obj id with
      | .function fn => callFunctionOf fuel id fn args kwargs
      | .staticMethod g => callValue fuel g args kwargs
      | .inst _ =>
        match <- userMethod? f "__call__" with
        | some m => callValue fuel (<- h.bindFound f (<- typeOf f) m true) args kwargs
        | none => Run.typeError s!"'{<- typeName f}' object is not callable"
      | _ => Run.typeError s!"'{<- typeName f}' object is not callable"
    | _ => Run.typeError s!"'{<- typeName f}' object is not callable"
termination_by structural fuel => fuel

/-- Call a function of the code at a place of the heap. -/
def callFunctionOf : Nat -> Nat -> Function -> Array Val -> Array (String × Val) -> Run Val
  | 0, _, _, _, _ => Run.stall
  | fuel + 1, id, fn, args, kwargs => do
    if fn.isAsync then Run.stall
    let m <- get
    if m.depth ≥ depthLimit then
      Run.raise "RecursionError" "maximum recursion depth exceeded"
    let vars <- Hooks.bindArguments fn.qualname fn.params fn.defaults fn.kwDefaults args kwargs
    let frame <- Run.allocId (.frame { names := fn.locals, vars := vars })
    if fn.isGenerator then return <- Run.newIter (.generator (.callPending id frame))
    modify fun m => { m with depth := m.depth + 1 }
    let r <- attempt (runFunctionBody fuel fn frame)
    modify fun m => { m with depth := m.depth - 1 }
    resume r
termination_by structural fuel => fuel

/-- Run a function's body in its frame: the value it returns. -/
def runFunctionBody : Nat -> Function -> Nat -> Run Val
  | 0, _, _ => Run.stall
  | fuel + 1, fn, frame => do
    let env : Env :=
      { scope := .function frame
        module := fn.module
        declared := fn.declared
        closure := fn.closure
        classCell := fn.classCell
        selfName := (fn.params.head?).map (·.name)
        postponed := fn.postponed
        qualPrefix := fn.qualname ++ ".<locals>." }
    match fn.body with
    | .expr e => evalExpr fuel env e
    | .block ss =>
      match <- execBlock fuel env ss with
      | .returned v => pure v
      | _ => pure .none
termination_by structural fuel => fuel

/-- Call a class: make an instance (through `__new__`) and initialize it (`__init__`). -/
def construct : Nat -> ClassRef -> Array Val -> Array (String × Val) -> Run Val
  | 0, _, _, _ => Run.stall
  | fuel + 1, c, args, kwargs => do
    let h := hooksOf fuel
    match c with
    | .builtin "super" =>
      if args.isEmpty then Run.raise "RuntimeError" "super(): no arguments"
      match args.toList with
      | [.cls start, self] => Run.alloc (.superOf start self)
      | _ => Run.stall
    | .builtin b => h.constructBuiltin b args kwargs
    | .user _ =>
      let created <- match <- lookupClass c "__new__" with
        | some (f, owner@(.user _)) =>
          let bound <- h.bindFound (.cls c) owner f false
          callValue fuel bound (#[.cls c] ++ args) kwargs
        | _ => do
          let ownInit <- match <- lookupClass c "__init__" with
            | some (_, .user _) => pure true
            | _ => pure false
          if (!args.isEmpty || !kwargs.isEmpty) && !ownInit && !(<- c.derivesFrom "BaseException") &&
              (<- c.layout) == "object" then
            Run.typeError s!"{<- c.name}() takes no arguments"
          h.plainNew c args kwargs
      if !(<- isInstance created c) then return created
      match <- lookupClass c "__init__" with
      | some (f, owner@(.user _)) =>
        let bound <- h.bindFound created owner f true
        let r <- callValue fuel bound args kwargs
        match r with
        | .none => pure ()
        | _ => Run.typeError s!"__init__() should return None, not '{<- typeName r}'"
      | some (.builtin "object.__init__", _) => pure ()
      | some (.builtin q, _) => discard <| h.callMethod created q args kwargs
      | _ => pure ()
      return created
termination_by structural fuel => fuel

/-- Run a generator that has not started, collecting what it yields. -/
def startGenerator : Nat -> Nat -> Run Unit
  | 0, _ => Run.stall
  | fuel + 1, id => do
    let st <- match <- Run.obj id with
      | .iterator (.generator st) => pure st
      | _ => Run.stall
    Run.store id (.iterator (.generator .running))
    modify fun m => { m with yields := #[] :: m.yields }
    let outcome <- attempt (match st with
      | .callPending fid frame => do
        match <- Run.obj fid with
        | .function fn =>
          let m <- get
          if m.depth ≥ depthLimit then
            Run.raise "RecursionError" "maximum recursion depth exceeded"
          modify fun m => { m with depth := m.depth + 1 }
          let r <- attempt (runFunctionBody fuel fn frame)
          modify fun m => { m with depth := m.depth - 1 }
          resume r
        | _ => Run.stall
      | .exprPending c => do
        discard <| comprehend fuel c.env .generator c.element none c.first c.clauses #[]
        pure .none
      | _ => Run.stall)
    let m <- get
    let (vals, rest) := match m.yields with
      | top :: rest => (top, rest)
      | [] => (#[], [])
    set { m with yields := rest }
    let ending <- match outcome with
      | .ok v => pure (GenEnd.returned v)
      | .error (.thrown e) =>
        if <- isA e "StopIteration" then
          pure (GenEnd.raised (<- Run.newError "RuntimeError" #[.str "generator raised StopIteration"]))
        else pure (GenEnd.raised e)
      | .error .cut => pure GenEnd.cut
      | .error .stalled => Run.stall
    Run.store id (.iterator (.generator (.produced vals 0 ending)))
termination_by structural fuel => fuel

/-- Run the clauses of a comprehension from one whose iterator is made: each item is bound
to the clause's target, the conditions filter, the next clause runs inside, and the last
one adds the element to `acc` (a pair for a dictionary) or yields it. -/
def comprehend : Nat -> Env -> ComprehensionKind -> Expr -> Option Expr -> Val ->
    List (Expr × Expr × List Expr × Bool) -> Array Val -> Run (Array Val)
  | 0, _, _, _, _, _, _, _ => Run.stall
  | fuel + 1, env, kind, element, value, it, clauses, acc0 => do
    let h := hooksOf fuel
    match clauses with
    | [] => pure acc0
    | (target, _, conds, _) :: rest =>
      let mut acc := acc0
      for _ in [0:stepLimit] do
        Run.tick
        match <- h.next it with
        | .finished _ => return acc
        | .item x =>
          assignTo fuel env target x
          let mut keep := true
          for c in conds do
            if keep then
              if !(<- h.truth (<- evalExpr fuel env c)) then keep := false
          if keep then
            match rest with
            | [] =>
              match kind, value with
              | .dict, some ve =>
                let k <- evalExpr fuel env element
                let v <- evalExpr fuel env ve
                acc := acc.push (.tuple #[k, v])
              | .generator, _ => Run.yieldValue (<- evalExpr fuel env element)
              | _, _ => acc := acc.push (<- evalExpr fuel env element)
            | (_, nextIter, _, _) :: _ =>
              let inner <- h.iterOf (<- evalExpr fuel env nextIter)
              acc <- comprehend fuel env kind element value inner rest acc
      Run.stall
termination_by structural fuel => fuel

/-- The value of a comprehension or generator expression. -/
def evalComprehension : Nat -> Env -> ComprehensionKind -> Expr -> Option Expr ->
    List (Expr × Expr × List Expr × Bool) -> Run Val
  | 0, _, _, _, _, _ => Run.stall
  | fuel + 1, env, kind, element, value, clauses => do
    let h := hooksOf fuel
    match clauses with
    | [] => Run.stall
    | (_, firstIter, _, _) :: _ =>
      let first <- h.iterOf (<- evalExpr fuel env firstIter)
      let names := (Bindings.ofComprehension clauses).locals
      let frame <- Run.allocId (.frame { names := names })
      let inner := comprehensionEnv env frame
      match kind with
      | .generator =>
        Run.newIter (.generator (.exprPending
          { env := inner, element := element, clauses := clauses, first := first }))
      | .list => Run.newList (<- comprehend fuel inner kind element value first clauses #[])
      | .set =>
        let items <- comprehend fuel inner kind element value first clauses #[]
        Run.alloc (.set (<- h.setAddAll #[] items) false)
      | .dict =>
        let pairs <- comprehend fuel inner kind element value first clauses #[]
        let id <- Run.allocId (.dict #[])
        for p in pairs do
          match p with
          | .tuple kv => h.dictSet id (kv.getD 0 .none) (kv.getD 1 .none)
          | _ => pure ()
        pure (.ref id)
termination_by structural fuel => fuel

/-- The values of expressions, with starred ones spread. -/
def evalItems : Nat -> Env -> List Expr -> Run (Array Val)
  | 0, _, _ => Run.stall
  | fuel + 1, env, es => do
    let h := hooksOf fuel
    let mut out : Array Val := #[]
    for e in es do
      match e with
      | .starred inner =>
        let v <- evalExpr fuel env inner
        if !(<- iterable v) then
          Run.typeError s!"Value after * must be an iterable, not {<- typeName v}"
        out := out ++ (<- h.collect v)
      | _ => out := out.push (<- evalExpr fuel env e)
    return out
termination_by structural fuel => fuel

/-- The entries of a value spread with `**`: a dictionary's, or a mapping's by its keys. -/
def mappingEntries : Nat -> Val -> Run (Array (Val × Val))
  | 0, _ => Run.stall
  | fuel + 1, v => do
    let h := hooksOf fuel
    match <- coreOf v with
    | .ref id =>
      match <- Run.obj id with
      | .dict es => if (<- userMethod? v "keys").isNone then return es
      | _ => pure ()
    | _ => pure ()
    if !(<- h.hasAttr v "keys") then
      Run.typeError s!"'{<- typeName v}' object is not a mapping"
    let keys <- h.collect (<- callValue fuel (<- h.getAttr v "keys") #[] #[])
    keys.mapM fun k => do return (k, <- h.getItem v k)
termination_by structural fuel => fuel

/-- The positional and keyword arguments of a call. -/
def evalArguments : Nat -> Env -> List Expr -> List (Option String × Expr) ->
    Run (Array Val × Array (String × Val))
  | 0, _, _, _ => Run.stall
  | fuel + 1, env, args, keywords => do
    let pos <- evalItems fuel env args
    let mut kws : Array (String × Val) := #[]
    for (k, e) in keywords do
      match k with
      | some n => kws := kws.push (n, <- evalExpr fuel env e)
      | none =>
        let m <- evalExpr fuel env e
        let entries <- mappingEntries fuel m
        for (key, v) in entries do
          match key with
          | .str s =>
            if (lookupName kws s).isSome then
              Run.typeError s!"got multiple values for keyword argument '{s}'"
            kws := kws.push (s, v)
          | _ => Run.typeError "keywords must be strings"
    return (pos, kws)
termination_by structural fuel => fuel

/-- Make a function of the code. -/
def makeFunction : Nat -> Env -> String -> List Param -> List Expr -> List (String × Expr) ->
    Body -> Bool -> Run Val
  | 0, _, _, _, _, _, _, _ => Run.stall
  | fuel + 1, env, name, params, defaultExprs, notes, body, isAsync => do
    let h := hooksOf fuel
    let defaultVals <- defaultExprs.toArray.mapM (evalExpr fuel env)
    let noteVals <- notes.toArray.mapM fun (n, e) => do
      if !env.postponed then return (n, <- evalExpr fuel env e)
      match e.unparse? with
      | some t => return (n, Val.str t)
      | none => Run.stall
    let positional := params.filter fun p => p.kind == .positionalOnly || p.kind == .normal
    let positionalDefaults := (positional.filter (·.hasDefault)).length
    let defaults := defaultVals.extract 0 positionalDefaults
    let kwOnly := (params.filter fun p => p.kind == .keywordOnly && p.hasDefault).map (·.name)
    let kwDefaults := (kwOnly.zip (defaultVals.extract positionalDefaults defaultVals.size).toList).toArray
    let stmts := body.statements
    let b := blockBindings (params.map (·.name)) stmts
    let closure := match env.scope with
      | .function fr => fr :: env.closure
      | _ => env.closure
    let moduleName := (<- h.dictGet? env.module (.str "__name__")).getD .none
    let doc := match body with
      | .block ss => docstringOf ss
      | .expr _ => .none
    let fn : Function :=
      { name := name
        qualname := env.qualPrefix ++ name
        params := params
        defaults := defaults
        kwDefaults := kwDefaults
        body := body
        locals := b.locals
        declared := b.globals
        closure := closure
        classCell := env.classCell
        module := env.module
        isGenerator := bodyYields stmts
        isAsync := isAsync
        postponed := env.postponed
        notes := noteVals
        attrs := #[("__module__", moduleName), ("__doc__", doc)] }
    Run.alloc (.function fn)
termination_by structural fuel => fuel

/-- Make a class from a class statement. -/
def makeClassOf : Nat -> Env -> String -> List Expr -> List (Option String × Expr) -> List Stmt ->
    Run Val
  | 0, _, _, _, _, _ => Run.stall
  | fuel + 1, env, name, baseExprs, keywords, body => do
    let h := hooksOf fuel
    let bases <- evalItems fuel env baseExprs
    for (k, e) in keywords do
      let v <- evalExpr fuel env e
      match k, v with
      | some "metaclass", .cls (.builtin "type") => pure ()
      | _, _ => Run.stall
    let qual := env.qualPrefix ++ name
    let ns <- Run.allocId (.dict #[])
    let moduleName := (<- h.dictGet? env.module (.str "__name__")).getD .none
    h.dictSet ns (.str "__module__") moduleName
    h.dictSet ns (.str "__qualname__") (.str qual)
    let cell <- Run.allocId (.frame { names := ["__class__"] })
    let b := blockBindings [] body
    let closure := match env.scope with
      | .function fr => fr :: env.closure
      | _ => env.closure
    let inner : Env :=
      { env with
        scope := .classBody ns b.locals
        declared := b.globals
        closure := closure
        classCell := some cell
        selfName := none
        qualPrefix := qual ++ "."
        home := .here
        inComprehension := false }
    if stmtsAnnotate 100000 body then
      h.dictSet ns (.str "__annotations__") (<- Run.newDict #[])
    match <- execBlock fuel inner body with
    | .next => pure ()
    | _ => Run.stall
    let entries <- (<- Run.dictEntries ns).mapM fun (k, v) => do
      match k with
      | .str s => pure (s, v)
      | _ => Run.stall
    let entries := if (lookupName entries "__doc__").isSome then entries
      else entries.push ("__doc__", docstringOf body)
    let cls <- h.makeClass name qual bases entries moduleName
    Run.frameSet cell "__class__" cls
    return cls
termination_by structural fuel => fuel

/-- Bind a value to an assignment target. -/
def assignTo : Nat -> Env -> Expr -> Val -> Run Unit
  | 0, _, _, _ => Run.stall
  | fuel + 1, env, target, v => do
    let h := hooksOf fuel
    match target with
    | .name n => h.storeName env n v
    | .attribute o n => h.setAttr (<- evalExpr fuel env o) n v
    | .subscript o k =>
      let obj <- evalExpr fuel env o
      let key <- evalExpr fuel env k
      h.setItem obj key v
    | .tuple items | .list items =>
      if !(<- iterable v) then
        Run.typeError s!"cannot unpack non-iterable {<- typeName v} object"
      let xs <- h.collect v
      let starAt := items.findIdx? fun
        | .starred _ => true
        | _ => false
      match starAt with
      | none =>
        if xs.size > items.length then
          Run.valueError s!"too many values to unpack (expected {items.length})"
        if xs.size < items.length then
          Run.valueError s!"not enough values to unpack (expected {items.length}, got {xs.size})"
        for (t, x) in items.zip xs.toList do assignTo fuel env t x
      | some k =>
        let after := items.length - k - 1
        if xs.size < items.length - 1 then
          Run.valueError s!"not enough values to unpack (expected at least {items.length - 1}, got {xs.size})"
        for (t, x) in (items.take k).zip (xs.extract 0 k).toList do assignTo fuel env t x
        match items[k]? with
        | some (.starred t) => assignTo fuel env t (<- Run.newList (xs.extract k (xs.size - after)))
        | _ => Run.stall
        for (t, x) in (items.drop (k + 1)).zip (xs.extract (xs.size - after) xs.size).toList do
          assignTo fuel env t x
    | .starred t => assignTo fuel env t v
    | _ => Run.stall
termination_by structural fuel => fuel

/-- Unbind what a `del` statement names. -/
def deleteTarget : Nat -> Env -> Expr -> Run Unit
  | 0, _, _ => Run.stall
  | fuel + 1, env, target => do
    let h := hooksOf fuel
    match target with
    | .name n => h.deleteName env n
    | .attribute o n => h.delAttr (<- evalExpr fuel env o) n
    | .subscript o k =>
      let obj <- evalExpr fuel env o
      h.delItem obj (<- evalExpr fuel env k)
    | .tuple items | .list items => for t in items do deleteTarget fuel env t
    | _ => Run.stall
termination_by structural fuel => fuel

/-- The exception a `raise` statement raises from what it names: an exception, or a class
of exceptions, called without arguments. -/
def exceptionOf : Nat -> Val -> String -> Run Val
  | 0, _, _ => Run.stall
  | fuel + 1, v, problem => do
    match v with
    | .cls c =>
      if !(<- c.derivesFrom "BaseException") then Run.typeError problem
      let e <- callValue fuel v #[] #[]
      if !(<- isA e "BaseException") then
        Run.typeError s!"calling {<- c.text} should have returned an instance of BaseException, not {<- typeName e}"
      pure e
    | _ =>
      if <- isA v "BaseException" then pure v else Run.typeError problem
termination_by structural fuel => fuel

/-- The value of an expression. -/
def evalExpr : Nat -> Env -> Expr -> Run Val
  | 0, _, _ => Run.stall
  | fuel + 1, env, e => do
    let h := hooksOf fuel
    match e with
    | .name n => h.loadName env n
    | .noneLit => pure .none
    | .trueLit => pure (.bool true)
    | .falseLit => pure (.bool false)
    | .ellipsis => pure .ellipsis
    | .int n => pure (.int n)
    | .float x => pure (.float x)
    | .imaginary x => pure (.complex 0.0 x)
    | .str s => pure (.str s)
    | .bytes bs => pure (.bytes bs.toArray)
    | .formatted parts =>
      let mut out := ""
      for p in parts do
        match p with
        | .str s => out := out ++ s
        | _ =>
          match <- evalExpr fuel env p with
          | .str s => out := out ++ s
          | _ => Run.stall
      pure (.str out)
    | .formatField value conversion spec =>
      let v <- evalExpr fuel env value
      let v <- match conversion with
        | some 'r' => pure (Val.str (<- h.repr v))
        | some 's' => pure (Val.str (<- h.str v))
        | some 'a' => pure (Val.str (<- h.ascii v))
        | _ => pure v
      let specText <- match spec with
        | some s =>
          match <- evalExpr fuel env s with
          | .str t => pure t
          | _ => Run.stall
        | none => pure ""
      pure (.str (<- h.formatValue v specText))
    | .tuple items => pure (.tuple (<- evalItems fuel env items))
    | .list items => Run.newList (<- evalItems fuel env items)
    | .set items =>
      let xs <- evalItems fuel env items
      Run.alloc (.set (<- h.setAddAll #[] xs) false)
    | .dict keys values =>
      let id <- Run.allocId (.dict #[])
      for (k, ve) in keys.zip values do
        match k with
        | some ke =>
          let key <- evalExpr fuel env ke
          let v <- evalExpr fuel env ve
          h.dictSet id key v
        | none =>
          let m <- evalExpr fuel env ve
          for (key, v) in <- mappingEntries fuel m do h.dictSet id key v
      pure (.ref id)
    | .starred _ => Run.stall
    | .attribute o n => h.getAttr (<- evalExpr fuel env o) n
    | .subscript o k =>
      let obj <- evalExpr fuel env o
      h.getItem obj (<- evalExpr fuel env k)
    | .slice lo hi step =>
      let part (x : Option Expr) : Run Val := match x with
        | some x => evalExpr fuel env x
        | none => pure .none
      pure (.slice (<- part lo) (<- part hi) (<- part step))
    | .call fn args keywords =>
      let f <- evalExpr fuel env fn
      match f, args, keywords with
      | .cls (.builtin "super"), [], [] =>
        let cls <- match env.classCell with
          | some cell =>
            match <- Run.frameGet cell "__class__" with
            | some c => pure c
            | none => Run.raise "RuntimeError" "super(): empty __class__ cell"
          | none => Run.raise "RuntimeError" "super(): __class__ cell not found"
        let self <- match env.selfName with
          | some n => h.loadName env n
          | none => Run.raise "RuntimeError" "super(): no arguments"
        match cls with
        | .cls c => Run.alloc (.superOf c self)
        | _ => Run.stall
      | _, _, _ =>
        let (pos, kws) <- evalArguments fuel env args keywords
        callValue fuel f pos kws
    | .unary op x =>
      let v <- evalExpr fuel env x
      match op with
      | .not => pure (.bool !(<- h.truth v))
      | _ => h.unaryOp op v
    | .binary op l r =>
      let a <- evalExpr fuel env l
      let b <- evalExpr fuel env r
      h.binaryOp op a b op.symbol
    | .and l r =>
      let a <- evalExpr fuel env l
      if <- h.truth a then evalExpr fuel env r else pure a
    | .or l r =>
      let a <- evalExpr fuel env l
      if <- h.truth a then pure a else evalExpr fuel env r
    | .compare first rest =>
      let mut left <- evalExpr fuel env first
      let mut result : Val := .bool true
      for (op, re) in rest do
        let right <- evalExpr fuel env re
        let r <- match op with
          | .is => pure (Val.bool (sameValue left right))
          | .isNot => pure (Val.bool !(sameValue left right))
          | .isIn => pure (Val.bool (<- h.contains right left))
          | .notIn => pure (Val.bool !(<- h.contains right left))
          | _ => h.compare op left right
        if !(<- h.truth r) then return r
        result := r
        left := right
      pure result
    | .ifElse test body orelse =>
      if <- h.truth (<- evalExpr fuel env test) then evalExpr fuel env body
      else evalExpr fuel env orelse
    | .lambda params defaults body =>
      makeFunction fuel env "<lambda>" params defaults [] (.expr body) false
    | .named target value _ =>
      let v <- evalExpr fuel env value
      h.storeNamed env target v
      pure v
    | .comprehension kind element value clauses _ =>
      evalComprehension fuel env kind element value clauses
    | .await _ _ => Run.stall
    | .yield value _ =>
      let v <- match value with
        | some x => evalExpr fuel env x
        | none => pure .none
      Run.yieldValue v
      pure .none
    | .yieldFrom inner _ =>
      let it <- h.iterOf (<- evalExpr fuel env inner)
      for _ in [0:stepLimit] do
        Run.tick
        match <- h.next it with
        | .item x => Run.yieldValue x
        | .finished r => return r
      Run.stall
termination_by structural fuel => fuel

/-- Run statements in order until one leaves the block. -/
def execBlock : Nat -> Env -> List Stmt -> Run Flow
  | 0, _, _ => Run.stall
  | fuel + 1, env, ss => do
    for s in ss do
      match <- execStmt fuel env s with
      | .next => pure ()
      | flow => return flow
    return .next
termination_by structural fuel => fuel

/-- Run the handlers of a `try` statement for an exception raised in its body. -/
def handleException : Nat -> Env -> Val -> List Stmt -> Run Flow
  | 0, _, _, _ => Run.stall
  | fuel + 1, env, exc, handlers => do
    let h := hooksOf fuel
    for hd in handlers do
      match hd with
      | .handler type name body _ =>
        let hit <- match type with
          | none => pure true
          | some te => do Run.exceptionMatches exc (<- evalExpr fuel env te)
        if hit then
          modify fun m => { m with handling := exc :: m.handling }
          if let some n := name then h.storeName env n exc
          let r <- attempt (execBlock fuel env body)
          modify fun m => { m with handling := m.handling.drop 1 }
          if let some n := name then discard <| attempt (h.deleteName env n)
          return <- resume r
      | _ => Run.stall
    throw (.thrown exc)
termination_by structural fuel => fuel

/-- Run the context managers of a `with` statement around its body. -/
def execWith : Nat -> Env -> List (Expr × Option Expr) -> List Stmt -> Run Flow
  | 0, _, _, _ => Run.stall
  | fuel + 1, env, items, body => do
    let h := hooksOf fuel
    match items with
    | [] => execBlock fuel env body
    | (e, target) :: rest =>
      let mgr <- evalExpr fuel env e
      let enter <- match <- Run.catching "AttributeError" (h.getAttr mgr "__enter__") with
        | some f => pure f
        | none => Run.typeError s!"'{<- typeName mgr}' object does not support the context manager protocol"
      let exit <- match <- Run.catching "AttributeError" (h.getAttr mgr "__exit__") with
        | some f => pure f
        | none =>
          Run.typeError s!"'{<- typeName mgr}' object does not support the context manager protocol (missed __exit__ method)"
      let v <- callValue fuel enter #[] #[]
      let r <- attempt (do
        if let some t := target then assignTo fuel env t v
        execWith fuel env rest body)
      match r with
      | .ok flow =>
        discard <| callValue fuel exit #[.none, .none, .none] #[]
        pure flow
      | .error (.thrown exc) =>
        let suppress <- callValue fuel exit #[.cls (<- typeOf exc), exc, .none] #[]
        if <- h.truth suppress then pure .next else throw (.thrown exc)
      | .error other => throw other
termination_by structural fuel => fuel

/-- Whether a value matches a pattern of a `match` statement, binding its names. -/
def matchPattern : Nat -> Env -> Pattern -> Val -> Run Bool
  | 0, _, _, _ => Run.stall
  | fuel + 1, env, p, v => do
    let h := hooksOf fuel
    match p with
    | .wildcard => pure true
    | .capture n =>
      h.storeName env n v
      pure true
    | .value e => h.equal v (<- evalExpr fuel env e)
    | .singleton e => pure (sameValue v (<- evalExpr fuel env e))
    | .bind q n =>
      if <- matchPattern fuel env q v then
        h.storeName env n v
        pure true
      else pure false
    | .alternatives alts =>
      for q in alts do
        if <- matchPattern fuel env q v then return true
      pure false
    | .star _ => Run.stall
    | .sequence items =>
      let core <- coreOf v
      let isSeq <- match core with
        | .tuple _ | .range .. => pure true
        | .ref id =>
          match <- Run.obj id with
          | .list _ => pure true
          | _ => pure false
        | _ => pure false
      if !isSeq then return false
      let xs <- h.collect core
      let starAt := items.findIdx? fun
        | .star _ => true
        | _ => false
      match starAt with
      | none =>
        if xs.size != items.length then return false
        for (q, x) in items.zip xs.toList do
          if !(<- matchPattern fuel env q x) then return false
        pure true
      | some k =>
        let after := items.length - k - 1
        if xs.size < items.length - 1 then return false
        for (q, x) in (items.take k).zip (xs.extract 0 k).toList do
          if !(<- matchPattern fuel env q x) then return false
        for (q, x) in (items.drop (k + 1)).zip (xs.extract (xs.size - after) xs.size).toList do
          if !(<- matchPattern fuel env q x) then return false
        match items[k]? with
        | some (.star (some n)) => h.storeName env n (<- Run.newList (xs.extract k (xs.size - after)))
        | _ => pure ()
        pure true
    | .mapping keys values rest =>
      let es <- match <- coreOf v with
        | .ref id =>
          match <- Run.obj id with
          | .dict es => pure (some es)
          | _ => pure none
        | _ => pure none
      match es with
      | none => pure false
      | some es =>
        let mut used : Array Val := #[]
        for (ke, q) in keys.zip values do
          let k <- evalExpr fuel env ke
          match <- findKey h.keyEqual es k with
          | some i =>
            if !(<- matchPattern fuel env q es[i]!.2) then return false
            used := used.push k
          | none => return false
        if let some n := rest then
          let mut left : Array (Val × Val) := #[]
          for (k, x) in es do
            if !(<- findItem h.keyEqual used k).isSome then left := left.push (k, x)
          h.storeName env n (<- Run.newDict left)
        pure true
    | .cls ce positional keywords =>
      let c <- match <- evalExpr fuel env ce with
        | .cls c => pure c
        | _ => Run.typeError "called match pattern must be a class"
      if !(<- isInstance v c) then return false
      let selfMatching := ["bool", "bytearray", "bytes", "dict", "float", "frozenset", "int",
        "list", "set", "str", "tuple"]
      let matchArgs <- match c with
        | .builtin b =>
          if selfMatching.contains b then pure none
          else pure (some #[])
        | .user _ =>
          match <- Run.catching "AttributeError" (h.getAttr (.cls c) "__match_args__") with
          | some (.tuple xs) => pure (some xs)
          | some _ => Run.typeError "__match_args__ must be a tuple"
          | none => pure (some #[])
      match matchArgs with
      | none =>
        match positional with
        | [] => pure ()
        | [q] => if !(<- matchPattern fuel env q v) then return false
        | _ => Run.typeError s!"{<- c.name}() accepts 1 positional sub-pattern ({positional.length} given)"
      | some names =>
        if positional.length > names.size then
          Run.typeError s!"{<- c.name}() accepts {names.size} positional sub-patterns ({positional.length} given)"
        for (q, nv) in positional.zip names.toList do
          match nv with
          | .str n =>
            match <- Run.catching "AttributeError" (h.getAttr v n) with
            | some x => if !(<- matchPattern fuel env q x) then return false
            | none => return false
          | _ => Run.typeError "__match_args__ elements must be strings"
      for (n, q) in keywords do
        match <- Run.catching "AttributeError" (h.getAttr v n) with
        | some x => if !(<- matchPattern fuel env q x) then return false
        | none => return false
      pure true
termination_by structural fuel => fuel

/-- Import the names of a `from` import into the running block. -/
def importFromNames : Nat -> Env -> Nat -> String -> List (String × Option String) -> Run Unit
  | 0, _, _, _, _ => Run.stall
  | fuel + 1, env, level, module, names => do
    let h := hooksOf fuel
    let package <- match <- h.dictGet? env.module (.str "__package__") with
      | some (.str p) => pure (some p)
      | _ => pure none
    let absName <- Hooks.relativeName package level module
    let mod <- importModule fuel absName
    let dict <- Run.moduleDict mod
    for (n, asName) in names do
      if n == "*" then
        let es <- Run.dictEntries dict
        let exported <- match <- h.dictGet? dict (.str "__all__") with
          | some all => (<- h.collect all).mapM fun x => do
              match x with
              | .str s => pure s
              | _ => Run.typeError s!"Item in {absName}.__all__ must be str, not {<- typeName x}"
          | none => pure (es.filterMap fun (k, _) => match k with
              | .str s => if s.startsWith "_" then none else some s
              | _ => none)
        for s in exported do h.storeName env s (<- h.getAttr mod s)
      else
        let found <- match <- h.dictGet? dict (.str n) with
          | some x => pure (some x)
          | none =>
            if <- Run.isPackage h mod then
              let sub := absName ++ "." ++ n
              match <- attempt (importModule fuel sub) with
              | .ok x => pure (some x)
              | .error (.thrown exc) =>
                if <- isA exc "ModuleNotFoundError" then pure none else throw (.thrown exc)
              | .error other => throw other
            else
              match <- Run.obj (<- match mod with
                | .ref id => pure id
                | _ => Run.stall) with
              | .module m =>
                -- a module built into the interpreter has no file to name
                if m.known || (m.name == "math" && !(libraryAllNames m.name).contains n) then
                  pure none
                else Run.stall
              | _ => pure none
        match found with
        | some x => h.storeName env (asName.getD n) x
        | none =>
          let location <- match <- h.dictGet? dict (.str "__file__") with
            | some (.str f) => pure f
            | _ =>
              -- the file of a module of the system is not known here
              if absName != "math" && !(<- Run.knownModule mod) then Run.stall
              pure "unknown location"
          Run.raise "ImportError" s!"cannot import name '{n}' from '{absName}' ({location})"
termination_by structural fuel => fuel

/-- Run one statement. -/
def execStmt : Nat -> Env -> Stmt -> Run Flow
  | 0, _, _ => Run.stall
  | fuel + 1, env, s => do
    let h := hooksOf fuel
    Run.tick
    match s with
    | .expr e _ =>
      discard <| evalExpr fuel env e
      pure .next
    | .assign targets value _ =>
      let v <- evalExpr fuel env value
      for t in targets do assignTo fuel env t v
      pure .next
    | .augAssign target op value _ =>
      match target with
      | .name n =>
        let cur <- h.loadName env n
        let v <- evalExpr fuel env value
        h.storeName env n (<- h.inplaceOp op cur v)
      | .attribute o n =>
        let obj <- evalExpr fuel env o
        let cur <- h.getAttr obj n
        let v <- evalExpr fuel env value
        h.setAttr obj n (<- h.inplaceOp op cur v)
      | .subscript o k =>
        let obj <- evalExpr fuel env o
        let key <- evalExpr fuel env k
        let cur <- h.getItem obj key
        let v <- evalExpr fuel env value
        h.setItem obj key (<- h.inplaceOp op cur v)
      | _ => Run.stall
      pure .next
    | .annAssign target note value simple _ =>
      match value with
      | some ve => assignTo fuel env target (<- evalExpr fuel env ve)
      | none =>
        -- without a value, the parts of the target before its last step are still read
        match target with
        | .attribute obj _ => discard <| evalExpr fuel env obj
        | .subscript obj index =>
          discard <| evalExpr fuel env obj
          let parts := match index with
            | .tuple items => items
            | e => [e]
          for part in parts do
            match part with
            | .slice lo hi step =>
              for e in [lo, hi, step].filterMap id do discard <| evalExpr fuel env e
            | e => discard <| evalExpr fuel env e
        | _ => pure ()
      let atTop := match env.scope with
        | .function _ => false
        | _ => true
      if atTop then
        -- a postponed annotation is kept as its text, and only when it is kept
        let noteVal <- if !env.postponed then evalExpr fuel env note
          else if target matches .name _ && simple then
            match note.unparse? with
            | some t => pure (Val.str t)
            | none => Run.stall
          else pure .none
        match target, simple with
        | .name n, true =>
          let holder := match env.scope with
            | .classBody ns _ => ns
            | _ => env.module
          let notes <- match <- h.dictGet? holder (.str "__annotations__") with
            | some d => pure d
            | none => do
              let d <- Run.newDict #[]
              h.dictSet holder (.str "__annotations__") d
              pure d
          h.setItem notes (.str n) noteVal
        | _, _ => pure ()
      pure .next
    | .pass _ => pure .next
    | .breakLoop _ => pure .breakLoop
    | .continueLoop _ => pure .continueLoop
    | .returnValue value _ =>
      match value with
      | some ve => pure (.returned (<- evalExpr fuel env ve))
      | none => pure (.returned .none)
    | .raise none _ _ =>
      match (<- get).handling with
      | exc :: _ => throw (.thrown exc)
      | [] => Run.raise "RuntimeError" "No active exception to reraise"
    | .raise (some ee) cause _ =>
      let exc <- exceptionOf fuel (<- evalExpr fuel env ee) "exceptions must derive from BaseException"
      if let some ce := cause then
        match <- evalExpr fuel env ce with
        | .none => pure ()
        | cv => discard <| exceptionOf fuel cv "exception causes must derive from BaseException"
      throw (.thrown exc)
    | .assert test msg _ =>
      if !(<- h.truth (<- evalExpr fuel env test)) then
        let args <- match msg with
          | some me => pure #[<- evalExpr fuel env me]
          | none => pure #[]
        throw (.thrown (<- callValue fuel (.cls (.builtin "AssertionError")) args #[]))
      pure .next
    | .delete targets _ =>
      for t in targets do deleteTarget fuel env t
      pure .next
    | .global _ _ | .nonlocal _ _ => pure .next
    | .importNames names _ =>
      for (n, asName) in names do
        let mod <- importModule fuel n
        match asName with
        | some a => h.storeName env a mod
        | none =>
          let top := (n.splitOn ".").headD n
          match <- Run.importedModule? top with
          | some t => h.storeName env top t
          | none => Run.stall
      pure .next
    | .importFrom level module names _ =>
      importFromNames fuel env level module names
      pure .next
    | .ifElse test body orelse _ =>
      if <- h.truth (<- evalExpr fuel env test) then execBlock fuel env body
      else execBlock fuel env orelse
    | .whileLoop test body orelse _ =>
      for _ in [0:stepLimit] do
        Run.tick
        if !(<- h.truth (<- evalExpr fuel env test)) then
          return <- execBlock fuel env orelse
        match <- execBlock fuel env body with
        | .breakLoop => return .next
        | .returned v => return .returned v
        | _ => pure ()
      Run.stall
    | .forLoop target iter body orelse isAsync _ =>
      if isAsync then Run.stall
      let it <- h.iterOf (<- evalExpr fuel env iter)
      for _ in [0:stepLimit] do
        Run.tick
        match <- h.next it with
        | .finished _ => return <- execBlock fuel env orelse
        | .item x =>
          assignTo fuel env target x
          match <- execBlock fuel env body with
          | .breakLoop => return .next
          | .returned v => return .returned v
          | _ => pure ()
      Run.stall
    | .tryExcept body handlers orelse final star _ =>
      if star then Run.stall
      let afterBody <- attempt (execBlock fuel env body)
      let afterHandlers <- match afterBody with
        | .ok .next => attempt (execBlock fuel env orelse)
        | .ok flow => pure (.ok flow)
        | .error (.thrown exc) =>
          if handlers.isEmpty then pure (.error (.thrown exc))
          else attempt (handleException fuel env exc handlers)
        | .error other => pure (.error other)
      match afterHandlers with
      | .error .stalled | .error .cut => resume afterHandlers
      | _ =>
        if final.isEmpty then resume afterHandlers
        else
          match <- execBlock fuel env final with
          | .next => resume afterHandlers
          | flow => pure flow
    | .handler .. => Run.stall
    | .withItems items body isAsync _ =>
      if isAsync then Run.stall
      execWith fuel env items body
    | .functionDef name decorators params defaults notes body isAsync _ =>
      let decos <- decorators.toArray.mapM (evalExpr fuel env)
      let mut f <- makeFunction fuel env name params defaults notes (.block body) isAsync
      for d in decos.reverse do f <- callValue fuel d #[f] #[]
      h.storeName env name f
      pure .next
    | .classDef name decorators bases keywords body _ =>
      let decos <- decorators.toArray.mapM (evalExpr fuel env)
      let mut c <- makeClassOf fuel env name bases keywords body
      for d in decos.reverse do c <- callValue fuel d #[c] #[]
      h.storeName env name c
      pure .next
    | .matchCases subject cases _ =>
      let v <- evalExpr fuel env subject
      for (p, guard, body, _) in cases do
        if <- matchPattern fuel env p v then
          let pass <- match guard with
            | some g => h.truth (<- evalExpr fuel env g)
            | none => pure true
          if pass then return <- execBlock fuel env body
      pure .next
termination_by structural fuel => fuel

/-- Run a module's code in a fresh module kept under its name: the module. A module whose
code fails is forgotten again. -/
def runModuleSource : Nat -> String -> ModuleSource -> Run Val
  | 0, _, _ => Run.stall
  | fuel + 1, name, src => do
    let h := hooksOf fuel
    let dict <- Run.allocId (.dict #[])
    let package := if src.isPackage then name
      else ".".intercalate ((name.splitOn ".").dropLast)
    h.dictSet dict (.str "__name__") (.str name)
    h.dictSet dict (.str "__doc__") .none
    h.dictSet dict (.str "__package__") (.str package)
    h.dictSet dict (.str "__file__") (.str src.fileName)
    if src.isPackage then
      let dir := ((src.fileName.splitOn "/").dropLast)
      h.dictSet dict (.str "__path__") (<- Run.newList #[.str ("/".intercalate dir)])
    let modId <- Run.allocId (.module { name := name, dict := dict, ready := false })
    let mod : Val := .ref modId
    Run.keepModule name mod
    let fileName := ((src.fileName.splitOn "/").getLast?).getD src.fileName
    let r <- attempt (do
      if let some (errno, reason) := src.refusal then
        -- the file is there, but the system refuses to read it
        throw (.thrown (<- h.newException (.builtin "OSError")
          #[.int errno, .str reason, .str src.fileName] #[] true))
      let text <- match readSource src.text with
        | .text t => pure t
        | .unmodelled => Run.stall
        | .refused m =>
          -- the code is not read at all, so the error has no line
          let info : Val := .tuple #[.str fileName, .int 0, .int (-1), .none]
          throw (.thrown (<- h.newException (.builtin "SyntaxError") #[.str m, info] #[] true))
      match compileModule text with
      | .error e =>
        let cls := match e.kind with
          | .general => "SyntaxError"
          | .indentation => "IndentationError"
          | .tabs => "TabError"
        let info : Val := .tuple #[.str fileName, .int e.line, .none, .none]
        let exc <- h.newException (.builtin cls) #[.str e.message, info] #[] true
        throw (.thrown exc)
      | .ok code =>
        h.dictSet dict (.str "__doc__") (docstringOf code.body)
        if stmtsAnnotate 100000 code.body then
          h.dictSet dict (.str "__annotations__") (<- Run.newDict #[])
        let env : Env := { scope := .moduleTop, module := dict, postponed := code.postponed }
        discard <| execBlock fuel env code.body)
    match r with
    | .ok _ =>
      Run.change modId fun
        | .module m => .module { m with ready := true }
        | o => o
      pure mod
    | .error e =>
      Run.forgetModule name
      throw e
termination_by structural fuel => fuel

/-- Import a module by its absolute dotted name: the parent package first, then the module
itself once, kept among the imported modules. -/
def importModule : Nat -> String -> Run Val
  | 0, _ => Run.stall
  | fuel + 1, name => do
    let h := hooksOf fuel
    if let some v <- Run.importedModule? name then return v
    let parts := name.splitOn "."
    let parentName := ".".intercalate parts.dropLast
    let parent <- if parts.length > 1 then do
        let p <- importModule fuel parentName
        if let some v <- Run.importedModule? name then return v
        if (libraryNames name).isNone && !(<- Run.isPackage h p) then
          -- a module of the system whose names are unknown may be a package
          match p with
          | .ref pid =>
            match <- Run.obj pid with
            | .module m =>
              if !m.known && (libraryNames parentName).isNone &&
                (<- get).host.outsidePackage parentName == none then Run.stall
            | _ => pure ()
          | _ => pure ()
          Run.noModule s!"No module named '{name}'; '{parentName}' is not a package" name
        pure (some p)
      else pure none
    let host := (<- get).host
    let mod <- match libraryNames name with
      | some names => do
        let m <- Run.systemModule h name names false
        if name == "os" then
          let dict <- Run.moduleDict m
          Run.keepModule name m
          h.dictSet dict (.str "path") (<- importModule fuel "os.path")
        Run.keepModule name m
        pure m
      | none =>
        match host.source name with
        | some src => runModuleSource fuel name src
        | none =>
          match host.outside name with
          | some true =>
            let marks : List (String × Val) :=
              if host.outsidePackage name == some true then [("__path__", .tuple #[])] else []
            let m <- Run.systemModule h name marks false
            Run.keepModule name m
            pure m
          | some false => Run.noModule s!"No module named '{name}'" name
          | none => Run.stall
    if let some p := parent then
      h.dictSet (<- Run.moduleDict p) (.str ((parts.getLast?).getD name)) mod
    return mod
termination_by structural fuel => fuel

end

end GraphProbe.Code
