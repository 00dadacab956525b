import GraphProbe.Code.Tree

/-!
# Scopes of names

Every block of code (the module, a class body, a function, a lambda, a comprehension) has
its own names. A name a block assigns, imports or takes as a parameter is local to it, unless
the block declares it `global` or `nonlocal`; a name a function only reads comes from the
nearest enclosing function that binds it, else from the module. Class bodies do not enclose:
a method cannot see the names of its class.

Two things follow from the names of the blocks.

* The *bindings* of one block, which running code needs to know where each name lives:
  `Bindings.ofBody` and `Bindings.ofComprehension`.
* The errors of declarations that cannot hold, found in two passes over the whole module as
  `scopeError` does: first every block in order of the source (a parameter that is also
  declared global, a declaration after a use, a repeated parameter, an assignment expression
  that would rebind a comprehension's variable, a `yield` inside a comprehension, `import *`
  outside the module), then every block after its own names are known (a `nonlocal` with no
  enclosing binding, or at the top level).
-/

namespace GraphProbe.Code

/-! ### Bindings of one block -/

/-- The names a block binds and declares: its local names (bound and declared neither
`global` nor `nonlocal`), and those it declares `global` or `nonlocal`. -/
structure Bindings where
  locals : List String := []
  globals : List String := []
  nonlocals : List String := []
  deriving Inhabited

namespace Bindings

/-- Add a bound name. -/
def bind (b : Bindings) (n : String) : Bindings :=
  if b.locals.contains n then b else { b with locals := b.locals ++ [n] }

/-- The names a target binds: names, inside tuples, lists and starred targets. -/
def targetNames : Expr -> List String
  | .name n => [n]
  | .starred e => targetNames e
  | .tuple items | .list items => items.flatMap targetNames
  | _ => []

/-- The names a pattern binds. -/
def patternNames : Nat -> Pattern -> List String
  | 0, _ => []
  | fuel + 1, p =>
    match p with
    | .capture n => [n]
    | .star (some n) => [n]
    | .sequence items | .alternatives items => items.flatMap (patternNames fuel)
    | .mapping _ values rest => values.flatMap (patternNames fuel) ++ rest.toList
    | .cls _ positional keywords =>
      positional.flatMap (patternNames fuel) ++ keywords.flatMap fun (_, q) => patternNames fuel q
    | .bind q n => patternNames fuel q ++ [n]
    | _ => []

/-- The targets of assignment expressions in an expression, outside nested lambdas; those
inside comprehensions count, since they bind in the enclosing block. -/
def namedTargets : Nat -> Expr -> List String
  | 0, _ => []
  | fuel + 1, e =>
    let all := fun (es : List Expr) => es.flatMap (namedTargets fuel)
    match e with
    | .named t v _ => t :: namedTargets fuel v
    | .lambda _ defaults _ => all defaults
    | .formatted parts => all parts
    | .formatField v _ spec => all (v :: spec.toList)
    | .tuple items | .list items | .set items => all items
    | .dict keys values => all (keys.filterMap id ++ values)
    | .starred x | .attribute x _ | .unary _ x | .await x _ | .yieldFrom x _ => namedTargets fuel x
    | .subscript o i => all [o, i]
    | .slice lo hi step => all ([lo, hi, step].filterMap id)
    | .call f args kws => all (f :: args ++ kws.map Prod.snd)
    | .binary _ l r | .and l r | .or l r => all [l, r]
    | .compare first rest => all (first :: rest.map Prod.snd)
    | .ifElse t b o => all [t, b, o]
    | .comprehension _ elt value clauses _ =>
      all (elt :: value.toList ++ clauses.flatMap fun (_, it, conds, _) => it :: conds)
    | .yield v _ => all v.toList
    | _ => []

/-- The names a statement binds in its block, with the declarations it makes, added to
`b`. -/
def ofStmt : Nat -> Bindings -> Stmt -> Bindings
  | 0, b, _ => b
  | fuel + 1, b, s =>
    let binds (b : Bindings) (ns : List String) : Bindings := ns.foldl bind b
    let exprs (b : Bindings) (es : List Expr) : Bindings :=
      binds b (es.flatMap (namedTargets fuel))
    let block (b : Bindings) (ss : List Stmt) : Bindings := ss.foldl (ofStmt fuel) b
    match s with
    | .expr e _ => exprs b [e]
    | .assign targets value _ =>
      binds (exprs b (value :: targets)) (targets.flatMap targetNames)
    | .augAssign target _ value _ => binds (exprs b [target, value]) (targetNames target)
    | .annAssign target note value simple _ =>
      let b := exprs b (target :: note :: value.toList)
      match target with
      | .name n => if simple || value.isSome then bind b n else b
      | _ => b
    | .returnValue v _ => exprs b v.toList
    | .raise e c _ => exprs b (e.toList ++ c.toList)
    | .assert t m _ => exprs b (t :: m.toList)
    | .delete targets _ => binds (exprs b targets) (targets.flatMap targetNames)
    | .global names _ => { b with globals := b.globals ++ names }
    | .nonlocal names _ => { b with nonlocals := b.nonlocals ++ names }
    | .importNames names _ =>
      binds b (names.map fun (n, a) => a.getD ((n.splitOn ".").headD n))
    | .importFrom _ _ names _ =>
      binds b (names.filterMap fun (n, a) => if n == "*" then none else some (a.getD n))
    | .ifElse t body orelse _ | .whileLoop t body orelse _ =>
      block (block (exprs b [t]) body) orelse
    | .forLoop target iter body orelse _ _ =>
      block (block (binds (exprs b [target, iter]) (targetNames target)) body) orelse
    | .tryExcept body handlers orelse final _ _ =>
      block (block (block (block b body) handlers) orelse) final
    | .handler type name body _ =>
      block (binds (exprs b type.toList) name.toList) body
    | .withItems items body _ _ =>
      let b := items.foldl (fun b (e, t) =>
        binds (exprs b (e :: t.toList)) ((t.map targetNames).getD [])) b
      block b body
    | .functionDef name decorators _ defaults notes _ _ _ =>
      bind (exprs b (decorators ++ defaults ++ notes.map Prod.snd)) name
    | .classDef name decorators bases keywords _ _ =>
      bind (exprs b (decorators ++ bases ++ keywords.map Prod.snd)) name
    | .matchCases subject cases _ =>
      cases.foldl (fun b (p, guard, body, _) =>
        block (binds (exprs b guard.toList) (patternNames fuel p)) body) (exprs b [subject])
    | _ => b

/-- The bindings of a block with parameters and a body: the local names are the
parameters and the names the body binds, less those it declares global or nonlocal. -/
def ofBody (fuel : Nat) (params : List String) (body : List Stmt) : Bindings :=
  let b := body.foldl (ofStmt fuel) (params.foldl bind {})
  { b with locals := b.locals.filter fun n => !b.globals.contains n && !b.nonlocals.contains n }

/-- The bindings of a comprehension: the names its clauses' targets bind. Assignment
expressions inside bind in the enclosing block instead. -/
def ofComprehension (clauses : List (Expr × Expr × List Expr × Bool)) : Bindings :=
  (clauses.flatMap fun (t, _, _, _) => targetNames t).foldl bind {}

end Bindings

/-! ### Declarations that cannot hold -/

/-- What a block knows of one of its names, as bits. -/
def useGlobal : Nat := 1
/-- The name is assigned in the block. -/
def useLocal : Nat := 2
/-- The name is a parameter. -/
def useParam : Nat := 4
/-- The name is declared `nonlocal`. -/
def useNonlocal : Nat := 8
/-- The name is read. -/
def useRead : Nat := 16
/-- The name is imported. -/
def useImport : Nat := 128
/-- The name is annotated. -/
def useAnnotated : Nat := 256
/-- The name is a variable of a comprehension's `for`. -/
def useIterated : Nat := 512

/-- Whether bits hold a flag. -/
def hasFlag (bits flag : Nat) : Bool := bits / flag % 2 == 1

/-- Set a flag in bits. -/
def withFlag (bits flag : Nat) : Nat := if hasFlag bits flag then bits else bits + flag

/-- The kinds of blocks. -/
inductive BlockKind where
  | module
  | classBody
  | function
  | comprehension (kind : ComprehensionKind)
  deriving BEq, Inhabited

/-- A block whose names are all known: its kind, its names in order of first use with their
bits and the line of their declaration, and the blocks inside it in order. -/
inductive NameTable where
  | mk (kind : BlockKind) (names : List (String × Nat × Nat)) (inner : List NameTable)

/-- A block being visited: its kind, its names so far, whether the target of a
comprehension's `for` is being visited, how deep inside an iterable of a comprehension the
visit is, and the blocks finished inside it, last first. -/
structure OpenBlock where
  kind : BlockKind
  names : Array (String × Nat × Nat) := #[]
  inTarget : Bool := false
  inIterable : Nat := 0
  inner : List NameTable := []

/-- A visit of the blocks: the open blocks, innermost first. -/
abbrev NameVisit := StateT (List OpenBlock) (Except CodeError)

namespace NameVisit

/-- Fail with the error of a declaration. -/
def fail (message : String) (line : Nat) : NameVisit α := throw ⟨.general, message, line⟩

/-- The innermost open block. -/
def current : NameVisit OpenBlock := do
  match <- get with
  | b :: _ => pure b
  | [] => pure { kind := .module }

/-- Change the innermost open block. -/
def modifyCurrent (f : OpenBlock -> OpenBlock) : NameVisit Unit :=
  modify fun
    | b :: rest => f b :: rest
    | [] => []

/-- The bits of a name in a block. -/
def bitsIn (b : OpenBlock) (n : String) : Nat :=
  match b.names.find? (·.1 == n) with
  | some (_, bits, _) => bits
  | none => 0

/-- Add a flag to a name in a block, checking that a parameter is not repeated and that a
comprehension's variable is not bound by an assignment expression. -/
def addTo (b : OpenBlock) (n : String) (flag line : Nat) : Except CodeError OpenBlock := do
  let old := bitsIn b n
  if hasFlag flag useParam && hasFlag old useParam then
    throw ⟨.general, s!"duplicate argument '{n}' in function definition", line⟩
  let mut bits := if old == 0 then flag else old ||| flag
  if b.inTarget then
    if hasFlag bits useGlobal || hasFlag bits useNonlocal then
      throw ⟨.general,
        s!"comprehension inner loop cannot rebind assignment expression target '{n}'", line⟩
    bits := withFlag bits useIterated
  let names := match b.names.findIdx? (·.1 == n) with
    | some i => b.names.modify i fun (m, _, d) => (m, bits, d)
    | none => b.names.push (n, bits, 0)
  pure { b with names }

/-- Add a flag to a name of the innermost block. -/
def addFlag (n : String) (flag line : Nat) : NameVisit Unit := do
  match <- get with
  | b :: rest => set ((<- addTo b n flag line) :: rest)
  | [] => pure ()

/-- Note the line of a declaration of a name in the innermost block; the first declaration
is the one errors point at. -/
def declare (n : String) (line : Nat) : NameVisit Unit :=
  modifyCurrent fun b => { b with names := b.names.map fun (m, bits, d) =>
    if m == n && d == 0 then (m, bits, line) else (m, bits, d) }

/-- Open a block. -/
def enter (kind : BlockKind) : NameVisit Unit := modify ({ kind } :: ·)

/-- Close the innermost block, keeping its names in the block around it. -/
def leave : NameVisit Unit := modify fun
  | b :: outer :: rest =>
    { outer with inner := .mk b.kind b.names.toList b.inner.reverse :: outer.inner } :: rest
  | stack => stack

/-- The declaration of a name `global` or `nonlocal`, which must come before every other
use of it in the block. -/
def declaration (n : String) (isGlobal : Bool) (line : Nat) : NameVisit Unit := do
  let bits := bitsIn (<- current) n
  let word := if isGlobal then "global" else "nonlocal"
  if hasFlag bits useParam then fail s!"name '{n}' is parameter and {word}" line
  if hasFlag bits useRead then fail s!"name '{n}' is used prior to {word} declaration" line
  if hasFlag bits useAnnotated then fail s!"annotated name '{n}' can't be {word}" line
  if hasFlag bits useLocal then fail s!"name '{n}' is assigned to before {word} declaration" line
  addFlag n (if isGlobal then useGlobal else useNonlocal) line
  declare n line

/-- The target of an assignment expression inside a comprehension binds in the nearest
enclosing function or module; a comprehension on the way may not have it as a variable,
and a class body may not be the nearest. -/
def extendNamed (n : String) (line : Nat) : NameVisit Unit := do
  let stack <- get
  let rec find : List OpenBlock -> Nat -> NameVisit Unit
    | [], _ => pure ()
    | b :: rest, depth => do
      match b.kind with
      | .comprehension _ =>
        if hasFlag (bitsIn b n) useIterated then
          fail s!"assignment expression cannot rebind comprehension iteration variable '{n}'"
            line
        find rest (depth + 1)
      | .classBody =>
        fail "assignment expression within a comprehension cannot be used in a class body" line
      | .function =>
        let declared := if hasFlag (bitsIn b n) useGlobal then useGlobal else useNonlocal
        addFlag n declared line
        declare n line
        let updated <- addTo b n useLocal line
        modify fun st => st.set depth updated
      | .module =>
        addFlag n useGlobal line
        declare n line
        let updated <- addTo b n useGlobal line
        modify fun st => st.set depth updated
  find stack 0

/-- The contexts in which an expression is visited. -/
inductive Context where
  | load
  | store
  | remove
  deriving BEq

/-- The parameters of a function, in the order they are declared: positional-only, plain,
keyword-only, then the `*` and `**` ones. -/
def visitParams (line : Nat) (params : List Param) : NameVisit Unit := do
  let ofKind (k : ParamKind) := params.filter (·.kind == k)
  let ordered := ofKind .positionalOnly ++ ofKind .normal ++ ofKind .keywordOnly ++
    ofKind .varPositional ++ ofKind .varKeyword
  ordered.forM fun p => addFlag p.name useParam line

/-- A `yield` inside a comprehension's own block is an error. -/
def suspendedIn (line : Nat) : NameVisit Unit := do
  match (<- current).kind with
  | .comprehension k =>
    fail (match k with
      | .list => "'yield' inside list comprehension"
      | .set => "'yield' inside set comprehension"
      | .dict => "'yield' inside dict comprehension"
      | .generator => "'yield' inside generator expression") line
  | _ => pure ()

mutual

/-- Visit an expression. -/
def visitExpr : Nat -> Nat -> Context -> Expr -> NameVisit Unit
  | 0, _, _, _ => pure ()
  | fuel + 1, line, ctx, e => do
    let loads (es : List Expr) : NameVisit Unit := es.forM (visitExpr fuel line .load)
    match e with
    | .name n =>
      addFlag n (if ctx == .load then useRead else useLocal) line
      let inFunction := match (<- current).kind with
        | .function | .comprehension _ => true
        | _ => false
      if ctx == .load && n == "super" && inFunction then addFlag "__class__" useRead line
    | .formatted parts => loads parts
    | .formatField v _ spec => loads (v :: spec.toList)
    | .tuple items | .list items => items.forM (visitExpr fuel line ctx)
    | .set items => loads items
    | .dict keys values => loads (keys.filterMap id ++ values)
    | .starred x => visitExpr fuel line ctx x
    | .attribute o _ => loads [o]
    | .subscript o i => loads [o, i]
    | .slice lo hi step => loads ([lo, hi, step].filterMap id)
    | .call f args kws => loads (f :: args ++ kws.map Prod.snd)
    | .unary _ x | .await x _ => loads [x]
    | .binary _ l r | .and l r | .or l r => loads [l, r]
    | .compare first rest => loads (first :: rest.map Prod.snd)
    | .ifElse t b o => loads [t, b, o]
    | .lambda params defaults body =>
      loads defaults
      enter .function
      visitParams line params
      visitExpr fuel line .load body
      leave
    | .named target value at_ =>
      let b <- current
      if b.inIterable > 0 then
        fail "assignment expression cannot be used in a comprehension iterable expression" at_
      match b.kind with
      | .comprehension _ => extendNamed target at_
      | _ => pure ()
      visitExpr fuel at_ .load value
      addFlag target useLocal at_
    | .comprehension kind elt value clauses at_ =>
      match clauses with
      | [] => pure ()
      | (target, iter, conds, _) :: rest =>
        modifyCurrent fun b => { b with inIterable := b.inIterable + 1 }
        visitExpr fuel at_ .load iter
        modifyCurrent fun b => { b with inIterable := b.inIterable - 1 }
        enter (.comprehension kind)
        addFlag ".0" useParam at_
        modifyCurrent fun b => { b with inTarget := true }
        visitExpr fuel at_ .store target
        modifyCurrent fun b => { b with inTarget := false }
        conds.forM (visitExpr fuel at_ .load)
        rest.forM fun (t, it, cs, _) => do
          modifyCurrent fun b => { b with inTarget := true }
          visitExpr fuel at_ .store t
          modifyCurrent fun b => { b with inTarget := false, inIterable := b.inIterable + 1 }
          visitExpr fuel at_ .load it
          modifyCurrent fun b => { b with inIterable := b.inIterable - 1 }
          cs.forM (visitExpr fuel at_ .load)
        value.toList.forM (visitExpr fuel at_ .load)
        visitExpr fuel at_ .load elt
        leave
    | .yield v at_ =>
      loads v.toList
      suspendedIn at_
    | .yieldFrom v at_ =>
      loads [v]
      suspendedIn at_
    | _ => pure ()
termination_by structural fuel => fuel

/-- Visit a statement. -/
def visitStmt : Nat -> Stmt -> NameVisit Unit
  | 0, _ => pure ()
  | fuel + 1, s => do
    let line := s.line
    let loads (es : List Expr) : NameVisit Unit := es.forM (visitExpr fuel line .load)
    let stores (es : List Expr) : NameVisit Unit := es.forM (visitExpr fuel line .store)
    let block (ss : List Stmt) : NameVisit Unit := ss.forM (visitStmt fuel)
    match s with
    | .expr e _ => loads [e]
    | .assign targets value _ =>
      stores targets
      loads [value]
    | .augAssign target _ value _ =>
      stores [target]
      loads [value]
    | .annAssign target note value simple _ =>
      match target with
      | .name n =>
        let bits := bitsIn (<- current) n
        if (hasFlag bits useGlobal || hasFlag bits useNonlocal) &&
            (<- current).kind != .module && simple then
          fail (if hasFlag bits useGlobal then s!"annotated name '{n}' can't be global"
            else s!"annotated name '{n}' can't be nonlocal") line
        if simple then addFlag n (useAnnotated ||| useLocal) line
        else if value.isSome then addFlag n useLocal line
      | _ => stores [target]
      loads [note]
      loads value.toList
    | .returnValue v _ => loads v.toList
    | .raise e c _ => loads (e.toList ++ c.toList)
    | .assert t m _ => loads (t :: m.toList)
    | .delete targets _ => targets.forM (visitExpr fuel line .remove)
    | .global names _ => names.forM fun n => declaration n true line
    | .nonlocal names _ => names.forM fun n => declaration n false line
    | .importNames names _ =>
      names.forM fun (n, a) =>
        let bound := a.getD n
        addFlag ((bound.splitOn ".").headD bound) useImport line
    | .importFrom _ _ names _ =>
      names.forM fun (n, a) => do
        if n == "*" then
          if (<- current).kind != .module then fail "import * only allowed at module level" line
        else addFlag (a.getD n) useImport line
    | .ifElse t body orelse _ | .whileLoop t body orelse _ =>
      loads [t]
      block body
      block orelse
    | .forLoop target iter body orelse _ _ =>
      stores [target]
      loads [iter]
      block body
      block orelse
    | .tryExcept body handlers orelse final _ _ =>
      block body
      block orelse
      block handlers
      block final
    | .handler type name body _ =>
      loads type.toList
      name.toList.forM fun n => addFlag n useLocal line
      block body
    | .withItems items body _ _ =>
      items.forM fun (e, t) => do
        loads [e]
        stores t.toList
      block body
    | .functionDef name decorators params defaults notes body _ _ =>
      addFlag name useLocal line
      loads defaults
      loads (notes.map Prod.snd)
      loads decorators
      enter .function
      visitParams line params
      block body
      leave
    | .classDef name decorators bases keywords body _ =>
      addFlag name useLocal line
      loads bases
      loads (keywords.map Prod.snd)
      loads decorators
      enter .classBody
      block body
      leave
    | .matchCases subject cases _ =>
      loads [subject]
      cases.forM fun (p, guard, body, at_) => do
        visitPattern fuel at_ p
        guard.toList.forM (visitExpr fuel at_ .load)
        block body
    | _ => pure ()
termination_by structural fuel => fuel

/-- Visit a pattern: its values are read, its captures bound. -/
def visitPattern : Nat -> Nat -> Pattern -> NameVisit Unit
  | 0, _, _ => pure ()
  | fuel + 1, line, p => do
    match p with
    | .value e => visitExpr fuel line .load e
    | .capture n => addFlag n useLocal line
    | .star (some n) => addFlag n useLocal line
    | .sequence items | .alternatives items => items.forM (visitPattern fuel line)
    | .mapping keys values rest =>
      keys.forM (visitExpr fuel line .load)
      values.forM (visitPattern fuel line)
      rest.toList.forM fun n => addFlag n useLocal line
    | .cls c positional keywords =>
      visitExpr fuel line .load c
      positional.forM (visitPattern fuel line)
      keywords.forM fun (_, q) => visitPattern fuel line q
    | .bind q n =>
      visitPattern fuel line q
      addFlag n useLocal line
    | _ => pure ()
termination_by structural fuel => fuel

end

end NameVisit

/-- The bits that mean a block binds a name itself. -/
def useBinding : Nat := useLocal ||| useParam ||| useImport

/-- Check the declarations of a block whose names are all known, then of the blocks inside
it. `bound` holds the names bound by enclosing functions (none for the module itself),
`global` the names declared global around it. -/
def NameTable.check : Nat -> NameTable -> Option (List String) -> List String ->
    Except CodeError Unit
  | 0, _, _, _ => pure ()
  | fuel + 1, .mk kind names inner, bound, global => do
    let mut bound' := bound
    let mut global' := global
    let mut locals : List String := []
    for (n, bits, line) in names do
      if hasFlag bits useGlobal then
        if hasFlag bits useNonlocal then throw ⟨.general, s!"name '{n}' is nonlocal and global", line⟩
        global' := global'.insert n
        bound' := bound'.map (·.erase n)
      else if hasFlag bits useNonlocal then
        match bound with
        | none => throw ⟨.general, "nonlocal declaration not allowed at module level", line⟩
        | some b =>
          if !b.contains n then throw ⟨.general, s!"no binding for nonlocal '{n}' found", line⟩
      else if bits &&& useBinding != 0 then
        locals := locals.insert n
        global' := global'.erase n
    let (innerBound, innerGlobal) := match kind with
      | .classBody => ((bound.getD []).insert "__class__", global)
      | .module => (bound'.getD [], global')
      | _ => (locals ++ bound'.getD [], global')
    inner.forM fun t => NameTable.check fuel t (some innerBound) innerGlobal

/-- The first error of declarations in a module, if any. -/
def scopeError (fuel : Nat) (body : List Stmt) : Option CodeError :=
  match ((body.forM (NameVisit.visitStmt fuel)).run [{ kind := .module }]) with
  | .error e => some e
  | .ok (_, stack) =>
    match stack with
    | b :: _ =>
      match NameTable.check fuel (.mk .module b.names.toList b.inner.reverse) none [] with
      | .error e => some e
      | .ok () => none
    | [] => none

end GraphProbe.Code
