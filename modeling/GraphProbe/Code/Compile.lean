import GraphProbe.Code.Parse.Stmt
import GraphProbe.Code.Scope
import GraphProbe.Text.Quote

/-!
# Compiling a module

A source compiles when its tokens parse into statements and then three checks pass, each
over the whole module, in this order:

1. *Future imports*: the `from __future__ import …` statements at the start of the module
   (after a docstring; statements on the line of one of them count as at the start) name
   known features only, and `braces` gets its own answer.
2. *Scopes*: the declarations of every block hold (`scopeError`).
3. *Code*: statement by statement in the order code is generated, each construct stands
   where it may. `return`, `yield` and `await` need a function (an `async` one for `await`),
   `break` and `continue` a loop of the same function and no `except*` block between;
   an asynchronous comprehension needs an asynchronous function; a call names a keyword once;
   an assignment has at most one starred target, inside a tuple or list; nothing is bound
   to `__debug__`; a bare `except:` comes last; a `case` that matches anything comes last
   unless it has a guard; the alternatives of a pattern bind the same names, a pattern binds
   a name once and a mapping pattern names a key once; and a future import stands only at the
   start.

A function's body is its own place; a class body is not a function; a lambda and a
comprehension are functions of their own, but a comprehension's first iterable is evaluated
where the comprehension stands. Where the generated code puts an expression after another
(an assignment's value before its targets, a comprehension's clauses before its first
iterable, a class body before its bases) the checks follow that order.
-/

namespace GraphProbe.Code

/-! ### Future imports -/

/-- The features a future import may name. -/
def futureFeatures : List String :=
  ["nested_scopes", "generators", "division", "absolute_import", "with_statement",
   "print_function", "unicode_literals", "barry_as_FLUFL", "generator_stop", "annotations"]

/-- The statements of a module after its docstring. -/
def afterDocstring : List Stmt -> List Stmt
  | .expr (.str _) _ :: rest => rest
  | stmts => stmts

/-- The future imports at the start of a module, read as the compiler reads them: a
future import after another statement is an error only on that statement's line;
otherwise the scan ends there. The result is the error, if any, and the line of the last future import
at the start (zero if none), with whether annotations are postponed. -/
def scanFutures : List Stmt -> Bool -> Nat -> Nat × Bool -> Except CodeError (Nat × Bool)
  | [], _, _, acc => .ok acc
  | s :: rest, done, prevLine, acc =>
    if done && s.line > prevLine then .ok acc
    else match s with
      | .importFrom _ "__future__" names line =>
        if done then
          .error ⟨.general, "from __future__ imports must occur at the beginning of the file", line⟩
        else
          match names.findSome? fun (n, _) =>
              if n == "braces" then some "not a chance"
              else if futureFeatures.contains n then none
              else some s!"future feature {n} is not defined" with
          | some m => .error ⟨.general, m, line⟩
          | none =>
            scanFutures rest false s.line
              (line, acc.2 || names.any (·.1 == "annotations"))
      | _ => scanFutures rest true s.line acc

/-! ### Where constructs may stand -/

/-- The kinds of units code is generated for. -/
inductive UnitKind where
  | module
  | classBody
  | function
  | asyncFunction
  | lambda
  | comprehension
  deriving BEq, Inhabited

/-- Whether a unit of this kind is a function block. -/
def UnitKind.isFunction : UnitKind -> Bool
  | .function | .asyncFunction | .lambda | .comprehension => true
  | _ => false

/-- What stands between a statement and its function: loops, `except*` blocks, and other
blocks. -/
inductive Enclosing where
  | loop
  | groupHandler
  | other
  deriving BEq

/-- Where a construct stands: the kind of its unit, whether the unit is a coroutine and a
generator, the blocks around it in the unit (innermost first), the line of the last
future import at the start, whether annotations are postponed, and the current line. -/
structure Place where
  kind : UnitKind := .module
  coroutine : Bool := false
  generator : Bool := false
  enclosing : List Enclosing := []
  futureLine : Nat := 0
  postponed : Bool := false
  line : Nat := 0

/-- The failure of a construct where it stands. -/
def Place.fail (p : Place) (message : String) : Except CodeError α :=
  .error ⟨.general, message, p.line⟩

/-- The check that a name is not `__debug__` when it is bound or deleted. -/
def Place.bindable (p : Place) (n : String) (remove : Bool := false) : Except CodeError Unit :=
  if n == "__debug__" then p.fail (if remove then "cannot delete __debug__" else "cannot assign to __debug__")
  else .ok ()

/-- Whether an expression is a constant once constants are folded: a literal, or a sign or
sum of numbers. -/
def Expr.isConstant : Expr -> Bool
  | .noneLit | .trueLit | .falseLit | .ellipsis | .int _ | .float _ | .imaginary _ | .str _
  | .bytes _ => true
  | .unary .minus (.int _) | .unary .minus (.float _) | .unary .minus (.imaginary _) => true
  | .binary .add l r | .binary .sub l r => l.isConstant && r.isConstant
  | _ => false

/-- A folded constant as a key of a mapping pattern: numbers equal by value (and `True` is
1), texts and byte strings by their content. -/
inductive ConstKey where
  | number (re im : Float) (exact : Option Int)
  | text (s : String)
  | octets (bs : List UInt8)
  | none
  | ellipsis

/-- Whether two constant keys are equal. -/
def ConstKey.same : ConstKey -> ConstKey -> Bool
  | .number r1 i1 e1, .number r2 i2 e2 =>
    match e1, e2 with
    | some a, some b => a == b && i1 == i2
    | _, _ => r1 == r2 && i1 == i2
  | .text a, .text b => a == b
  | .octets a, .octets b => a == b
  | .none, .none => true
  | .ellipsis, .ellipsis => true
  | _, _ => false

/-- The key and the text of a folded constant, for the duplicate-key check. -/
def Expr.constKey : Expr -> Option (ConstKey × String)
  | .int n => some (.number (Float.ofNat n) 0 (some n), toString n)
  | .trueLit => some (.number 1 0 (some 1), "True")
  | .falseLit => some (.number 0 0 (some 0), "False")
  | .noneLit => some (.none, "None")
  | .ellipsis => some (.ellipsis, "Ellipsis")
  | .str s => some (.text s, Text.quote s)
  | .bytes bs => some (.octets bs, Text.quoteBytes bs)
  | .unary .minus (.int n) =>
    some (.number (-(Float.ofNat n)) 0 (some (-(n : Int))), toString (-(n : Int)))
  | .float x => some (.number x 0 (floatExact x), Number.floatText .literal x)
  | .unary .minus (.float x) =>
    some (.number (-x) 0 (floatExact (-x)), Number.floatText .literal (-x))
  | .imaginary y => some (.number 0 y none, imaginaryText y)
  | .unary .minus (.imaginary y) => some (.number 0 (-y) none, imaginaryText (-y))
  | .binary op l r =>
    match l.constKey, r.constKey with
    | some (.number a _ _, lt), some (.number _ b _, rt) =>
      let im := if op == .add then b else -b
      some (.number a im none, "(" ++ lt ++ (if op == .add then "+" else "-") ++ rt ++ ")")
    | _, _ => none
  | _ => none
where
  /-- The text of an imaginary number. -/
  imaginaryText (y : Float) : String :=
    let t := Number.floatText .literal y
    (if t.endsWith ".0" then (t.dropEnd 2).toString else t) ++ "j"
  /-- The integer a double equals, if it is whole. -/
  floatExact (x : Float) : Option Int :=
    if x.isFinite && x == x.floor && x.abs < 9.0e15 then
      some (if x < 0 then -((-x).toUInt64.toNat : Int) else (x.toUInt64.toNat : Int))
    else none

/-- Whether a pattern is the wildcard. -/
def Pattern.isWildcard : Pattern -> Bool
  | .wildcard => true
  | _ => false

/-- Whether a pattern in a sequence is a wildcard or a starred wildcard. -/
def Pattern.isAnyWildcard : Pattern -> Bool
  | .wildcard | .star none => true
  | _ => false

mutual

/-- Whether an expression suspends its own unit: a `yield`, or (with `awaits`) an `await` or
an asynchronous comprehension that is no generator, outside nested functions; of a
comprehension only the first iterable counts. -/
def Expr.suspends (awaits : Bool) : Nat -> Expr -> Bool
  | 0, _ => false
  | fuel + 1, e =>
    let any := fun (es : List Expr) => es.any (Expr.suspends awaits fuel)
    match e with
    | .yield _ _ | .yieldFrom _ _ => !awaits
    | .await x _ => awaits || Expr.suspends awaits fuel x
    | .lambda _ defaults _ => any defaults
    | .comprehension kind elt value clauses _ =>
      match clauses with
      | (_, iter, _, _) :: _ =>
        Expr.suspends awaits fuel iter ||
          (awaits && kind != .generator && comprehensionAwaits fuel elt value clauses)
      | [] => false
    | .formatted parts => any parts
    | .formatField v _ spec => any (v :: spec.toList)
    | .tuple items | .list items | .set items => any items
    | .dict keys values => any (keys.filterMap id ++ values)
    | .starred x | .attribute x _ | .unary _ x => Expr.suspends awaits fuel x
    | .named _ x _ => Expr.suspends awaits fuel x
    | .subscript o i => any [o, i]
    | .slice lo hi step => any ([lo, hi, step].filterMap id)
    | .call f args kws => any (f :: args ++ kws.map Prod.snd)
    | .binary _ l r | .and l r | .or l r => any [l, r]
    | .compare first rest => any (first :: rest.map Prod.snd)
    | .ifElse t b o => any [t, b, o]
    | _ => false
termination_by structural fuel => fuel

/-- Whether a comprehension is a coroutine: an asynchronous clause, or an `await` in its own
unit. -/
def comprehensionAwaits : Nat -> Expr -> Option Expr -> List (Expr × Expr × List Expr × Bool) ->
    Bool
  | 0, _, _, _ => false
  | fuel + 1, elt, value, clauses =>
    clauses.any (fun (c : Expr × Expr × List Expr × Bool) => c.2.2.2) ||
      (elt :: value.toList ++ clauses.flatMap (fun (c : Expr × Expr × List Expr × Bool) => c.2.2.1) ++
        (clauses.drop 1).map (fun (c : Expr × Expr × List Expr × Bool) => c.2.1)).any
        (Expr.suspends true fuel)
termination_by structural fuel => fuel

end

/-- The expressions a statement evaluates in its own unit, outside nested blocks. -/
def Stmt.ownExprs : Stmt -> List Expr
  | .expr e _ => [e]
  | .assign ts v _ => v :: ts
  | .augAssign t _ v _ => [t, v]
  | .annAssign t n v _ _ => t :: n :: v.toList
  | .returnValue v _ => v.toList
  | .raise e c _ => e.toList ++ c.toList
  | .assert t m _ => t :: m.toList
  | .delete ts _ => ts
  | .ifElse t _ _ _ | .whileLoop t _ _ _ => [t]
  | .forLoop t i _ _ _ _ => [t, i]
  | .handler t _ _ _ => t.toList
  | .withItems items _ _ _ => items.flatMap fun (e, t) => e :: t.toList
  | .functionDef _ ds _ defs notes _ _ _ => ds ++ defs ++ notes.map Prod.snd
  | .classDef _ ds bs kws _ _ => ds ++ bs ++ kws.map Prod.snd
  | .matchCases s cases _ => s :: cases.filterMap fun (_, g, _, _) => g
  | _ => []

/-- The statements a statement holds in its own unit. -/
def Stmt.ownBlocks : Stmt -> List (List Stmt)
  | .ifElse _ b o _ | .whileLoop _ b o _ => [b, o]
  | .forLoop _ _ b o _ _ => [b, o]
  | .tryExcept b hs o f _ _ => [b, hs, o, f]
  | .handler _ _ b _ => [b]
  | .withItems _ b _ _ => [b]
  | .matchCases _ cases _ => cases.map fun (_, _, b, _) => b
  | _ => []

/-- Whether statements suspend their own unit (see `Expr.suspends`). -/
def stmtsSuspend (awaits : Bool) : Nat -> List Stmt -> Bool
  | 0, _ => false
  | fuel + 1, ss => ss.any fun s =>
    s.ownExprs.any (Expr.suspends awaits fuel) || s.ownBlocks.any (stmtsSuspend awaits fuel)

/-- Whether statements annotate in their own body, which then starts by making its
`__annotations__`: an annotated assignment among them or inside their compound statements,
though not inside the cases of a `match`. -/
def stmtsAnnotate : Nat -> List Stmt -> Bool
  | 0, _ => false
  | fuel + 1, ss => ss.any fun s =>
    match s with
    | .annAssign .. => true
    | .matchCases .. => false
    | _ => s.ownBlocks.any (stmtsAnnotate fuel)

/-- The contexts of an expression: read, bound, or deleted. -/
inductive Usage where
  | load
  | store
  | remove
  deriving BEq

/-- The check that parameters are not named `__debug__`. -/
def Place.params (p : Place) (params : List Param) : Except CodeError Unit :=
  params.forM fun q => p.bindable q.name

/-- The check of a call's keywords: none is named `__debug__`, none twice. -/
def Place.keywords (p : Place) (kws : List (Option String × Expr)) : Except CodeError Unit := do
  let names := kws.filterMap Prod.fst
  let rec go : List String -> Except CodeError Unit
    | [] => pure ()
    | n :: rest => do
      p.bindable n
      if rest.contains n then p.fail s!"keyword argument repeated: {n}"
      go rest
  go names

/-- The check of leaving the enclosing blocks by `break` or `continue` (`seekLoop`) or
`return`: an `except*` block may not be left so. -/
def Place.leave (p : Place) (seekLoop : Bool) (missing : String) : Except CodeError Unit :=
  let rec go : List Enclosing -> Except CodeError Unit
    | [] => if seekLoop then p.fail missing else pure ()
    | .groupHandler :: _ =>
      p.fail "'break', 'continue' and 'return' cannot appear in an except* block"
    | .loop :: rest => if seekLoop then pure () else go rest
    | .other :: rest => go rest
  go p.enclosing

mutual

/-- Check an expression in a place. -/
def checkExpr : Nat -> Place -> Usage -> Expr -> Except CodeError Unit
  | 0, _, _, _ => pure ()
  | fuel + 1, p, use, e => do
    let loads (es : List Expr) : Except CodeError Unit := es.forM (checkExpr fuel p .load)
    match e with
    | .name n =>
      if use == .store then p.bindable n
      else if use == .remove then p.bindable n true
    | .formatted parts => loads parts
    | .formatField v _ spec => loads (v :: spec.toList)
    | .tuple items | .list items =>
      if use == .store && (items.filter fun | .starred _ => true | _ => false).length > 1 then
        p.fail "multiple starred expressions in assignment"
      items.forM fun
        | .starred x => checkExpr fuel p use x
        | x => checkExpr fuel p use x
    | .set items => items.forM fun
        | .starred x => checkExpr fuel p .load x
        | x => checkExpr fuel p .load x
    | .dict keys values =>
      (keys.zip values).forM fun (k, v) => loads (k.toList ++ [v])
    | .starred _ =>
      if use == .store then p.fail "starred assignment target must be in a list or tuple"
      else p.fail "can't use starred expression here"
    | .attribute o attr =>
      loads [o]
      if use == .store then p.bindable attr
    | .subscript o i =>
      loads [o]
      match i with
      | .tuple items => items.forM fun
          | .starred x => checkExpr fuel p .load x
          | x => checkExpr fuel p .load x
      | _ => loads [i]
    | .slice lo hi step => loads ([lo, hi, step].filterMap id)
    | .call f args kws =>
      p.keywords kws
      loads [f]
      args.forM fun
        | .starred x => checkExpr fuel p .load x
        | x => checkExpr fuel p .load x
      loads (kws.map Prod.snd)
    | .unary _ x => loads [x]
    | .binary _ l r | .and l r | .or l r => loads [l, r]
    | .compare first rest => loads (first :: rest.map Prod.snd)
    | .ifElse t b o => loads [t, b, o]
    | .lambda params defaults body =>
      p.params params
      loads defaults
      let generator := Expr.suspends false fuel body
      let inner := { p with kind := .lambda, enclosing := [], generator, coroutine := false }
      checkExpr fuel inner .load body
    | .named t v at_ =>
      let p := { p with line := at_ }
      checkExpr fuel p .load v
      p.bindable t
    | .comprehension kind elt value clauses at_ =>
      let p := { p with line := at_ }
      let coroutine := comprehensionAwaits fuel elt value clauses
      if coroutine && kind != .generator && p.kind != .asyncFunction && p.kind != .comprehension then
        p.fail "asynchronous comprehension outside of an asynchronous function"
      let generator := kind == .generator
      let inner : Place := { p with kind := .comprehension, enclosing := [], coroutine, generator }
      let mut first := true
      for (t, it, conds, _) in clauses do
        if !first then checkExpr fuel inner .load it
        first := false
        checkExpr fuel inner .store t
        conds.forM (checkExpr fuel inner .load)
      checkExpr fuel inner .load elt
      value.toList.forM (checkExpr fuel inner .load)
      match clauses with
      | (_, iter, _, _) :: _ => checkExpr fuel p .load iter
      | [] => pure ()
    | .await x at_ =>
      let p := { p with line := at_ }
      if !p.kind.isFunction then p.fail "'await' outside function"
      if p.kind != .asyncFunction && p.kind != .comprehension then
        p.fail "'await' outside async function"
      checkExpr fuel p .load x
    | .yield v at_ =>
      let p := { p with line := at_ }
      if !p.kind.isFunction then p.fail "'yield' outside function"
      v.toList.forM (checkExpr fuel p .load)
    | .yieldFrom v at_ =>
      let p := { p with line := at_ }
      if !p.kind.isFunction then p.fail "'yield' outside function"
      if p.kind == .asyncFunction then p.fail "'yield from' inside async function"
      checkExpr fuel p .load v
    | _ => pure ()
termination_by structural fuel => fuel

/-- Check statements in a place. -/
def checkBlock : Nat -> Place -> List Stmt -> Except CodeError Unit
  | 0, _, _ => pure ()
  | fuel + 1, p, ss => ss.forM (checkStmt fuel p)
termination_by structural fuel => fuel

/-- Check one statement in a place. -/
def checkStmt : Nat -> Place -> Stmt -> Except CodeError Unit
  | 0, _, _ => pure ()
  | fuel + 1, p0, s => do
    let p := { p0 with line := s.line }
    let loads (es : List Expr) : Except CodeError Unit := es.forM (checkExpr fuel p .load)
    let stores (es : List Expr) : Except CodeError Unit := es.forM (checkExpr fuel p .store)
    let block (q : Place) (ss : List Stmt) : Except CodeError Unit := checkBlock fuel q ss
    match s with
    | .expr e _ => if e.isConstant then pure () else loads [e]
    | .assign targets value _ =>
      loads [value]
      stores targets
    | .augAssign target _ value _ =>
      match target with
      | .name n =>
        loads [value]
        p.bindable n
      | .attribute o _ => loads [o, value]
      | .subscript o i => loads [o, i, value]
      | _ => loads [value]
    | .annAssign target note value simple _ =>
      if let some v := value then
        loads [v]
        stores [target]
      let atTop := p.kind == .module || p.kind == .classBody
      match target with
      | .name n =>
        p.bindable n
        if simple && atTop && !p.postponed then loads [note]
      | .attribute o attr =>
        p.bindable attr
        if value.isNone then loads [o]
      | .subscript o i => if value.isNone then loads [o, i]
      | _ => pure ()
      if !simple && atTop && !p.postponed then loads [note]
    | .breakLoop _ => p.leave true "'break' outside loop"
    | .continueLoop _ => p.leave true "'continue' not properly in loop"
    | .returnValue v _ =>
      if !p.kind.isFunction then p.fail "'return' outside function"
      if v.isSome && p.coroutine && p.generator then
        p.fail "'return' with value in async generator"
      loads v.toList
      p.leave false ""
    | .raise e c _ => loads (e.toList ++ c.toList)
    | .assert t m _ => loads (t :: m.toList)
    | .delete targets _ => targets.forM (checkExpr fuel p .remove)
    | .importNames names _ =>
      names.forM fun (n, a) => p.bindable (a.getD ((n.splitOn ".").headD n))
    | .importFrom _ m names line =>
      if m == "__future__" && line > p.futureLine then
        p.fail "from __future__ imports must occur at the beginning of the file"
      names.forM fun (n, a) => if n == "*" then pure () else p.bindable (a.getD n)
    | .ifElse t body orelse _ =>
      loads [t]
      block p body
      block p orelse
    | .whileLoop t body orelse _ =>
      loads [t]
      block { p with enclosing := .loop :: p.enclosing } body
      block p orelse
    | .forLoop target iter body orelse isAsync _ =>
      if isAsync && p.kind != .asyncFunction then p.fail "'async for' outside async function"
      loads [iter]
      stores [target]
      block { p with enclosing := .loop :: p.enclosing } body
      block p orelse
    | .tryExcept body handlers orelse final star _ =>
      let inner := { p with enclosing := .other :: p.enclosing }
      block inner body
      block p orelse
      let count := handlers.length
      (handlers.zip (List.range count)).forM fun (h, i) => do
        match h with
        | .handler type name hbody line =>
          let hp := { p with line }
          if !star && type.isNone && i + 1 < count then hp.fail "default 'except:' must be last"
          type.toList.forM (checkExpr fuel hp .load)
          name.toList.forM fun n => hp.bindable n
          block { hp with enclosing := (if star then .groupHandler else .other) :: p.enclosing }
            hbody
        | _ => pure ()
      block inner final
    | .withItems items body isAsync _ =>
      if isAsync && p.kind != .asyncFunction then p.fail "'async with' outside async function"
      items.forM fun (e, t) => do
        loads [e]
        stores t.toList
      block { p with enclosing := .other :: p.enclosing } body
    | .functionDef name decorators params defaults notes body isAsync _ =>
      p.params params
      loads decorators
      loads defaults
      if !p.postponed then loads (notes.map Prod.snd)
      let generator := stmtsSuspend false fuel body
      let kind := if isAsync then UnitKind.asyncFunction else .function
      block { p with kind, enclosing := [], coroutine := isAsync, generator } body
      p.bindable name
    | .classDef name decorators bases keywords body _ =>
      loads decorators
      block { p with kind := .classBody, enclosing := [], coroutine := false, generator := false }
        body
      p.keywords keywords
      bases.forM fun
        | .starred x => checkExpr fuel p .load x
        | x => checkExpr fuel p .load x
      loads (keywords.map Prod.snd)
      p.bindable name
    | .matchCases subject cases _ =>
      loads [subject]
      let count := cases.length
      let hasDefault := count > 1 && match cases.getLast? with
        | some (pat, _, _, _) => pat.isWildcard
        | none => false
      let checked := if hasDefault then count - 1 else count
      (cases.zip (List.range count)).forM fun ((pat, guard, cbody, line), i) => do
        let cp := { p with line }
        if i < checked then
          let _ <- checkPattern fuel cp (guard.isSome || i + 1 == count) [] pat
        guard.toList.forM (checkExpr fuel cp .load)
        block cp cbody
    | _ => pure ()
termination_by structural fuel => fuel

/-- Check a pattern: what it may match given whether it may match anything
(`irrefutable`), with the names bound so far; the names bound after it. -/
def checkPattern : Nat -> Place -> Bool -> List String -> Pattern ->
    Except CodeError (List String)
  | 0, _, _, stores, _ => pure stores
  | fuel + 1, p, irrefutable, stores, pat => do
    let store (stores : List String) (n : String) : Except CodeError (List String) := do
      p.bindable n
      if stores.contains n then p.fail s!"multiple assignments to name {Text.quote n} in pattern"
      pure (stores ++ [n])
    let sub (stores : List String) (q : Pattern) := checkPattern fuel p true stores q
    match pat with
    | .value e =>
      match e with
      | .attribute .. => pure stores
      | _ =>
        if e.isConstant then pure stores
        else p.fail "patterns may only match literals and attribute lookups"
    | .singleton _ => pure stores
    | .capture n =>
      if !irrefutable then
        p.fail s!"name capture {Text.quote n} makes remaining patterns unreachable"
      store stores n
    | .wildcard =>
      if !irrefutable then p.fail "wildcard makes remaining patterns unreachable"
      pure stores
    | .bind q n =>
      let stores <- checkPattern fuel p irrefutable stores q
      store stores n
    | .star name =>
      match name with
      | some n => store stores n
      | none => pure stores
    | .sequence items =>
      let stars := items.filter fun | .star _ => true | _ => false
      if stars.length > 1 then p.fail "multiple starred names in sequence pattern"
      if items.all Pattern.isAnyWildcard then pure stores
      else items.foldlM sub stores
    | .mapping keys values rest =>
      let mut seen : List ConstKey := []
      for k in keys do
        match k with
        | .attribute .. => pure ()
        | _ =>
          match k.constKey with
          | some (key, text) =>
            if seen.any (ConstKey.same key) then
              p.fail s!"mapping pattern checks duplicate key ({text})"
            seen := seen ++ [key]
          | none => p.fail "mapping pattern keys may only match literals and attribute lookups"
      let stores <- values.foldlM sub stores
      match rest with
      | some n => store stores n
      | none => pure stores
    | .cls _ positional keywords =>
      let attrs := keywords.map Prod.fst
      for (a, i) in attrs.zip (List.range attrs.length) do
        p.bindable a
        if (attrs.drop (i + 1)).contains a then
          p.fail s!"attribute name repeated in class pattern: {a}"

      let stores <- positional.foldlM sub stores
      (keywords.map Prod.snd).foldlM sub stores
    | .alternatives alts =>
      let count := alts.length
      let mut control : Option (List String) := none
      for (alt, i) in alts.zip (List.range count) do
        let names <- checkPattern fuel p (i + 1 == count && irrefutable) [] alt
        match control with
        | none => control := some names
        | some c =>
          if c.length != names.length || c.any (fun n => !names.contains n) then
            p.fail "alternative patterns bind different names"
      (control.getD []).foldlM store stores
termination_by structural fuel => fuel

end

/-- A module once it compiles: its statements, and whether its annotations are kept as
texts rather than evaluated. -/
structure Module where
  body : List Stmt
  postponed : Bool

/-- Compile the source of a module. -/
def compileModule (source : String) : Except CodeError Module := do
  let lexed := tokenize source
  let budget := 40 * lexed.tokens.size + 100
  let stmts <- match ((Parse.parseModule budget).run lexed.tokens).run {} with
    | .ok stmts _ => pure stmts
    | .error stop s => throw (CodeError.ofParse lexed stop s)
  let (futureLine, postponed) <- scanFutures (afterDocstring stmts) false 0 (0, false)
  if let some e := scopeError budget stmts then throw e
  checkBlock budget { futureLine, postponed } stmts
  pure ⟨stmts, postponed⟩

end GraphProbe.Code
