import GraphProbe.Code.Lineage
import GraphProbe.Code.Format
import GraphProbe.Code.Strings
import GraphProbe.Text.Quote

/-!
# What every value answers to

The operations every value takes part in, whatever its class: reading and writing its
attributes, its truth and length, iterating over it, comparing it with another value, and
its text (`repr`) and printed form (`str`).

Each operation first asks the value's class. A class the code defined may provide the
special method for it (`__eq__`, `__len__`, `__iter__`, …), and the operation then calls it
through the hooks into running code (`Hooks`). Otherwise the class of the language decides,
and its behaviour is computed here directly; an instance of a class the code derived from a
class of the language behaves as the value it extends.

Looking an attribute up follows the language's order: a data attribute of the class (a
property) first, then the instance's own attributes, then the rest of what the class holds,
bound to the instance (a function becomes a bound method), then `__getattr__`.
-/

namespace GraphProbe.Code

/-- The ways operations call back into running code. -/
structure Hooks where
  /-- Call a value with positional and keyword arguments. -/
  call : Caller
  /-- Run a generator that has not started yet, at this place of the heap, to its end. -/
  start : Nat -> Run Unit
  /-- Import a module by its absolute dotted name. -/
  importModule : String -> Run Val
  /-- Read the next line of an open file at a place of the heap, none at its end. -/
  fileLine : Nat -> Run (Option Val)

/-- What iterating once more gives: an item, or the end with the iterator's result. -/
inductive Next where
  | item (v : Val)
  | finished (result : Val)
  deriving Inhabited

/-- The place a text shows for an object. -/
def addressText (id : Nat) : String :=
  "0x7f" ++ Text.hexPadded 10 (0x3a000000 + 16 * id)

namespace Run

/-- The items of a list. -/
def listItems (id : Nat) : Run (Array Val) := do
  match <- obj id with
  | .list xs => pure xs
  | _ => stall

/-- The entries of a dictionary. -/
def dictEntries (id : Nat) : Run (Array (Val × Val)) := do
  match <- obj id with
  | .dict es => pure es
  | _ => stall

/-- A new list. -/
def newList (xs : Array Val) : Run Val := alloc (.list xs)

/-- A new dictionary. -/
def newDict (es : Array (Val × Val)) : Run Val := alloc (.dict es)

/-- A new iterator. -/
def newIter (it : Iter) : Run Val := alloc (.iterator it)

/-- Raise an attribute error for a missing attribute. -/
def noAttribute (message : String) (name : String) (owner : Val) : Run α := do
  let i : Instance := { cls := .builtin "AttributeError", args := #[.str message] }
  let e <- alloc (.inst { i with fields := #[("name", .str name), ("obj", owner)] })
  throw (.thrown e)

/-- Raise a name error. -/
def nameError (n : String) : Run α := do
  let i : Instance := { cls := .builtin "NameError", args := #[.str s!"name '{n}' is not defined"] }
  let e <- alloc (.inst { i with fields := #[("name", .str n)] })
  throw (.thrown e)

/-- Run a computation; an exception of a class of the language (or a class derived from it)
gives `none`. -/
def catching (cls : String) (x : Run α) : Run (Option α) :=
  tryCatch (some <$> x) fun
    | .thrown e => do
      if <- isA e cls then pure none else throw (.thrown e)
    | s => throw s

end Run

/-- The length of a range. -/
def rangeLength (start stop step : Int) : Nat :=
  if step > 0 then (if stop > start then ((stop - start + step - 1) / step).toNat else 0)
  else if step < 0 then (if start > stop then ((start - stop - step - 1) / (-step)).toNat else 0)
  else 0

/-- Whether two values are the very same object, as far as the machine tells objects
apart: equal plain values are the same; `fuel` bounds nested tuples. -/
def sameValueWith : Nat -> Val -> Val -> Bool
  | 0, _, _ => false
  | fuel + 1, a, b =>
    match a, b with
    | .none, .none | .notImplemented, .notImplemented | .ellipsis, .ellipsis => true
    | .bool a, .bool b => a == b
    | .int a, .int b => a == b
    | .float a, .float b => a.toBits == b.toBits
    | .complex a b, .complex c d => a.toBits == c.toBits && b.toBits == d.toBits
    | .str a, .str b => a == b
    | .bytes a, .bytes b => a == b
    | .tuple xs, .tuple ys =>
      xs.size == ys.size && (xs.zip ys).all fun (x, y) => sameValueWith fuel x y
    | .range a b c, .range d e f => a == d && b == e && c == f
    | .cls a, .cls b => a == b
    | .ref a, .ref b => a == b
    | .builtin a, .builtin b => a == b
    | _, _ => false

/-- Whether two values are the very same object. -/
def sameValue (a b : Val) : Bool := sameValueWith 64 a b

namespace Hooks

variable (h : Hooks)

/-! ### Binding what a class holds -/

/-- What an attribute found on a class is when read through an instance (`inst`) or through
the class: functions bind to the instance, class methods to the class, static methods give
their function, and properties of an instance call their getter. -/
def bindFound (self : Val) (owner : ClassRef) (attr : Val) (inst : Bool) : Run Val := do
  match attr with
  | .ref id =>
    match <- Run.obj id with
    | .function _ => pure (if inst then .bound attr self else attr)
    | .staticMethod f => pure f
    | .classMethod f =>
      let c <- if inst then typeOf self else
        match self with
        | .cls c => pure c
        | _ => pure owner
      pure (.bound f (.cls c))
    | .property getter _ _ _ =>
      if !inst then pure attr
      else if let .none := getter then
        Run.noAttribute s!"property of '{<- typeName self}' object has no getter" "" self
      else h.call getter #[self] #[]
    | .inst _ =>
      match <- userMethod? attr "__get__" with
      | some g =>
        let ty <- if inst then typeOf self else match self with
          | .cls c => pure c
          | _ => typeOf self
        h.call g #[attr, (if inst then self else .none), .cls ty] #[]
      | none => pure attr
    | _ => pure attr
  | .builtin q =>
    if classMethodNames.contains q then
      let c <- if inst then typeOf self else match self with
        | .cls c => pure c
        | _ => pure owner
      pure (.method (.cls c) q)
    else pure (if inst then .method self q else attr)
  | _ => pure attr

/-- Call a special method found on a class with the value it belongs to first. -/
def callFound (self : Val) (fn : Val) (args : Array Val) : Run Val := do
  let c <- typeOf self
  let f <- h.bindFound self c fn true
  h.call f args #[]

/-- Call a special method a class the code defined provides for a value, if it does. -/
def callUser? (v : Val) (n : String) (args : Array Val) : Run (Option Val) := do
  match <- userMethod? v n with
  | some f => some <$> h.callFound v f args
  | none => pure none

/-! ### Truth and length -/

/-- The index an integer-like value stands for: integers and truth values, or what
`__index__` of a class the code defined returns. -/
def toIndex? (v : Val) : Run (Option Int) := do
  match v with
  | .int n => pure (some n)
  | .bool b => pure (some (if b then 1 else 0))
  | _ =>
    match <- h.callUser? v "__index__" #[] with
    | some (.int n) => pure (some n)
    | some (.bool b) => pure (some (if b then 1 else 0))
    | some r => Run.typeError s!"__index__ returned non-int (type {<- typeName r})"
    | none =>
      match <- coreOf v with
      | .int n => pure (some n)
      | .bool b => pure (some (if b then 1 else 0))
      | _ => pure none

/-- The index a value stands for, or a type error naming what needed it. -/
def toIndex (v : Val) : Run Int := do
  match <- h.toIndex? v with
  | some n => pure n
  | none => Run.typeError s!"'{<- typeName v}' object cannot be interpreted as an integer"

/-- The number of items of a value that is not an instance of a class the code defined. -/
def coreLength? (v : Val) : Run (Option Nat) := do
  match v with
  | .str s => pure (some (Text.codeLength s))
  | .bytes bs => pure (some bs.size)
  | .tuple xs => pure (some xs.size)
  | .range a b c => pure (some (rangeLength a b c))
  | .ref id =>
    match <- Run.obj id with
    | .list xs => pure (some xs.size)
    | .dict es => pure (some es.size)
    | .set xs _ => pure (some xs.size)
    | .bytearray bs => pure (some bs.size)
    | .view d _ => return some (<- Run.dictEntries d).size
    | _ => pure none
  | _ => pure none

/-- The number of items of a value, if it has a length. -/
def length? (v : Val) : Run (Option Nat) := do
  match v with
  | .str s => pure (some (Text.codeLength s))
  | .bytes bs => pure (some bs.size)
  | .tuple xs => pure (some xs.size)
  | .range a b c => pure (some (rangeLength a b c))
  | .ref id =>
    match <- Run.obj id with
    | .list xs => pure (some xs.size)
    | .dict es => pure (some es.size)
    | .set xs _ => pure (some xs.size)
    | .bytearray bs => pure (some bs.size)
    | .view d _ => return some (<- Run.dictEntries d).size
    | .inst _ =>
      match <- h.callUser? v "__len__" #[] with
      | some r =>
        match <- h.toIndex? r with
        | some n =>
          if n < 0 then Run.valueError "__len__() should return >= 0" else pure (some n.toNat)
        | none => Run.typeError s!"'{<- typeName r}' object cannot be interpreted as an integer"
      | none =>
        let c <- coreOf v
        coreLength? c
    | _ => pure none
  | _ => pure none

/-- The number of items of a value. -/
def length (v : Val) : Run Nat := do
  match <- h.length? v with
  | some n => pure n
  | none => Run.typeError s!"object of type '{<- typeName v}' has no len()"

/-- The truth of a value that is not an instance of a class the code defined. -/
def coreTruth (v : Val) : Run Bool := do
  match v with
  | .none => pure false
  | .bool b => pure b
  | .int n => pure (n != 0)
  | .float x => pure (x != 0.0)
  | .complex r i => pure (r != 0.0 || i != 0.0)
  | .str s => pure !s.isEmpty
  | .bytes bs => pure !bs.isEmpty
  | .tuple xs => pure !xs.isEmpty
  | .range a b c => pure (rangeLength a b c != 0)
  | .ref id =>
    match <- Run.obj id with
    | .list xs => pure !xs.isEmpty
    | .dict es => pure !es.isEmpty
    | .set xs _ => pure !xs.isEmpty
    | .bytearray bs => pure !bs.isEmpty
    | .view d _ => return !(<- Run.dictEntries d).isEmpty
    | _ => pure true
  | _ => pure true

/-! ### Iteration -/

/-- The truth of a value. -/
def truth (v : Val) : Run Bool := do
  match v with
  | .none => pure false
  | .bool b => pure b
  | .int n => pure (n != 0)
  | .float x => pure (x != 0.0)
  | .complex r i => pure (r != 0.0 || i != 0.0)
  | .str s => pure !s.isEmpty
  | .bytes bs => pure !bs.isEmpty
  | .tuple xs => pure !xs.isEmpty
  | .range a b c => pure (rangeLength a b c != 0)
  | .ref id =>
    match <- Run.obj id with
    | .list xs => pure !xs.isEmpty
    | .dict es => pure !es.isEmpty
    | .set xs _ => pure !xs.isEmpty
    | .bytearray bs => pure !bs.isEmpty
    | .view d _ => return !(<- Run.dictEntries d).isEmpty
    | .inst _ =>
      match <- h.callUser? v "__bool__" #[] with
      | some (.bool b) => pure b
      | some r => Run.typeError s!"__bool__ should return bool, returned {<- typeName r}"
      | none =>
        match <- userMethod? v "__len__" with
        | some _ => return (<- h.length v) != 0
        | none =>
          let c <- coreOf v
          if sameValue c v then pure true else coreTruth c
    | _ => pure true
  | _ => pure true

/-! ### Iteration -/

/-- The class name of an iterator over a text. -/
def textIterKind (s : String) : String :=
  if s.toList.all (fun c => c.toNat < 128) then "str_ascii_iterator" else "str_iterator"

/-- The items of a set in the order iteration gives them. -/
def setOrder (xs : Array Val) : Array Val := xs

/-- An iterator over a value that is not an instance of a class the code defined. -/
def coreIterOf (v : Val) : Run Val := do
  match v with
  | .tuple xs => Run.newIter (.items xs 0 "tuple_iterator")
  | .str s => Run.newIter (.items ((Text.codes s).toArray.map fun n => .str (Text.pointText n)) 0 (textIterKind s))
  | .bytes bs => Run.newIter (.items (bs.map fun b => .int b.toNat) 0 "bytes_iterator")
  | .range a b c => Run.newIter (.range a b c)
  | .ref id =>
    match <- Run.obj id with
    | .list _ => Run.newIter (.list id 0)
    | .dict es => Run.newIter (.dict id 0 es.size 0)
    | .set xs _ => Run.newIter (.items (setOrder xs) 0 "set_iterator")
    | .bytearray bs => Run.newIter (.items (bs.map fun b => .int b.toNat) 0 "bytearray_iterator")
    | .view d k => return <- Run.newIter (.dict d 0 (<- Run.dictEntries d).size k)
    | .iterator _ => pure v
    | .file _ => pure v
    | _ => Run.typeError s!"'{<- typeName v}' object is not iterable"
  | _ => Run.typeError s!"'{<- typeName v}' object is not iterable"

/-- An iterator over a value. -/
def iterOf (v : Val) : Run Val := do
  match v with
  | .tuple xs => Run.newIter (.items xs 0 "tuple_iterator")
  | .str s => Run.newIter (.items ((Text.codes s).toArray.map fun n => .str (Text.pointText n)) 0 (textIterKind s))
  | .bytes bs => Run.newIter (.items (bs.map fun b => .int b.toNat) 0 "bytes_iterator")
  | .range a b c => Run.newIter (.range a b c)
  | .ref id =>
    match <- Run.obj id with
    | .list _ => Run.newIter (.list id 0)
    | .dict es => Run.newIter (.dict id 0 es.size 0)
    | .set xs _ => Run.newIter (.items (setOrder xs) 0 "set_iterator")
    | .bytearray bs => Run.newIter (.items (bs.map fun b => .int b.toNat) 0 "bytearray_iterator")
    | .view d k => return <- Run.newIter (.dict d 0 (<- Run.dictEntries d).size k)
    | .iterator _ => pure v
    | .file _ => pure v
    | .inst _ =>
      match <- h.callUser? v "__iter__" #[] with
      | some it =>
        match it with
        | .ref j =>
          match <- Run.obj j with
          | .iterator _ => pure it
          | _ =>
            match <- userMethod? it "__next__" with
            | some _ => pure it
            | none => Run.typeError s!"iter() returned non-iterator of type '{<- typeName it}'"
        | _ => Run.typeError s!"iter() returned non-iterator of type '{<- typeName it}'"
      | none =>
        let c <- coreOf v
        if !sameValue c v then coreIterOf c
        else
          match <- userMethod? v "__getitem__" with
          | some _ => Run.newIter (.indexed v 0)
          | none => Run.typeError s!"'{<- typeName v}' object is not iterable"
    | _ => Run.typeError s!"'{<- typeName v}' object is not iterable"
  | _ => Run.typeError s!"'{<- typeName v}' object is not iterable"

/-- Store an iterator's new state. -/
def setIter (id : Nat) (it : Iter) : Run Unit := Run.store id (.iterator it)

/-- The next item of a generator, running it first if it has not started. -/
def generatorNext (id : Nat) (st : GenState) (again : Run Next) : Run Next := do
  match st with
  | .callPending .. | .exprPending _ =>
    h.start id
    again
  | .running => Run.valueError "generator already executing"
  | .produced vals pos ending =>
    if hp : pos < vals.size then
      setIter id (.generator (.produced vals (pos + 1) ending))
      pure (.item vals[pos])
    else
      match ending with
      | .returned r =>
        setIter id (.generator (.produced vals pos (.returned .none)))
        pure (.finished r)
      | .raised e =>
        setIter id (.generator (.produced vals pos (.returned .none)))
        throw (.thrown e)
      | .cut => Run.stall

/-! ### Comparison -/

/-- The special method of a comparison, and that of the comparison with the operands
swapped. -/
def compareNames : CompareOp -> String × String
  | .eq => ("__eq__", "__eq__")
  | .ne => ("__ne__", "__ne__")
  | .lt => ("__lt__", "__gt__")
  | .le => ("__le__", "__ge__")
  | .gt => ("__gt__", "__lt__")
  | .ge => ("__ge__", "__le__")
  | _ => ("", "")

/-- The symbol of a comparison. -/
def compareSymbol : CompareOp -> String
  | .eq => "=="
  | .ne => "!="
  | .lt => "<"
  | .le => "<="
  | .gt => ">"
  | .ge => ">="
  | _ => "in"

/-- The comparison with the operands swapped. -/
def swapCompare : CompareOp -> CompareOp
  | .lt => .gt
  | .le => .ge
  | .gt => .lt
  | .ge => .le
  | op => op

/-- Whether an order answers a comparison. -/
def orderHolds (op : CompareOp) (o : Ordering) : Bool :=
  match op with
  | .eq => o == .eq
  | .ne => o != .eq
  | .lt => o == .lt
  | .le => o != .gt
  | .gt => o == .gt
  | .ge => o != .lt
  | _ => false

/-- Lexicographic order of two lists of code points or octets. -/
def seqOrder : List Nat -> List Nat -> Ordering
  | [], [] => .eq
  | [], _ => .lt
  | _, [] => .gt
  | a :: as, b :: bs => if a < b then .lt else if a > b then .gt else seqOrder as bs

/-- The order of two texts by code points. -/
def textOrder (a b : String) : Ordering :=
  if a.toList.any (fun c => c.toNat ≥ 0xFD800) || b.toList.any (fun c => c.toNat ≥ 0xFD800) then
    seqOrder (Text.codes a) (Text.codes b)
  else if a == b then .eq else if a < b then .lt else .gt

/-- The octets of a byte string or byte array, if the value is one. -/
def octets? (v : Val) : Run (Option (Array UInt8)) := do
  match v with
  | .bytes bs => pure (some bs)
  | .ref id =>
    match <- Run.obj id with
    | .bytearray bs => pure (some bs)
    | _ => pure none
  | _ => pure none

/-- The default comparison: identity for equality, nothing for order. -/
def identityCompare (op : CompareOp) (same : Bool) : Val :=
  match op with
  | .eq => if same then .bool true else .notImplemented
  | .ne => if same then .bool false else .notImplemented
  | _ => .notImplemented

/-- The first item, the last and the length of a range: equal ranges agree on them. -/
def rangeKey (a b c : Int) : Array Int :=
  let n := rangeLength a b c
  if n == 0 then #[] else #[a, a + c * ((n : Int) - 1), (n : Int)]

/-- Lexicographic comparison of two sequences by their items: the first pair that is not
equal decides, else the lengths. -/
def seqCompareBy (eq : Val -> Val -> Run Bool) (cmp : CompareOp -> Val -> Val -> Run Val)
    (op : CompareOp) (xs ys : Array Val) : Run Val := do
  let n := min xs.size ys.size
  for i in [0:n] do
    let x := xs[i]!
    let y := ys[i]!
    if !(sameValue x y) then
      if !(<- eq x y) then
        match op with
        | .eq => return .bool false
        | .ne => return .bool true
        | _ => return <- cmp op x y
  pure (.bool (orderHolds op (compare xs.size ys.size)))

/-- Whether two dictionaries hold the same keys with equal values. -/
def dictSameBy (keyEq eq : Val -> Val -> Run Bool) (xs ys : Array (Val × Val)) : Run Bool := do
  if xs.size != ys.size then return false
  for (k, v) in xs do
    let mut found := false
    for (k', v') in ys do
      if !found then
        if <- keyEq k k' then
          found := true
          if !(sameValue v v') then
            if !(<- eq v v') then return false
    if !found then return false
  return true

/-- Whether every item of one collection is a key of another. -/
def subsetBy (keyEq : Val -> Val -> Run Bool) (xs ys : Array Val) : Run Bool := do
  for x in xs do
    let mut found := false
    for y in ys do
      if !found then
        if <- keyEq x y then found := true
    if !found then return false
  return true

/-- The answer of set comparisons from the two inclusions. -/
def inclusionAnswer (op : CompareOp) (sub sup : Bool) : Bool :=
  match op with
  | .eq => sub && sup
  | .ne => !(sub && sup)
  | .le => sub
  | .lt => sub && !sup
  | .ge => sup
  | .gt => sup && !sub
  | _ => false

/-- The arguments of `zip` before the `n`-th (counting from zero), as its messages name
them: `argument 1` or `arguments 1-n`. -/
def zipFirst (n : Nat) : String :=
  if n == 1 then "argument 1" else "arguments 1-" ++ toString n

mutual

/-- One more step of an iterator, `fuel` bounding nested iterators and comparisons. -/
def nextWith (h : Hooks) : Nat -> Val -> Run Next
  | 0, _ => Run.raise "RecursionError" "maximum recursion depth exceeded"
  | fuel + 1, v => do
    match v with
    | .ref id =>
      match <- Run.obj id with
      | .file _ =>
        match <- h.fileLine id with
        | some line => pure (.item line)
        | none => pure (.finished .none)
      | .iterator it =>
        match it with
        | .items xs pos k =>
          if hp : pos < xs.size then
            setIter id (.items xs (pos + 1) k)
            pure (.item xs[pos])
          else pure (.finished .none)
        | .list ref pos =>
          let xs <- Run.listItems ref
          if hp : pos < xs.size then
            setIter id (.list ref (pos + 1))
            pure (.item xs[pos])
          else
            setIter id .done
            pure (.finished .none)
        | .range nxt stop step =>
          if (step > 0 && nxt < stop) || (step < 0 && nxt > stop) then
            setIter id (.range (nxt + step) stop step)
            pure (.item (.int nxt))
          else pure (.finished .none)
        | .dict ref pos size kind =>
          let es <- Run.dictEntries ref
          if es.size != size then
            setIter id (.dict ref pos (es.size + 1000000007) kind)
            Run.raise "RuntimeError" "dictionary changed size during iteration"
          else if hp : pos < es.size then
            setIter id (.dict ref (pos + 1) size kind)
            let (k, x) := es[pos]
            pure (.item (if kind == 0 then k else if kind == 1 then x else .tuple #[k, x]))
          else pure (.finished .none)
        | .calls fn sentinel =>
          let x <- h.call fn #[] #[]
          if <- equalWith h fuel x sentinel then
            setIter id .done
            pure (.finished .none)
          else pure (.item x)
        | .map fn its =>
          let mut args : Array Val := #[]
          for i in its do
            match <- nextWith h fuel i with
            | .item x => args := args.push x
            | .finished _ => return .finished .none
          return .item (<- h.call fn args #[])
        | .filter fn inner =>
          for _ in [0:stepLimit] do
            Run.tick
            match <- nextWith h fuel inner with
            | .item x =>
              let keep <- match fn with
                | .none => h.truth x
                | _ => do h.truth (<- h.call fn #[x] #[])
              if keep then return .item x
            | .finished _ => return .finished .none
          Run.stall
        | .zip its strict =>
          let mut items : Array Val := #[]
          let mut i := 0
          for inner in its do
            match <- nextWith h fuel inner with
            | .item x => items := items.push x
            | .finished _ =>
              if strict then
                if i > 0 then
                  Run.valueError ("zip() argument " ++ toString (i + 1) ++ " is shorter than " ++
                    zipFirst i)
                for j in [1:its.size] do
                  match <- nextWith h fuel its[j]! with
                  | .item _ =>
                    Run.valueError ("zip() argument " ++ toString (j + 1) ++ " is longer than " ++
                      zipFirst j)
                  | .finished _ => pure ()
              return .finished .none
            i := i + 1
          if its.isEmpty then return .finished .none
          return .item (.tuple items)
        | .enumerate inner n =>
          match <- nextWith h fuel inner with
          | .item x =>
            setIter id (.enumerate inner (n + 1))
            pure (.item (.tuple #[.int n, x]))
          | .finished _ => pure (.finished .none)
        | .generator st => h.generatorNext id st (nextWith h fuel v)
        | .indexed s pos =>
          match <- userMethod? s "__getitem__" with
          | some f =>
            let x <- Run.catching "StopIteration"
              (Run.catching "IndexError" (h.callFound s f #[.int pos]))
            match x with
            | some (some x) =>
              setIter id (.indexed s (pos + 1))
              pure (.item x)
            | _ =>
              setIter id .done
              pure (.finished .none)
          | none => pure (.finished .none)
        | .done => pure (.finished .none)
      | _ =>
        match <- userMethod? v "__next__" with
        | some f =>
          let r <- Run.catching "StopIteration" (h.callFound v f #[])
          match r with
          | some x => pure (.item x)
          | none => pure (.finished .none)
        | none => Run.typeError s!"'{<- typeName v}' object is not an iterator"
    | _ => Run.typeError s!"'{<- typeName v}' object is not an iterator"

/-- A comparison as a class of the language makes it, `fuel` bounding nested containers:
`NotImplemented` when the class cannot compare the two. -/
def builtinCompare (h : Hooks) : Nat -> CompareOp -> Val -> Val -> Run Val
  | 0, _, _, _ => Run.raise "RecursionError" "maximum recursion depth exceeded in comparison"
  | fuel + 1, op, a, b => do
    let a <- coreOf a
    let b <- coreOf b
    let eq := equalWith h fuel
    let keyEq := keyEqualWith h fuel
    let cmp := compareWith h fuel
    match a.num?, b.num? with
    | some x, some y =>
      match op with
      | .eq => pure (.bool (numEqual x y))
      | .ne => pure (.bool !(numEqual x y))
      | _ =>
        match x, y with
        | .complex .., _ | _, .complex .. => pure .notImplemented
        | _, _ =>
          match numCompare x y with
          | some o => pure (.bool (orderHolds op o))
          | none => pure (.bool false)
    | _, _ =>
    match a, b with
    | .str x, .str y => pure (.bool (orderHolds op (textOrder x y)))
    | .tuple xs, .tuple ys => seqCompareBy eq cmp op xs ys
    | .range p q r, .range p' q' r' =>
      match op with
      | .eq => pure (.bool (rangeKey p q r == rangeKey p' q' r'))
      | .ne => pure (.bool (rangeKey p q r != rangeKey p' q' r'))
      | _ => pure .notImplemented
    | .none, .none | .ellipsis, .ellipsis | .notImplemented, .notImplemented =>
      pure (identityCompare op true)
    | _, _ =>
    match <- octets? a, <- octets? b with
    | some x, some y =>
      pure (.bool (orderHolds op (seqOrder (x.toList.map UInt8.toNat) (y.toList.map UInt8.toNat))))
    | _, _ =>
    match a, b with
    | .ref i, .ref j =>
      match <- Run.obj i, <- Run.obj j with
      | .list xs, .list ys => seqCompareBy eq cmp op xs ys
      | .dict xs, .dict ys =>
        match op with
        | .eq => pure (.bool (<- dictSameBy keyEq eq xs ys))
        | .ne => pure (.bool !(<- dictSameBy keyEq eq xs ys))
        | _ => pure .notImplemented
      | .set xs _, .set ys _ =>
        let sub <- subsetBy keyEq xs ys
        let sup <- subsetBy keyEq ys xs
        pure (.bool (inclusionAnswer op sub sup))
      | .view d k, .view e l =>
        if k == 0 && l == 0 then
          let xs := (<- Run.dictEntries d).map Prod.fst
          let ys := (<- Run.dictEntries e).map Prod.fst
          let sub <- subsetBy keyEq xs ys
          let sup <- subsetBy keyEq ys xs
          pure (.bool (inclusionAnswer op sub sup))
        else pure (identityCompare op (i == j))
      | _, _ => pure (identityCompare op (i == j))
    | .cls x, .cls y => pure (identityCompare op (x == y))
    | .builtin x, .builtin y => pure (identityCompare op (x == y))
    | .bound f s, .bound g t => pure (identityCompare op (sameValue f g && sameValue s t))
    | .method s q, .method t r => pure (identityCompare op (q == r && sameValue s t))
    | .slice .., .slice .. => pure (identityCompare op (sameValue a b))
    | _, _ => pure (identityCompare op false)

/-- One side of a rich comparison: the method a class the code defined provides, or the
language's comparison. -/
def compareSide (h : Hooks) : Nat -> CompareOp -> String -> Val -> Val -> Run Val
  | 0, _, _, _, _ => Run.raise "RecursionError" "maximum recursion depth exceeded in comparison"
  | fuel + 1, op, name, a, b => do
    match <- userMethod? a name with
    | some f => h.callFound a f #[b]
    | none =>
      if op == .ne then
        -- the default `!=` inverts `==` when the class defines `==`
        match <- userMethod? a "__eq__" with
        | some f =>
          let r <- h.callFound a f #[b]
          match r with
          | .notImplemented => pure .notImplemented
          | _ => return .bool !(<- h.truth r)
        | none => builtinCompare h fuel op a b
      else builtinCompare h fuel op a b

/-- A rich comparison: the right operand's reflected method first when its class derives
from the left one's, then the left one's method, then the right one's reflected method, and
at last identity for equality or a type error for order. -/
def compareWith (h : Hooks) : Nat -> CompareOp -> Val -> Val -> Run Val
  | 0, _, _, _ => Run.raise "RecursionError" "maximum recursion depth exceeded in comparison"
  | fuel + 1, op, a, b => do
    let (name, swapped) := compareNames op
    let ta <- typeOf a
    let tb <- typeOf b
    let reverseFirst := !(ta == tb) && (tb matches .user _) && (<- tb.derives ta)
    if reverseFirst then
      let r <- compareSide h fuel (swapCompare op) swapped b a
      if !(r matches .notImplemented) then return r
    let r <- compareSide h fuel op name a b
    if !(r matches .notImplemented) then return r
    if !reverseFirst then
      let r <- compareSide h fuel (swapCompare op) swapped b a
      if !(r matches .notImplemented) then return r
    match op with
    | .eq => pure (.bool (sameValue a b))
    | .ne => pure (.bool !(sameValue a b))
    | _ =>
      Run.typeError s!"'{compareSymbol op}' not supported between instances of '{<- ta.name}' and '{<- tb.name}'"

/-- Whether two values are equal. -/
def equalWith (h : Hooks) : Nat -> Val -> Val -> Run Bool
  | 0, _, _ => Run.raise "RecursionError" "maximum recursion depth exceeded in comparison"
  | fuel + 1, a, b => do
    match a, b with
    | .str x, .str y => pure (x == y)
    | .int x, .int y => pure (x == y)
    | _, _ => h.truth (<- compareWith h fuel .eq a b)

/-- Whether two values are the same key of a dictionary or set: the same object, or
equal. -/
def keyEqualWith (h : Hooks) : Nat -> Val -> Val -> Run Bool
  | 0, _, _ => Run.raise "RecursionError" "maximum recursion depth exceeded in comparison"
  | fuel + 1, a, b => do
    if sameValue a b then return true
    match a, b with
    | .str x, .str y => pure (x == y)
    | .int x, .int y => pure (x == y)
    | .str _, .int _ | .int _, .str _ => pure false
    | _, _ => equalWith h fuel a b

end

/-- The depth of nesting comparisons and iterations may reach. -/
def nestLimit : Nat := 3000

/-- One more step of an iterator. -/
def next (v : Val) : Run Next := nextWith h nestLimit v

/-- A rich comparison. -/
def compare (op : CompareOp) (a b : Val) : Run Val := compareWith h nestLimit op a b

/-- Whether two values are equal. -/
def equal (a b : Val) : Run Bool := equalWith h nestLimit a b

/-- Whether two values are the same key. -/
def keyEqual (a b : Val) : Run Bool := keyEqualWith h nestLimit a b

/-- Whether one value is less than another. -/
def lessThan (a b : Val) : Run Bool := do h.truth (<- h.compare .lt a b)

end Hooks

end GraphProbe.Code
