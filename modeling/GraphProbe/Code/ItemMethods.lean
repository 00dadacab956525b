import GraphProbe.Code.TextMethods

/-!
# Methods of lists, tuples, dictionaries and sets

Each container keeps its items in the heap (tuples apart, which are plain values), and a
method reads or changes them there. The rules follow the containers' contracts:

* a list is an ordered sequence; `insert` clips its index to the ends, `pop` takes the last
  item by default, `index` and `remove` look for the first equal item;
* a dictionary keeps its keys in the order they were first set; `popitem` takes the last
  entry;
* a set holds each item once, in the order `setOrder` gives; `pop` takes the first.

Missing items raise the errors the language raises: `IndexError` for positions,
`ValueError` for searched items, `KeyError` (with the key) for keys.
-/

namespace GraphProbe.Code

namespace Hooks

variable (h : Hooks)

/-- A position given to `insert`, clipped to the ends of a sequence of a length. -/
def clipPosition (len : Nat) (i : Int) : Nat :=
  if i < 0 then (if i + len < 0 then 0 else (i + len).toNat)
  else min i.toNat len

/-- The range `[start, stop)` the optional bounds of `index` select. -/
def indexRange (len : Nat) (args : Array Val) : Run (Nat × Nat) := do
  let start <- match args[1]? with
    | some v => pure (clipPosition len (<- h.toIndex v))
    | none => pure 0
  let stop <- match args[2]? with
    | some v => pure (clipPosition len (<- h.toIndex v))
    | none => pure len
  return (start, stop)

/-- The first position in `[start, stop)` holding an item equal to `x`. -/
def findIn (xs : Array Val) (x : Val) (start stop : Nat) : Run (Option Nat) := do
  for i in [start:stop] do
    if i < xs.size then
      if <- h.keyEqual xs[i]! x then return some i
  return none

/-- How many items equal `x`. -/
def countIn (xs : Array Val) (x : Val) : Run Nat := do
  let mut n := 0
  for y in xs do
    if <- h.keyEqual y x then n := n + 1
  return n

/-- Call a method of a list held at a place of the heap. -/
def listMethod (id : Nat) (m : String) (args : Array Val) (kwargs : Array (String × Val)) :
    Run Val := do
  let xs <- Run.listItems id
  let put (ys : Array Val) : Run Unit := Run.store id (.list ys)
  if m != "sort" then noKeywords m kwargs
  match m with
  | "append" =>
    if args.size != 1 then
      Run.typeError s!"list.append() takes exactly one argument ({args.size} given)"
    put (xs.push args[0]!)
    return .none
  | "extend" =>
    if args.size != 1 then
      Run.typeError s!"list.extend() takes exactly one argument ({args.size} given)"
    let more <- h.collect args[0]!
    put ((<- Run.listItems id) ++ more)
    return .none
  | "insert" =>
    if args.size != 2 then Run.typeError s!"insert expected 2 arguments, got {args.size}"
    let i := clipPosition xs.size (<- h.toIndex args[0]!)
    put ((xs.extract 0 i).push args[1]! ++ xs.extract i xs.size)
    return .none
  | "pop" =>
    atMost "pop" args 1
    if xs.isEmpty then Run.raise "IndexError" "pop from empty list"
    let i <- match args[0]? with
      | some v => h.toIndex v
      | none => pure (-1)
    let j := if i < 0 then i + xs.size else i
    if j < 0 || j ≥ xs.size then Run.raise "IndexError" "pop index out of range"
    let x := xs[j.toNat]!
    put (xs.eraseIdx! j.toNat)
    return x
  | "remove" =>
    if args.size != 1 then
      Run.typeError s!"list.remove() takes exactly one argument ({args.size} given)"
    match <- h.findIn xs args[0]! 0 xs.size with
    | some i =>
      put ((<- Run.listItems id).eraseIdx! i)
      return .none
    | none => Run.valueError "list.remove(x): x not in list"
  | "index" =>
    let x <- argAt "index" args 0
    let (a, b) <- h.indexRange xs.size args
    match <- h.findIn xs x a b with
    | some i => return .int i
    | none => Run.valueError s!"{<- h.repr x} is not in list"
  | "count" =>
    if args.size != 1 then
      Run.typeError s!"list.count() takes exactly one argument ({args.size} given)"
    return .int (<- h.countIn xs args[0]!)
  | "reverse" =>
    put xs.reverse
    return .none
  | "clear" =>
    put #[]
    return .none
  | "copy" => Run.newList xs
  | "__iadd__" =>
    put (xs ++ (<- h.collect args[0]!))
    return .ref id
  | "sort" =>
    if !args.isEmpty then Run.typeError "sort() takes no positional arguments"
    let key := (lookupName kwargs "key").getD .none
    let reverse <- h.truth ((lookupName kwargs "reverse").getD (.bool false))
    put #[]
    let sorted <- h.sortItems xs key reverse
    if !(<- Run.listItems id).isEmpty then Run.valueError "list modified during sort"
    put sorted
    return .none
  | _ => Run.stall

/-- Call a method of a tuple. -/
def tupleMethod (xs : Array Val) (m : String) (args : Array Val) : Run Val := do
  match m with
  | "index" =>
    let x <- argAt "index" args 0
    let (a, b) <- h.indexRange xs.size args
    match <- h.findIn xs x a b with
    | some i => return .int i
    | none => Run.valueError "tuple.index(x): x not in tuple"
  | "count" =>
    if args.size != 1 then
      Run.typeError s!"tuple.count() takes exactly one argument ({args.size} given)"
    return .int (<- h.countIn xs args[0]!)
  | _ => Run.stall

/-- Call a method of a dictionary held at a place of the heap. -/
def dictMethod (id : Nat) (m : String) (args : Array Val) (kwargs : Array (String × Val)) :
    Run Val := do
  if m != "update" then noKeywords m kwargs
  match m with
  | "get" =>
    let k <- match args[0]? with
      | some k => pure k
      | none => Run.typeError s!"get expected at least 1 argument, got 0"
    atMost "get" args 2
    return (<- h.dictGet? id k).getD (args[1]?.getD .none)
  | "setdefault" =>
    let k <- match args[0]? with
      | some k => pure k
      | none => Run.typeError s!"setdefault expected at least 1 argument, got 0"
    atMost "setdefault" args 2
    match <- h.dictGet? id k with
    | some v => return v
    | none =>
      let d := args[1]?.getD .none
      h.dictSet id k d
      return d
  | "pop" =>
    let k <- match args[0]? with
      | some k => pure k
      | none => Run.typeError s!"pop expected at least 1 argument, got 0"
    atMost "pop" args 2
    match <- h.dictRemove id k with
    | some v => return v
    | none =>
      match args[1]? with
      | some d => return d
      | none => keyError k
  | "popitem" =>
    let es <- Run.dictEntries id
    match es.back? with
    | some (k, v) =>
      Run.store id (.dict es.pop)
      return .tuple #[k, v]
    | none => keyError (.str "popitem(): dictionary is empty")
  | "keys" => Run.alloc (.view id 0)
  | "values" => Run.alloc (.view id 1)
  | "items" => Run.alloc (.view id 2)
  | "update" =>
    atMost "update" args 1
    if let some v := args[0]? then h.dictUpdate id v
    for (k, v) in kwargs do h.dictSet id (.str k) v
    return .none
  | "__ior__" =>
    h.dictUpdate id args[0]!
    return .ref id
  | "clear" =>
    Run.store id (.dict #[])
    return .none
  | "copy" => Run.newDict (<- Run.dictEntries id)
  | _ => Run.stall

/-- The items of every argument of a set method, each collected as set items. -/
def setArgs (args : Array Val) : Run (Array (Array Val)) :=
  args.mapM fun a => h.setItemsOf a

/-- Keep the items of `xs` that `keep` accepts. -/
def keepItems (xs : Array Val) (keep : Val -> Run Bool) : Run (Array Val) := do
  let mut out : Array Val := #[]
  for x in xs do
    if <- keep x then out := out.push x
  return out

/-- Call a method of a set (or frozen set) held at a place of the heap. -/
def setMethod (id : Nat) (m : String) (args : Array Val) (kwargs : Array (String × Val)) :
    Run Val := do
  noKeywords m kwargs
  let (xs, frozen) <- match <- Run.obj id with
    | .set xs f => pure (xs, f)
    | _ => Run.stall
  let put (ys : Array Val) : Run Unit := Run.store id (.set ys frozen)
  let fresh (ys : Array Val) : Run Val := Run.alloc (.set ys frozen)
  let union (ys : Array (Array Val)) : Run (Array Val) := ys.foldlM (fun acc y => h.setAddAll acc y) xs
  let inter (ys : Array (Array Val)) : Run (Array Val) :=
    ys.foldlM (fun acc y => keepItems acc fun x => h.setHas y x) xs
  let diff (ys : Array (Array Val)) : Run (Array Val) :=
    ys.foldlM (fun acc y => keepItems acc fun x => do return !(<- h.setHas y x)) xs
  let symm (y : Array Val) : Run (Array Val) := do
    let left <- keepItems xs fun x => do return !(<- h.setHas y x)
    let right <- keepItems y fun x => do return !(<- h.setHas xs x)
    h.setAddAll left right
  let one : Run Val := do
    if args.size != 1 then
      Run.typeError s!"set.{m}() takes exactly one argument ({args.size} given)"
    pure args[0]!
  match m with
  | "add" =>
    let x <- one
    put (<- h.setAddAll xs #[x])
    return .none
  | "remove" | "discard" =>
    let x <- one
    requireHashable x
    match <- findItem h.keyEqual xs x with
    | some i =>
      put (xs.eraseIdx! i)
      return .none
    | none => if m == "remove" then keyError x else return .none
  | "pop" =>
    match (setOrder xs)[0]? with
    | some x =>
      match <- findItem h.keyEqual xs x with
      | some i => put (xs.eraseIdx! i)
      | none => pure ()
      return x
    | none => keyError (.str "pop from an empty set")
  | "clear" =>
    put #[]
    return .none
  | "copy" => fresh xs
  | "union" => fresh (<- union (<- h.setArgs args))
  | "intersection" => fresh (<- inter (<- h.setArgs args))
  | "difference" => fresh (<- diff (<- h.setArgs args))
  | "symmetric_difference" => fresh (<- symm (<- h.setItemsOf (<- one)))
  | "update" =>
    put (<- union (<- h.setArgs args))
    return .none
  | "intersection_update" =>
    put (<- inter (<- h.setArgs args))
    return .none
  | "difference_update" =>
    put (<- diff (<- h.setArgs args))
    return .none
  | "symmetric_difference_update" =>
    put (<- symm (<- h.setItemsOf (<- one)))
    return .none
  | "issubset" =>
    let ys <- h.setItemsOf (<- one)
    return .bool (<- xs.allM fun x => h.setHas ys x)
  | "issuperset" =>
    let ys <- h.setItemsOf (<- one)
    return .bool (<- ys.allM fun y => h.setHas xs y)
  | "isdisjoint" =>
    let ys <- h.setItemsOf (<- one)
    return .bool (<- xs.allM fun x => do return !(<- h.setHas ys x))
  | _ => Run.stall

end Hooks

end GraphProbe.Code
