import GraphProbe.Code.Classes
import GraphProbe.Code.Arith

/-!
# The class of a value and what its classes hold

Every value has a class: the value kinds of the language map to their classes, and an
object of the heap knows its own. A class's *lineage* is its method resolution order; a
class derives from another when the other is in its lineage, and a value is an instance of
every class its class derives from.

Looking a name up on a class walks its lineage and stops at the first class that holds the
name: a class the code defined holds what its body bound, a class of the language holds its
methods and data attributes (`BuiltinClass`).

Raising an exception of a class of the language makes an instance of the class with the
message as its one argument and stops the run with it.
-/

namespace GraphProbe.Code

/-- How operations call back into running code: call a value with positional and keyword
arguments. -/
abbrev Caller := Val -> Array Val -> Array (String × Val) -> Run Val

namespace Run

/-- The data of a class the code defined. -/
def userClass (id : Nat) : Run ClassData := do
  match <- obj id with
  | .cls c => pure c
  | _ => stall

/-- An exception of a class of the language with arguments. -/
def newError (cls : String) (args : Array Val) : Run Val :=
  alloc (.inst { cls := .builtin cls, args := args })

/-- Raise an exception of a class of the language with a message. -/
def raise (cls : String) (message : String) : Run α := do
  throw (.thrown (<- newError cls #[.str message]))

/-- Raise a type error. -/
def typeError (message : String) : Run α := raise "TypeError" message

/-- Raise a value error. -/
def valueError (message : String) : Run α := raise "ValueError" message

/-- Raise what a pure operation reports, or stall when it goes beyond the machine. -/
def ofProblem : Problem -> Run α
  | .error cls args => do throw (.thrown (<- newError cls args))
  | .beyond => stall

/-- The value of a pure operation. -/
def ofExcept (r : Except Problem α) : Run α :=
  match r with
  | .ok v => pure v
  | .error p => ofProblem p

end Run

namespace ClassRef

/-- The method resolution order of a class. -/
def mro : ClassRef -> Run (Array ClassRef)
  | .builtin n => pure (builtinMro n)
  | .user id => return (<- Run.userClass id).mro

/-- The name of a class. -/
def name : ClassRef -> Run String
  | .builtin n => pure n
  | .user id => return (<- Run.userClass id).name

/-- The qualified name of a class. -/
def qualname : ClassRef -> Run String
  | .builtin n => pure n
  | .user id => return (<- Run.userClass id).qualname

/-- The name of the module that defines a class, if it is a text. -/
def moduleName : ClassRef -> Run (Option String)
  | .builtin n => pure (some (((builtinClass? n).map (·.module)).getD "builtins"))
  | .user id => do
    match lookupName (<- Run.userClass id).attrs "__module__" with
    | some (.str s) => pure (some s)
    | _ => pure Option.none

/-- The class of the language whose layout instances of a class have. -/
def layout : ClassRef -> Run String
  | .builtin n => pure (((builtinClass? n).map (·.layout)).getD n)
  | .user id => return (<- Run.userClass id).layout

/-- Whether a class derives from another. -/
def derives (a b : ClassRef) : Run Bool := return (<- a.mro).contains b

/-- Whether a class derives from a class of the language. -/
def derivesFrom (a : ClassRef) (name : String) : Run Bool := a.derives (.builtin name)

/-- The text of a class: `<class 'name'>`, with its module in front unless it is the
language's own. -/
def text (c : ClassRef) : Run String := do
  let q <- c.qualname
  match <- c.moduleName with
  | some m => pure (if m == "builtins" then s!"<class '{q}'>" else s!"<class '{m}.{q}'>")
  | none => pure s!"<class '{q}'>"

end ClassRef

/-- Whether a dotted builtin name is a method of a class of the language that is looked up on
the class (`str.upper`), as opposed to a function of a module. -/
def isMethodName (q : String) : Bool :=
  match q.splitOn "." with
  | [c, m] => match builtinClass? c with
    | some bc => bc.methods.contains m || bc.fields.contains m
    | none => false
  | _ => false

/-- The methods of classes of the language that are bound to the class, not to an
instance. -/
def classMethodNames : List String :=
  ["dict.fromkeys", "int.from_bytes", "float.fromhex", "bytes.fromhex", "bytearray.fromhex",
   "str.maketrans", "bytes.maketrans", "bytearray.maketrans", "object.__init_subclass__",
   "object.__subclasshook__"]

/-- The name of the class of an iterator. -/
def Iter.className : Iter -> String
  | .items _ _ k => k
  | .list .. => "list_iterator"
  | .range .. => "range_iterator"
  | .dict _ _ _ k =>
    if k == 0 then "dict_keyiterator" else if k == 1 then "dict_valueiterator"
    else "dict_itemiterator"
  | .calls .. => "callable_iterator"
  | .map .. => "map"
  | .filter .. => "filter"
  | .zip .. => "zip"
  | .enumerate .. => "enumerate"
  | .generator _ => "generator"
  | .indexed .. | .done => "iterator"

/-- The class of a value. -/
def typeOf : Val -> Run ClassRef
  | .none => pure (.builtin "NoneType")
  | .notImplemented => pure (.builtin "NotImplementedType")
  | .ellipsis => pure (.builtin "ellipsis")
  | .bool _ => pure (.builtin "bool")
  | .int _ => pure (.builtin "int")
  | .float _ => pure (.builtin "float")
  | .complex .. => pure (.builtin "complex")
  | .str _ => pure (.builtin "str")
  | .bytes _ => pure (.builtin "bytes")
  | .tuple _ => pure (.builtin "tuple")
  | .range .. => pure (.builtin "range")
  | .slice .. => pure (.builtin "slice")
  | .cls _ => pure (.builtin "type")
  | .builtin q =>
    pure (.builtin (if isMethodName q && !classMethodNames.contains q then "method_descriptor"
      else "builtin_function_or_method"))
  | .method .. => pure (.builtin "builtin_function_or_method")
  | .bound .. => pure (.builtin "method")
  | .ref id => do
    match <- Run.obj id with
    | .list _ => pure (.builtin "list")
    | .dict _ => pure (.builtin "dict")
    | .set _ frozen => pure (.builtin (if frozen then "frozenset" else "set"))
    | .bytearray _ => pure (.builtin "bytearray")
    | .inst i => pure i.cls
    | .cls _ => pure (.builtin "type")
    | .function _ => pure (.builtin "function")
    | .module _ => pure (.builtin "module")
    | .frame _ => pure (.builtin "cell")
    | .iterator it => pure (.builtin it.className)
    | .property .. => pure (.builtin "property")
    | .staticMethod _ => pure (.builtin "staticmethod")
    | .classMethod _ => pure (.builtin "classmethod")
    | .superOf .. => pure (.builtin "super")
    | .file f => pure (.builtin (if f.encoding.isSome then "TextIOWrapper" else "BufferedReader"))
    | .view _ k =>
      pure (.builtin (if k == 0 then "dict_keys" else if k == 1 then "dict_values" else "dict_items"))

/-- The name of a value's class, as messages show it. -/
def typeName (v : Val) : Run String := do (<- typeOf v).name

/-- Whether a value is an instance of a class. -/
def isInstance (v : Val) (c : ClassRef) : Run Bool := do (<- typeOf v).derives c

/-- Whether a value is an instance of a class of the language. -/
def isA (v : Val) (name : String) : Run Bool := isInstance v (.builtin name)

/-- What a class holds under a name itself, without its bases: for a class of the language,
its method or data attribute as a dotted builtin name. -/
def ownMember (c : ClassRef) (n : String) : Run (Option Val) := do
  match c with
  | .builtin b =>
    match builtinClass? b with
    | some bc =>
      if bc.methods.contains n || bc.fields.contains n then pure (some (.builtin (b ++ "." ++ n)))
      else pure Option.none
    | none => pure Option.none
  | .user id => pure (lookupName (<- Run.userClass id).attrs n)

/-- Look a name up along a lineage, from a position on: what the first class that holds it
holds, and that class. -/
def lookupFrom (order : Array ClassRef) (start : Nat) (n : String) :
    Run (Option (Val × ClassRef)) := do
  for c in order.toList.drop start do
    match <- ownMember c n with
    | some v => return some (v, c)
    | none => pure ()
  return Option.none

/-- Look a name up on a class and its lineage. -/
def lookupClass (c : ClassRef) (n : String) : Run (Option (Val × ClassRef)) := do
  lookupFrom (<- c.mro) 0 n

/-- Whether a dotted builtin name stands for a data attribute of a class of the language. -/
def isBuiltinField (q : String) : Bool :=
  match q.splitOn "." with
  | [c, m] => match builtinClass? c with
    | some bc => bc.fields.contains m
    | none => false
  | _ => false

/-- A special method a class the code defined provides for a value: found before any class
of the language provides the name. `none` when the value's class takes the method from the
language, whose behaviour the operations then give themselves. -/
def userMethod? (v : Val) (n : String) : Run (Option Val) := do
  let c <- typeOf v
  match c with
  | .builtin _ => pure Option.none
  | .user _ =>
    match <- lookupClass c n with
    | some (f, .user _) => pure (some f)
    | _ => pure Option.none

/-- The value a class the code defined extends from a class of the language: the number,
text or container it was made from. Other values are their own. -/
def coreOf (v : Val) : Run Val := do
  match v with
  | .ref id =>
    match <- Run.obj id with
    | .inst i => match i.core with
      | .none => pure v
      | c => pure c
    | _ => pure v
  | _ => pure v

end GraphProbe.Code
