import GraphProbe.Code.Tree

/-!
# Values of running code

Running a module handles values of two sorts. Numbers, texts, byte strings, tuples, ranges,
slices, classes and functions of the language itself are plain values (`Val`): two of them
are the same when they are equal. Everything code can change in place, or whose identity
matters (lists, dictionaries, sets, instances, classes and functions the code defines,
modules, iterators), lives in a heap of objects (`Obj`), and a value refers to it by its
place.

A run is a computation over a `Machine`: the heap, a budget of steps, the depth of calls, the
exceptions being handled, the values yielded by the generators running, and the modules
imported so far. It stops early in one of three ways (`Stop`): an exception is raised; the
run needs more than its budget or something the machine does not model (it *stalls*: how it
would go on is unknown); or a generator has yielded as many values as it may.
-/

namespace GraphProbe.Code

/-- A class: one of the language's own, by name, or one the code defined, by its place in
the heap. -/
inductive ClassRef where
  | builtin (name : String)
  | user (id : Nat)
  deriving BEq, Inhabited

/-- Values. -/
inductive Val where
  | none
  | notImplemented
  | ellipsis
  | bool (b : Bool)
  | int (n : Int)
  | float (x : Float)
  | complex (re im : Float)
  /-- A text; lone surrogates are spelled as `Text.pointChars` spells them. -/
  | str (s : String)
  | bytes (data : Array UInt8)
  | tuple (items : Array Val)
  | range (start stop step : Int)
  | slice (start stop step : Val)
  | cls (c : ClassRef)
  /-- An object of the heap. -/
  | ref (id : Nat)
  /-- A function of the language or of a module it provides, by its dotted name; for a
  method of a class of the language, the class and the method (`str.upper`). -/
  | builtin (name : String)
  /-- A method of a class of the language bound to a value (`'ab'.upper`). -/
  | method (self : Val) (name : String)
  /-- A function of the code bound to the object it is a method of. -/
  | bound (fn : Val) (self : Val)
  deriving Inhabited

/-- The body of a function: statements, or the one expression of a lambda. -/
inductive Body where
  | block (ss : List Stmt)
  | expr (e : Expr)
  deriving Inhabited

/-- Where an assignment expression binds its name: in the block it stands in, in the frame
of the function around a comprehension, or among the module's names. -/
inductive Home where
  | here
  | frame (ref : Nat)
  | globals
  deriving Inhabited

/-- The kind of block code runs in, with where its own names live: the module's names, a
class body's namespace (with the names the body binds), or a function's frame. -/
inductive BlockScope where
  | moduleTop
  | classBody (ns : Nat) (bound : List String)
  | function (frame : Nat)
  deriving Inhabited

/-- Where the names of a running block are found. -/
structure Env where
  scope : BlockScope
  /-- The place of the dictionary of the module's names: the globals. -/
  module : Nat
  /-- The names the block declares `global`. -/
  declared : List String := []
  /-- The frames of the enclosing functions, innermost first. -/
  closure : List Nat := []
  /-- The frame that holds `__class__` for methods of a class body. -/
  classCell : Option Nat := none
  /-- The first parameter of the function, for `super()` without arguments. -/
  selfName : Option String := none
  /-- Whether annotations are kept as text and not evaluated. -/
  postponed : Bool := false
  /-- What qualified names of functions and classes defined here start with. -/
  qualPrefix : String := ""
  /-- Where assignment expressions bind. -/
  home : Home := .here
  /-- Whether this is the block of a comprehension. -/
  inComprehension : Bool := false
  deriving Inhabited

/-- The variables of a running function: the names that live in it, and the values bound
to them so far. -/
structure Frame where
  names : List String
  vars : Array (String × Val) := #[]
  deriving Inhabited

/-- A function defined by code. -/
structure Function where
  name : String
  qualname : String
  params : List Param
  /-- The defaults of the positional parameters that have one, in order. -/
  defaults : Array Val
  kwDefaults : Array (String × Val)
  body : Body
  /-- The names local to a call. -/
  locals : List String
  /-- The names declared `global`. -/
  declared : List String
  closure : List Nat
  classCell : Option Nat
  /-- The place of the dictionary of the module's names: the function's globals. -/
  module : Nat
  isGenerator : Bool
  isAsync : Bool
  postponed : Bool
  /-- The annotations of the parameters and of the result (`return`), in order: their
  values, or their texts when annotations are postponed. -/
  notes : Array (String × Val) := #[]
  /-- Attributes set on the function, `__doc__` and `__module__` among them. -/
  attrs : Array (String × Val)
  deriving Inhabited

/-- A class defined by code. -/
structure ClassData where
  name : String
  qualname : String
  bases : Array ClassRef
  /-- The method resolution order, the class itself first. -/
  mro : Array ClassRef
  attrs : Array (String × Val)
  /-- The class of the language whose layout instances have. -/
  layout : String
  deriving Inhabited

/-- An instance of a class: its class, its attributes, and what a class of the language
among its bases keeps: the arguments and fields of an exception, or the value of a number,
text or container it extends. -/
structure Instance where
  cls : ClassRef
  attrs : Array (String × Val) := #[]
  args : Array Val := #[]
  fields : Array (String × Val) := #[]
  core : Val := .none
  deriving Inhabited

/-- A module: its name, the dictionary of its names, whether its code ran to the end, and
whether its names are all known (a module of the system whose names are only partly known
stalls a run that asks for a name it does not list). -/
structure ModuleData where
  name : String
  dict : Nat
  ready : Bool
  known : Bool := true
  deriving Inhabited

/-- How a generator's run ended after its last value: it returned a value, it raised an
exception, or it was cut off after yielding as many values as a generator may. -/
inductive GenEnd where
  | returned (v : Val)
  | raised (exc : Val)
  | cut
  deriving Inhabited

/-- A comprehension waiting to run as a generator: where it runs, its element, its clauses,
and the iterator of its first clause, which is made when the generator is. -/
structure PendingComprehension where
  env : Env
  element : Expr
  clauses : List (Expr × Expr × List Expr × Bool)
  first : Val
  deriving Inhabited

/-- The state of a generator: not started yet (a call of a generator function with its
frame, or a generator expression), running, or run to the end with the values it yielded
and a position among them. -/
inductive GenState where
  | callPending (fn : Nat) (frame : Nat)
  | exprPending (c : PendingComprehension)
  | running
  | produced (values : Array Val) (pos : Nat) (ending : GenEnd)
  deriving Inhabited

/-- Iterators. -/
inductive Iter where
  /-- Over fixed items, with the name of the iterator's class. -/
  | items (xs : Array Val) (pos : Nat) (kind : String)
  /-- Over a list, which may change while it runs. -/
  | list (ref : Nat) (pos : Nat)
  | range (next stop step : Int)
  /-- Over a dictionary's keys (`0`), values (`1`) or items (`2`), which must keep its size. -/
  | dict (ref : Nat) (pos : Nat) (size : Nat) (kind : Nat)
  /-- Calls a function until it returns the sentinel. -/
  | calls (fn : Val) (sentinel : Val)
  | map (fn : Val) (its : Array Val)
  | filter (fn : Val) (it : Val)
  | zip (its : Array Val) (strict : Bool)
  | enumerate (it : Val) (count : Int)
  | generator (state : GenState)
  /-- Asks a value with only `__getitem__` for the items at 0, 1, … until it has no more. -/
  | indexed (seq : Val) (pos : Nat)
  | done
  deriving Inhabited

/-- A file opened for reading: its path, its octets, the character set a text file is read
with (none for a binary file), its text once decoded, and how far it has been read (in
characters of the text, or octets). -/
structure OpenFile where
  path : String
  data : Array UInt8
  encoding : Option String
  text : Option String := none
  pos : Nat := 0
  closed : Bool := false
  deriving Inhabited

/-- Objects of the heap. -/
inductive Obj where
  | list (items : Array Val)
  | dict (entries : Array (Val × Val))
  | set (items : Array Val) (frozen : Bool)
  | bytearray (data : Array UInt8)
  | inst (i : Instance)
  | cls (c : ClassData)
  | function (f : Function)
  | module (m : ModuleData)
  | frame (f : Frame)
  | iterator (it : Iter)
  | property (getter setter deleter doc : Val)
  | staticMethod (f : Val)
  | classMethod (f : Val)
  /-- The proxy `super()` returns: look up after `start` in the order of `self`'s class. -/
  | superOf (start : ClassRef) (self : Val)
  | file (f : OpenFile)
  /-- A view of a dictionary's keys (`0`), values (`1`) or items (`2`). -/
  | view (dict : Nat) (kind : Nat)
  deriving Inhabited

/-- A module's code as the host holds it. -/
structure ModuleSource where
  /-- The name of the file, as messages show it. -/
  fileName : String
  text : String
  isPackage : Bool
  /-- The number and reason of the system error a read of the file raises, when the system
  refuses it. -/
  refusal : Option (Nat × String)
  deriving Inhabited

/-- What running code can ask of the system around it. -/
structure Host where
  /-- The code of a module of the working tree, by its dotted name. -/
  source : String -> Option ModuleSource
  /-- Whether a module outside the working tree exists: of the standard library, or of an
  installed distribution; none when the machine cannot tell. -/
  outside : String -> Option Bool
  /-- Whether a module of the system outside the working tree is a package; none when the
  machine cannot tell. -/
  outsidePackage : String -> Option Bool
  /-- What a path names: a file (`true`), a directory (`false`), or nothing. -/
  entry : String -> Option Bool
  /-- The octets of a file, or the number and reason of the system error its read raises. -/
  read : String -> Option (Except (Nat × String) (List UInt8))

instance : Inhabited Host := ⟨⟨fun _ => none, fun _ => none, fun _ => none, fun _ => none, fun _ => none⟩⟩

/-- The state of a run. -/
structure Machine where
  heap : Array Obj := #[]
  steps : Nat := 0
  depth : Nat := 0
  /-- The exceptions being handled, innermost first. -/
  handling : List Val := []
  /-- The values yielded so far by each generator running, innermost first. -/
  yields : List (Array Val) := []
  /-- The modules imported, by name. -/
  modules : Array (String × Val) := #[]
  host : Host := default
  deriving Inhabited

/-- Why a run stops early. -/
inductive Stop where
  /-- An exception is raised. -/
  | thrown (exc : Val)
  /-- The run cannot go on in a way the machine knows. -/
  | stalled
  /-- A generator has yielded as many values as it may. -/
  | cut
  deriving Inhabited

/-- Runs. -/
abbrev Run := EStateM Stop Machine

/-- The most steps a run takes. -/
def stepLimit : Nat := 2000000

/-- The most calls of code that may be under way at once. -/
def depthLimit : Nat := 990

/-- The most values a generator yields before it is cut off. -/
def yieldLimit : Nat := 20000

/-- The placeholder an object leaves in the heap while it is changed. -/
def Obj.hole : Obj := .list #[]

namespace Run

/-- Give up: the run cannot go on in a way the machine knows. -/
def stall : Run α := throw .stalled

/-- Count a step, stalling past the budget. -/
def tick : Run Unit := do
  let m <- get
  if m.steps ≥ stepLimit then throw .stalled
  set { m with steps := m.steps + 1 }

/-- Put an object in the heap. -/
def alloc (o : Obj) : Run Val :=
  modifyGet fun m => (.ref m.heap.size, { m with heap := m.heap.push o })

/-- Put an object in the heap and return its place. -/
def allocId (o : Obj) : Run Nat :=
  modifyGet fun m => (m.heap.size, { m with heap := m.heap.push o })

/-- The object at a place. -/
def obj (id : Nat) : Run Obj := do
  match (<- get).heap[id]? with
  | some o => pure o
  | none => stall

/-- Replace the object at a place. -/
def store (id : Nat) (o : Obj) : Run Unit :=
  modify fun m => { m with heap := m.heap.set! id o }

/-- Change the object at a place in place. -/
def change (id : Nat) (f : Obj -> Obj) : Run Unit :=
  modify fun m =>
    if id < m.heap.size then
      let (o, heap) := m.heap.swapAt! id Obj.hole
      { m with heap := heap.set! id (f o) }
    else m

end Run

/-- Look a name up in a list of named values. -/
def lookupName (xs : Array (String × Val)) (n : String) : Option Val :=
  (xs.find? fun p => p.1 == n).map Prod.snd

/-- Set a name in a list of named values, keeping the place of a name already there. -/
def setName (xs : Array (String × Val)) (n : String) (v : Val) : Array (String × Val) :=
  match xs.findIdx? (fun p => p.1 == n) with
  | some i => xs.set! i (n, v)
  | none => xs.push (n, v)

/-- Remove a name from a list of named values. -/
def eraseName (xs : Array (String × Val)) (n : String) : Array (String × Val) :=
  xs.filter fun p => p.1 != n

end GraphProbe.Code
