import GraphProbe.Json.Value

/-!
# Documents of the query language

A document is a list of definitions: operations (queries, mutations and subscriptions),
named fragments, and definitions of a schema (types, directives, the schema itself and
extensions of them), which a request may hold but cannot run. Every node keeps the offset, counted in characters, where it starts in the
source text: an error about a node is located by that offset, turned into a line and a
column only when the error is shown.

Selections nest, so `Selection` and `SelectionSet` are defined together; a selection set
keeps the offset of its opening brace, which is where errors about the whole set point.
-/

namespace GraphProbe.Graphql

/-- The kind of an operation. -/
inductive OperationKind where
  | query
  | mutation
  | subscription
  deriving BEq, Repr, Inhabited, DecidableEq

/-- The keyword that introduces an operation of a kind. -/
def OperationKind.keyword : OperationKind → String
  | .query => "query"
  | .mutation => "mutation"
  | .subscription => "subscription"

/-- A type as a document writes it: a named type, a list of a type, or a non-null type. -/
inductive TypeRef where
  | named (name : String) (start : Nat)
  | list (item : TypeRef) (start : Nat)
  | nonNull (inner : TypeRef) (start : Nat)
  deriving Inhabited, Repr

/-- Where a written type starts. -/
def TypeRef.start : TypeRef → Nat
  | .named _ s | .list _ s | .nonNull _ s => s

/-- A value as a document writes it. Texts keep whether they were written as a block. -/
inductive Literal where
  | var (name : String) (start : Nat)
  | int (text : String) (start : Nat)
  | float (text : String) (start : Nat)
  | str (value : String) (block : Bool) (start : Nat)
  | bool (value : Bool) (start : Nat)
  | null (start : Nat)
  | enum (name : String) (start : Nat)
  | list (items : List Literal) (start : Nat)
  /-- An object: its fields in order, and where the name of each field starts. -/
  | object (fields : List (String × Literal)) (nameStarts : List Nat) (start : Nat)
  deriving Inhabited, Repr

/-- Where a written value starts. -/
def Literal.start : Literal → Nat
  | .var _ s | .int _ s | .float _ s | .str _ _ s | .bool _ s | .null s | .enum _ s
  | .list _ s | .object _ _ s => s

/-- One argument of a field or a directive. -/
structure Argument where
  name : String
  value : Literal
  start : Nat
  deriving Inhabited, Repr

/-- A directive on a node, `@name(args)`. -/
structure Directive where
  name : String
  args : List Argument
  start : Nat
  deriving Inhabited, Repr

/-- What a field selection says about itself, apart from its own selections. -/
structure FieldHead where
  label : Option String
  name : String
  args : List Argument
  directives : List Directive
  start : Nat
  deriving Inhabited, Repr

/-- The key of a field's answer: the alias it is given, else its name. -/
def FieldHead.key (f : FieldHead) : String := f.label.getD f.name

/-- A named type a fragment applies to, with where the name starts. -/
structure TypeCondition where
  name : String
  start : Nat
  deriving Inhabited, Repr

mutual
/-- One selection: a field, a spread of a named fragment, or an inline fragment. -/
inductive Selection where
  | field (head : FieldHead) (block : Option SelectionSet)
  | spread (name : String) (nameStart : Nat) (directives : List Directive) (start : Nat)
  | inline (condition : Option TypeCondition) (directives : List Directive)
      (block : SelectionSet) (start : Nat)

/-- The selections between braces, with where the opening brace stands. -/
inductive SelectionSet where
  | mk (start : Nat) (items : List Selection)
end

instance : Inhabited SelectionSet := ⟨.mk 0 []⟩

/-- The selections of a set. -/
def SelectionSet.items : SelectionSet → List Selection
  | .mk _ xs => xs

/-- Where a set's opening brace stands. -/
def SelectionSet.start : SelectionSet → Nat
  | .mk s _ => s

/-- Where a selection starts. -/
def Selection.start : Selection → Nat
  | .field h _ => h.start
  | .spread _ _ _ s => s
  | .inline _ _ _ s => s

/-- The declaration of an operation's variable, `$name: Type = default`. -/
structure VariableDefinition where
  name : String
  /-- Where the name after the `$` starts. -/
  nameStart : Nat
  type : TypeRef
  default : Option Literal
  directives : List Directive
  start : Nat
  deriving Inhabited

/-- An operation: its kind, its name, its variables and what it selects. -/
structure Operation where
  kind : OperationKind
  name : Option String
  /-- Where the name starts, when there is one. -/
  nameStart : Nat
  vars : List VariableDefinition
  directives : List Directive
  block : SelectionSet
  start : Nat
  deriving Inhabited

/-- A named fragment: the type it applies to and what it selects. -/
structure Fragment where
  name : String
  nameStart : Nat
  condition : TypeCondition
  directives : List Directive
  block : SelectionSet
  start : Nat
  deriving Inhabited

/-! ### Definitions of a schema -/

/-- An argument or an input field a schema definition declares: `name: Type = default`. -/
structure InputValueDefinition where
  name : String
  type : TypeRef
  default : Option Literal
  directives : List Directive
  start : Nat
  deriving Inhabited

/-- A field a schema definition declares, with its arguments. -/
structure FieldDefinition where
  name : String
  args : List InputValueDefinition
  type : TypeRef
  directives : List Directive
  start : Nat
  deriving Inhabited

/-- A value an enumeration declares. -/
structure EnumValueDefinition where
  name : String
  directives : List Directive
  start : Nat
  deriving Inhabited

/-- The kinds of definitions of a schema. -/
inductive SchemaItemKind where
  | schema
  | scalar
  | object
  | interface
  | union
  | enum
  | inputObject
  | directive
  deriving BEq, Repr, Inhabited

/-- A definition of a schema, or an extension of one: its kind, its name (none for the
schema itself), and what it declares. Each list is empty where the kind has no such part:
implemented interfaces and fields for objects and interfaces, members for unions, values for
enumerations, input fields for input objects, arguments, repetition and places for
directives, root types for the schema. -/
structure SchemaItem where
  kind : SchemaItemKind
  extension : Bool
  name : Option String
  interfaces : List TypeCondition := []
  directives : List Directive := []
  fields : List FieldDefinition := []
  members : List TypeCondition := []
  values : List EnumValueDefinition := []
  inputFields : List InputValueDefinition := []
  args : List InputValueDefinition := []
  repeatable : Bool := false
  locations : List String := []
  rootTypes : List (OperationKind × TypeCondition) := []
  start : Nat
  deriving Inhabited

/-- One definition of a document: an operation, a fragment, or a definition of a schema,
which a request may hold but cannot run. -/
inductive Definition where
  | operation (op : Operation)
  | fragment (f : Fragment)
  | schemaItem (d : SchemaItem)
  deriving Inhabited

/-- A document: its definitions in order. -/
abbrev Document := List Definition

/-- The operations of a document, in order. -/
def Document.operations (d : Document) : List Operation :=
  d.filterMap fun | .operation op => some op | _ => none

/-- The fragments of a document, in order. -/
def Document.fragments (d : Document) : List Fragment :=
  d.filterMap fun | .fragment f => some f | _ => none

/-- The definitions of a schema a document holds, in order. -/
def Document.schemaItems (d : Document) : List SchemaItem :=
  d.filterMap fun | .schemaItem i => some i | _ => none

end GraphProbe.Graphql
