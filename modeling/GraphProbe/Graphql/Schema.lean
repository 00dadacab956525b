import GraphProbe.Graphql.Error

/-!
# Schemas

A schema names a root object type for queries and, optionally, for mutations and
subscriptions. An object type has fields; a field has a type, arguments with their types
and defaults, and a resolver: a pure function from the value of the parent and the
arguments to the field's value, or a message when it fails. A subscription field has an
event source besides.

An event source is a machine that, given how many events it emitted before, takes its next
step: emit a payload and pause for a while, finish, fail with a message, or wait forever.
This is what an asynchronous generator does, seen from outside: the consumer of the source
only ever asks for the next step.

Types are written as in documents: `Int`, `[String!]`, `Float!`. The built-in scalars are
`Int`, `Float`, `String`, `Boolean` and `ID`. Besides scalars and object types a schema
knows enumerations: the meta types that describe a schema use two.

Directives are part of every schema: `@include` and `@skip` on selections, `@deprecated`,
`@specifiedBy` and `@oneOf` on definitions. A directive may stand only at the places it
lists.
-/

namespace GraphProbe.Graphql

/-- The built-in scalar types. -/
inductive Scalar where
  | int
  | float
  | string
  | boolean
  | id
  deriving BEq, Repr, Inhabited, DecidableEq

/-- The name of a scalar type. -/
def Scalar.name : Scalar → String
  | .int => "Int"
  | .float => "Float"
  | .string => "String"
  | .boolean => "Boolean"
  | .id => "ID"

/-- The scalar of a name. -/
def Scalar.ofName? : String → Option Scalar
  | "Int" => some .int
  | "Float" => some .float
  | "String" => some .string
  | "Boolean" => some .boolean
  | "ID" => some .id
  | _ => none

/-- A type as a schema uses it: a named type, a list of a type, a non-null type. -/
inductive TypeExpr where
  | named (name : String)
  | list (item : TypeExpr)
  | nonNull (inner : TypeExpr)
  deriving BEq, Repr, Inhabited

namespace TypeExpr

/-- A type as text: `[Int!]!`. -/
def text : TypeExpr → String
  | .named n => n
  | .list t => "[" ++ t.text ++ "]"
  | .nonNull t => t.text ++ "!"

/-- The named type inside the wrappers. -/
def base : TypeExpr → String
  | .named n => n
  | .list t => t.base
  | .nonNull t => t.base

/-- Whether a type is non-null. -/
def isNonNull : TypeExpr → Bool
  | .nonNull _ => true
  | _ => false

/-- The type without a non-null wrapper. -/
def nullable : TypeExpr → TypeExpr
  | .nonNull t => t
  | t => t

end TypeExpr

/-- One step of an event source. -/
inductive SourceStep where
  /-- Emit a payload, then pause for some seconds before the next step. -/
  | emit (payload : Value) (pauseSeconds : Float)
  | finish
  | fail (message : String)
  | hang
  deriving Inhabited

/-- An event source: the step it takes after a count of events emitted. -/
structure EventSource where
  step : Nat → SourceStep

instance : Inhabited EventSource := ⟨⟨fun _ => .finish⟩⟩

/-- The arguments a resolver gets, by name. -/
abbrev Arguments := List (String × Value)

/-- An argument a field takes: its name, its type, its default and its description. -/
structure InputDef where
  name : String
  type : TypeExpr
  default : Option Value := none
  description : Option String := none
  deriving Inhabited

/-- A field of an object type. -/
structure FieldDef where
  name : String
  type : TypeExpr
  args : List InputDef := []
  /-- The field's value from its parent's value and the arguments, or a message. -/
  resolve : Value → Arguments → Except String Value
  /-- The events of a subscription field, from the arguments. -/
  subscribe : Option (Arguments → Except String EventSource) := none
  description : Option String := none

instance : Inhabited FieldDef := ⟨{ name := "", type := .named "String", resolve := fun _ _ => .ok .null }⟩

/-- An object type: its name, its fields in order and its description. -/
structure ObjectDef where
  name : String
  fields : List FieldDef
  description : Option String := none
  deriving Inhabited

/-- The field of an object type with a name. -/
def ObjectDef.field? (o : ObjectDef) (name : String) : Option FieldDef :=
  o.fields.find? (·.name == name)

/-- An enumeration: its name, its values with their descriptions, and its description. -/
structure EnumDef where
  name : String
  values : List (String × String)
  description : String
  deriving Inhabited

/-- The names of an enumeration's values. -/
def EnumDef.names (e : EnumDef) : List String := e.values.map (·.1)

/-- A schema: its root types. -/
structure Schema where
  query : ObjectDef
  mutation : Option ObjectDef := none
  subscription : Option ObjectDef := none
  deriving Inhabited

/-- What a type name stands for in a schema. -/
inductive NamedType where
  | scalar (s : Scalar)
  | object (o : ObjectDef)
  | enum (e : EnumDef)

namespace Schema

/-- The root object types, in order. -/
def roots (s : Schema) : List ObjectDef :=
  [s.query] ++ s.mutation.toList ++ s.subscription.toList

/-- The root type of an operation kind. -/
def rootOf (s : Schema) : OperationKind → Option ObjectDef
  | .query => some s.query
  | .mutation => s.mutation
  | .subscription => s.subscription

end Schema

/-! ### Directives -/

/-- The places a directive may stand. -/
inductive DirectiveLocation where
  | query
  | mutation
  | subscription
  | field
  | fragmentDefinition
  | fragmentSpread
  | inlineFragment
  | variableDefinition
  | schema
  | scalar
  | object
  | fieldDefinition
  | argumentDefinition
  | interface
  | union
  | enum
  | enumValue
  | inputObject
  | inputFieldDefinition
  | directiveDefinition
  deriving BEq, Inhabited

/-- Every place, in order. -/
def DirectiveLocation.all : List DirectiveLocation :=
  [.query, .mutation, .subscription, .field, .fragmentDefinition, .fragmentSpread,
   .inlineFragment, .variableDefinition, .schema, .scalar, .object, .fieldDefinition,
   .argumentDefinition, .interface, .union, .enum, .enumValue, .inputObject,
   .inputFieldDefinition, .directiveDefinition]

/-- The name of a place, as documents and introspection write it. -/
def DirectiveLocation.name : DirectiveLocation → String
  | .query => "QUERY"
  | .mutation => "MUTATION"
  | .subscription => "SUBSCRIPTION"
  | .field => "FIELD"
  | .fragmentDefinition => "FRAGMENT_DEFINITION"
  | .fragmentSpread => "FRAGMENT_SPREAD"
  | .inlineFragment => "INLINE_FRAGMENT"
  | .variableDefinition => "VARIABLE_DEFINITION"
  | .schema => "SCHEMA"
  | .scalar => "SCALAR"
  | .object => "OBJECT"
  | .fieldDefinition => "FIELD_DEFINITION"
  | .argumentDefinition => "ARGUMENT_DEFINITION"
  | .interface => "INTERFACE"
  | .union => "UNION"
  | .enum => "ENUM"
  | .enumValue => "ENUM_VALUE"
  | .inputObject => "INPUT_OBJECT"
  | .inputFieldDefinition => "INPUT_FIELD_DEFINITION"
  | .directiveDefinition => "DIRECTIVE_DEFINITION"

/-- The name of a place, as messages write it. -/
def DirectiveLocation.text : DirectiveLocation → String
  | .query => "query"
  | .mutation => "mutation"
  | .subscription => "subscription"
  | .field => "field"
  | .fragmentDefinition => "fragment definition"
  | .fragmentSpread => "fragment spread"
  | .inlineFragment => "inline fragment"
  | .variableDefinition => "variable definition"
  | .schema => "schema"
  | .scalar => "scalar"
  | .object => "object"
  | .fieldDefinition => "field definition"
  | .argumentDefinition => "argument definition"
  | .interface => "interface"
  | .union => "union"
  | .enum => "enum"
  | .enumValue => "enum value"
  | .inputObject => "input object"
  | .inputFieldDefinition => "input field definition"
  | .directiveDefinition => "directive definition"

/-- The place of a name. -/
def DirectiveLocation.ofName? (n : String) : Option DirectiveLocation :=
  DirectiveLocation.all.find? (·.name == n)

/-- A directive the schema knows: its arguments, the places it may stand, whether it may
stand twice in one place, and its description. -/
structure DirectiveDef where
  name : String
  args : List InputDef
  locations : List DirectiveLocation
  repeatable : Bool := false
  description : String := ""
  deriving Inhabited

/-- The directives every schema knows, in order. -/
def builtinDirectives : List DirectiveDef := [
  { name := "include",
    args := [{ name := "if", type := .nonNull (.named "Boolean"),
               description := some "Included when true." }],
    locations := [.field, .fragmentSpread, .inlineFragment],
    description := "Directs the executor to include this field or fragment only when the `if` argument is true." },
  { name := "skip",
    args := [{ name := "if", type := .nonNull (.named "Boolean"),
               description := some "Skipped when true." }],
    locations := [.field, .fragmentSpread, .inlineFragment],
    description := "Directs the executor to skip this field or fragment when the `if` argument is true." },
  { name := "deprecated",
    args := [{ name := "reason", type := .named "String", default := some (.str "No longer supported"),
               description := some "Explains why this element was deprecated, usually also including a suggestion for how to access supported similar data. Formatted using the Markdown syntax, as specified by CommonMark." }],
    locations := [.fieldDefinition, .argumentDefinition, .inputFieldDefinition, .enumValue,
                  .directiveDefinition],
    description := "Marks an element of a GraphQL schema as no longer supported." },
  { name := "specifiedBy",
    args := [{ name := "url", type := .nonNull (.named "String"),
               description := some "The URL that specifies the behavior of this scalar." }],
    locations := [.scalar],
    description := "Exposes a URL that specifies the behavior of this scalar." },
  { name := "oneOf", args := [], locations := [.inputObject],
    description := "Indicates exactly one field must be supplied and this field must not be `null`." }]

/-- The directive of a name. -/
def directive? (name : String) : Option DirectiveDef := builtinDirectives.find? (·.name == name)

end GraphProbe.Graphql
