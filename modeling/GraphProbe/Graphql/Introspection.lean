import GraphProbe.Graphql.Schema
import GraphProbe.Number.Text

/-!
# Introspection

A schema describes itself through the meta field `__schema` and `__type(name:)` of its query
root. The answers are objects of the *meta types*: `__Schema`, `__Type`, `__Field`,
`__InputValue`, `__EnumValue` and `__Directive`, with the enumerations `__TypeKind` and
`__DirectiveLocation`. This module holds them, and the *type map* of a schema: every named
type it holds, in the order a depth-first walk finds them.

The walk starts at the root types, in order, then the types of the directives' arguments,
then `__Schema`; from an object type it goes to the type of each field, then to the types
of that field's arguments. So a type map holds only the scalars the schema uses (and
`Boolean` and `String`, which the directives and the meta types use), and every meta type.

Design.  A description object is a value. Fields, arguments, enumeration values and
directives are described by plain objects whose members are the answers, so their meta
types answer a field by the member of its name. A type cannot be described so: types refer
to each other, and their descriptions are cyclic. A type is therefore described by a
*reference*, its name for a named type (`"Int"`), and an object of a kind and an inner
reference for a list or non-null type, and `__Type` answers its fields from the schema,
looking the reference up when asked.
-/

namespace GraphProbe.Graphql

/-! ### Shapes of types -/

/-- A non-null named type. -/
def TypeExpr.required (n : String) : TypeExpr := .nonNull (.named n)

/-- A list of non-null items of a named type. -/
def TypeExpr.listOf (n : String) : TypeExpr := .list (.nonNull (.named n))

/-- The name of a named type. -/
def NamedType.name : NamedType → String
  | .scalar sc => sc.name
  | .object o => o.name
  | .enum e => e.name

/-- The description of a built-in scalar. -/
def Scalar.description : Scalar → String
  | .int => "The `Int` scalar type represents non-fractional signed whole numeric values. Int can represent values between -(2^31) and 2^31 - 1."
  | .float => "The `Float` scalar type represents signed double-precision fractional values as specified by IEEE 754."
  | .string => "The `String` scalar type represents textual data, represented as UTF-8 character sequences. The String type is most often used by GraphQL to represent free-form human-readable text."
  | .boolean => "The `Boolean` scalar type represents `true` or `false`."
  | .id => "The `ID` scalar type represents a unique identifier, often used to refetch an object or as key for a cache. The ID type appears in a JSON response as a String; however, it is not intended to be human-readable. When expected as an input type, any string (such as `\"4\"`) or integer (such as `4`) input value will be accepted as an ID."

/-- The names of the types a named type refers to, in the order the walk follows them: the
type of each field, then the types of its arguments. -/
def NamedType.references : NamedType → List String
  | .object o => o.fields.flatMap fun f => f.type.base :: f.args.map (·.type.base)
  | _ => []

/-! ### The meta types -/

/-- A field of a description object: its answer is the member of its name. -/
def memberField (name : String) (type : TypeExpr) (args : List InputDef := [])
    (description : Option String := none) : FieldDef :=
  { name, type, args, description, resolve := fun v _ => .ok ((v.field? name).getD .null) }

/-- The argument that asks for deprecated items too. -/
def includeDeprecatedArg : InputDef :=
  { name := "includeDeprecated", type := .named "Boolean", default := some (.bool false) }

/-- The enumeration of the kinds of types. -/
def typeKindEnum : EnumDef where
  name := "__TypeKind"
  description := "An enum describing what kind of type a given `__Type` is."
  values := [
    ("SCALAR", "Indicates this type is a scalar."),
    ("OBJECT", "Indicates this type is an object. `fields` and `interfaces` are valid fields."),
    ("INTERFACE", "Indicates this type is an interface. `fields`, `interfaces`, and `possibleTypes` are valid fields."),
    ("UNION", "Indicates this type is a union. `possibleTypes` is a valid field."),
    ("ENUM", "Indicates this type is an enum. `enumValues` is a valid field."),
    ("INPUT_OBJECT", "Indicates this type is an input object. `inputFields` is a valid field."),
    ("LIST", "Indicates this type is a list. `ofType` is a valid field."),
    ("NON_NULL", "Indicates this type is a non-null. `ofType` is a valid field.")]

/-- What a place of a directive is adjacent to, as its enumeration value says. -/
def DirectiveLocation.description : DirectiveLocation → String
  | .query => "Location adjacent to a query operation."
  | .mutation => "Location adjacent to a mutation operation."
  | .subscription => "Location adjacent to a subscription operation."
  | .field => "Location adjacent to a field."
  | .fragmentDefinition => "Location adjacent to a fragment definition."
  | .fragmentSpread => "Location adjacent to a fragment spread."
  | .inlineFragment => "Location adjacent to an inline fragment."
  | .variableDefinition => "Location adjacent to a variable definition."
  | .schema => "Location adjacent to a schema definition."
  | .scalar => "Location adjacent to a scalar definition."
  | .object => "Location adjacent to an object type definition."
  | .fieldDefinition => "Location adjacent to a field definition."
  | .argumentDefinition => "Location adjacent to an argument definition."
  | .interface => "Location adjacent to an interface definition."
  | .union => "Location adjacent to a union definition."
  | .enum => "Location adjacent to an enum definition."
  | .enumValue => "Location adjacent to an enum value definition."
  | .inputObject => "Location adjacent to an input object type definition."
  | .inputFieldDefinition => "Location adjacent to an input object field definition."
  | .directiveDefinition => "Location adjacent to a directive definition."

/-- The enumeration of the places of directives. -/
def directiveLocationEnum : EnumDef where
  name := "__DirectiveLocation"
  description := "A Directive can be adjacent to many parts of the GraphQL language, a __DirectiveLocation describes one such possible adjacencies."
  values := DirectiveLocation.all.map fun l => (l.name, l.description)

/-- The meta type of a schema's description. -/
def schemaMeta : ObjectDef where
  name := "__Schema"
  description := some "A GraphQL Schema defines the capabilities of a GraphQL server. It exposes all available types and directives on the server, as well as the entry points for query, mutation, and subscription operations."
  fields := [
    memberField "description" (.named "String"),
    memberField "types" (.nonNull (.listOf "__Type")) []
      (some "A list of all types supported by this server."),
    memberField "queryType" (.required "__Type") []
      (some "The type that query operations will be rooted at."),
    memberField "mutationType" (.named "__Type") []
      (some "If this server supports mutation, the type that mutation operations will be rooted at."),
    memberField "subscriptionType" (.named "__Type") []
      (some "If this server support subscription, the type that subscription operations will be rooted at."),
    memberField "directives" (.nonNull (.listOf "__Directive")) []
      (some "A list of all directives supported by this server.")]

/-- The meta type of a type's description. Its fields are answered from the schema (see
`Schema.describeType`); the members named here are only its shape. -/
def typeMeta : ObjectDef where
  name := "__Type"
  description := some "The fundamental unit of any GraphQL Schema is the type. There are many kinds of types in GraphQL as represented by the `__TypeKind` enum.\n\nDepending on the kind of a type, certain fields describe information about that type. Scalar types provide no information beyond a name, description and optional `specifiedByURL`, while Enum types provide their values. Object and Interface types provide the fields they describe. Abstract types, Union and Interface, provide the Object types possible at runtime. List and NonNull types compose other types."
  fields := [
    memberField "kind" (.required "__TypeKind"),
    memberField "name" (.named "String"),
    memberField "description" (.named "String"),
    memberField "specifiedByURL" (.named "String"),
    memberField "fields" (.listOf "__Field") [includeDeprecatedArg],
    memberField "interfaces" (.listOf "__Type"),
    memberField "possibleTypes" (.listOf "__Type"),
    memberField "enumValues" (.listOf "__EnumValue") [includeDeprecatedArg],
    memberField "inputFields" (.listOf "__InputValue") [includeDeprecatedArg],
    memberField "ofType" (.named "__Type"),
    memberField "isOneOf" (.named "Boolean")]

/-- The meta type of a field's description. -/
def fieldMeta : ObjectDef where
  name := "__Field"
  description := some "Object and Interface types are described by a list of Fields, each of which has a name, potential arguments, and a return type."
  fields := [
    memberField "name" (.required "String"),
    memberField "description" (.named "String"),
    memberField "args" (.nonNull (.listOf "__InputValue")) [includeDeprecatedArg],
    memberField "type" (.required "__Type"),
    memberField "isDeprecated" (.required "Boolean"),
    memberField "deprecationReason" (.named "String")]

/-- The meta type of an argument's description. -/
def inputValueMeta : ObjectDef where
  name := "__InputValue"
  description := some "Arguments provided to Fields or Directives and the input fields of an InputObject are represented as Input Values which describe their type and optionally a default value."
  fields := [
    memberField "name" (.required "String"),
    memberField "description" (.named "String"),
    memberField "type" (.required "__Type"),
    memberField "defaultValue" (.named "String") []
      (some "A GraphQL-formatted string representing the default value for this input value."),
    memberField "isDeprecated" (.required "Boolean"),
    memberField "deprecationReason" (.named "String")]

/-- The meta type of an enumeration value's description. -/
def enumValueMeta : ObjectDef where
  name := "__EnumValue"
  description := some "One possible value for a given Enum. Enum values are unique values, not a placeholder for a string or numeric value. However an Enum value is returned in a JSON response as a string."
  fields := [
    memberField "name" (.required "String"),
    memberField "description" (.named "String"),
    memberField "isDeprecated" (.required "Boolean"),
    memberField "deprecationReason" (.named "String")]

/-- The meta type of a directive's description. -/
def directiveMeta : ObjectDef where
  name := "__Directive"
  description := some "A Directive provides a way to describe alternate runtime execution and type validation behavior in a GraphQL document.\n\nIn some cases, you need to provide options to alter GraphQL's execution behavior in ways field arguments will not suffice, such as conditionally including or skipping a field. Directives provide this by describing additional information to the executor."
  fields := [
    memberField "name" (.required "String"),
    memberField "description" (.named "String"),
    memberField "isRepeatable" (.required "Boolean"),
    memberField "locations" (.nonNull (.listOf "__DirectiveLocation")),
    memberField "args" (.nonNull (.listOf "__InputValue")) [includeDeprecatedArg]]

/-- The meta types, as named types. -/
def metaTypes : List NamedType :=
  [.object schemaMeta, .object typeMeta, .enum typeKindEnum, .object fieldMeta,
   .object inputValueMeta, .object enumValueMeta, .object directiveMeta,
   .enum directiveLocationEnum]

/-- The names of the meta types. -/
def metaTypeNames : List String := metaTypes.map NamedType.name

/-- Whether a name is that of a meta enumeration. -/
def isMetaEnum (n : String) : Bool := n == typeKindEnum.name || n == directiveLocationEnum.name

/-! ### The type map -/

namespace Schema

/-- Every named type the walk may reach: the root types, the built-in scalars and the meta
types. -/
def candidates (s : Schema) : List NamedType :=
  s.roots.map .object ++ [Scalar.int, .float, .string, .boolean, .id].map .scalar ++ metaTypes

/-- The candidate of a name. -/
def candidate? (s : Schema) (n : String) : Option NamedType :=
  s.candidates.find? (·.name == n)

/-- Where the walk starts: the root types, the types of the directives' arguments, and
`__Schema`. -/
def seeds (s : Schema) : List String :=
  s.roots.map (·.name) ++ builtinDirectives.flatMap (·.args.map (·.type.base)) ++ ["__Schema"]

/-- The named types of a schema in the order a depth-first walk from the seeds finds them.
The walk keeps a stack of names to visit; a name met before is passed over, a new one is
added and the names it refers to go on top of the stack, in order. Each step pops one name,
and every name is pushed once per reference to it, so the steps are bounded by the seeds
and all references of all candidates. -/
def typeMap (s : Schema) : List NamedType :=
  go (s.seeds.length + s.candidates.foldr (fun t n => t.references.length + n) 0 + 1) s.seeds []
where
  /-- Walk the stack, with the types found so far. -/
  go : Nat → List String → List NamedType → List NamedType
    | 0, _, found => found
    | _ + 1, [], found => found
    | fuel + 1, n :: stack, found =>
      if found.any (·.name == n) then go fuel stack found
      else
        match s.candidate? n with
        | some t => go fuel (t.references ++ stack) (found ++ [t])
        | none => go fuel stack found

/-- The names of the types a schema holds, in order. -/
def typeNames (s : Schema) : List String := s.typeMap.map NamedType.name

/-- The type a schema holds under a name, as its shape; the meta type `__Type` is answered
from the schema only through `lookupType`. -/
def shape? (s : Schema) (n : String) : Option NamedType := s.typeMap.find? (·.name == n)

end Schema

/-! ### Describing -/

/-- A text as a literal of the query language: in double quotes, with the quote, the
backslash and control characters escaped. -/
def printString (s : String) : String :=
  let esc (c : Char) : String :=
    let n := c.toNat
    if c == '"' then "\\\"" else if c == '\\' then "\\\\"
    else if n == 8 then "\\b" else if c == '\t' then "\\t" else if c == '\n' then "\\n"
    else if n == 12 then "\\f" else if c == '\r' then "\\r"
    else if n < 0x20 || (0x7F ≤ n && n ≤ 0x9F) then "\\u" ++ hexUpper4 n
    else c.toString
  "\"" ++ String.join (s.toList.map esc) ++ "\""

/-- The text of a double as a literal: the shortest digits that read back, without a
fraction of zero. -/
def floatLiteralText (x : Float) : String :=
  let t := Number.floatText .literal x
  if t.endsWith ".0" then String.ofList (t.toList.take (t.length - 2)) else t

/-- A default value as a literal of the query language, for an argument of a type; none
when it cannot be written (or is `null` where the type is non-null). -/
def defaultText (s : Schema) : TypeExpr → Value → Option String
  | .nonNull t, v =>
    match v with
    | .null => none
    | _ => defaultText s t v
  | _, .null => some "null"
  | .list t, .arr xs => some ("[" ++ ", ".intercalate (xs.attach.filterMap fun ⟨x, _⟩ => defaultText s t x) ++ "]")
  | .list t, v => defaultText s t v
  | .named n, v =>
    match s.shape? n, v with
    | some (.scalar .float), .float x => some (floatLiteralText x)
    | some (.scalar .float), .int k => some (floatLiteralText (Number.floatOfInt k))
    | some (.scalar _), .int k => some (Number.intText k)
    | some (.scalar _), .bool b => some (if b then "true" else "false")
    | some (.scalar _), .str t => some (printString t)
    | some (.enum _), .str t => some t
    | _, _ => none

/-- The reference to a type: its name for a named type, an object of its kind and the
inner reference for a list or non-null type. -/
def typeReference : TypeExpr → Value
  | .named n => .str n
  | .list t => .obj [("kind", .str "LIST"), ("ofType", typeReference t)]
  | .nonNull t => .obj [("kind", .str "NON_NULL"), ("ofType", typeReference t)]

/-- A text that may be absent. -/
def optionalText : Option String → Value
  | some t => .str t
  | none => .null

/-- The description of an argument. -/
def Schema.describeInput (s : Schema) (d : InputDef) : Value :=
  .obj [("name", .str d.name), ("description", optionalText d.description),
        ("type", typeReference d.type),
        ("defaultValue", optionalText (d.default.bind (defaultText s d.type))),
        ("isDeprecated", .bool false), ("deprecationReason", .null)]

/-- The description of a field. -/
def Schema.describeField (s : Schema) (f : FieldDef) : Value :=
  .obj [("name", .str f.name), ("description", optionalText f.description),
        ("args", .arr (f.args.map s.describeInput)), ("type", typeReference f.type),
        ("isDeprecated", .bool false), ("deprecationReason", .null)]

/-- The description of an enumeration value. -/
def describeEnumValue (v : String × String) : Value :=
  .obj [("name", .str v.1), ("description", .str v.2), ("isDeprecated", .bool false),
        ("deprecationReason", .null)]

/-- The description of a directive. -/
def Schema.describeDirective (s : Schema) (d : DirectiveDef) : Value :=
  .obj [("name", .str d.name), ("description", .str d.description),
        ("isRepeatable", .bool d.repeatable),
        ("locations", .arr (d.locations.map fun l => .str l.name)),
        ("args", .arr (d.args.map s.describeInput))]

/-- The name of a type's kind. -/
def NamedType.kind : NamedType → String
  | .scalar _ => "SCALAR"
  | .object _ => "OBJECT"
  | .enum _ => "ENUM"

/-- The answer of a field of `__Type` for a type reference. A named type is looked up in
the schema: scalars have a name and a description, object types their fields and no
interfaces, enumerations their values. A list or non-null type has only a kind and the
type inside. Every other field is `null`. -/
def Schema.describeType (s : Schema) (field : String) (ref : Value) : Value :=
  match ref with
  | .str n =>
    match s.shape? n with
    | none => .null
    | some t =>
      match field, t with
      | "kind", _ => .str t.kind
      | "name", _ => .str n
      | "description", .scalar sc => .str sc.description
      | "description", .object o => optionalText o.description
      | "description", .enum e => .str e.description
      | "fields", .object o => .arr (o.fields.map s.describeField)
      | "interfaces", .object _ => .arr []
      | "enumValues", .enum e => .arr (e.values.map describeEnumValue)
      | _, _ => .null
  | r =>
    match field with
    | "kind" | "ofType" => (r.field? field).getD .null
    | _ => .null

namespace Schema

/-- A named type as execution answers it: `__Type` answers its fields from the schema. -/
def live (s : Schema) : NamedType → NamedType
  | .object o =>
    if o.name == typeMeta.name then
      .object { o with fields := o.fields.map fun f =>
        { f with resolve := fun v _ => .ok (s.describeType f.name v) } }
    else .object o
  | t => t

/-- What a type name stands for in a schema. -/
def lookupType (s : Schema) (n : String) : Option NamedType := (s.shape? n).map s.live

/-- The description of the schema itself. -/
def describe (s : Schema) : Value :=
  .obj [("description", .null), ("types", .arr (s.typeNames.map .str)),
        ("queryType", .str s.query.name),
        ("mutationType", match s.mutation with | some o => .str o.name | none => .null),
        ("subscriptionType", match s.subscription with | some o => .str o.name | none => .null),
        ("directives", .arr (builtinDirectives.map s.describeDirective))]

/-- The meta field that describes the schema, on the query root. -/
def schemaField (s : Schema) : FieldDef where
  name := "__schema"
  type := .required "__Schema"
  description := some "Access the current type schema of this server."
  resolve := fun _ _ => .ok s.describe

/-- The meta field that describes a type by its name, on the query root. -/
def typeField (s : Schema) : FieldDef where
  name := "__type"
  type := .named "__Type"
  args := [{ name := "name", type := .required "String" }]
  description := some "Request the type information of a single type."
  resolve := fun _ args =>
    match args.lookup "name" with
    | some (.str n) => .ok (if (s.shape? n).isSome then .str n else .null)
    | _ => .ok .null

/-- The type a document writes, when every name in it is known. -/
def typeOf (s : Schema) : TypeRef → Option TypeExpr
  | .named n _ => if (s.shape? n).isSome then some (.named n) else none
  | .list t _ => TypeExpr.list <$> s.typeOf t
  | .nonNull t _ => TypeExpr.nonNull <$> s.typeOf t

/-- Whether a type may be given as input: scalars and enumerations, possibly wrapped. -/
def isInputType (s : Schema) (t : TypeExpr) : Bool :=
  match s.shape? t.base with
  | some (.scalar _) | some (.enum _) => true
  | _ => false

end Schema

/-- The meta field that names the type of an object. -/
def typenameField : FieldDef where
  name := "__typename"
  type := .required "String"
  description := some "The name of the current Object type at runtime."
  resolve := fun _ _ => .ok .null

end GraphProbe.Graphql
