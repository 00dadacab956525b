import GraphProbe.Fault

/-!
# The kit's exported names

The kit's top package and its subscription package each export a list of names. A name is
looked up in a package when it is first used and then kept; its record names the module
that defines it, its qualified name and its kind. Besides its exports a package holds its
list of exports, its helpers, the names it imports (`import_module`, `Any`, `annotations`),
the attributes every module has, and the modules beneath it that were loaded; any other
name is missing from it.
-/

namespace GraphProbe.Exports

/-- What a name of a package is bound to. -/
structure Binding where
  /-- The module that defines it, if it has one. -/
  module : Option String
  qualname : Option String
  /-- The name of its kind. -/
  kind : String
  deriving Inhabited

/-- The record of a binding. -/
def Binding.toValue (b : Binding) : Value :=
  .obj [("module", match b.module with | some m => .str m | none => .null),
    ("qualname", match b.qualname with | some q => .str q | none => .null),
    ("type", .str b.kind)]

/-- A package: its name, its exports with the modules defining them, and the modules
beneath it. -/
structure Package where
  name : String
  exports : List (String × String × String)
  submodules : List String

/-- The top package. -/
def top : Package where
  name := "graphql_testkit"
  exports := [
    ("GraphQLTestSubscription", "graphql_testkit.subscription.driver", "type"),
    ("GraphQLTestTemplate", "graphql_testkit.template", "type"),
    ("GraphQLResponse", "graphql_testkit.response", "type"),
    ("GraphQLTestFailure", "graphql_testkit.exceptions", "type"),
    ("GraphQLSubscriptionTestCase", "graphql_testkit.testing", "type"),
    ("GraphQLLiveServerTestCase", "graphql_testkit.testing", "type"),
    ("asgi_transport_factory", "graphql_testkit.subscription.transport", "function"),
    ("load_resource", "graphql_testkit.resources", "function"),
    ("fail", "graphql_testkit.exceptions", "function")]
  submodules := ["conf", "exceptions", "logging", "resources", "response", "subscription",
    "template", "testing"]

/-- The subscription package. -/
def subscription : Package where
  name := "graphql_testkit.subscription"
  exports := [
    ("GraphQLTestSubscription", "graphql_testkit.subscription.driver", "type"),
    ("SubscriptionMessageHandler", "graphql_testkit.subscription.handler", "type"),
    ("SubscriptionState", "graphql_testkit.subscription.state", "type"),
    ("SubscriptionTransport", "graphql_testkit.subscription.transport", "_ProtocolMeta"),
    ("WebSocketClientTransport", "graphql_testkit.subscription.transport", "type"),
    ("ASGIWebSocketTransport", "graphql_testkit.subscription.transport", "type"),
    ("asgi_transport_factory", "graphql_testkit.subscription.transport", "function"),
    ("websocket_client_transport_factory", "graphql_testkit.subscription.transport", "function"),
    ("next_subscription_id", "graphql_testkit.subscription.state", "function")]
  submodules := ["driver", "handler", "protocol", "state", "transport"]

/-- The package of a name. -/
def ofName? : String → Option Package
  | "graphql_testkit" => some top
  | "graphql_testkit.subscription" => some subscription
  | _ => none

/-- The names a package exports, in order. -/
def Package.all (p : Package) : List String := p.exports.map (·.1)

/-- Look a name up in a package. -/
def Package.get (p : Package) (n : String) : Except Fault Binding :=
  match p.exports.find? (·.1 == n) with
  | some (_, m, k) => .ok ⟨some m, some n, k⟩
  | none =>
    if n == "__all__" || n == "__path__" then .ok ⟨none, none, "list"⟩
    else if ["__name__", "__doc__", "__package__", "__file__", "__cached__"].contains n then
      .ok ⟨none, none, "str"⟩
    else if n == "__builtins__" || n == "_MODULE_MAP" then .ok ⟨none, none, "dict"⟩
    else if n == "__loader__" then
      .ok ⟨some "_frozen_importlib_external", none, "SourceFileLoader"⟩
    else if n == "__spec__" then .ok ⟨some "_frozen_importlib", none, "ModuleSpec"⟩
    else if n == "__getattr__" || n == "__dir__" then .ok ⟨some p.name, some n, "function"⟩
    else if n == "import_module" then .ok ⟨some "importlib", some n, "function"⟩
    else if n == "Any" then .ok ⟨some "typing", some n, "_AnyMeta"⟩
    else if n == "annotations" then .ok ⟨some "__future__", none, "_Feature"⟩
    else if p.submodules.contains n then .ok ⟨none, none, "module"⟩
    else .error (Fault.simple .missingAttribute
      s!"module {Text.quote p.name} has no attribute {Text.quote n}")

end GraphProbe.Exports
