import GraphProbe.Exercise.Live
import GraphProbe.Query.Client

/-!
# Exercises of the query client

`queries` builds a query client and runs steps on it: setting and clearing headers, reading
them, and posting documents (given, or loaded by name). The client posts either to a server
that answers by script, in which case each step's record adds the requests the server was
sent meanwhile, or to the site, under the site's settings.
-/

namespace GraphProbe.Exercise

open Query

/-- A scripted answer a request describes. -/
def scriptedAnswerOf (v : Value) : Except Fault ScriptedAnswer := do
  let content ← dataField? v "content"
  pure {
    content := match content with
      | some (.bytes bs) => .octets bs
      | some (.str t) => .text t
      | some w => .text w.display
      | none => .text ""
    charset := match v.field? "charset" with
      | some (.str c) => some c
      | _ => none
    status := (v.field? "status").getD (.int 200) }

/-- Run a step on a query client: its outcome, and the client and endpoint after it. -/
def queryStep (step : Value) (c : QueryClient) (e : Endpoint) :
    Except Fault Value × QueryClient × Endpoint :=
  let posting (r : Except Fault Response × Endpoint) : Except Fault Value × QueryClient × Endpoint :=
    (responseRecord <$> r.1, c, r.2)
  match textOr step "do" "" with
  | "headers" => (.ok (.obj c.headers), c, e)
  | "with_header" =>
    match need step "name", need step "value" with
    | .ok n, .ok v => (.ok (.bool true), c.withHeader n.display v, e)
    | .error f, _ | _, .error f => (.error f, c, e)
  | "with_bearer_auth" =>
    match need step "token" with
    | .ok t => (.ok (.bool true), c.withBearer t, e)
    | .error f => (.error f, c, e)
  | "clear_headers" => (.ok (.bool true), c.clearHeaders, e)
  | "post" =>
    match need step "query" with
    | .ok q =>
      match incoming q, dataField? step "variables" with
      | .ok q, .ok vars => posting (c.post q vars (step.field? "operation_name") e)
      | .error f, _ | _, .error f => (.error f, c, e)
    | .error f => (.error f, c, e)
  | "post_for_resource" =>
    match need step "resource" with
    | .ok r =>
      match dataField? step "variables" with
      | .ok vars => posting (c.postDocument r.display vars (step.field? "operation_name") e)
      | .error f => (.error f, c, e)
    | .error f => (.error f, c, e)
  | other => (.error (missingMember other), c, e)

/-- Run steps on a query client, with the record of each; a scripted server's requests are
added to each record. -/
def querySteps (scripted : Bool) : QueryClient → Endpoint → List Value → List Value
  | _, _, [] => []
  | c, e, step :: rest =>
    let before := e.posted.length
    let (r, c', e') := queryStep step c e
    let extra := if scripted then [("requests", .arr ((e'.posted.drop before).map Posted.toValue))]
      else []
    withMembers (outcome r) extra :: querySteps scripted c' e' rest

/-- The address a request gives the client, or the setting it defaults to. -/
def queryUrlOf (req : Value) (s : Settings) : Value :=
  match req.field? "graphql_url" with
  | some .null | none => s.get .graphqlUrl
  | some v => v

/-- Build a query client and run steps on it. -/
def queries (req : Value) : Value :=
  if textOr req "client" "" == "django" then
    let c : QueryClient := { url := queryUrlOf req Site.settings, loader := siteLoader req }
    .obj [("graphql_url", c.url), ("steps", .arr (querySteps false c .site (listOf req "steps")))]
  else
    match settingsOf req, (listOf req "responses").mapM scriptedAnswerOf with
    | .error f, _ | _, .error f => faultRecord f
    | .ok s, .ok answers =>
      let loader : Loader := match req.field? "resources" with
        | some (.obj fs) => .table (fs.map fun (k, v) => (k, v.display))
        | _ => .files Site.documents Site.modulePath (s.get .resourceDirs).elements
      let c : QueryClient := { url := queryUrlOf req s, loader }
      .obj [("graphql_url", c.url),
        ("steps", .arr (querySteps true c (.scripted answers []) (listOf req "steps")))]

end GraphProbe.Exercise
