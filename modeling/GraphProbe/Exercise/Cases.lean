import GraphProbe.Exercise.Queries

/-!
# Exercises of a test case

`testCase` plays a test case against the site: it sets the case up (finding the application
its sessions go to and building its subscription client and query client), runs steps on
either client, then tears the case down by resetting the subscription client. Each step's
record holds its outcome and the flags of the subscription client's state the step asks to
report.

The application is the site by default, also when named by its dotted path; a harness
application is given in a way that cannot be called; any other dotted path must name a
module that exists and an attribute of it, else setting up fails and no step runs.
-/

namespace GraphProbe.Exercise

open Subscription Session Query

/-- The modules the site is made of. -/
def siteModules : List String :=
  ["example_project", "example_project.website", "example_project.website.asgi",
   "example_project.website.consumers", "example_project.website.schema",
   "example_project.website.settings", "example_project.website.urls"]

/-- The module that holds the site's application, and the application's name there. -/
def applicationHome : String × String := ("example_project.website.asgi", "application")

/-- The application a dotted path names: a module, then an attribute of it. -/
def importApplication (path : String) : Except Fault Site.AppKind :=
  let parts := path.splitOn "."
  match parts.getLast?, parts.dropLast with
  | some attr, modules@(_ :: _) =>
    let modulePath := ".".intercalate modules
    let prefixes := (List.range modules.length).map fun i => ".".intercalate (modules.take (i + 1))
    match prefixes.find? (!siteModules.contains ·) with
    | some p => .error (Fault.simple .missingModule s!"No module named {Text.quote p}")
    | none =>
      if (modulePath, attr) == applicationHome then .ok .site
      else
        let q := "\""
        .error (Fault.simple .importFailure
          s!"Module {q}{modulePath}{q} does not define a {q}{attr}{q} attribute/class")
  | _, _ => .error (Fault.simple .importFailure s!"{path} doesn't look like a module path")

/-- The application a test case names. -/
def caseApplication : Option Value → Except Fault Site.AppKind
  | none | some .null | some (.str "default") | some (.str "object") => .ok .site
  | some (.str s) =>
    if s.startsWith "harness:" then .ok (.misbound (s.drop 8).toString)
    else importApplication s
  | some v => .error (Fault.simple .wrongType s!"{Text.quote v.display} is not a valid application")

/-- Run the steps of a test case: query steps on the query client, the others on the
subscription client. -/
def caseSteps (c : Client) : QueryClient → World → List Value → List Value × World
  | _, w, [] => ([], w)
  | q, w, step :: rest =>
    if textOr step "target" "" == "template" then
      let (r, q', _) := queryStep step q .site
      let record := withMembers (outcome r) [("state", reportOf step w)]
      let (records, w') := caseSteps c q' w rest
      (record :: records, w')
    else
      let w0 := { w with sentNow := [], logs := [], lateFaults := [] }
      let (r, w1) := (liveStep c step).run w0 |>.run
      if w1.exhausted then ([], w1) else
      let record := withMembers (outcome r) [("state", reportOf step w1)]
      let (records, w2) := caseSteps c q w1 rest
      (record :: records, w2)

/-- Play a test case against the site. -/
def testCase (req : Value) : Value :=
  let setUp : Except Fault (Site.AppKind × Client) := do
    let app ← caseApplication (req.field? "asgi_application")
    let path := (req.field? "subscription_path").getD .null
    let c ← clientWith (.obj [("path", path)]) Site.settings (siteLoader (.obj []))
    pure (app, c)
  match setUp with
  | .error f =>
    .obj [("graphql_url", .null), ("subscription_uri", .null),
      ("phases", .obj [("setUpClass", .str "ok"), ("setUp", faultRecord f),
        ("tearDownClass", .str "ok")]),
      ("steps", .arr [])]
  | .ok (app, c) =>
    let q : QueryClient :=
      { url := queryUrlOf req Site.settings, loader := siteLoader (.obj []) }
    let w := World.start (.application app [] (.float 60)) 1
    let (steps, w) := caseSteps c q w (listOf req "steps")
    if w.exhausted then
      .obj [("error", .str "HarnessError"), ("message", .str "too many sleeps")]
    else
      let tearDown := (tryFinally c.reset runAllDue).run w |>.run
      let torn := match tearDown.1 with
        | .ok _ => Value.str "ok"
        | .error f => faultRecord f
      .obj [("graphql_url", q.url), ("subscription_uri", .str c.uri),
        ("phases", .obj [("setUpClass", .str "ok"), ("setUp", .str "ok"),
          ("tearDown", torn), ("tearDownClass", .str "ok")]),
        ("steps", .arr steps)]

end GraphProbe.Exercise
