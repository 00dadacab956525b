import GraphProbe.Site.Consumer
import GraphProbe.Text.Utf8

/-!
# Session applications

A session connects a client to an application, which is told of the connection, of every
frame the client sends and of the end of the session, and answers with what it sends back.
An application may also end by itself: it returns, or it raises a fault.

Besides the site, which routes the subscription path to the subscription endpoint, a few
small applications exercise the session's corners: one echoes, one answers in bytes, one
sends a burst and returns, one raises after accepting, one rejects, one returns before
accepting and one raises before accepting. An application given in a way that cannot be
called raises as soon as it is called.
-/

namespace GraphProbe.Site

/-- What reaches an application. -/
inductive Incoming where
  | connect
  | text (t : String)
  | disconnect (code : Nat)
  deriving Inhabited, Repr

/-- The applications a session can reach. -/
inductive AppKind where
  /-- The site: subscriptions at their path, nothing elsewhere. -/
  | site
  | echo
  | bytes
  | burst
  | raiseAfterAccept
  | reject
  | exitBeforeAccept
  | raiseBeforeAccept
  /-- An application function that is called with one argument too many. -/
  | misbound (name : String)
  deriving Inhabited, BEq, Repr

/-- The application of a name, as tests name them. -/
def AppKind.ofName? : String → Option AppKind
  | "example" => some .site
  | "echo" => some .echo
  | "bytes" => some .bytes
  | "burst" => some .burst
  | "raise_after_accept" => some .raiseAfterAccept
  | "reject" => some .reject
  | "exit_before_accept" => some .exitBeforeAccept
  | "raise_before_accept" => some .raiseBeforeAccept
  | _ => none

/-- One running application. -/
structure AppInstance where
  kind : AppKind
  /-- The path the session was opened for. -/
  path : String
  subprotocols : List String
  consumer : Consumer := {}
  /-- How the application ended: `some none` when it returned, `some (some f)` when it
  raised `f`. -/
  ended : Option (Option Fault) := none
  deriving Inhabited

/-- The path the site's subscription route matches, without its leading slash. -/
def subscriptionRoute : String := "subscriptions"

/-- A path without its leading slashes, as routes see it. -/
def routedPath (path : String) : String := String.ofList (path.toList.dropWhile (· == '/'))

/-- Whether a path (its leading slashes removed) is the subscription route, with or without
a trailing slash. -/
def routes (path : String) : Bool :=
  let p := routedPath path
  p == subscriptionRoute || p == subscriptionRoute ++ "/"

/-- The fault of an application that raises before accepting. -/
def boomBefore : Fault := Fault.simple .invalidValue "boom before accept"

/-- The fault of an application that raises after accepting. -/
def boomAfter : Fault := Fault.simple .invalidValue "boom after accept"

/-- Call an application for a session to a path offering sub-protocols: the running
application, or the fault of a call that does not fit it. -/
def AppKind.call (k : AppKind) (path : String) (subprotocols : List String) :
    Except Fault AppInstance :=
  match k with
  | .misbound name => .error (Fault.simple .wrongType
      s!"app_{name}() takes 3 positional arguments but 4 were given")
  | _ => .ok { kind := k, path, subprotocols }

namespace AppInstance

/-- An application that ends, returning or raising. -/
def finish (a : AppInstance) (f : Option Fault) : AppInstance := { a with ended := some f }

/-- What an application does with what reaches it. -/
def handle (a : AppInstance) (m : Incoming) : AppInstance × List Outgoing :=
  match a.kind, m with
  | .site, .connect =>
    if routes a.path then (a, [acceptFor a.subprotocols])
    else
      let p := routedPath a.path
      (a.finish (some (Fault.simple .invalidValue s!"No route found for path {Text.quote p}.")), [])
  | .site, .text t =>
    match a.consumer.receive t with
    | .ok (c, out) => ({ a with consumer := c }, out)
    | .error f => (a.finish (some f), [])
  | .site, .disconnect _ =>
    let (c, out) := a.consumer.disconnect
    ({ a with consumer := c }.finish none, out)
  | .echo, .connect => (a, [.accept a.subprotocols.head?])
  | .echo, .text t => (a, if t == "close" then [.close (some 4000)] else [.text ("echo:" ++ t)])
  | .bytes, .connect => (a, [.accept none])
  | .bytes, .text t => (a, [.empty, .bytes (Utf8.encode t)])
  | .burst, .connect =>
    (a.finish none, [.accept none, .text "burst:0", .text "burst:1", .text "burst:2"])
  | .raiseAfterAccept, .connect => (a, [.accept none])
  | .raiseAfterAccept, _ => (a.finish (some boomAfter), [])
  | .reject, .connect => (a, [.close (some 4403)])
  | .exitBeforeAccept, .connect => (a.finish none, [])
  | .raiseBeforeAccept, .connect => (a.finish (some boomBefore), [])
  | _, .disconnect _ => (a.finish none, [])
  | _, _ => (a, [])

/-- Take the next step of a due stream of the site: the frames it sends and the pause after
it, if it pauses. -/
def stepStream (a : AppInstance) (token : Nat) : AppInstance × List Outgoing × Option Float :=
  let (c, out, pause) := a.consumer.stepStream token
  ({ a with consumer := c }, out, pause)

end AppInstance

end GraphProbe.Site
