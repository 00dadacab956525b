import GraphProbe.Session.Scripted
import GraphProbe.Session.Network

/-!
# Calls on a session

A client makes three calls on a session: it connects, sends texts and closes. What they do
depends on the world's server: a script answers as it says, an application runs beside the
client, and an endpoint on the network completes the handshake or not.
-/

namespace GraphProbe.Session

/-- Make a session for the current attempt, to the world's server. -/
def newLink (uri : String) (subprotocols : List String) (recorder : Bool) : Sim Nat := do
  let w ← get
  let peer : AppLink := match w.server with
    | .application kind headers connectTimeout => { kind, headers, connectTimeout }
    | _ => {}
  set { w with links := w.links.push { uri, subprotocols, attempt := w.current, recorder, peer } }
  return w.links.size

/-- Connect a session. -/
def connectLink (i : Nat) : Sim (Option String) := do
  match (← get).server with
  | .scripted _ => Scripted.connect i; pure none
  | .application .. => Application.connect i
  | .network endpoint timeout => Network.connect i endpoint timeout; pure none

/-- Open a session for the current attempt and connect it. The session is made even when
connecting fails. -/
def connect (uri : String) (subprotocols : List String) : Sim Nat := do
  let i ← newLink uri subprotocols false
  let _ ← connectLink i
  return i

/-- Send a text on a session. -/
def send (i : Nat) (text : String) : Sim Unit := do
  match (← get).server with
  | .scripted _ => Scripted.send i text
  | .application .. => Application.send i text
  | .network endpoint _ => Network.send i text endpoint.isSome

/-- Close a session. -/
def close (i : Nat) : Sim Unit := do
  match (← get).server with
  | .scripted _ => Scripted.close i
  | .application .. => Application.close i
  | .network .. => Network.close i

end GraphProbe.Session
