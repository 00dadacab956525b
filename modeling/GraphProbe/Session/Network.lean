import GraphProbe.Session.Delivery

/-!
# Sessions over the network

A session over the network makes its socket when it connects, and connects only once. The
handshake then ends one way of four: it completes; it is refused, and the first error
reported is the fault (when none was reported, the handshake just failed); the socket breaks
down, which reports nothing; or it does not complete within the connect timeout, and the
socket is closed. When the network cannot be reached the system's fault for an unreachable
network is reported.

Sending needs the socket: before connecting there is none, and a closed socket, or one that
never reached the endpoint, refuses the text. Closing closes the socket each time it is
called, and tells the client the session closed once, when it had opened.
-/

namespace GraphProbe.Session

namespace Network

/-- The fault of connecting to a network that cannot be reached. -/
def unreachableFault : Fault := .raised .system [.int 101, .str "Network is unreachable"]

/-- The fault of a socket that is closed, or never connected. -/
def closedFault (reason : String) : Fault := Fault.simple .connectionClosed reason

/-- Connect a session over the network to an endpoint (none when the network cannot be
reached), waiting `timeout` seconds for the handshake. -/
def connect (i : Nat) (endpoint : Option Endpoint) (timeout : Value) : Sim Unit := do
  let l ← linkAt i
  if l.net.started then throw (.transport l.uri "session already connected")
  updateNet i fun n => { n with started := true }
  match endpoint with
  | none => throw (.transport l.uri unreachableFault.literal)
  | some e =>
    if e.crash then throw (.transport l.uri "handshake failed")
    else if e.refuse then
      match e.errors with
      | m :: _ =>
        throw (.transport l.uri (Fault.simple .connectionRefused m).literal)
      | [] => throw (.transport l.uri "handshake failed")
    else if !e.opens then
      updateLink i fun l => { l with closeCalls := l.closeCalls + 1, net := { l.net with shut := true } }
      throw (.transport l.uri s!"not connected within {timeout.display}s")
    else updateLink i fun l => { l with connected := true }

/-- Send a text on a session over the network. -/
def send (i : Nat) (text : String) (reachable : Bool) : Sim Unit := do
  let l ← linkAt i
  if !l.net.started then throw (.transport l.uri "session not connected")
  if !reachable then
    throw (.transport l.uri (closedFault "Connection is already closed.").literal)
  if l.net.shut then throw (.transport l.uri (closedFault "closed").literal)
  updateLink i fun l => { l with sent := l.sent ++ [text] }
  modify fun w => { w with sentNow := w.sentNow ++ [(i, text)] }

/-- Close a session over the network. -/
def close (i : Nat) : Sim Unit := do
  let l ← linkAt i
  if !l.net.started then return
  updateLink i fun l => { l with closeCalls := l.closeCalls + 1, net := { l.net with shut := true } }
  if l.connected && !l.net.notified then
    updateNet i fun n => { n with notified := true }
    closeNow i

end Network

end GraphProbe.Session
