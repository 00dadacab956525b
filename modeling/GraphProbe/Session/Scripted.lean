import GraphProbe.Session.Events

/-!
# Scripted sessions

The far end of a scripted session follows the world's script:

* connecting may be refused;
* a send fails once the session was closed, and fails as the script says for the message
  types it names; otherwise the text is recorded, a connection init is acknowledged, and
  the replies for the message's type follow;
* a close is counted, may fail, and the first one tells the client the session closed.
-/

namespace GraphProbe.Session

/-- The fault of a breakdown of a call on the session to `uri`. -/
def Breakdown.fault (b : Breakdown) (uri reason : String) : Fault :=
  match b with
  | .transport => .transport uri reason
  | .system => Fault.simple .system reason
  | .runtime => Fault.simple .runtime reason

/-- The type of a message text, if it has one. -/
def messageType (text : String) : Option String :=
  match Json.read text with
  | .ok v =>
    match v.field? "type" with
    | some (.str t) => some t
    | _ => none
  | .error _ => none

/-- How a script breaks down the send of a message of a type, if it does. -/
def Script.sendFailure (script : Script) (kind : Option String) : Option Breakdown :=
  match script.failSend with
  | none => none
  | some b =>
    let applies := match script.failSendTypes with
      | none => true
      | some ts => match kind with
        | some k => ts.contains k
        | none => false
    if applies then some b else none

namespace Scripted

/-- Connect a session by the script: refused, or connected. -/
def connect (i : Nat) : Sim Unit := do
  let l ← linkAt i
  match (← get).server.script.refuse with
  | some b => throw (b.fault l.uri "connection refused")
  | none => updateLink i fun l => { l with connected := true }

/-- Run one reply on a session. -/
def reply (i : Nat) (r : Reply) : Sim Unit :=
  match r.action with
  | .frame text => after r.afterMs (.deliver i text)
  | .close => after r.afterMs (.closeNotice i)

/-- Send a text on a session by the script. -/
def send (i : Nat) (text : String) : Sim Unit := do
  let w ← get
  let some l := w.links[i]? | throw noSuchLink
  if l.closeCalls > 0 then throw (.transport l.uri "session closed")
  let kind := messageType text
  if let some b := w.server.script.sendFailure kind then throw (b.fault l.uri "send failed")
  set { w with links := w.links.modify i (fun l => { l with sent := l.sent ++ [text] }),
               sentNow := w.sentNow ++ [(i, text)] }
  if w.server.script.autoAck && kind == some "connection_init" then
    after w.server.script.ackDelayMs (.deliver i ackText)
  match kind with
  | some k => for r in (w.server.script.replies.lookup k).getD [] do reply i r
  | none => pure ()

/-- Close a session by the script. -/
def close (i : Nat) : Sim Unit := do
  let w ← get
  let some l := w.links[i]? | throw noSuchLink
  let calls := l.closeCalls + 1
  set { w with links := w.links.modify i fun l => { l with closeCalls := calls } }
  if let some b := w.server.script.failClose then throw (b.fault l.uri "close failed")
  if calls == 1 && w.server.script.closeOnClose then after w.server.script.closeDelayMs (.closeNotice i)

end Scripted

end GraphProbe.Session
