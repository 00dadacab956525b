import GraphProbe.Fault
import GraphProbe.Text.Percent

/-!
# Log records

Each part of the kit logs through the logger of its *component* (`subscription.driver`,
`subscription.handler`, …), named `graphql_testkit.<component>`. A record carries a level, a
message, the component and a *context*: a mapping of values that says what the message is
about (a subscription id, an address).

`Logger.emit` is one logging call with the rules the kit's loggers follow:

* a context that is given must be a mapping, whether or not the level is enabled;
* below the logger's threshold nothing is written;
* the call's extra members are laid over `{"component": component}`; an extra `context`
  member that is a mapping is the base of the record's context, and the call's context, when
  not empty, is merged over it;
* an extra member may not take the name of a field every record already has;
* the message is the format with the call's arguments, or says why they do not fit.
-/

namespace GraphProbe

/-- The level of a record. -/
inductive Level where
  | debug
  | info
  | warning
  | error
  | critical
  deriving BEq, Repr, Inhabited, DecidableEq

namespace Level

/-- Levels in increasing order of severity. -/
def rank : Level → Nat
  | .debug => 10
  | .info => 20
  | .warning => 30
  | .error => 40
  | .critical => 50

/-- The name of a level. -/
def name : Level → String
  | .debug => "DEBUG"
  | .info => "INFO"
  | .warning => "WARNING"
  | .error => "ERROR"
  | .critical => "CRITICAL"

/-- The level of a name. -/
def ofName? : String → Option Level
  | "DEBUG" => some .debug
  | "INFO" => some .info
  | "WARNING" => some .warning
  | "ERROR" => some .error
  | "CRITICAL" => some .critical
  | _ => none

/-- Whether a record of level `l` passes a threshold. -/
def passes (l threshold : Level) : Bool := threshold.rank ≤ l.rank

end Level

/-- The message of a record: a text, or the text of a format that does not fit its arguments
with the reason why. -/
inductive Message where
  | text (s : String)
  | unformattable (reason : String) (format : String)
  deriving Inhabited

/-- The value of a message. -/
def Message.toValue : Message → Value
  | .text s => .str s
  | .unformattable r f => .obj [("format_error", .str r), ("msg", .str f)]

/-- A log record. -/
structure LogRecord where
  logger : String
  level : Level
  message : Message
  component : Value
  context : List (String × Value)
  deriving Inhabited

/-- The logger name of a component. -/
def loggerName (component : String) : String := "graphql_testkit." ++ component

/-- A record the kit itself writes: a fixed text about a context. -/
def LogRecord.ofKit (component : String) (level : Level) (text : String)
    (context : List (String × Value)) : LogRecord :=
  ⟨loggerName component, level, .text text, .str component, context⟩

/-- The value of a record: `[logger, level, message, component, context]`. -/
def LogRecord.toValue (r : LogRecord) : Value :=
  .arr [.str r.logger, .str r.level.name, r.message.toValue, r.component, .obj r.context]

/-! ### Logging calls -/

/-- One logging call. -/
structure LogCall where
  level : Level
  format : Value
  args : List Value
  /-- The call's context, `none` when not given; a null one counts as not given. -/
  context : Option Value
  /-- The call's extra members: a mapping, or anything a mapping can be updated with. -/
  extra : Value

/-- The fields every record has, which extra members may not replace. -/
def recordFields : List String :=
  ["name", "msg", "args", "levelname", "levelno", "pathname", "filename", "module",
   "exc_info", "exc_text", "stack_info", "lineno", "funcName", "created", "msecs",
   "relativeCreated", "thread", "threadName", "processName", "process", "message",
   "asctime"]

/-- The message of a format with arguments: formatting happens only when there are
arguments, and a single non-empty mapping is taken by key. -/
def formatMessage (format : Value) (args : List Value) : Message :=
  let text := format.display
  if args.isEmpty then .text text else
  let a : Percent.Args := match args with
    | [.obj fs] => if fs.isEmpty then .positional args else .mapping fs
    | _ => .positional args
  match Percent.render text a with
  | .ok s => .text s
  | .error e => .unformattable e.message text

/-- The items of a value taken as a sequence: a text's characters, a byte string's bytes, a
list's items and a mapping's keys. -/
def Value.sequence? : Value → Option (List Value)
  | .str s => some (s.toList.map fun c => .str c.toString)
  | .bytes bs => some (bs.map fun b => .int b.toNat)
  | .arr xs => some xs
  | .obj fs => some (fs.map fun p => .str p.1)
  | _ => none

/-- The members one item of an update sequence adds: a pair of key and value. Keys that are
not texts are kept out, since no field of a record is named by them. -/
def updatePair (index : Nat) (item : Value) : Except Fault (List (String × Value)) :=
  match item.sequence? with
  | none => .error (Fault.simple .wrongType
      s!"cannot convert dictionary update sequence element #{index} to a sequence")
  | some [k, v] =>
    match k with
    | .str key => .ok [(key, v)]
    | .arr _ | .obj _ =>
      .error (Fault.simple .wrongType s!"unhashable type: {Text.quote k.kindName}")
    | _ => .ok []
  | some items => .error (Fault.simple .invalidValue
      s!"dictionary update sequence element #{index} has length {items.length}; 2 is required")

/-- The members that updating a mapping with a value adds, in order. A value that is not
true adds none; a mapping adds its members; any other value must be a sequence of pairs. -/
def updateMembers (v : Value) : Except Fault (List (String × Value)) :=
  if !v.truthy then .ok [] else
  match v, v.sequence? with
  | .obj fs, _ => .ok fs
  | _, some items =>
    (items.zipIdx.mapM fun (x, i) => updatePair i x).map List.flatten
  | w, none => .error (Fault.simple .wrongType s!"{Text.quote w.kindName} object is not iterable")

/-- One logging call through the logger of `component`, enabled from `threshold` on: the
record written, if any. -/
def Logger.emit (component : String) (threshold : Level) (call : LogCall) :
    Except Fault (Option LogRecord) := do
  match call.context with
  | some (.obj _) | some .null | none => pure ()
  | some _ => throw (Fault.simple .wrongType "Logging context must be a mapping.")
  if !call.level.passes threshold then return none
  let added ← updateMembers call.extra
  let extra := added.foldl (fun acc (k, v) => Value.setField acc k v)
    [("component", .str component)]
  let base := match extra.lookup "context" with
    | some (.obj fs) => fs
    | _ => []
  let merged := match call.context with
    | some (.obj fs) => fs.foldl (fun acc (k, v) => Value.setField acc k v) base
    | _ => base
  let extra := Value.setField extra "context" (.obj merged)
  match extra.find? (fun (k, _) => recordFields.contains k) with
  | some (k, _) =>
    throw (.raised .missingKey [.str s!"Attempt to overwrite {Text.quote k} in LogRecord"])
  | none => pure ()
  let shown := (extra.lookup "component").getD (.str component)
  return some ⟨loggerName component, call.level, formatMessage call.format call.args,
    shown, merged⟩

end GraphProbe
