import GraphProbe.Fault
import GraphProbe.Text.Case

/-!
# Settings

The kit reads seven settings. Each is looked up first in the kit's own section of the
configuration (`GRAPHQL_TESTKIT`, used only when it is a mapping), then among the top-level
settings, then in the defaults. Without a configuration every setting has its default.

`Settings.load` takes a snapshot with each setting coerced to its kind: texts by their text,
numbers by integer reading (`Value.toInteger`), the resource directories by iterating the
value (`Value.elements`) and taking each element's text.
-/

namespace GraphProbe

/-- The settings the kit knows. -/
inductive SettingName where
  | subscriptionPath
  | host
  | port
  | graphqlUrl
  | resourceDirs
  | pollIntervalMs
  | acknowledgementTimeoutMs
  deriving BEq, Repr, Inhabited, DecidableEq

namespace SettingName

/-- The key of a setting. -/
def key : SettingName → String
  | .subscriptionPath => "SUBSCRIPTION_PATH"
  | .host => "HOST"
  | .port => "PORT"
  | .graphqlUrl => "GRAPHQL_URL"
  | .resourceDirs => "RESOURCE_DIRS"
  | .pollIntervalMs => "POLL_INTERVAL_MS"
  | .acknowledgementTimeoutMs => "ACKNOWLEDGEMENT_TIMEOUT_MS"

/-- All settings. -/
def all : List SettingName :=
  [.subscriptionPath, .host, .port, .graphqlUrl, .resourceDirs, .pollIntervalMs,
   .acknowledgementTimeoutMs]

/-- The setting of a key. -/
def ofKey? (k : String) : Option SettingName := all.find? (·.key == k)

/-- The default of a setting. -/
def default : SettingName → Value
  | .subscriptionPath => .str "subscriptions"
  | .host => .str "localhost"
  | .port => .null
  | .graphqlUrl => .str "/graphql/"
  | .resourceDirs => .arr []
  | .pollIntervalMs => .int 100
  | .acknowledgementTimeoutMs => .int 60000

end SettingName

/-- A configuration: its top-level settings, or none when nothing is configured. -/
abbrev Settings := Option (List (String × Value))

namespace Settings

/-- The key of the kit's own section. -/
def sectionKey : String := "GRAPHQL_TESTKIT"

/-- Configure settings from their members; every name must be written in capitals. -/
def configure (fs : List (String × Value)) : Except Fault Settings :=
  match fs.find? (fun (k, _) => !Text.isUpperText k) with
  | some (k, _) => .error (Fault.simple .wrongType s!"Setting {Text.quote k} must be uppercase.")
  | none => .ok (some fs)

/-- The value of a setting. -/
def get (s : Settings) (n : SettingName) : Value :=
  match s with
  | none => n.default
  | some top =>
    let fromSection := match top.lookup sectionKey with
      | some (.obj fs) => fs.lookup n.key
      | _ => none
    match fromSection with
    | some v => v
    | none => (top.lookup n.key).getD n.default

/-- The value of a setting named by its key; unknown keys are refused. -/
def lookup (s : Settings) (k : String) : Except Fault Value :=
  match SettingName.ofKey? k with
  | some n => .ok (s.get n)
  | none => .error (.raised .missingKey [.str s!"Unknown graphql_testkit setting {Text.quote k}."])

end Settings

/-! ### Coercions -/

/-- The message of a text that is no integer literal: its quoted form cut to 200 characters. -/
def invalidLiteral (quoted : String) : Fault :=
  Fault.simple .invalidValue
    s!"invalid literal for int() with base 10: {String.ofList (quoted.toList.take 200)}"

/-- The integer of a value: integers as they are, booleans as 0 and 1, doubles cut toward
zero, texts read as decimal literals. -/
def Value.toInteger : Value → Except Fault Int
  | .int n => .ok n
  | .bool b => .ok (if b then 1 else 0)
  | .float x =>
    match Number.classify x with
    | .nan => .error (Fault.simple .invalidValue "cannot convert float NaN to integer")
    | .infinite _ => .error (Fault.simple .overflow "cannot convert float infinity to integer")
    | .finite b =>
      let m : Int := b.mant * 2 ^ b.exp.toNat / 2 ^ (-b.exp).toNat
      .ok (if b.negative then -m else m)
  | .str s =>
    match Number.readInt s with
    | .ok n => .ok n
    | .error .invalid => .error (invalidLiteral (Text.quote s))
    | .error (.tooManyDigits n) => .error (Fault.ofReadError (.integerTooLong n))
  | .bytes bs =>
    let s := String.ofList (bs.map fun b => if b.toNat < 127 then Char.ofNat b.toNat else '?')
    match Number.readInt s with
    | .ok n => .ok n
    | .error _ => .error (invalidLiteral (Text.quoteBytes bs))
  | v => .error (Fault.simple .wrongType
      s!"int() argument must be a string, a bytes-like object or a real number, not {Text.quote v.kindName}")

/-- The elements of a value when iterated: an array's items, a text's characters, an
object's keys, a byte string's bytes. Other values cannot be iterated. -/
def Value.elements : Value → Except Fault (List Value)
  | .arr xs => .ok xs
  | .str s => .ok (s.toList.map fun c => .str c.toString)
  | .obj fs => .ok (fs.map fun p => .str p.1)
  | .bytes bs => .ok (bs.map fun b => .int b.toNat)
  | v => .error (Fault.simple .wrongType s!"{Text.quote v.kindName} object is not iterable")

/-! ### Snapshots -/

/-- All settings, each coerced to its kind. -/
structure SettingsSnapshot where
  subscriptionPath : String
  host : String
  port : Option Int
  graphqlUrl : String
  resourceDirs : List String
  pollIntervalMs : Int
  acknowledgementTimeoutMs : Int

/-- Take a snapshot of the settings; the first setting that cannot be coerced, in the order
of the fields, stops it. A resource-directory value that is false-like counts as none. -/
def Settings.load (s : Settings) : Except Fault SettingsSnapshot := do
  let port ← match s.get .port with
    | .null => pure none
    | v => some <$> v.toInteger
  let dirs := s.get .resourceDirs
  let dirs ← if dirs.truthy then dirs.elements else pure []
  let poll ← (s.get .pollIntervalMs).toInteger
  let ack ← (s.get .acknowledgementTimeoutMs).toInteger
  pure { subscriptionPath := (s.get .subscriptionPath).display
         host := (s.get .host).display
         port
         graphqlUrl := (s.get .graphqlUrl).display
         resourceDirs := dirs.map Value.display
         pollIntervalMs := poll
         acknowledgementTimeoutMs := ack }

/-- The value of a snapshot. -/
def SettingsSnapshot.toValue (t : SettingsSnapshot) : Value :=
  .obj [("subscription_path", .str t.subscriptionPath), ("host", .str t.host),
    ("port", match t.port with | some p => .int p | none => .null),
    ("graphql_url", .str t.graphqlUrl),
    ("resource_dirs", .arr (t.resourceDirs.map Value.str)),
    ("poll_interval_ms", .int t.pollIntervalMs),
    ("acknowledgement_timeout_ms", .int t.acknowledgementTimeoutMs)]

end GraphProbe
