import GraphProbe.Fault
import GraphProbe.Text.Case
import GraphProbe.Session.IpAddress

/-!
# Session addresses

A session address is a URL. It is split the way the standard library splits URLs: blanks and
control characters before it are dropped and tabs and line breaks anywhere; a scheme of
letters, digits, `+`, `-` and `.` ends at the first colon; a network location follows
`//` up to the first `/`, `?` or `#`; then comes the path, the query after `?` and the
fragment after `#`.

A network location is checked as it is split: its brackets must pair up, nothing may stand
before the opening bracket or between the closing one and the port's colon, and what stands
between them must be an IPv6 address (or a future address, `v` and a hexadecimal version, a
dot and more). A location outside ASCII must not hide a delimiter behind a compatibility
character such as the fullwidth solidus: its NFKC form would be another location.

The host is the network location without user information and port, in lower case up to a
scope after `%`, with the brackets of an IPv6 address removed. The port is the digits after
the host's colon; anything else there is refused, and so is a port above 65535.

A session to an application is described to it by its *scope*: the path (`/` when empty),
the path and the query as Latin-1 bytes, the headers, the client, the server (host and
port, `testserver` and 80 by default) and the offered sub-protocols.
-/

namespace GraphProbe.Session

/-- The parts of a URL. -/
structure UrlParts where
  scheme : String
  netloc : String
  path : String
  query : String
  fragment : String
  deriving Inhabited, Repr

/-- Whether a character may be part of a scheme. -/
def isSchemeChar (c : Char) : Bool :=
  (c.isAlphanum && c.toNat < 128) || c == '+' || c == '-' || c == '.'

/-- The characters of a text before the first occurrence of one of `stops`, and the rest. -/
def splitBefore (stops : List Char) (cs : List Char) : List Char × List Char :=
  (cs.takeWhile (!stops.contains ·), cs.dropWhile (!stops.contains ·))

/-- The characters before the first `c` and those after it, if `c` occurs. -/
def splitAt? (c : Char) (cs : List Char) : Option (List Char × List Char) :=
  if cs.contains c then some (cs.takeWhile (· != c), (cs.dropWhile (· != c)).drop 1) else none

/-- The fault of a URL that is not well formed. -/
def invalidUrl (message : String) : Fault := Fault.simple .invalidValue message

/-- Check a host written between brackets: a future address, or an IPv6 address. -/
def checkBracketedHost (host : String) : Except Fault Unit :=
  match host.toList with
  | 'v' :: rest =>
    let version := rest.takeWhile isHexDigit
    let after := rest.drop version.length
    match after with
    | '.' :: _ :: _ => if version.isEmpty then .error bad else .ok ()
    | _ => .error bad
  | _ =>
    match ipKind? host with
    | some .v6 => .ok ()
    | some .v4 => .error (invalidUrl "An IPv4 address cannot be in brackets")
    | none => .error (invalidUrl s!"{Text.quote host} does not appear to be an IPv4 or IPv6 address")
where
  /-- The fault of a future address that is not well formed. -/
  bad : Fault := invalidUrl "IPvFuture address is invalid"

/-- Check a network location that holds brackets: nothing before the opening bracket,
nothing but a port after the closing one, and a valid host between them. -/
def checkBracketedNetloc (netloc : List Char) : Except Fault Unit :=
  let hostAndPort := match netloc.reverse.findIdx? (· == '@') with
    | some j => netloc.drop (netloc.length - j)
    | none => netloc
  match splitAt? '[' hostAndPort with
  | some (before, bracketed) =>
    if !before.isEmpty then .error (invalidUrl "Invalid IPv6 URL")
    else
      let (host, port) := (splitAt? ']' bracketed).getD (bracketed, [])
      if !port.isEmpty && port.head? != some ':' then .error (invalidUrl "Invalid IPv6 URL")
      else checkBracketedHost (String.ofList host)
  | none =>
    checkBracketedHost (String.ofList (hostAndPort.takeWhile (· != ':')))

/-- The characters whose NFKC form holds one of the delimiters `/`, `?`, `#`, `@` and `:`. -/
def delimiterLookalikes : List Nat :=
  [0x2047, 0x2048, 0x2049, 0x2100, 0x2101, 0x2105, 0x2106, 0x2A74, 0xFE13, 0xFE16, 0xFE55,
   0xFE56, 0xFE5F, 0xFE6B, 0xFF03, 0xFF0F, 0xFF1A, 0xFF1F, 0xFF20]

/-- Check that a network location outside ASCII hides no delimiter: with its own `@`, `:`,
`#` and `?` left out, no character may stand for a delimiter under NFKC. -/
def checkNetlocCharacters (netloc : List Char) : Except Fault Unit :=
  if netloc.any (delimiterLookalikes.contains ·.toNat) then
    .error (invalidUrl s!"netloc '{String.ofList netloc}' contains invalid characters under NFKC normalization")
  else .ok ()

/-- Split a URL into its parts. -/
def splitUrl (url : String) : Except Fault UrlParts := do
  let cs := url.toList.dropWhile (·.toNat ≤ 0x20)
  let cs := cs.filter fun c => c != '\t' && c != '\r' && c != '\n'
  let (scheme, cs) :=
    match cs.findIdx? (· == ':') with
    | some i =>
      let head := cs.take i
      match head with
      | c :: _ =>
        if i > 0 && c.isAlpha && c.toNat < 128 && head.all isSchemeChar then
          (String.ofList (Text.lower (String.ofList head)).toList, cs.drop (i + 1))
        else ("", cs)
      | [] => ("", cs)
    | none => ("", cs)
  let (netloc, cs) :=
    if cs.take 2 == ['/', '/'] then splitBefore ['/', '?', '#'] (cs.drop 2) else ([], cs)
  if (netloc.contains '[' && !netloc.contains ']') || (netloc.contains ']' && !netloc.contains '[') then
    throw (invalidUrl "Invalid IPv6 URL")
  if netloc.contains '[' && netloc.contains ']' then checkBracketedNetloc netloc
  let (cs, fragment) := match splitAt? '#' cs with
    | some (a, b) => (a, b)
    | none => (cs, [])
  let (cs, query) := match splitAt? '?' cs with
    | some (a, b) => (a, b)
    | none => (cs, [])
  checkNetlocCharacters netloc
  pure ⟨scheme, String.ofList netloc, String.ofList cs, String.ofList query, String.ofList fragment⟩

/-- The host and port text of a network location. -/
def hostInfo (netloc : String) : String × Option String :=
  let cs := netloc.toList
  let afterAt := match cs.reverse.findIdx? (· == '@') with
    | some j => cs.drop (cs.length - j)
    | none => cs
  let (host, port) :=
    match splitAt? '[' afterAt with
    | some (_, bracketed) =>
      let (h, rest) := match splitAt? ']' bracketed with
        | some (h, r) => (h, r)
        | none => (bracketed, [])
      (h, match splitAt? ':' rest with | some (_, p) => p | none => [])
    | none =>
      match splitAt? ':' afterAt with
      | some (h, p) => (h, p)
      | none => (afterAt, [])
  (String.ofList host, if port.isEmpty then none else some (String.ofList port))

/-- The host of a URL's network location, in lower case up to its scope, if it has one. -/
def UrlParts.hostname (u : UrlParts) : Option String :=
  let (h, _) := hostInfo u.netloc
  if h.isEmpty then none
  else
    let cs := h.toList
    let addr := cs.takeWhile (· != '%')
    some (Text.lower (String.ofList addr) ++ String.ofList (cs.drop addr.length))

/-- The port of a URL's network location, if it has one. -/
def UrlParts.port (u : UrlParts) : Except Fault (Option Nat) :=
  match (hostInfo u.netloc).2 with
  | none => .ok none
  | some p =>
    if p.toList.all (fun c => c.isDigit) then
      let n := p.toList.foldl (fun acc c => 10 * acc + (c.toNat - 48)) 0
      if n ≤ 65535 then .ok (some n)
      else .error (Fault.simple .invalidValue "Port out of range 0-65535")
    else .error (Fault.simple .invalidValue s!"Port could not be cast to integer value as {Text.quote p}")

/-- The Latin-1 bytes of a text, or the fault naming the first character beyond them. -/
def latin1 (s : String) : Except Fault (List UInt8) :=
  let ns := Text.codes s
  match ns.findIdx? (· > 255) with
  | some i =>
    let run := ((ns.drop i).takeWhile (· > 255)).length
    .error (.raised .unencodable [.str "latin-1", .str s, .int i, .int (i + run),
      .str "ordinal not in range(256)"])
  | none => .ok (ns.map Nat.toUInt8)

/-- What a session tells an application about itself. -/
structure Scope where
  path : String
  rawPath : List UInt8
  headers : List (List UInt8 × List UInt8)
  queryString : List UInt8
  host : String
  port : Nat
  subprotocols : List String
  deriving Inhabited

/-- The scope of a session to a URL with headers and offered sub-protocols. -/
def Scope.ofUri (uri : String) (headers : List (String × String)) (subprotocols : List String) :
    Except Fault Scope := do
  let u ← splitUrl uri
  let port ← u.port
  let path := if u.path.isEmpty then "/" else u.path
  let rawPath ← latin1 path
  let queryString ← latin1 u.query
  let headers ← headers.mapM fun (k, v) => do pure (← latin1 k, ← latin1 v)
  pure { path, rawPath, headers, queryString, host := u.hostname.getD "testserver",
         port := match port with | some 0 | none => 80 | some p => p, subprotocols }

/-- A scope as data. -/
def Scope.toValue (s : Scope) : Value :=
  .obj [("type", .str "websocket"), ("path", .str s.path), ("raw_path", .bytes s.rawPath),
    ("headers", .arr (s.headers.map fun (k, v) => .arr [.bytes k, .bytes v])),
    ("query_string", .bytes s.queryString), ("client", .arr [.str "testclient", .int 50000]),
    ("server", .arr [.str s.host, .int s.port]),
    ("subprotocols", .arr (s.subprotocols.map Value.str))]

end GraphProbe.Session
