import GraphProbe.Site.Schema
import GraphProbe.Graphql.Validate
import GraphProbe.Session.Address
import GraphProbe.Text.Utf8
import GraphProbe.Response.Basic
import GraphProbe.Settings
import GraphProbe.Text.Charset
import GraphProbe.Graphql.ListDocument

/-!
# The site over HTTP

The site answers GraphQL requests posted to its GraphQL path, `/graphql/`:

* The address is split as URLs are (the parameters after a `;` in the last segment set
  apart), its path percent-decoded; the query string is kept as written.
* Headers reach the site under environment names (`Host` as `HTTP_HOST`, `Content-Type` as
  `CONTENT_TYPE`), in capitals with `-` read as `_`; a header replaces the content type or
  length the body was sent with. A content type that is no text, or a content length that
  is infinite, cannot be taken in at all.
* A `Host` header must be a valid host name, else the site answers with an error page.
* The GraphQL path answers with the GraphQL view. The same path without its trailing slash
  would need a redirect that cannot keep the posted data, so the site raises an error that
  says so. Any other path answers with a "not found" page.

The GraphQL view reads the body by its content type (JSON, a bare document, a form, or
multipart data), reading only as many octets as the content length says, and takes the
query, the variables and the operation name from the query string first and the body
second, and answers:

* 400 with one message when the body, the variables or the query are missing or malformed;
* 400 with the errors when the document does not parse, does not validate, or fails before
  any field is answered;
* 200 with the data, and the errors of fields when some failed, otherwise.

A validation rule that fails makes the view raise the error, shown with excerpts of the
document.
-/

namespace GraphProbe.Site

open Graphql

/-- A request posted to the site. -/
structure HttpRequest where
  /-- The address, as given. -/
  target : String
  headers : List (String × Value)
  contentType : String
  body : String
  deriving Inhabited

/-- What the site's answer holds: a JSON document, or a page for people. -/
inductive HttpBody where
  | json (v : Value)
  | page (html : String)
  deriving Inhabited

/-- The site's answer: a status and a body, sent as UTF-8. -/
structure HttpResponse where
  status : Nat
  body : HttpBody
  deriving Inhabited

/-- The text of an answer's body. -/
def HttpResponse.text (r : HttpResponse) : String :=
  match r.body with
  | .json v => (Json.write .plain v).toOption.getD "null"
  | .page html => html

/-- The page of a path that leads nowhere. -/
def notFoundPage : String :=
  "<!DOCTYPE html>\n<html lang=\"en\">\n<head>\n  <title>Page not found</title>\n</head>\n<body>\n  <h1>Page not found <span>(404)</span></h1>\n</body>\n</html>\n"

/-- The page of a request with a host that is not a valid host name. -/
def badHostPage : String :=
  "<!DOCTYPE html>\n<html lang=\"en\">\n<head>\n  <title>DisallowedHost</title>\n</head>\n<body>\n  <h1>DisallowedHost</h1>\n</body>\n</html>\n"

/-- The site's GraphQL path. -/
def graphqlPath : String := "/graphql/"

/-- The GraphQL path without its trailing slash. -/
def graphqlPathBare : String := "/graphql"

/-- The name the site goes by when a request names no host. -/
def serverName : String := "testserver"

/-! ### Addresses -/

/-- The value of a hexadecimal digit. -/
def hexValue (c : Char) : Option Nat :=
  if c.isDigit then some (c.toNat - 48)
  else if 'a' ≤ c && c ≤ 'f' then some (c.toNat - 87)
  else if 'A' ≤ c && c ≤ 'F' then some (c.toNat - 55)
  else none

/-- The octets of a text with each `%XX` (two hexadecimal digits) read as the octet it
writes; everything else is taken as its UTF-8 octets. -/
def unquoteOctets : List Char → List UInt8
  | '%' :: a :: b :: rest =>
    match hexValue a, hexValue b with
    | some x, some y => (16 * x + y).toUInt8 :: unquoteOctets rest
    | _, _ => '%'.toString.toUTF8.toList ++ unquoteOctets (a :: b :: rest)
  | c :: rest =>
    if c == Text.escapeMark then
      match rest with
      | d :: more => Utf8.pointOctets d.toNat ++ unquoteOctets more
      | [] => Utf8.pointOctets c.toNat
    else Utf8.pointOctets (Text.plainPoint c) ++ unquoteOctets rest
  | [] => []

/-- A text with its `%XX` escapes decoded as UTF-8, broken sequences replaced. Characters
that are not escapes stay as they are. -/
def unquoteText (s : String) : String :=
  if !s.contains '%' then s else go s.toList [] ""
where
  /-- Decode, with the pending escaped octets and the text so far. -/
  go : List Char → List UInt8 → String → String
    | '%' :: a :: b :: rest, pending, out =>
      match hexValue a, hexValue b with
      | some x, some y => go rest (pending ++ [(16 * x + y).toUInt8]) out
      | _, _ => go (a :: b :: rest) [] (out ++ Utf8.decodeLossy pending ++ "%")
    | c :: rest, pending, out => go rest [] (out ++ Utf8.decodeLossy pending ++ c.toString)
    | [], pending, out => out ++ Utf8.decodeLossy pending

/-- The pairs of a query string: pieces between `&`, each split at its first `=` (a piece
without one has an empty value), with `+` read as a space and escapes decoded. -/
def queryPairs (qs : String) : List (String × String) :=
  (qs.splitOn "&").filterMap fun piece =>
    if piece.isEmpty then none
    else
      let cs := piece.toList
      let (k, v) := match cs.findIdx? (· == '=') with
        | some i => (cs.take i, cs.drop (i + 1))
        | none => (cs, [])
      let plain (xs : List Char) : String :=
        unquoteText (String.ofList (xs.map fun c => if c == '+' then ' ' else c))
      some (plain k, plain v)

/-- The last value of a key in a query string. -/
def queryValue (pairs : List (String × String)) (k : String) : Option String :=
  (pairs.filter (·.1 == k)).getLast?.map (·.2)

/-- A path without the parameters of its last segment. -/
def withoutParams (path : String) : String :=
  let cs := path.toList
  let lastSlash := match cs.reverse.findIdx? (· == '/') with
    | some j => cs.length - 1 - j
    | none => 0
  match (cs.drop lastSlash).findIdx? (· == ';') with
  | some i => String.ofList (cs.take (lastSlash + i))
  | none => path

/-- The path (as octets, escapes decoded) and the query string of an address. -/
def targetParts (target : String) : Except Fault (List UInt8 × String) := do
  let u ← Session.splitUrl target
  pure (unquoteOctets (withoutParams u.path).toList, u.query)

/-- Whether a character may stay unescaped in an address. -/
def uriSafe (c : Char) : Bool :=
  (c.toNat < 128 && c.isAlphanum) || "_.-~/#%[]=:;$&()+,!?*@'".contains c

/-- A query string as an address shows it: each octet outside the safe characters escaped. -/
def escapeQuery (octets : List UInt8) : String :=
  String.join (octets.map fun b =>
    let c := Char.ofNat b.toNat
    if uriSafe c then c.toString
    else String.join ((c.toString.toUTF8.toList).map fun o =>
      "%" ++ String.ofList [hexDigit (o.toNat / 16), hexDigit (o.toNat % 16)]))
where
  /-- An upper-case hexadecimal digit. -/
  hexDigit (n : Nat) : Char := if n < 10 then Char.ofNat (48 + n) else Char.ofNat (55 + n)

/-! ### The request environment -/

/-- The name under which a request header reaches the site: in capitals with `-` read as
`_`, and prefixed `HTTP_` unless it is the content type or the content length. -/
def environName (header : String) : String :=
  let n := Text.upper (String.ofList (header.toList.map fun c => if c == '-' then '_' else c))
  if n == "CONTENT_TYPE" || n == "CONTENT_LENGTH" then n else "HTTP_" ++ n

/-- Set an entry of an environment; an entry already there keeps its place. -/
def setEntry (env : List (String × Value)) (k : String) (v : Value) : List (String × Value) :=
  if env.any (·.1 == k) then env.map fun (k', w) => if k' == k then (k', v) else (k', w)
  else env ++ [(k, v)]

/-- The octets of a request's body. -/
def HttpRequest.octets (r : HttpRequest) : List UInt8 := Utf8.encode r.body

/-- What the site learns of a request: the length and type of its body, then its headers
under their environment names, a header replacing what was there. -/
def HttpRequest.environ (r : HttpRequest) : List (String × Value) :=
  let base := [("CONTENT_LENGTH", Value.str (toString r.octets.length)),
    ("CONTENT_TYPE", .str r.contentType)]
  r.headers.foldl (fun env (k, v) => setEntry env (environName k) v) base

/-- The longest header value whose parameters are read. -/
def headerLimit : Nat := 10000

/-- Split a header value at the `;` that separate its parameters, a `;` inside double quotes
not counting. -/
def headerParts (cs : List Char) : List (List Char) :=
  go (cs.length + 1) cs [] false []
where
  /-- Split, with the current part, whether a quote is open, and the parts so far. -/
  go : Nat → List Char → List Char → Bool → List (List Char) → List (List Char)
    | 0, _, cur, _, acc => (acc ++ [cur.reverse])
    | _, [], cur, _, acc => acc ++ [cur.reverse]
    | fuel + 1, '\\' :: '"' :: rest, cur, q, acc => go fuel rest ('"' :: '\\' :: cur) q acc
    | fuel + 1, '"' :: rest, cur, q, acc => go fuel rest ('"' :: cur) (!q) acc
    | fuel + 1, ';' :: rest, cur, false, acc => go fuel rest [] false (acc ++ [cur.reverse])
    | fuel + 1, c :: rest, cur, q, acc => go fuel rest (c :: cur) q acc

/-- A text without blanks at either end. -/
def trimText (cs : List Char) : List Char :=
  ((cs.dropWhile Char.isWhitespace).reverse.dropWhile Char.isWhitespace).reverse

/-- The main type of a header value and its parameters, names in lower case, values
without their quotes. -/
def headerParameters (s : String) : String × List (String × String) :=
  match headerParts s.toList with
  | [] => ("", [])
  | main :: params =>
    let pairs := params.filterMap fun p =>
      let p := trimText p
      match p.findIdx? (· == '=') with
      | none => none
      | some i =>
        let name := Text.lower (String.ofList (trimText (p.take i)))
        let name := if name.endsWith "*" then String.ofList name.toList.dropLast else name
        let v := trimText (p.drop (i + 1))
        let v := if v.length ≥ 2 && v.head? == some '"' && v.getLast? == some '"' then
            (String.ofList ((v.drop 1).dropLast)).replace "\\\\" "\\" |>.replace "\\\"" "\""
          else String.ofList v
        some (name, v)
    (Text.lower (String.ofList (trimText main)), pairs)

/-- Read the content type of a request as it is taken in: a false value is no type; a text
longer than the limit, or any other value, cannot be read. -/
def readContentType (v : Value) : Except Fault (String × List (String × String)) :=
  if !v.truthy then .ok ("", [])
  else
    match v with
    | .str s =>
      if s.length > headerLimit then
        .error (Fault.simple .invalidValue "Unable to parse header parameters (value too long).")
      else .ok (headerParameters s)
    | .bytes _ | .arr _ | .obj _ =>
      .error (Fault.simple .wrongType s!"can only concatenate str (not \"{v.kindName}\") to str")
    | _ => .error (Fault.simple .wrongType s!"object of type {Text.quote v.kindName} has no len()")

/-- How many octets of the body the request lets be read: its content length as an integer,
or none when that cannot be read; an infinite length cannot be taken in at all. -/
def streamLimit (v : Value) : Except Fault Int :=
  match v.toInteger with
  | .ok n => .ok n
  | .error (.raised .overflow args) => .error (.raised .overflow args)
  | .error _ => .ok 0

/-- The most octets a body may declare. -/
def bodySizeLimit : Int := 2621440

/-- Why a body cannot be read: it declares more octets than the site takes, or reading it
fails with a fault. -/
inductive BodyError where
  | tooBig
  | failed (f : Fault)
  deriving Inhabited

/-- The message of a body that cannot be read. -/
def BodyError.message : BodyError → String
  | .tooBig => "Request body exceeded settings.DATA_UPLOAD_MAX_MEMORY_SIZE."
  | .failed f => f.text

/-- The body of a request as the site reads it: its declared length must be an integer not
above the limit, and then as many octets as the length taken in allows, which must not be
more than were sent. -/
def readBody (env : List (String × Value)) (limit : Int) (data : List UInt8) :
    Except BodyError (List UInt8) := do
  let declared := (env.lookup "CONTENT_LENGTH").getD .null
  let n ← if declared.truthy then
      match declared.toInteger with
      | .ok n => pure n
      | .error f => throw (.failed f)
    else pure 0
  if n > bodySizeLimit then throw .tooBig
  if limit ≤ 0 then return []
  if limit > data.length then
    throw (.failed (Fault.simple .assertion
      "Cannot read more than the available bytes from the HTTP incoming data."))
  return data.take limit.toNat

/-- The host a request names: its `Host` header, else the server's name. -/
def requestHost (env : List (String × Value)) : Value :=
  (env.lookup "HTTP_HOST").getD (.str serverName)

/-- Whether a text is a host name: letters, digits, dots and dashes, or a bracketed IPv6
address (hexadecimal digits, a colon, then hexadecimal digits, dots and colons), then
perhaps a colon and a port. Its domain without a final dot must not be empty. -/
def validHost (host : String) : Bool :=
  let cs := (Text.lower host).toList
  let isName (c : Char) : Bool := c.isDigit || ('a' ≤ c && c ≤ 'z') || c == '.' || c == '-'
  let isHex (c : Char) : Bool := c.isDigit || ('a' ≤ c && c ≤ 'f')
  let portOk (rest : List Char) : Bool :=
    match rest with
    | [] => true
    | ':' :: port => !port.isEmpty && port.all Char.isDigit
    | _ => false
  match cs with
  | '[' :: more =>
    match splitBracket more with
    | some (inner, rest) =>
      let before := inner.takeWhile (· != ':')
      let after := inner.drop (before.length + 1)
      inner.contains ':' && before.all isHex && !after.isEmpty &&
        after.all (fun c => isHex c || c == '.' || c == ':') && portOk rest
    | none => false
  | _ =>
    let name := cs.takeWhile isName
    let domain := if name.getLast? == some '.' then name.dropLast else name
    !name.isEmpty && portOk (cs.drop name.length) && !domain.isEmpty
where
  /-- The characters before the first `]` and those after it. -/
  splitBracket (cs : List Char) : Option (List Char × List Char) :=
    match cs.findIdx? (· == ']') with
    | some i => some (cs.take i, cs.drop (i + 1))
    | none => none

/-- Check the host a request names: a text that is a valid host name, else the page of a
disallowed host; a value that is no text cannot be read. -/
def checkHost (host : Value) : Except Fault Bool :=
  match host with
  | .str h => .ok (validHost h)
  | .bytes _ => .error (Fault.simple .wrongType "cannot use a string pattern on a bytes-like object")
  | v => .error (Fault.simple .missingAttribute s!"{Text.quote v.kindName} object has no attribute 'lower'")

/-! ### The GraphQL view -/

/-- An answer with one error message. -/
def messageAnswer (status : Nat) (message : String) : HttpResponse :=
  ⟨status, .json (.obj [("errors", .arr [.obj [("message", .str message)]])])⟩

/-- The answer of an execution: errors that belong to no field make it a 400 without data. -/
def resultAnswer (body : Array Char) (r : ExecutionResult) : HttpResponse :=
  let errors := r.errors.map (·.toValue body)
  let unplaced := r.errors.any fun e => (e.path.getD []).isEmpty
  if r.errors.isEmpty then ⟨200, .json (.obj [("data", r.data.getD .null)])⟩
  else if unplaced then ⟨400, .json (.obj [("errors", .arr errors)])⟩
  else ⟨200, .json (.obj [("errors", .arr errors), ("data", r.data.getD .null)])⟩

/-- The message of reading a value that is no text as a document. -/
def unreadableQuery : Value → String
  | .int _ => "object of type 'int' has no len()"
  | .float _ => "object of type 'float' has no len()"
  | .bool _ => "object of type 'bool' has no len()"
  | .obj _ => "0"
  | v => s!"object of type '{v.kindName}' has no len()"

/-- The answer to a document given as a list. A document that parses fails validation,
which the view does not catch: its first field's name is a list. Any other failure happens
while parsing and is answered with its message; a syntax error's is that of locating it. -/
def listAnswer (items : List Value) : Except Fault HttpResponse :=
  match ListDocument.read items with
  | .ok () => .error (Fault.simple .wrongType "unhashable type: 'list'")
  | .error .refused => .ok (messageAnswer 400 "expected string or bytes-like object, got 'list'")
  | .error (.raised m) => .ok (messageAnswer 400 m)

/-- The message of variables that are no mapping. -/
def variablesNotMapping : String :=
  "Variable values must be provided as a dictionary with variable names as keys. Perhaps look to see if an unparsed JSON string was provided."

/-- Run a document: parse it, validate it, execute it. -/
def runDocument (query : String) (vars : Option Value) (operationName : Option String) :
    Except Fault HttpResponse :=
  let body := Text.view query
  match parse query with
  | .error e => .ok (resultAnswer body { data := none, errors := [e.toError] })
  | .ok doc =>
    match validate schema doc with
    | .error e => .error (Fault.simple .queryLanguage (e.describe query))
    | .ok (e :: es) => .ok (resultAnswer body { data := none, errors := e :: es })
    | .ok [] =>
      match vars with
      | none => .ok (resultAnswer body (execute schema doc operationName [] .null))
      | some (.obj vs) => .ok (resultAnswer body (execute schema doc operationName vs .null))
      | some _ => .ok (messageAnswer 400 variablesNotMapping)

/-- The page the site answers a request with when the request itself is bad: a bare page
that starts with a blank line. -/
def badRequestPage : String :=
  "\n<!doctype html>\n<html lang=\"en\">\n<head>\n  <title>Bad Request (400)</title>\n</head>\n<body>\n  <h1>Bad Request (400)</h1><p></p>\n</body>\n</html>\n"

/-- The page of a request the site finds suspicious, a report for people. -/
def suspiciousPage : String :=
  "<!DOCTYPE html>\n<html lang=\"en\">\n<head>\n  <title>SuspiciousOperation</title>\n</head>\n<body>\n  <h1>SuspiciousOperation</h1>\n</body>\n</html>\n"

/-- The most fields a form may have. -/
def formFieldLimit : Nat := 1000

/-- The content type the GraphQL view reads: the part before the first `;`, in lower case. -/
def viewContentType : Value → Except Fault String
  | .str s => .ok (Text.lower ((s.splitOn ";").headD ""))
  | .bytes _ => .error (Fault.simple .wrongType "a bytes-like object is required, not 'str'")
  | v => .error (Fault.simple .missingAttribute s!"{Text.quote v.kindName} object has no attribute 'split'")

/-- Whether a multipart boundary is well formed: it starts with printable ASCII, and one of
its first 201 characters, in that printable run, is not a blank. -/
def boundaryOk (b : String) : Bool :=
  let run := (b.toList.takeWhile fun c => ' ' ≤ c && c ≤ '~').take 201
  run.any (· != ' ')

/-- What reading a request's body for its parameters gives: the parameters (for a key, the
one found first counts), or an answer the site gives at once. -/
abbrev BodyOutcome := Except HttpResponse (List (String × Value))

/-- The parameters of a form: the pairs of its text, the last of a key first. -/
def formParams (env : List (String × Value)) (params : List (String × String)) (limit : Int)
    (data : List UInt8) : Except Fault BodyOutcome := do
  let charsetBad := match params.lookup "charset" with
    | some c => (Charset.lookup c).isSome && Text.lower c != "utf-8"
    | none => false
  if charsetBad then return .error ⟨400, .page suspiciousPage⟩
  match readBody env limit data with
  | .error .tooBig => return .error ⟨400, .page suspiciousPage⟩
  | .error (.failed f) => throw f
  | .ok octets =>
    let text := match Utf8.decode octets with
      | .ok t => t
      | .error _ => String.ofList (octets.map fun b => Char.ofNat b.toNat)
    if (text.toList.filter (· == '&')).length + 1 > formFieldLimit then
      return .error ⟨400, .page suspiciousPage⟩
    return .ok ((queryPairs text).reverse.map fun (k, v) => (k, .str v))

/-- The parameters of a multipart body. Its content type must name a well-formed boundary
and its declared length must not be negative, else the site answers that the request is
bad; a body that does hold parts is not read for parameters. -/
def multipartParams (env : List (String × Value)) (params : List (String × String))
    (limit : Int) (data : List UInt8) : Except Fault BodyOutcome := do
  let raw := match (env.lookup "CONTENT_TYPE").getD .null with
    | .str t => t
    | _ => ""
  let bad : BodyOutcome := .error ⟨400, .page badRequestPage⟩
  if !raw.startsWith "multipart/" || raw.toList.any (·.toNat ≥ 128) then return bad
  match params.lookup "boundary" with
  | none => return bad
  | some b =>
    if b.isEmpty || !boundaryOk b then return bad
    let declared ← match ((env.lookup "CONTENT_LENGTH").getD .null).toInteger with
      | .ok n => pure n
      | .error (.raised .overflow args) => throw (.raised .overflow args)
      | .error _ => pure 0
    if declared < 0 then return bad
    if declared == 0 then return .ok []
    if limit > data.length then
      throw (Fault.simple .assertion
        "Cannot read more than the available bytes from the HTTP incoming data.")
    return .ok []

/-- The parameters a request's body carries, by the view's content type: a bare document,
a JSON object, a form, or none. -/
def bodyParams (env : List (String × Value)) (params : List (String × String)) (limit : Int)
    (data : List UInt8) (kind : String) : Except Fault BodyOutcome :=
  if kind == "application/graphql" then
    match readBody env limit data with
    | .error .tooBig => .ok (.error ⟨400, .page suspiciousPage⟩)
    | .error (.failed f) => .error f
    | .ok octets =>
      match Utf8.decode octets with
      | .ok text => .ok (.ok [("query", .str text)])
      | .error e => .error (e.toFault octets)
  else if kind == "application/json" then
    match readBody env limit data with
    | .error e => .ok (.error (messageAnswer 400 e.message))
    | .ok octets =>
      match Utf8.decode octets with
      | .error e => .ok (.error (messageAnswer 400 (e.toFault octets).text))
      | .ok body =>
        match Json.read body with
        | .ok (.obj fs) => .ok (.ok fs)
        | .ok _ => .ok (.error (messageAnswer 400 "The received data is not a valid JSON query."))
        | .error _ => .ok (.error (messageAnswer 400 "POST body sent invalid JSON."))
  else if kind == "application/x-www-form-urlencoded" then formParams env params limit data
  else if kind == "multipart/form-data" then multipartParams env params limit data
  else .ok (.ok [])

/-- The GraphQL view: answer a request from its body's parameters and its query string. -/
def graphqlView (data : List (String × Value)) (query : List (String × String)) :
    Except Fault HttpResponse :=
  let fromQuery (k : String) : Option Value :=
    (queryValue query k).bind fun v => if v.isEmpty then none else some (.str v)
  let param (k : String) : Option Value :=
    match fromQuery k with
    | some v => some v
    | none => data.lookup k
  let vars : Except String (Option Value) :=
    match param "variables" with
    | some (.str t) =>
      if t.isEmpty then .ok (some (.str t))
      else match Json.read t with
        | .ok v => .ok (some v)
        | .error _ => .error "Variables are invalid JSON."
    | some .null | none => .ok none
    | some v => .ok (some v)
  match vars with
  | .error m => .ok (messageAnswer 400 m)
  | .ok vars =>
    let operationName : Option String :=
      match param "operationName" with
      | some .null | none => none
      | some (.str "null") => none
      | some v => some v.display
    match param "query" with
    | none => .ok (messageAnswer 400 "Must provide query string.")
    | some q =>
      if !q.truthy then .ok (messageAnswer 400 "Must provide query string.")
      else
        match q with
        | .str text => runDocument text vars operationName
        | .arr items => listAnswer items
        | other => .ok (messageAnswer 400 (unreadableQuery other))

/-- The site's answer to a posted request. The request is taken in first (its content type
read, its content length too), then its host is checked, then its path leads to the view. -/
def serve (r : HttpRequest) : Except Fault HttpResponse := do
  let (path, queryString) ← targetParts r.target
  let env := r.environ
  let (_, params) ← readContentType ((env.lookup "CONTENT_TYPE").getD .null)
  let limit ← streamLimit ((env.lookup "CONTENT_LENGTH").getD .null)
  let host := requestHost env
  if !(← checkHost host) then return ⟨400, .page badHostPage⟩
  if path == graphqlPath.toUTF8.toList then
    let kind ← viewContentType ((env.lookup "CONTENT_TYPE").getD (.str ""))
    match ← bodyParams env params limit r.octets kind with
    | .error answer => pure answer
    | .ok data => graphqlView data (queryPairs queryString)
  else if path == graphqlPathBare.toUTF8.toList then
    let query := if queryString.isEmpty then "" else "?" ++ escapeQuery queryString.toUTF8.toList
    throw (Fault.simple .runtime
      s!"You called this URL via POST, but the URL doesn't end in a slash and you have APPEND_SLASH set. Django can't redirect to the slash URL while maintaining POST data. Change your form to point to {host.display}{graphqlPath}{query} (note the trailing slash), or set APPEND_SLASH=False in your Django settings.")
  else return ⟨404, .page notFoundPage⟩

end GraphProbe.Site
