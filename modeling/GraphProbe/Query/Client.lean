import GraphProbe.Site.Http
import GraphProbe.Resource.Loader
import GraphProbe.Text.Charset
import GraphProbe.Json.Arithmetic

/-!
# The query client

Queries and mutations go over HTTP. A query client posts a document, with its variables
and the name of the operation to run, to a GraphQL address, and reads the answer.

* The posted body is the JSON text of an object with the query, the operation name when it
  is given and not empty, and the variables when there are any. Variables given as
  something other than a mapping are first made into one the way a mapping is built from
  pairs, which may fail.
* The headers set on the client go with every request until they are cleared; a request
  carries headers only when there are some.
* An address that counts as false posts to the default one, `/graphql`.
* The answer's octets are read in its character set (UTF-8 when it names none) and must be
  a JSON object.

A request goes either to a server that answers by script and keeps what it was sent, or
to the site.
-/

namespace GraphProbe.Query

/-- What a scripted answer holds: text, or octets. -/
inductive Content where
  | text (s : String)
  | octets (bs : List UInt8)
  deriving Inhabited

/-- An answer a scripted server gives. -/
structure ScriptedAnswer where
  content : Content
  /-- The character set it names; none or empty for UTF-8. -/
  charset : Option String := none
  status : Value := .int 200
  deriving Inhabited

/-- The answer a scripted server gives when its script has run out. -/
def ScriptedAnswer.empty : ScriptedAnswer := { content := .text "{}" }

/-- The text of a scripted answer, read in its character set. Text content is first put
into that set, which may fail, as may reading octets; a fault the set raises carries its
name. A name that stands for a transform reads and writes no text. -/
def ScriptedAnswer.text (a : ScriptedAnswer) : Except Fault String := do
  let name := match a.charset with
    | some n => if n.isEmpty then "utf-8" else n
    | none => "utf-8"
  let some codec := Charset.lookup name | throw (Charset.unknown name)
  match codec with
  | .transform =>
    throw (Charset.notText name (match a.content with
      | .text _ => "codecs.encode()"
      | .octets _ => "codecs.decode()"))
  | .charset cs =>
    let octets ← match a.content with
      | .text t => (cs.encode t).mapError (Fault.withinCodec "encoding" name)
      | .octets bs => pure bs
    (cs.decode octets).mapError (Fault.withinCodec "decoding" name)

/-- A request as a scripted server keeps it. -/
structure Posted where
  path : Value
  data : String
  headers : Option (List (String × Value))
  deriving Inhabited

/-- A kept request as data. -/
def Posted.toValue (p : Posted) : Value :=
  .obj [("path", p.path), ("data", .str p.data), ("content_type", .str "application/json"),
    ("extra", .obj (match p.headers with
      | some hs => [("headers", .obj hs)]
      | none => []))]

/-- Where a client's requests go: a server that answers by script and keeps what it was
sent, or the site. -/
inductive Endpoint where
  | scripted (answers : List ScriptedAnswer) (posted : List Posted)
  | site
  deriving Inhabited

/-- The requests a scripted server kept. -/
def Endpoint.posted : Endpoint → List Posted
  | .scripted _ ps => ps
  | .site => []

/-- A query client: the address it posts to, the headers it sends and where it loads
documents from. -/
structure QueryClient where
  url : Value
  headers : List (String × Value) := []
  loader : Loader
  deriving Inhabited

/-- The address a request goes to when none is given. -/
def defaultUrl : String := "/graphql"

/-! ### Mappings from pairs -/

/-- Whether two keys of a mapping are the same key: texts and byte strings by content,
numbers by value across kinds (so `1`, `1.0` and `true` are one key), and the null value
with itself. Every NaN a request is read with is one and the same value, so NaN keys are
one key too. -/
def sameKey : Value → Value → Bool
  | .str a, .str b => a == b
  | .bytes a, .bytes b => a == b
  | .null, .null => true
  | .float x, .float y => (Number.isNaN x && Number.isNaN y) || Number.compareFloat x y == some .eq
  | a, b =>
    match Num.ofValue? a, Num.ofValue? b with
    | some x, some y => x.compare? y == some .eq
    | _, _ => false

/-- A key must be hashable: lists and mappings are not. -/
def checkKey : Value → Except Fault Unit
  | .arr _ => .error (Fault.simple .wrongType "unhashable type: 'list'")
  | .obj _ => .error (Fault.simple .wrongType "unhashable type: 'dict'")
  | _ => .ok ()

/-- The text a key is written as in JSON: texts as themselves, numbers and constants as
their JSON text. Byte strings cannot be written. -/
def keyText : Value → Except Fault String
  | .str s => .ok s
  | .null => .ok "null"
  | .bool b => .ok (if b then "true" else "false")
  | .bytes _ => .error (Fault.simple .wrongType
      "keys must be str, int, float, bool or None, not bytes")
  | v => .ok ((Json.write .plain v).toOption.getD v.display)

/-- Put a member into a mapping: a key already present keeps its place and takes the new
value. -/
def setMember (ms : List (String × Value)) (k : String) (v : Value) : List (String × Value) :=
  if ms.any (·.1 == k) then ms.map fun (k', w) => if k' == k then (k', v) else (k', w)
  else ms ++ [(k, v)]

/-- Put a member with any key into a mapping: the first key of a kind stays, the value is
the last one given. -/
def setKeyed (ms : List (Value × Value)) (k : Value) (v : Value) : List (Value × Value) :=
  if ms.any (sameKey ·.1 k) then ms.map fun (k', w) => if sameKey k' k then (k', v) else (k', w)
  else ms ++ [(k, v)]

/-- The pair an element of a sequence makes, or why it makes none. -/
def elementPair (i : Nat) : Value → Except Fault (Value × Value)
  | .str s =>
    match s.toList with
    | [a, b] => .ok (.str a.toString, .str b.toString)
    | cs => .error (lengthFault i cs.length)
  | .arr [k, v] => .ok (k, v)
  | .arr xs => .error (lengthFault i xs.length)
  | .obj [(k, _), (k2, _)] => .ok (.str k, .str k2)
  | .obj fs => .error (lengthFault i fs.length)
  | .bytes [a, b] => .ok (.int a.toNat, .int b.toNat)
  | .bytes bs => .error (lengthFault i bs.length)
  | _ => .error (Fault.simple .wrongType
      s!"cannot convert dictionary update sequence element #{i} to a sequence")
where
  /-- The fault of an element of the wrong length. -/
  lengthFault (i n : Nat) : Fault :=
    Fault.simple .invalidValue s!"dictionary update sequence element #{i} has length {n}; 2 is required"

/-- A mapping made from a value: a mapping as it is, a sequence of pairs member by member. -/
def asMapping : Value → Except Fault (List (Value × Value))
  | .obj fs => .ok (fs.map fun (k, v) => (.str k, v))
  | .int _ => .error (Fault.simple .wrongType "'int' object is not iterable")
  | .float _ => .error (Fault.simple .wrongType "'float' object is not iterable")
  | .bool _ => .error (Fault.simple .wrongType "'bool' object is not iterable")
  | .null => .error (Fault.simple .wrongType "'NoneType' object is not iterable")
  | .str s => pairs (s.toList.map fun c => .str c.toString)
  | .bytes bs => pairs (bs.map fun b => .int b.toNat)
  | .arr xs => pairs xs
where
  /-- The mapping of a sequence of elements, each a pair. -/
  pairs (xs : List Value) : Except Fault (List (Value × Value)) :=
    (xs.zipIdx).foldlM (fun ms (x, i) => do
      let (k, v) ← elementPair i x
      checkKey k
      pure (setKeyed ms k v)) []

/-! ### Posting -/

/-- The JSON text of the body of a request. -/
def requestBody (query : Value) (vars : Option (List (Value × Value)))
    (operationName : Option Value) : Except Fault String := do
  let vars ← match vars with
    | some vs => some <$> vs.mapM fun (k, v) => do pure (← keyText k, v)
    | none => pure none
  let members := [("query", query)] ++
    (match operationName with
      | some n => if n.truthy then [("operationName", n)] else []
      | none => []) ++
    (match vars with
      | some vs => if vs.isEmpty then [] else [("variables", Value.obj vs)]
      | none => [])
  match Json.write .plain (.obj members) with
  | .ok t => .ok t
  | .error e => .error (Fault.ofWriteError e)

namespace QueryClient

/-- Set a header; a header already set keeps its place. -/
def withHeader (c : QueryClient) (name : String) (value : Value) : QueryClient :=
  { c with headers := setMember c.headers name value }

/-- Set the authorization header for a bearer token. -/
def withBearer (c : QueryClient) (token : Value) : QueryClient :=
  c.withHeader "Authorization" (.str ("Bearer " ++ token.display))

/-- Clear the headers. -/
def clearHeaders (c : QueryClient) : QueryClient := { c with headers := [] }

/-- Post a document with variables and an operation name: the answer, and the endpoint
after the request. -/
def post (c : QueryClient) (query : Value) (vars : Option Value)
    (operationName : Option Value) (e : Endpoint) : Except Fault Response × Endpoint :=
  let prepared : Except Fault String := do
    let vars ← match vars with
      | none | some .null => pure none
      | some v => some <$> asMapping v
    requestBody query vars operationName
  match prepared with
  | .error f => (.error f, e)
  | .ok data =>
    let path := if c.url.truthy then c.url else .str defaultUrl
    let headers := if c.headers.isEmpty then none else some c.headers
    match e with
    | .scripted answers posted =>
      let answer := answers.headD ScriptedAnswer.empty
      let e' := Endpoint.scripted answers.tail (posted ++ [⟨path, data, headers⟩])
      let r : Except Fault Response := do
        let text ← answer.text
        Response.ofText text answer.status
      (r, e')
    | .site =>
      let r : Except Fault Response := do
        let answer ← Site.serve ⟨path.display, headers.getD [], "application/json", data⟩
        Response.ofText answer.text (.int answer.status)
      (r, e)

/-- Load a document and post it. -/
def postDocument (c : QueryClient) (name : String) (vars : Option Value)
    (operationName : Option Value) (e : Endpoint) : Except Fault Response × Endpoint :=
  match c.loader.read name with
  | .ok (text, _) => c.post (.str text) vars operationName e
  | .error f => (.error f, e)

end QueryClient

end GraphProbe.Query
