import GraphProbe.Fault

/-!
# Requests and records of exercises

An *exercise* is a scripted run of one part of the kit: a request names the part and its
steps, and the record of the run gives each step's outcome. Requests and records are JSON.

Two kinds of values have no JSON form and travel as tagged objects: a double that is not
finite is `{"$float": "nan" | "inf" | "-inf"}`, a byte string is `{"$bytes": "<hex>"}`.
`Encoding.incoming` unfolds the tags in the values a request hands to the kit, and
`Encoding.outgoing` folds them back in a record. An outcome is `{"ok": value}` or
`{"error": kind, "message": text}`.
-/

namespace GraphProbe.Exercise

/-- Hex text of bytes. -/
def hexOfBytes (bs : List UInt8) : String :=
  String.join (bs.map fun b => Text.hexPadded 2 b.toNat)

/-- Whether a character is a blank between hex pairs. -/
def isHexBlank (c : Char) : Bool :=
  c == ' ' || c == '\t' || c == '\n' || c == '\r' || c == Char.ofNat 11 || c == Char.ofNat 12

/-- The bytes of hex text read two digits at a time from offset `i`, blanks skipped between
pairs: the offset of the first character that breaks the pattern otherwise (the length of
the text when it ends inside a pair). -/
def hexPairs : List Char → Nat → Except Nat (List UInt8)
  | [], _ => .ok []
  | c :: rest, i =>
    if isHexBlank c then hexPairs rest (i + 1) else
    match Json.hexValue? c, rest with
    | none, _ => .error i
    | some _, [] => .error (i + 1)
    | some hi, d :: rest' =>
      match Json.hexValue? d with
      | none => .error (i + 1)
      | some lo => ((hi * 16 + lo).toUInt8 :: ·) <$> hexPairs rest' (i + 2)

/-- The bytes a hex text spells. A text with a character outside ASCII fails at the first
such character. -/
def bytesOfHex (s : String) : Except Fault (List UInt8) :=
  let cs := s.toList
  let bad : Except Nat (List UInt8) := match cs.findIdx? (fun c => c.toNat ≥ 128) with
    | some i => .error i
    | none => hexPairs cs 0
  bad.mapError fun i =>
    Fault.simple .invalidValue s!"non-hexadecimal number found in fromhex() arg at position {i}"

/-- The name of a value's kind in argument messages, where the null value is `None`. -/
def argumentKindName : Value → String
  | .null => "None"
  | v => v.kindName

/-- The byte string a tag's argument spells. -/
def bytesTag : Value → Except Fault Value
  | .str h => .bytes <$> bytesOfHex h
  | v => .error (Fault.simple .wrongType
      s!"fromhex() argument must be str, not {argumentKindName v}")

/-- The double a tag's argument stands for: a number as it is, a text read as a double
literal. -/
def floatTag : Value → Except Fault Value
  | .str t =>
    match Number.readFloat t with
    | some x => .ok (.float x)
    | none => .error (Fault.simple .invalidValue
        s!"could not convert string to float: {Text.quote t}")
  | .float x => .ok (.float x)
  | .bool b => .ok (.float (if b then 1.0 else 0.0))
  | .int n =>
    if n.natAbs ≥ 2 ^ 1024 - 2 ^ 970 then
      .error (Fault.simple .overflow "int too large to convert to float")
    else .ok (.float (Number.floatOfInt n))
  | v => .error (Fault.simple .wrongType
      s!"float() argument must be a string or a real number, not {Text.quote v.kindName}")

mutual
/-- Unfold tagged objects into doubles and byte strings. An object with the one member
`$bytes` or `$float` is a tag; the tag's argument is read as it stands. -/
def incoming : Value → Except Fault Value
  | .obj [("$bytes", a)] => bytesTag a
  | .obj [("$float", a)] => floatTag a
  | .arr xs => .arr <$> incomingItems xs
  | .obj fs => .obj <$> incomingMembers fs
  | v => .ok v

/-- Unfold the items of an array. -/
def incomingItems : List Value → Except Fault (List Value)
  | [] => .ok []
  | x :: xs => do
    let y ← incoming x
    let ys ← incomingItems xs
    pure (y :: ys)

/-- Unfold the members of an object. -/
def incomingMembers : List (String × Value) → Except Fault (List (String × Value))
  | [] => .ok []
  | (k, v) :: rest => do
    let w ← incoming v
    let ws ← incomingMembers rest
    pure ((k, w) :: ws)
end

mutual
/-- Fold doubles that are not finite and byte strings into tagged objects. -/
def outgoing : Value → Value
  | .float x =>
    match Number.classify x with
    | .nan => .obj [("$float", .str "nan")]
    | .infinite true => .obj [("$float", .str "-inf")]
    | .infinite false => .obj [("$float", .str "inf")]
    | .finite _ => .float x
  | .bytes bs => .obj [("$bytes", .str (hexOfBytes bs))]
  | .arr xs => .arr (outgoingItems xs)
  | .obj fs => .obj (outgoingMembers fs)
  | v => v

/-- Fold the items of an array. -/
def outgoingItems : List Value → List Value
  | [] => []
  | x :: xs => outgoing x :: outgoingItems xs

/-- Fold the members of an object. -/
def outgoingMembers : List (String × Value) → List (String × Value)
  | [] => []
  | (k, v) :: rest => (k, outgoing v) :: outgoingMembers rest
end

/-- The record of a fault. -/
def faultRecord (f : Fault) : Value :=
  .obj [("error", .str f.kindName), ("message", .str f.text)]

/-- The record of an outcome. -/
def outcome (r : Except Fault Value) : Value :=
  match r with
  | .ok v => .obj [("ok", outgoing v)]
  | .error f => faultRecord f

/-- Extra members added to an object record. -/
def withMembers (v : Value) (extra : List (String × Value)) : Value :=
  match v with
  | .obj fs => .obj (fs ++ extra)
  | v => v

/-! ### Reading requests -/

/-- A member of a request, if present. -/
def field? (req : Value) (k : String) : Option Value := req.field? k

/-- A text member, or a default. -/
def textOr (req : Value) (k : String) (d : String) : String :=
  match req.field? k with
  | some (.str s) => s
  | _ => d

/-- A boolean member, or a default. -/
def boolOr (req : Value) (k : String) (d : Bool) : Bool :=
  match req.field? k with
  | some (.bool b) => b
  | _ => d

/-- An integer member, or a default. -/
def intOr (req : Value) (k : String) (d : Int) : Int :=
  match req.field? k with
  | some v => v.asInt?.getD d
  | _ => d

/-- An array member, or nothing. -/
def listOf (req : Value) (k : String) : List Value :=
  match req.field? k with
  | some (.arr xs) => xs
  | _ => []

/-- A member the kit receives as data: tags unfolded. -/
def dataField? (req : Value) (k : String) : Except Fault (Option Value) :=
  match req.field? k with
  | some v => some <$> incoming v
  | none => .ok none

/-- The fault of a request member that is missing. -/
def missingMember (k : String) : Fault := .raised .missingKey [.str k]

/-- A member that must be present. -/
def need (req : Value) (k : String) : Except Fault Value :=
  match req.field? k with
  | some v => .ok v
  | none => .error (missingMember k)

/-- A text member that must be present. -/
def needText (req : Value) (k : String) : Except Fault String := do
  match ← need req k with
  | .str s => pure s
  | v => pure v.display

end GraphProbe.Exercise
