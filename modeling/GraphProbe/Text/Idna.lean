import GraphProbe.Text.Punycode
import GraphProbe.Text.Nameprep

/-!
# Internationalized domain names

The IDNA character set spells a domain name label by label. A label in ASCII stays as it
is; any other is prepared (see `Nameprep`) and, if it is not ASCII then, spelled in
Punycode behind the prefix `xn--`. A spelled label has 1 to 63 octets.

Writing a text in ASCII only checks the lengths of its labels, split at `.`: every label
but the last must have 1 to 63 octets and the last fewer than 64. Other text is split at
any of the four full stops, and a last empty label gives a trailing `.`.

Reading octets without `xn--` that are all ASCII gives them back. Otherwise each label
split at `.` is read: one without the prefix must be ASCII; one with it is read as
Punycode, spelled again, and must give the same octets up to case.
-/

namespace GraphProbe.Idna

/-- The prefix of labels spelled in Punycode: `xn--`. -/
def acePrefix : List Nat := [0x78, 0x6E, 0x2D, 0x2D]

/-- The full stops that divide labels of text. -/
def fullStops : List Nat := [0x2E, 0x3002, 0xFF0E, 0xFF61]

/-- The fault of a text error. -/
def textFault (message : String) : Fault := Punycode.textFault message

/-- Octets of a spelled label, if it has 1 to 63 of them. -/
def sized (bs : List UInt8) : Except Fault (List UInt8) :=
  if 0 < bs.length && bs.length < 64 then pure bs else throw (textFault "label empty or too long")

/-- The ASCII spelling of a label. -/
def labelToAscii (label : List Nat) : Except Fault (List UInt8) := do
  if label.all (· < 0x80) then return ← sized (label.map Nat.toUInt8)
  let prepared ← match Nameprep.prepare label with
    | .ok p => pure p
    | .error m => throw (textFault m)
  if prepared.all (· < 0x80) then return ← sized (prepared.map Nat.toUInt8)
  if prepared.take 4 == acePrefix then throw (textFault "Label starts with ACE prefix")
  sized (acePrefix.map Nat.toUInt8 ++ Punycode.encode prepared)

/-- Split a list at the elements that satisfy `p`. -/
def splitWhere {α : Type} (p : α → Bool) (xs : List α) : List (List α) :=
  let (done, cur) := xs.foldl (fun (done, cur) x =>
    if p x then (done ++ [cur], []) else (done, cur ++ [x])) ([], [])
  done ++ [cur]

/-- The labels of a name, without a last empty one, and whether there was one. -/
def labelsOf {α : Type} (p : α → Bool) (xs : List α) : List (List α) × Bool :=
  let labels := splitWhere p xs
  if labels.getLastD [] |>.isEmpty then (labels.dropLast, true) else (labels, false)

/-- The IDNA octets of a text. -/
def encode (text : List Nat) : Except Fault (List UInt8) := do
  if text.isEmpty then return []
  if text.all (· < 0x80) then
    let bs := text.map Nat.toUInt8
    let labels := splitWhere (· == 0x2E) bs
    if labels.dropLast.any fun l => l.isEmpty || l.length ≥ 64 then
      throw (textFault "label empty or too long")
    if (labels.getLastD []).length ≥ 64 then throw (textFault "label too long")
    return bs
  let (labels, trailing) := labelsOf (fullStops.contains ·) text
  let spelled ← labels.mapM labelToAscii
  return (spelled.intersperse [0x2E]).flatten ++ (if trailing then [0x2E] else [])

/-- Whether a list holds another as a contiguous part. -/
def holds (xs part : List UInt8) : Bool :=
  (List.range (xs.length + 1)).any fun i => (xs.drop i).take part.length == part

/-- The ASCII lower case of an octet. -/
def lowerOctet (b : UInt8) : UInt8 := if 0x41 ≤ b && b ≤ 0x5A then b + 32 else b

/-- The code points of a spelled label. -/
def labelToUnicode (label : List UInt8) : Except Fault (List Nat) := do
  if label.length > 1024 then throw (textFault "label way too long")
  if label.take 4 != acePrefix.map Nat.toUInt8 then
    return (← Punycode.asciiChars label).map Char.toNat
  let decoded ← match Punycode.decode (label.drop 4) with
    | .ok d => pure d
    | .error f => throw (f.withinCodec "decoding" "punycode")
  let again ← labelToAscii decoded
  if label.map lowerOctet != again then
    throw (.raised (.named "UnicodeError" .invalidValue)
      [.str "IDNA does not round-trip", .bytes label, .bytes again])
  return decoded

/-- The code points of IDNA octets. -/
def decode (bs : List UInt8) : Except Fault (List Nat) := do
  if bs.isEmpty then return []
  if !holds bs (acePrefix.map Nat.toUInt8) && bs.all (· < 0x80) then return bs.map UInt8.toNat
  let (labels, trailing) := labelsOf (· == 0x2E) bs
  let read ← labels.mapM labelToUnicode
  return (read.intersperse [0x2E]).flatten ++ (if trailing then [0x2E] else [])

end GraphProbe.Idna
