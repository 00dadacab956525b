import GraphProbe.Text.Utf8
import GraphProbe.Text.Case
import GraphProbe.Text.CodePages
import GraphProbe.Text.Escaped
import GraphProbe.Text.Utf7
import GraphProbe.Text.Idna
import GraphProbe.Text.Multibyte

/-!
# Character sets

Answers over HTTP name the character set of their bytes. A name is first brought to its
plain spelling: ASCII letters in lower case, digits and `.` kept, every run of other
characters one `_`, none at either end. The plain name, or the name it is an alias of (also
with `.` read as `_`), must then be a known set: UTF-8 (with or without a leading byte order
mark), UTF-16 and UTF-32 (in either byte order, or with a mark that tells it), Latin-1,
ASCII, one of the single-octet code pages, the backslash escapes (full or raw), UTF-7,
Punycode, IDNA, or the set that takes nothing. A name may also stand for a transform of
octets that is no character set, which cannot read or write text. Any other name is an
unknown encoding.

Encoding fails at the first run of characters the set lacks (a lone surrogate is never
encoded); decoding fails at the first octets that stand for nothing or that break a
sequence.
-/

namespace GraphProbe

/-- The order of the octets of a code unit. -/
inductive ByteOrder where
  | little
  | big
  deriving BEq, Inhabited

/-- The known character sets. -/
inductive Charset where
  | utf8
  | utf8Marked
  /-- UTF-16, in a fixed byte order or, when none, led by a mark. -/
  | utf16 (order : Option ByteOrder)
  /-- UTF-32, in a fixed byte order or, when none, led by a mark. -/
  | utf32 (order : Option ByteOrder)
  | latin1
  | ascii
  | page (p : Text.CodePage)
  /-- Backslash escapes, in the full or the raw form. -/
  | escaped (raw : Bool)
  | utf7
  | punycode
  | idna
  /-- A set that writes a character in one or more octets. -/
  | multibyte (m : Text.Multibyte)
  /-- The set that reads and writes nothing. -/
  | undefined
  deriving Inhabited

/-- What a name of a character set stands for. -/
inductive Codec where
  | charset (c : Charset)
  /-- A transform of octets or text that is no character set. -/
  | transform
  deriving Inhabited

namespace Charset

/-- The plain spelling of a character set's name. -/
def plainName (name : String) : String :=
  let step : List Char × Bool → Char → List Char × Bool
    | (acc, punct), c =>
      if (c.isAlphanum && c.toNat < 128) || c == '.' then
        let acc := if punct && !acc.isEmpty then '_' :: acc else acc
        (c.toLower :: acc, false)
      else (acc, true)
  String.ofList (name.toList.foldl step ([], false)).1.reverse

/-- The character set a module name stands for. -/
def ofModule? : String → Option Charset
  | "utf_8" => some .utf8
  | "utf_8_sig" => some .utf8Marked
  | "utf_16" => some (.utf16 none)
  | "utf_16_le" => some (.utf16 (some .little))
  | "utf_16_be" => some (.utf16 (some .big))
  | "utf_32" => some (.utf32 none)
  | "utf_32_le" => some (.utf32 (some .little))
  | "utf_32_be" => some (.utf32 (some .big))
  | "latin_1" => some .latin1
  | "ascii" => some .ascii
  | "charmap" => some .latin1
  | "unicode_escape" => some (.escaped false)
  | "raw_unicode_escape" => some (.escaped true)
  | "utf_7" => some .utf7
  | "punycode" => some .punycode
  | "idna" => some .idna
  | "undefined" => some .undefined
  | "shift_jis" => some (.multibyte .shiftJis)
  | "cp932" => some (.multibyte .windowsJis)
  | "euc_jp" => some (.multibyte .eucJp)
  | "iso2022_jp" => some (.multibyte .iso2022Jp)
  | "gb2312" => some (.multibyte .gb2312)
  | "gbk" => some (.multibyte .gbk)
  | "gb18030" => some (.multibyte .gb18030)
  | "hz" => some (.multibyte .hz)
  | n => (Text.codePages.find? (·.name == n)).map .page

/-- The transforms of octets or text that are no character sets. -/
def transformModules : List String :=
  ["base64_codec", "bz2_codec", "hex_codec", "quopri_codec", "rot_13", "uu_codec", "zlib_codec"]

/-- What a module name stands for. -/
def codecOfModule? (n : String) : Option Codec :=
  match ofModule? n with
  | some c => some (.charset c)
  | none => if transformModules.contains n then some .transform else none

/-- What a name stands for, if it is known. -/
def lookup (name : String) : Option Codec :=
  let n := plainName name
  let aliased := (Text.codecAliases.lookup n).orElse fun _ =>
    Text.codecAliases.lookup (String.ofList (n.toList.map fun c => if c == '.' then '_' else c))
  let candidates := aliased.toList ++ [n]
  (candidates.filter fun m => !m.isEmpty && !m.contains '.').findSome? codecOfModule?

/-- The character sets of East Asia whose tables are not held here. -/
def unmodelledModules : List String :=
  ["big5", "big5hkscs", "cp949", "cp950", "euc_jis_2004", "euc_jisx0213", "euc_kr",
   "iso2022_jp_1", "iso2022_jp_2", "iso2022_jp_2004", "iso2022_jp_3", "iso2022_jp_ext",
   "iso2022_kr", "johab", "shift_jis_2004", "shift_jisx0213"]

/-- The module of a character set whose tables are not held here, if a name stands for
one. -/
def unmodelledModule? (name : String) : Option String :=
  let n := plainName name
  let aliased := (Text.codecAliases.lookup n).orElse fun _ =>
    Text.codecAliases.lookup (String.ofList (n.toList.map fun c => if c == '.' then '_' else c))
  (aliased.toList ++ [n]).find? unmodelledModules.contains

/-- Whether a name stands for a character set whose tables are not held here. -/
def unmodelled (name : String) : Bool := (unmodelledModule? name).isSome

/-- Whether code points (or octets) pass through a character set whose tables are not held
here unchanged, both ways: those below 128 all do, but for the escape and shift controls,
and for the backslash and the tilde in the JIS X 0213 forms of Shift JIS. -/
def passesPlain (module : String) (ns : List Nat) : Bool :=
  ns.all fun n => n < 128 && n != 0x1b && n != 0x0e && n != 0x0f &&
    !((module == "shift_jis_2004" || module == "shift_jisx0213") && (n == 0x5c || n == 0x7e))

/-- The character set of a name, if it names one. -/
def ofName? (name : String) : Option Charset :=
  match lookup name with
  | some (.charset c) => some c
  | _ => none

/-- The fault of a name that stands for a transform, when text is read or written with it:
`alternative` names what handles such transforms. The message shows at most the first 400
octets of the name's UTF-8, a broken character at the cut replaced. -/
def notText (name alternative : String) : Fault :=
  let octets := Utf8.encode name
  let shown := if octets.length > 400 then Utf8.decodeLossy (octets.take 400) else name
  Fault.simple .unknownEncoding
    ("'" ++ shown ++ "' is not a text encoding; use " ++ alternative ++
      " to handle arbitrary codecs")

/-- The fault of a name that is no known character set. -/
def unknown (name : String) : Fault :=
  Fault.simple .unknownEncoding s!"unknown encoding: {name}"

/-- A character set's name as faults show it. -/
def codecName : Charset → String
  | .utf8 | .utf8Marked => "utf-8"
  | .utf16 none => "utf-16"
  | .utf16 (some .little) => "utf-16-le"
  | .utf16 (some .big) => "utf-16-be"
  | .utf32 none => "utf-32"
  | .utf32 (some .little) => "utf-32-le"
  | .utf32 (some .big) => "utf-32-be"
  | .latin1 => "latin-1"
  | .ascii => "ascii"
  | .page _ => "charmap"
  | .escaped false => "unicodeescape"
  | .escaped true => "rawunicodeescape"
  | .utf7 => "utf7"
  | .punycode => "punycode"
  | .idna => "idna"
  | .multibyte m => m.name
  | .undefined => "undefined"

/-- The octet a single-octet set gives a character, if it holds it. -/
def octetOf? : Charset → Char → Option UInt8
  | .latin1, c => if c.toNat < 0x100 then some c.toNat.toUInt8 else none
  | .ascii, c => if c.toNat < 0x80 then some c.toNat.toUInt8 else none
  | .page p, c =>
    if p.keepsAscii && c.toNat < 0x80 then some c.toNat.toUInt8
    else if c.toNat == 0xFFFE then none
    else
      let offset := if p.keepsAscii then 128 else 0
      (p.chars.toList.idxOf? c).map fun i => (i + offset).toUInt8
  | _, _ => none

/-- The character a single-octet set gives an octet, if it stands for one. -/
def charOf? : Charset → UInt8 → Option Char
  | .latin1, b => some (Char.ofNat b.toNat)
  | .ascii, b => if b.toNat < 0x80 then some (Char.ofNat b.toNat) else none
  | .page p, b =>
    if p.keepsAscii && b.toNat < 0x80 then some (Char.ofNat b.toNat)
    else
      let i := if p.keepsAscii then b.toNat - 128 else b.toNat
      match p.chars.toList[i]? with
      | some c => if c.toNat == 0xFFFE then none else some c
      | none => none
  | _, _ => none

/-- Why a single-octet set refuses a character or an octet. -/
def refusal : Charset → String
  | .latin1 => "ordinal not in range(256)"
  | .ascii => "ordinal not in range(128)"
  | _ => "character maps to <undefined>"

/-- The code units of a code point in UTF-16. -/
def utf16Units (n : Nat) : List Nat :=
  if n < 0x10000 then [n]
  else
    let m := n - 0x10000
    [0xD800 + m / 0x400, 0xDC00 + m % 0x400]

/-- The octets of a code unit of `width` octets in a byte order. -/
def unitOctets (order : ByteOrder) (width n : Nat) : List UInt8 :=
  let little := (List.range width).map fun k => (n / 256 ^ k % 256).toUInt8
  if order == .little then little else little.reverse

/-- The octets of a text in a set that holds every character but the lone surrogates. UTF-8
reports the whole run of surrogates it stops at, UTF-16 and UTF-32 only its first one. -/
def encodeUnicode (c : Charset) (s : String) (unit : Nat → List UInt8) :
    Except Fault (List UInt8) :=
  let ns := Text.codes s
  match ns.findIdx? Text.isSurrogateCode with
  | some i =>
    let run := match c with
      | .utf8 | .utf8Marked => ((ns.drop i).takeWhile Text.isSurrogateCode).length
      | _ => 1
    .error (.raised .unencodable [.str c.codecName, .str s, .int i, .int (i + run),
      .str "surrogates not allowed"])
  | none => .ok (ns.flatMap unit)

/-- The octet a single-octet set gives a code point, if it holds it. -/
def octetOfPoint? (c : Charset) (n : Nat) : Option UInt8 :=
  (Text.pointChar? n).bind c.octetOf?

/-- The fault of the set that reads and writes nothing. -/
def undefinedFault : Fault := .simple (.named "UnicodeError" .invalidValue) "undefined encoding"

/-- The octets of a text in a character set. -/
def encode (c : Charset) (s : String) : Except Fault (List UInt8) :=
  match c with
  | .escaped raw => .ok (Escaped.encode raw (Text.codes s))
  | .utf7 => .ok (Utf7.encode (Text.codes s))
  | .punycode => .ok (Punycode.encode (Text.codes s))
  | .idna => Idna.encode (Text.codes s)
  | .multibyte m =>
    match m.encode (Text.codes s) with
    | .ok ns => .ok (ns.map Nat.toUInt8)
    | .error i =>
      .error (.raised .unencodable [.str m.name, .str s, .int i, .int (i + 1),
        .str "illegal multibyte sequence"])
  | .undefined => .error undefinedFault
  | .utf8 => encodeUnicode c s Utf8.pointOctets
  | .utf8Marked => ([0xEF, 0xBB, 0xBF] ++ ·) <$> encodeUnicode c s Utf8.pointOctets
  | .utf16 order =>
    let o := order.getD .little
    let body := encodeUnicode c s fun n => (utf16Units n).flatMap (unitOctets o 2)
    if order.isNone then (unitOctets .little 2 0xFEFF ++ ·) <$> body else body
  | .utf32 order =>
    let o := order.getD .little
    let body := encodeUnicode c s fun n => unitOctets o 4 n
    if order.isNone then (unitOctets .little 4 0xFEFF ++ ·) <$> body else body
  | _ =>
    let ns := Text.codes s
    match ns.findIdx? (fun n => (c.octetOfPoint? n).isNone) with
    | some i =>
      let run := ((ns.drop i).takeWhile fun n => (c.octetOfPoint? n).isNone).length
      .error (.raised .unencodable [.str c.codecName, .str s, .int i, .int (i + run),
        .str c.refusal])
    | none => .ok (ns.filterMap c.octetOfPoint?)

/-- The name a set reads octets under: UTF-16 and UTF-32 name the byte order they read in. -/
def readerName (c : Charset) (o : ByteOrder) : String :=
  match c, o with
  | .utf16 _, .little => "utf-16-le"
  | .utf16 _, .big => "utf-16-be"
  | .utf32 _, .little => "utf-32-le"
  | .utf32 _, .big => "utf-32-be"
  | _, _ => c.codecName

/-- The fault of octets a set cannot read, from `start` to `stop`. -/
def undecodable (name : String) (bs : List UInt8) (start stop : Nat) (reason : String) :
    Fault :=
  .raised .undecodable [.str name, .bytes bs, .int start, .int stop, .str reason]

/-- Read UTF-16 code units from the octets `rest` at position `pos` of `bs`. -/
def readUtf16 (c : Charset) (bs : List UInt8) (o : ByteOrder) :
    Nat → List UInt8 → Nat → Except Fault (List Char)
  | 0, _, _ => .ok []
  | _, [], _ => .ok []
  | fuel + 1, rest, pos =>
    let unit (a b : UInt8) : Nat :=
      if o == .little then a.toNat + 256 * b.toNat else 256 * a.toNat + b.toNat
    match rest with
    | a :: b :: more =>
      let u := unit a b
      if u < 0xD800 || u ≥ 0xE000 then
        (Text.pointChars u ++ ·) <$> readUtf16 c bs o fuel more (pos + 2)
      else if u ≥ 0xDC00 then .error (undecodable (c.readerName o) bs pos (pos + 2) "illegal encoding")
      else
        match more with
        | x :: y :: more' =>
          let v := unit x y
          if 0xDC00 ≤ v && v < 0xE000 then
            let n := 0x10000 + (u - 0xD800) * 0x400 + (v - 0xDC00)
            (Text.pointChars n ++ ·) <$> readUtf16 c bs o fuel more' (pos + 4)
          else .error (undecodable (c.readerName o) bs pos (pos + 2) "illegal UTF-16 surrogate")
        | _ => .error (undecodable (c.readerName o) bs pos bs.length "unexpected end of data")
    | _ => .error (undecodable (c.readerName o) bs pos bs.length "truncated data")

/-- Read UTF-32 code units from the octets `rest` at position `pos` of `bs`. -/
def readUtf32 (c : Charset) (bs : List UInt8) (o : ByteOrder) :
    Nat → List UInt8 → Nat → Except Fault (List Char)
  | 0, _, _ => .ok []
  | _, [], _ => .ok []
  | fuel + 1, rest, pos =>
    match rest with
    | a :: b :: x :: y :: more =>
      let ns := [a.toNat, b.toNat, x.toNat, y.toNat]
      let ns := if o == .little then ns.reverse else ns
      let u := ns.foldl (fun acc d => acc * 256 + d) 0
      if u ≥ 0x110000 then
        .error (undecodable (c.readerName o) bs pos (pos + 4) "code point not in range(0x110000)")
      else if 0xD800 ≤ u && u < 0xE000 then
        .error (undecodable (c.readerName o) bs pos (pos + 4)
          "code point in surrogate code point range(0xd800, 0xe000)")
      else (Text.pointChars u ++ ·) <$> readUtf32 c bs o fuel more (pos + 4)
    | _ => .error (undecodable (c.readerName o) bs pos bs.length "truncated data")

/-- The byte order a mark at the front of the octets tells, with the octets after it. -/
def markedOrder (width : Nat) (bs : List UInt8) : ByteOrder × List UInt8 :=
  let little := unitOctets .little width 0xFEFF
  let big := unitOctets .big width 0xFEFF
  if bs.take width == little then (.little, bs.drop width)
  else if bs.take width == big then (.big, bs.drop width)
  else (.little, bs)

/-- The text of octets read by a set of escapes, or the fault of the span it cannot read. -/
def escapedText (c : Charset) (bs : List UInt8) (read : Except Escaped.Unreadable (List Nat)) :
    Except Fault String :=
  match read with
  | .ok ns => .ok (Text.ofPoints ns)
  | .error e => .error (undecodable c.codecName bs e.start e.stop e.reason)

/-- The text of octets in a character set. -/
def decode (c : Charset) (bs : List UInt8) : Except Fault String :=
  match c with
  | .escaped raw => c.escapedText bs (Escaped.decode raw bs)
  | .utf7 => c.escapedText bs (Utf7.decode bs)
  | .punycode => Text.ofPoints <$> Punycode.decode bs
  | .idna => Text.ofPoints <$> Idna.decode bs
  | .multibyte m =>
    match m.decode (bs.map UInt8.toNat) with
    | .ok ns => .ok (Text.ofPoints ns)
    | .error e => .error (undecodable m.name bs e.start e.stop e.reason)
  | .undefined => .error undefinedFault
  | .utf8 =>
    match Utf8.decode bs with
    | .ok s => .ok s
    | .error e => .error (e.toFault bs)
  | .utf8Marked =>
    let body := if bs.take 3 == [0xEF, 0xBB, 0xBF] then bs.drop 3 else bs
    match Utf8.decode body with
    | .ok s => .ok s
    | .error e => .error (e.toFault body)
  | .utf16 order =>
    let (o, body) := match order with
      | some o => (o, bs)
      | none => markedOrder 2 bs
    let skipped := bs.length - body.length
    String.ofList <$> readUtf16 c bs o (body.length + 1) body skipped
  | .utf32 order =>
    let (o, body) := match order with
      | some o => (o, bs)
      | none => markedOrder 4 bs
    let skipped := bs.length - body.length
    String.ofList <$> readUtf32 c bs o (body.length + 1) body skipped
  | _ =>
    match bs.findIdx? (fun b => (c.charOf? b).isNone) with
    | some i => .error (undecodable c.codecName bs i (i + 1) c.refusal)
    | none => .ok (Text.ofPoints ((bs.filterMap c.charOf?).map Char.toNat))

/-! ### Error handlers -/

/-- The span a fault of unreadable octets or unwritable characters names, if it is one. -/
def faultSpan : Fault → Option (Nat × Nat)
  | .raised .undecodable [_, _, .int start, .int stop, _]
  | .raised .unencodable [_, _, .int start, .int stop, _] => some (start.toNat, stop.toNat)
  | _ => none

/-- Decode, replacing each span of octets the set cannot read by what `handle` gives for it;
where it gives nothing, the fault stands. -/
def decodeHandled (c : Charset) (handle : List UInt8 → Option String) :
    Nat → List UInt8 → Except Fault String
  | 0, _ => .ok ""
  | fuel + 1, bs =>
    match c.decode bs with
    | .ok s => .ok s
    | .error f =>
      match faultSpan f with
      | some (start, stop) =>
        match handle ((bs.drop start).take (stop - start)), c.decode (bs.take start) with
        | some r, .ok pre =>
          if stop ≤ start then .error f
          else (fun rest => pre ++ r ++ rest) <$> decodeHandled c handle fuel (bs.drop stop)
        | _, _ => .error f
      | none => .error f

/-- Encode, replacing each run of characters the set cannot write by the octets `handle`
gives for it; where it gives nothing, the fault stands. -/
def encodeHandled (c : Charset) (handle : List Nat → Option (List UInt8)) :
    Nat → List Nat → Except Fault (List UInt8)
  | 0, _ => .ok []
  | fuel + 1, ns =>
    match c.encode (Text.ofPoints ns) with
    | .ok bs => .ok bs
    | .error f =>
      match faultSpan f with
      | some (start, stop) =>
        match handle ((ns.drop start).take (stop - start)), c.encode (Text.ofPoints (ns.take start)) with
        | some r, .ok pre =>
          if stop ≤ start then .error f
          else (fun rest => pre ++ r ++ rest) <$> encodeHandled c handle fuel (ns.drop stop)
        | _, _ => .error f
      | none => .error f

/-- The escape `backslashreplace` writes for a code point. -/
def backslashEscape (n : Nat) : String := Fault.escapedCodePoint n

/-- The text an error handler of a name puts for unreadable octets, if it is a handler that
puts text. -/
def decodeReplacement (handler : String) (bs : List UInt8) : Option String :=
  match handler with
  | "ignore" => some ""
  | "replace" => some "\uFFFD"
  | "backslashreplace" => some (String.join (bs.map fun b => "\\x" ++ Text.hexPadded 2 b.toNat))
  | _ => none

/-- The octets an error handler of a name puts for unwritable characters, if it is a handler
that puts octets. -/
def encodeReplacement (c : Charset) (handler : String) (ns : List Nat) : Option (List UInt8) :=
  let written (s : String) : Option (List UInt8) :=
    match c.encode s with
    | .ok bs => some bs
    | .error _ => none
  match handler with
  | "ignore" => some []
  | "replace" => written (String.ofList (ns.map fun _ => '?'))
  | "backslashreplace" => written (String.join (ns.map backslashEscape))
  | "xmlcharrefreplace" => written (String.join (ns.map fun n => s!"&#{n};"))
  | _ => none

/-- The error handlers that replace what cannot be read or written. -/
def replacingHandlers : List String :=
  ["ignore", "replace", "backslashreplace", "xmlcharrefreplace"]

end Charset

end GraphProbe
