/-!
# IP addresses in text

A host between brackets in a URL must be an IP address. This module tells whether a text
spells one, by the strict rules of the standard library's address parser:

* an IPv4 address is four decimal octets joined by dots, each of one to three ASCII digits,
  without leading zeros, at most 255;
* an IPv6 address is up to eight groups of one to four hexadecimal digits joined by colons,
  with at most one `::` standing for one group of zeros or more, and perhaps an IPv4 address
  for its last two groups; a scope after `%` must be non-empty and hold no second `%`.

Neither kind may hold a `/`. When a text is both kinds at once nothing is lost by asking
for IPv4 first, as the parser does: no text is.
-/

namespace GraphProbe.Session

/-- The kinds of IP address. -/
inductive IpKind where
  | v4
  | v6
  deriving BEq, Repr, Inhabited

/-- Whether a character is an ASCII hexadecimal digit. -/
def isHexDigit (c : Char) : Bool :=
  c.isDigit || ('a' ≤ c && c ≤ 'f') || ('A' ≤ c && c ≤ 'F')

/-- Whether a text is one octet of an IPv4 address. -/
def isOctet (s : String) : Bool :=
  let cs := s.toList
  !cs.isEmpty && cs.all Char.isDigit && cs.length ≤ 3 &&
    (s == "0" || cs.head? != some '0') &&
    cs.foldl (fun n c => 10 * n + (c.toNat - 48)) 0 ≤ 255

/-- Whether a text is an IPv4 address. -/
def isIPv4 (s : String) : Bool :=
  !s.contains '/' &&
    match s.splitOn "." with
    | [a, b, c, d] => isOctet a && isOctet b && isOctet c && isOctet d
    | _ => false

/-- Whether a text is one group of an IPv6 address. -/
def isHextet (s : String) : Bool :=
  let cs := s.toList
  !cs.isEmpty && cs.length ≤ 4 && cs.all isHexDigit

/-- Whether groups joined by colons (an IPv4 tail already replaced by two groups) make an
IPv6 address: eight groups, or fewer around one empty group inside that stands for the
missing ones, empty groups at the ends allowed only as part of that `::`. -/
def groupsFormAddress (parts : List String) : Bool :=
  let n := parts.length
  let inner := ((List.range n).filter fun i => 0 < i && i + 1 < n).filter fun i =>
    (parts[i]?.getD "").isEmpty
  let firstEmpty := (parts.head?.getD "").isEmpty
  let lastEmpty := (parts.getLast?.getD "").isEmpty
  match inner with
  | [] => n == 8 && parts.all isHextet
  | [k] =>
    let hi := if firstEmpty then k - 1 else k
    let lo := n - k - 1 - (if lastEmpty then 1 else 0)
    (!firstEmpty || k == 1) && (!lastEmpty || k + 2 == n) && hi + lo < 8 &&
      (parts.take hi).all isHextet && (parts.drop (n - lo)).all isHextet
  | _ => false

/-- Whether a text without a scope is an IPv6 address. -/
def isIPv6Body (s : String) : Bool :=
  let parts := s.splitOn ":"
  if s.isEmpty || parts.length < 3 then false
  else
    let last := parts.getLast?.getD ""
    let parts? : Option (List String) :=
      if last.contains '.' then
        if isIPv4 last then some (parts.dropLast ++ ["0", "0"]) else none
      else some parts
    match parts? with
    | none => false
    | some ps => ps.length ≤ 9 && groupsFormAddress ps

/-- Whether a text is an IPv6 address, perhaps with a scope after `%`. -/
def isIPv6 (s : String) : Bool :=
  !s.contains '/' &&
    match s.splitOn "%" with
    | [addr] => isIPv6Body addr
    | [addr, scope] => !scope.isEmpty && isIPv6Body addr
    | _ => false

/-- The kind of IP address a text spells, if it spells one. -/
def ipKind? (s : String) : Option IpKind :=
  if isIPv4 s then some .v4 else if isIPv6 s then some .v6 else none

end GraphProbe.Session
