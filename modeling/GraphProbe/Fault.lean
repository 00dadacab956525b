import GraphProbe.Json.Reader
import GraphProbe.Json.Writer

/-!
# Faults

Every way an operation of the kit can go wrong is a `Fault`. The central one is a test
*failure*: a message, optionally with the fault that caused it. A *transport* fault names
the session's address and a reason. All other faults carry a kind and arguments.

Each fault has a *text* (what a message shows) and a *literal* (the kind's name with its
arguments), and failures show their cause by its literal:
`<message> (caused by <literal of the cause>)`.
-/

namespace GraphProbe

/-- The kinds of faults other than failures and transport faults, with the names under
which the kit reports them. -/
inductive FaultKind where
  | invalidValue
  | wrongType
  | missingKey
  | runtime
  | system
  | recursion
  | missingAttribute
  | connectionRefused
  | missingModule
  | connectionClosed
  | overflow
  | undecodable
  | malformedJson
  | timeout
  | outOfRange
  | unencodable
  | unknownEncoding
  | queryLanguage
  | importFailure
  | assertion
  | invalidCode
  | indentation
  | zeroDivision
  | exception
  | undefinedName
  /-- An exception class of another name, shown by the rule of the kind `rule`. -/
  | named (name : String) (rule : FaultKind)
  deriving BEq, Repr, Inhabited

/-- The name under which a kind of fault is reported. -/
def FaultKind.name : FaultKind → String
  | .invalidValue => "ValueError"
  | .wrongType => "TypeError"
  | .missingKey => "KeyError"
  | .runtime => "RuntimeError"
  | .system => "OSError"
  | .recursion => "RecursionError"
  | .missingAttribute => "AttributeError"
  | .connectionRefused => "ConnectionRefusedError"
  | .missingModule => "ModuleNotFoundError"
  | .connectionClosed => "WebSocketConnectionClosedException"
  | .overflow => "OverflowError"
  | .undecodable => "UnicodeDecodeError"
  | .malformedJson => "JSONDecodeError"
  | .timeout => "TimeoutError"
  | .outOfRange => "IndexError"
  | .unencodable => "UnicodeEncodeError"
  | .unknownEncoding => "LookupError"
  | .queryLanguage => "GraphQLError"
  | .importFailure => "ImportError"
  | .assertion => "AssertionError"
  | .invalidCode => "SyntaxError"
  | .indentation => "IndentationError"
  | .zeroDivision => "ZeroDivisionError"
  | .exception => "Exception"
  | .undefinedName => "NameError"
  | .named n _ => n

/-- The kind whose rule gives the text of a fault of this kind. -/
def FaultKind.rule : FaultKind → FaultKind
  | .named _ r => r
  | k => k

/-- The exception classes a system error number selects, for `OSError` itself. -/
def errnoClasses : List (Int × String) :=
  [(1, "PermissionError"), (2, "FileNotFoundError"), (3, "ProcessLookupError"),
   (4, "InterruptedError"), (10, "ChildProcessError"), (11, "BlockingIOError"),
   (13, "PermissionError"), (17, "FileExistsError"), (20, "NotADirectoryError"),
   (21, "IsADirectoryError"), (32, "BrokenPipeError"), (103, "ConnectionAbortedError"),
   (104, "ConnectionResetError"), (108, "BrokenPipeError"), (110, "TimeoutError"),
   (111, "ConnectionRefusedError"), (114, "BlockingIOError"), (115, "BlockingIOError")]

/-- The kind of a system error by its number: the class the number selects, else `OSError`. -/
def FaultKind.ofErrno (n : Int) : FaultKind :=
  match errnoClasses.lookup n with
  | some name => .named name .system
  | none => .system

/-- A fault. -/
inductive Fault where
  /-- A test failure, with the fault that caused it. -/
  | failure (message : String) (cause : Option Fault)
  /-- A session could not be used. -/
  | transport (uri : String) (reason : String)
  /-- Any other fault: its kind and its arguments. -/
  | raised (kind : FaultKind) (args : List Value)
  /-- An exception that code raised: the name of its class, its text and its literal, as
  the code's own classes may define them. -/
  | thrown (name : String) (text : String) (literal : String)
  deriving Inhabited

namespace Fault

/-- A fault of a kind with one text argument. -/
def simple (kind : FaultKind) (message : String) : Fault := .raised kind [.str message]

/-- A failure without a cause. -/
def fail (message : String) : Fault := .failure message none

/-- A failure caused by another fault. -/
def failBecause (message : String) (cause : Fault) : Fault := .failure message (some cause)

/-- The name under which a fault is reported. -/
def kindName : Fault → String
  | .failure .. => "GraphQLTestFailure"
  | .transport .. => "TransportError"
  | .raised k _ => k.name
  | .thrown name _ _ => name

/-- The text of a transport fault. -/
def transportText (uri reason : String) : String :=
  s!"WebSocket transport for '{uri}' failed: {reason}"

/-- The text of an undecodable-bytes fault from its five arguments. -/
def undecodableText : List Value → String
  | [.str enc, .bytes obj, .int start, .int stop, .str reason] =>
    let pos := if stop - start == 1 then
      let b : UInt8 := obj[start.toNat]?.getD 0
      s!"byte 0x{Text.hexPadded 2 b.toNat} in position {start}"
    else s!"bytes in position {start}-{stop - 1}"
    s!"{Text.quote enc} codec can't decode {pos}: {reason}"
  | args => Value.literal (.arr args)

/-- The escape of a character in an encoding fault: its code point in hex. -/
def escapedCodePoint (n : Nat) : String :=
  if n < 0x100 then "\\x" ++ Text.hexPadded 2 n
  else if n < 0x10000 then "\\u" ++ Text.hexPadded 4 n
  else "\\U" ++ Text.hexPadded 8 n

/-- The text of an unencodable-text fault from its five arguments. -/
def unencodableText : List Value → String
  | [.str enc, .str obj, .int start, .int stop, .str reason] =>
    let pos := if stop - start == 1 then
      let n := ((Text.codes obj)[start.toNat]?).getD 0x20
      s!"character '{escapedCodePoint n}' in position {start}"
    else s!"characters in position {start}-{stop - 1}"
    s!"{Text.quote enc} codec can't encode {pos}: {reason}"
  | args => Value.literal (.arr args)

/-- The text of a fault of a kind by its rule, from the fault's arguments. -/
def raisedText : FaultKind → List Value → String
  | .missingKey, [k] => k.literal
  | .system, [.int n, .str s] => s!"[Errno {n}] {s}"
  | .undecodable, args => undecodableText args
  | .unencodable, args => unencodableText args
  | _, [] => ""
  | _, [a] => a.display
  | _, args => "(" ++ Json.joinWith ", " (args.map Value.literal) ++ ")"

/-- The literal of a fault: its kind's name and its arguments. -/
def literal : Fault → String
  | .failure msg _ => "GraphQLTestFailure(" ++ Text.quote msg ++ ")"
  | .transport uri reason => "TransportError(" ++ Text.quote (transportText uri reason) ++ ")"
  | .raised k args => k.name ++ "(" ++ Json.joinWith ", " (args.map Value.literal) ++ ")"
  | .thrown _ _ lit => lit

/-- The text of a fault: what a message shows of it. -/
def text : Fault → String
  | .failure msg none => msg
  | .failure msg (some c) => msg ++ " (caused by " ++ literal c ++ ")"
  | .transport uri reason => transportText uri reason
  | .raised k args => raisedText k.rule args
  | .thrown _ t _ => t

/-- A fault raised inside a character set, as the caller of the set sees it. A fault whose
only argument is its message, or that has none, gets the operation and the set's name put in
front of its text: `decoding with 'punycode' codec failed (UnicodeError: …)`. Faults of
octets or text that a set cannot take, and faults with more arguments, stay as they are. -/
def withinCodec (operation name : String) : Fault → Fault
  | .raised k args =>
    let wrapped (message : String) : Fault :=
      .raised k [.str (operation ++ " with '" ++ name ++ "' codec failed (" ++
        k.name ++ ": " ++ message ++ ")")]
    if k == .undecodable || k == .unencodable then .raised k args
    else match args with
      | [] => wrapped ""
      | [.str message] => wrapped message
      | _ => .raised k args
  | f => f

/-- The fault of a JSON text that cannot be read. -/
def ofReadError : Json.ReadError → Fault
  | .malformed f p => simple .malformedJson (Json.syntaxMessage f p)
  | .integerTooLong n =>
    simple .invalidValue
      (s!"Exceeds the limit ({Number.maxIntDigits} digits) for integer string conversion: " ++
        s!"value has {n} digits; use sys.set_int_max_str_digits() to increase the limit")
  | .nestedTooDeep inObject =>
    simple .recursion
      ("maximum recursion depth exceeded while decoding a JSON " ++
        (if inObject then "object" else "array") ++ " from a unicode string")

/-- The fault of a value that has no JSON text. -/
def ofWriteError (e : Json.WriteError) : Fault := simple .wrongType e.message

/-- Whether a fault is a failure. -/
def isFailure : Fault → Bool
  | .failure .. => true
  | _ => false

/-- Whether a fault is one a caller of a session handles as a session problem: a transport
fault or a system fault (connection refusals and timeouts included). -/
def isSessionFault : Fault → Bool
  | .transport .. => true
  | .raised .system _ => true
  | .raised .connectionRefused _ => true
  | .raised .timeout _ => true
  | _ => false

end Fault

end GraphProbe
