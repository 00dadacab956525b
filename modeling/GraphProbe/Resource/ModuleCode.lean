import GraphProbe.Code.Eval
import GraphProbe.Resource.Tree

/-!
# Running a package's code

Looking a package up imports it, and importing a package runs the code of its
`__init__.py` (a plain module's file, likewise). A package lookup sees only how that run
ends: it goes through, or it raises an exception, which the lookup tells apart by the
exception's class and the classes it derives from.

The code must compile first: a file that does not gives a syntax error (an indentation or
tab error among them) naming the file and the line. Then its top level runs, with the
modules that exist in the standard library, among the installed distributions, or in the
test files themselves, and with the files of the working tree.
-/

namespace GraphProbe.Resource

open Code

/-- How running a module's code ends. -/
inductive CodeOutcome where
  | ran
  /-- The code raised a fault of a class with this lineage. -/
  | raised (f : Fault) (lineage : List String)
  deriving Inhabited

/-- The top-level modules of the standard library. -/
def standardModules : List String :=
  ("__future__ __main__ _thread abc aifc argparse array ast asynchat asyncio asyncore atexit audioop base64 bdb " ++
   "binascii bisect builtins bz2 cProfile calendar cgi cgitb chunk cmath cmd code codecs " ++
   "codeop collections colorsys compileall concurrent configparser contextlib contextvars " ++
   "copy copyreg crypt csv ctypes curses dataclasses datetime dbm decimal difflib dis " ++
   "distutils doctest email encodings ensurepip enum errno faulthandler fcntl filecmp " ++
   "fileinput fnmatch fractions ftplib functools gc genericpath getopt getpass gettext glob " ++
   "graphlib grp gzip hashlib heapq hmac html http imaplib imghdr imp importlib inspect io " ++
   "ipaddress itertools json keyword lib2to3 linecache locale logging lzma mailbox mailcap " ++
   "marshal math mimetypes mmap modulefinder multiprocessing netrc nis nntplib ntpath " ++
   "nturl2path numbers opcode operator optparse os ossaudiodev pathlib pdb pickle " ++
   "pickletools pipes pkgutil platform plistlib poplib posix posixpath pprint profile " ++
   "pstats pty pwd py_compile pyclbr pydoc pydoc_data pyexpat queue quopri random re " ++
   "readline reprlib resource rlcompleter runpy sched secrets select selectors shelve shlex " ++
   "shutil signal site smtpd smtplib sndhdr socket socketserver spwd sqlite3 sre_compile " ++
   "sre_constants sre_parse ssl stat statistics string stringprep struct subprocess sunau " ++
   "symtable sys sysconfig syslog tabnanny tarfile telnetlib tempfile termios textwrap " ++
   "threading time timeit tkinter token tokenize tomllib trace traceback tracemalloc tty " ++
   "turtle types typing unicodedata unittest urllib uu uuid venv warnings wave weakref " ++
   "webbrowser wsgiref xdrlib xml xmlrpc zipapp zipfile zipimport zlib zoneinfo").splitOn " "

/-- The top-level modules of the installed distributions: the kit, the web framework and
the GraphQL libraries it serves, and what they need. -/
def installedModules : List String :=
  ["graphql_testkit", "django", "graphene", "graphene_django", "graphql", "graphql_relay",
   "aniso8601", "channels", "daphne", "asgiref", "websocket", "sqlparse", "twisted",
   "autobahn", "txaio", "zope", "attr", "attrs", "hyperlink", "incremental", "automat",
   "constantly", "idna", "typing_extensions", "pytest", "pytest_django", "pluggy",
   "iniconfig", "packaging", "setuptools", "pkg_resources", "pip", "_pytest"]

/-- The packages among the top-level modules of the standard library. -/
def standardPackages : List String :=
  ["asyncio", "collections", "concurrent", "ctypes", "curses", "dbm", "distutils", "email",
   "encodings", "ensurepip", "html", "http", "importlib", "json", "lib2to3", "logging",
   "multiprocessing", "pydoc_data", "sqlite3", "tkinter", "tomllib", "unittest", "urllib",
   "venv", "wsgiref", "xml", "xmlrpc", "zoneinfo"]

/-- The modules of the installed kit. -/
def kitModules : List String :=
  ["graphql_testkit", "graphql_testkit.resources", "graphql_testkit.response",
   "graphql_testkit.exceptions", "graphql_testkit.testing", "graphql_testkit.template",
   "graphql_testkit.logging", "graphql_testkit.conf", "graphql_testkit.subscription",
   "graphql_testkit.subscription.protocol", "graphql_testkit.subscription.driver",
   "graphql_testkit.subscription.transport", "graphql_testkit.subscription.state",
   "graphql_testkit.subscription.handler"]

/-- The modules inside the `json` package of the standard library. -/
def jsonModules : List String := ["json.decoder", "json.encoder", "json.scanner", "json.tool"]

/-- The modules inside the packages of the standard library, by package (the names after
the package's own), for the packages whose contents are known here. -/
def standardSubmodules : List (String × List String) :=
  [("asyncio",
     ("__main__ base_events base_futures base_subprocess base_tasks constants " ++
      "coroutines events exceptions format_helpers futures locks log mixins " ++
      "proactor_events protocols queues runners selector_events sslproto staggered " ++
      "streams subprocess taskgroups tasks threads timeouts transports trsock " ++
      "unix_events windows_events windows_utils").splitOn " "),
   ("collections", "abc".splitOn " "),
   ("concurrent", "futures futures._base futures.process futures.thread".splitOn " "),
   ("ctypes",
     ("_aix _endian macholib macholib.dyld macholib.dylib macholib.framework util " ++
      "wintypes").splitOn " "),
   ("curses", "ascii has_key panel textpad".splitOn " "),
   ("dbm", "dumb gnu ndbm".splitOn " "),
   ("email",
     ("_encoded_words _header_value_parser _parseaddr _policybase base64mime charset " ++
      "contentmanager encoders errors feedparser generator header headerregistry " ++
      "iterators message mime mime.application mime.audio mime.base mime.image " ++
      "mime.message mime.multipart mime.nonmultipart mime.text parser policy " ++
      "quoprimime utils").splitOn " "),
   ("ensurepip", "__main__ _uninstall".splitOn " "),
   ("html", "entities parser".splitOn " "),
   ("http", "client cookiejar cookies server".splitOn " "),
   ("importlib",
     ("_abc _bootstrap _bootstrap_external abc machinery metadata metadata._adapters " ++
      "metadata._collections metadata._functools metadata._itertools metadata._meta " ++
      "metadata._text readers resources resources._adapters resources._common " ++
      "resources._itertools resources._legacy resources.abc resources.readers " ++
      "resources.simple simple util").splitOn " "),
   ("logging", "config handlers".splitOn " "),
   ("multiprocessing",
     ("connection context dummy dummy.connection forkserver heap managers pool " ++
      "popen_fork popen_forkserver popen_spawn_posix popen_spawn_win32 process queues " ++
      "reduction resource_sharer resource_tracker shared_memory sharedctypes spawn " ++
      "synchronize util").splitOn " "),
   ("pydoc_data", "topics".splitOn " "),
   ("sqlite3", "dbapi2 dump".splitOn " "),
   ("tkinter",
     ("__main__ colorchooser commondialog constants dialog dnd filedialog font " ++
      "messagebox scrolledtext simpledialog tix ttk").splitOn " "),
   ("tomllib", "_parser _re _types".splitOn " "),
   ("unittest",
     ("__main__ _log async_case case loader main mock result runner signals suite " ++
      "util").splitOn " "),
   ("urllib", "error parse request response robotparser".splitOn " "),
   ("venv", "__main__".splitOn " "),
   ("wsgiref", "handlers headers simple_server types util validate".splitOn " "),
   ("xml",
     ("dom dom.NodeFilter dom.domreg dom.expatbuilder dom.minicompat dom.minidom " ++
      "dom.pulldom dom.xmlbuilder etree etree.ElementInclude etree.ElementPath " ++
      "etree.ElementTree etree.cElementTree parsers parsers.expat sax sax._exceptions " ++
      "sax.expatreader sax.handler sax.saxutils sax.xmlreader").splitOn " "),
   ("xmlrpc", "client server".splitOn " "),
   ("zoneinfo", "_common _tzpath _zoneinfo".splitOn " ")]

/-- The packages among the modules inside the packages of the standard library. -/
def standardSubpackages : List String :=
  ("concurrent.futures ctypes.macholib email.mime importlib.metadata importlib.resources " ++
   "multiprocessing.dummy xml.dom xml.etree xml.parsers xml.sax").splitOn " "

/-- Whether a top-level module name belongs to the system: the standard library or an
installed distribution. -/
def isSystemName (top : String) : Bool :=
  standardModules.contains top || installedModules.contains top

/-- Whether a module outside the working tree exists, if the machine can tell: top-level
modules of the system exist, as do the kit's own modules and those of `json`; other modules
inside a package of the system may or may not. -/
def outsideModule (name : String) : Option Bool :=
  let parts := name.splitOn "."
  let top := parts.headD ""
  if parts.length == 1 then some (isSystemName top)
  else if top == "graphql_testkit" then some (kitModules.contains name)
  else if top == "json" then some (jsonModules.contains name)
  else
    match standardSubmodules.lookup top with
    | some inner => some (inner.contains (".".intercalate (parts.drop 1)))
    | none => if isSystemName top then none else some false

/-- Whether a module of the system is a package, if the machine can tell: the packages of
the standard library and those inside the ones whose contents are known, and the kit's. -/
def outsidePackageOf (name : String) : Option Bool :=
  let parts := name.splitOn "."
  let top := parts.headD ""
  if top == "graphql_testkit" then
    some (["graphql_testkit", "graphql_testkit.subscription"].contains name)
  else if parts.length == 1 then
    if standardModules.contains top then some (standardPackages.contains top) else none
  else if top == "json" then some false
  else if (standardSubmodules.lookup top).isSome then some (standardSubpackages.contains name)
  else none

/-- The directories of the system that code may name by an absolute path. -/
def systemDirectories : List String :=
  ["/", "/proc", "/tmp", "/etc", "/usr", "/dev", "/sys", "/var", "/home", "/root", "/bin",
   "/lib", "/opt", "/srv", "/mnt", "/run", "/boot", "/sbin"]

/-- Where a module name leads: a package's own directory, or a plain module's file. -/
inductive ModulePlace where
  | package (dir : List String)
  | plain (dir : List String)

/-- The place of the module `name` inside the directory `dir`. A directory with an
`__init__.py` comes first, then a plain module, then a bare directory. -/
def childModule (t : FileTree) (dir : List String) (name : String) : Option ModulePlace :=
  let sub := dir ++ [name]
  let isFile (names : List String) : Bool := (t.entry? names).any Entry.isFile
  if isFile (sub ++ ["__init__.py"]) && t.entry? sub == some .directory then some (.package sub)
  else if isFile (dir ++ [name ++ ".py"]) then some (.plain (dir ++ [name ++ ".py"]))
  else if t.entry? sub == some .directory then some (.package sub)
  else none

/-- The tree on the module path that holds a top-level module, if any. -/
def holder (path : List FileTree) (top : String) : Option FileTree :=
  path.find? fun t => (childModule t Location.root.parts top).isSome

/-- The code of a module of a tree by its dotted name, when the tree holds it: a package's
`__init__.py` (empty for a package without one) or a plain module's file. -/
def treeModule (t : FileTree) (parts : List String) : Option ModuleSource := do
  let (dirs, last) ← match parts.reverse with
    | last :: revDirs => some (revDirs.reverse, last)
    | [] => none
  let dir ← dirs.foldlM (fun d n => match childModule t d n with
    | some (.package sub) => some sub
    | _ => none) Location.root.parts
  let relative (names : List String) : String := "/".intercalate (names.drop Location.root.parts.length)
  let read (names : List String) : String :=
    match t.readText ⟨true, names⟩ with
    | some (.ok s) => s
    | _ => ""
  let refusal (names : List String) : Option (Nat × String) :=
    match t.entryAt? ⟨true, names⟩ with
    | some (.unreadable errno reason) => some (errno, reason)
    | _ => none
  match childModule t dir last with
  | some (.package sub) =>
    let init := sub ++ ["__init__.py"]
    if (t.entry? init).isSome then some ⟨relative init, read init, true, refusal init⟩
    else some ⟨relative (sub ++ ["__init__.py"]), "", true, none⟩
  | some (.plain file) => some ⟨relative file, read file, false, refusal file⟩
  | none => none

/-- The code of the module of future features: each names a `_Feature` with the release
that first offered it, the release that makes it the rule, and the flag it sets for the
compiler. -/
def futureModule : ModuleSource :=
  ⟨"__future__.py",
  ("all_feature_names = [\"nested_scopes\", \"generators\", \"division\", \"absolute_import\",\n" ++
   "    \"with_statement\", \"print_function\", \"unicode_literals\", \"barry_as_FLUFL\",\n" ++
   "    \"generator_stop\", \"annotations\"]\n" ++
   "__all__ = [\"all_feature_names\"] + all_feature_names\n" ++
   "CO_NESTED = 0x0010\n" ++
   "CO_GENERATOR_ALLOWED = 0\n" ++
   "CO_FUTURE_DIVISION = 0x20000\n" ++
   "CO_FUTURE_ABSOLUTE_IMPORT = 0x40000\n" ++
   "CO_FUTURE_WITH_STATEMENT = 0x80000\n" ++
   "CO_FUTURE_PRINT_FUNCTION = 0x100000\n" ++
   "CO_FUTURE_UNICODE_LITERALS = 0x200000\n" ++
   "CO_FUTURE_BARRY_AS_BDFL = 0x400000\n" ++
   "CO_FUTURE_GENERATOR_STOP = 0x800000\n" ++
   "CO_FUTURE_ANNOTATIONS = 0x1000000\n" ++
   "class _Feature:\n" ++
   "    def __init__(self, optionalRelease, mandatoryRelease, compiler_flag):\n" ++
   "        self.optional = optionalRelease\n" ++
   "        self.mandatory = mandatoryRelease\n" ++
   "        self.compiler_flag = compiler_flag\n" ++
   "    def getOptionalRelease(self):\n" ++
   "        return self.optional\n" ++
   "    def getMandatoryRelease(self):\n" ++
   "        return self.mandatory\n" ++
   "    def __repr__(self):\n" ++
   "        return \"_Feature\" + repr((self.optional, self.mandatory,\n" ++
   "            self.compiler_flag))\n" ++
   "nested_scopes = _Feature((2, 1, 0, \"beta\", 1), (2, 2, 0, \"alpha\", 0),\n" ++
   "    CO_NESTED)\n" ++
   "generators = _Feature((2, 2, 0, \"alpha\", 1), (2, 3, 0, \"final\", 0),\n" ++
   "    CO_GENERATOR_ALLOWED)\n" ++
   "division = _Feature((2, 2, 0, \"alpha\", 2), (3, 0, 0, \"alpha\", 0),\n" ++
   "    CO_FUTURE_DIVISION)\n" ++
   "absolute_import = _Feature((2, 5, 0, \"alpha\", 1), (3, 0, 0, \"alpha\", 0),\n" ++
   "    CO_FUTURE_ABSOLUTE_IMPORT)\n" ++
   "with_statement = _Feature((2, 5, 0, \"alpha\", 1), (2, 6, 0, \"alpha\", 0),\n" ++
   "    CO_FUTURE_WITH_STATEMENT)\n" ++
   "print_function = _Feature((2, 6, 0, \"alpha\", 2), (3, 0, 0, \"alpha\", 0),\n" ++
   "    CO_FUTURE_PRINT_FUNCTION)\n" ++
   "unicode_literals = _Feature((2, 6, 0, \"alpha\", 2), (3, 0, 0, \"alpha\", 0),\n" ++
   "    CO_FUTURE_UNICODE_LITERALS)\n" ++
   "barry_as_FLUFL = _Feature((3, 1, 0, \"alpha\", 2), (4, 0, 0, \"alpha\", 0),\n" ++
   "    CO_FUTURE_BARRY_AS_BDFL)\n" ++
   "generator_stop = _Feature((3, 5, 0, \"beta\", 1), (3, 7, 0, \"alpha\", 0),\n" ++
   "    CO_FUTURE_GENERATOR_STOP)\n" ++
   "annotations = _Feature((3, 7, 0, \"beta\", 1), None,\n" ++
   "    CO_FUTURE_ANNOTATIONS)\n"),
   false, none⟩

/-- What code running in the working tree `t` can ask of the system, with the trees of the
module path `path`: modules of the trees (the system's names apart), the system's modules,
and the paths of the working tree and of the system. -/
def codeHost (path : List FileTree) (t : FileTree) : Host where
  source name :=
    let parts := name.splitOn "."
    let top := parts.headD ""
    if name == "__future__" then some futureModule
    else if isSystemName top then none
    else (holder path top).bind fun tree => treeModule tree parts
  outside := outsideModule
  outsidePackage := outsidePackageOf
  entry p :=
    if systemDirectories.contains p || systemDirectories.contains (p ++ "/") then some false
    else if p == "/dev/null" then some true
    else
      (t.entryAt? (Location.join Location.root (Location.ofText p))).map Entry.isFile
  read p :=
    if p == "/dev/null" then some (.ok [])
    else
      match t.entryAt? (Location.join Location.root (Location.ofText p)) with
      | some (.file d) => some (.ok d)
      | some (.unreadable errno reason) => some (.error (errno, reason))
      | _ => none

/-- The class name, text, literal and lineage of an exception the code raised. -/
def describeException (h : Hooks) (exc : Val) : Run (String × String × String × List String) := do
  let c ← typeOf exc
  let lineage ← (← c.mro).toList.mapM (·.name)
  return (← c.name, ← h.str exc, ← h.repr exc, lineage)

/-- Import a package of the working tree `t` (with the trees of the module path `path`):
the code of each package on the way runs, and the first exception it raises ends the
import. A run the machine cannot follow to its end counts as one that went through. -/
def runPackage (path : List FileTree) (t : FileTree) (pkg : String) : CodeOutcome :=
  let start : Machine := { host := codeHost path t }
  let h := hooksOf evalDepth
  match (h.importModule pkg).run start with
  | .ok _ _ => .ran
  | .error (.thrown exc) after =>
    match (describeException h exc).run after with
    | .ok (name, text, literal, lineage) _ => .raised (.thrown name text literal) lineage
    | .error _ _ => .ran
  | .error _ _ => .ran

end GraphProbe.Resource
