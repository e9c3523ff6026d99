import VersionFloor.Changelogs

set_option autoImplicit false

namespace VersionFloor.Changelogs

/-- A feature that was added in `3.minor`. -/
def since (name : String) (minor : UInt32) (note : Option String := none) : String × Requirement :=
  (name, { added := some ⟨minor, none⟩, note })

/-- A feature that was deprecated and then removed. -/
def gone (name : String) (deprecated removed : Version) (note : Option String := none) :
    String × Requirement :=
  (name, { deprecated := some deprecated, removed := some removed, note })

/-- The types that can be subscripted in a type hint. -/
def genericItems : List String :=
  ["tuple",
   "list",
   "dict",
   "set",
   "frozenset",
   "type",
   "collections.deque",
   "collections.defaultdict",
   "collections.OrderedDict",
   "collections.Counter",
   "collections.ChainMap",
   "collections.abc.Awaitable",
   "collections.abc.Coroutine",
   "collections.abc.AsyncIterable",
   "collections.abc.AsyncIterator",
   "collections.abc.AsyncGenerator",
   "collections.abc.Iterable",
   "collections.abc.Iterator",
   "collections.abc.Generator",
   "collections.abc.Reversible",
   "collections.abc.Container",
   "collections.abc.Collection",
   "collections.abc.Callable",
   "collections.abc.Set",
   "collections.abc.MutableSet",
   "collections.abc.Mapping",
   "collections.abc.MutableMapping",
   "collections.abc.Sequence",
   "collections.abc.MutableSequence",
   "collections.abc.ByteString",
   "collections.abc.MappingView",
   "collections.abc.KeysView",
   "collections.abc.ItemsView",
   "collections.abc.ValuesView",
   "contextlib.AbstractContextManager",
   "contextlib.AbstractAsyncContextManager",
   "re.Pattern",
   "re.Match"]

/-- The features of the language. -/
def languageEntries : List (String × Requirement) := [
  since "multiple context managers" 1 (some "with A() as a, B() as b"),
  since "yield from expressions" 3 (some "PEP 380"),
  since "unicode literals" 3 (some "PEP 414"),
  since "async and await" 5 (some "PEP 492"),
  since "asynchronous comprehensions" 6 (some "PEP 530"),
  since "f-string literals" 6 (some "PEP 498"),
  since "variable annotations" 6 (some "PEP 526"),
  since "positional-only arguments" 8 (some "PEP 570"),
  since "assignment expressions" 8 (some "PEP 572"),
  ("type hinting generics", {
    added := some ⟨9, none⟩
    note := some "PEP 585"
    items := some genericItems }),
  since "pattern matching" 10 (some "PEP 634"),
  since "union type operator" 10 (some "PEP 604")]

/-- Modules of the standard library and what is in them. -/
def modulesEntries : List (String × Requirement) := [
  since "argparse" 2 (some "PEP 389"),
  since "asyncio" 4 (some "PEP 3156"),
  gone "asyncio.async" ⟨4, some 4⟩ ⟨10, none⟩ (some "Use asyncio.ensure_future"),
  ("asyncio.ensure_future", { added := some ⟨4, some 4⟩ }),
  since "asyncio.run" 7,
  since "asyncio.create_task" 7,
  since "asyncio.to_thread" 9,
  since "asyncio.TaskGroup" 11,
  since "asyncio.timeout" 11,
  gone "asynchat" ⟨6, none⟩ ⟨12, none⟩,
  gone "asyncore" ⟨6, none⟩ ⟨12, none⟩,
  since "concurrent.futures" 2 (some "PEP 3148"),
  since "contextvars" 7 (some "PEP 567"),
  since "dataclasses" 7 (some "PEP 557"),
  gone "distutils" ⟨10, none⟩ ⟨12, none⟩ (some "PEP 632"),
  since "enum" 4 (some "PEP 435"),
  since "faulthandler" 3,
  since "functools.cache" 9,
  since "functools.cached_property" 8,
  since "functools.singledispatchmethod" 8,
  since "graphlib" 9,
  gone "imp" ⟨4, none⟩ ⟨12, none⟩ (some "Use importlib"),
  since "importlib.metadata" 8,
  since "importlib.resources" 7,
  since "ipaddress" 3 (some "PEP 3144"),
  since "lzma" 3,
  since "math.dist" 8,
  since "math.gcd" 5,
  since "math.isqrt" 8,
  since "math.lcm" 9,
  since "math.prod" 8,
  since "os.scandir" 5 (some "PEP 471"),
  since "os.fspath" 6 (some "PEP 519"),
  since "os.path.commonpath" 5,
  since "pathlib" 4 (some "PEP 428"),
  since "secrets" 6 (some "PEP 506"),
  since "selectors" 4,
  since "shlex.join" 8,
  since "statistics" 4 (some "PEP 450"),
  since "subprocess.run" 5,
  since "tomllib" 11 (some "PEP 680"),
  since "tracemalloc" 4 (some "PEP 454"),
  since "typing" 5 (some "PEP 484"),
  since "typing.Protocol" 8 (some "PEP 544"),
  since "typing.TypedDict" 8 (some "PEP 589"),
  since "typing.Literal" 8 (some "PEP 586"),
  since "typing.Final" 8 (some "PEP 591"),
  since "typing.Annotated" 9 (some "PEP 593"),
  since "typing.ParamSpec" 10 (some "PEP 612"),
  since "typing.TypeAlias" 10 (some "PEP 613"),
  since "typing.Self" 11 (some "PEP 673"),
  since "typing.override" 12 (some "PEP 698"),
  since "unittest.mock" 3,
  since "venv" 3 (some "PEP 405"),
  since "zipapp" 5 (some "PEP 441"),
  since "zoneinfo" 9 (some "PEP 615")]

/-- Built-in functions. -/
def functionsEntries : List (String × Requirement) := [
  since "callable" 2 (some "Restored after removal in 3.0"),
  since "breakpoint" 7 (some "PEP 553"),
  since "aiter" 10,
  since "anext" 10]

/-- Built-in exceptions. -/
def exceptionsEntries : List (String × Requirement) := [
  since "BlockingIOError" 3 (some "PEP 3151"),
  since "ChildProcessError" 3 (some "PEP 3151"),
  since "ConnectionError" 3 (some "PEP 3151"),
  since "BrokenPipeError" 3 (some "PEP 3151"),
  since "ConnectionAbortedError" 3 (some "PEP 3151"),
  since "ConnectionRefusedError" 3 (some "PEP 3151"),
  since "ConnectionResetError" 3 (some "PEP 3151"),
  since "FileExistsError" 3 (some "PEP 3151"),
  since "FileNotFoundError" 3 (some "PEP 3151"),
  since "InterruptedError" 3 (some "PEP 3151"),
  since "IsADirectoryError" 3 (some "PEP 3151"),
  since "NotADirectoryError" 3 (some "PEP 3151"),
  since "PermissionError" 3 (some "PEP 3151"),
  since "ProcessLookupError" 3 (some "PEP 3151"),
  since "TimeoutError" 3 (some "PEP 3151"),
  since "StopAsyncIteration" 5 (some "PEP 492"),
  since "RecursionError" 5,
  since "ModuleNotFoundError" 6,
  since "EncodingWarning" 10 (some "PEP 597"),
  since "BaseExceptionGroup" 11 (some "PEP 654"),
  since "ExceptionGroup" 11 (some "PEP 654"),
  since "PythonFinalizationError" 13]

def builtin : Changelogs where
  language := Changelog.ofEntries languageEntries
  modules := Changelog.ofEntries modulesEntries
  functions := Changelog.ofEntries functionsEntries
  exceptions := Changelog.ofEntries exceptionsEntries

end VersionFloor.Changelogs
