/-!
# Modules that need no file

The names of the modules that come with the host. Those that are loaded before a run starts are
found whatever lies in the working directory; the others are found where the working directory has
no module of their name.
-/

namespace ServiceStubs.Source

/-- Modules that are loaded before a run starts. -/
def loadedModules : List String := [
  "abc", "argparse", "ast", "atexit", "builtins", "codecs", "collections", "collections.abc",
  "contextlib", "copy", "copyreg", "dataclasses", "dis", "encodings", "encodings.aliases",
  "encodings.utf_8", "enum", "errno", "fnmatch", "functools", "genericpath", "gettext",
  "importlib", "importlib.machinery", "importlib.util", "inspect", "io", "ipaddress",
  "itertools", "json", "json.decoder", "json.encoder", "json.scanner", "keyword", "linecache",
  "logging", "marshal", "ntpath", "opcode", "operator", "os", "os.path", "pathlib", "posix",
  "posixpath", "re", "reprlib", "stat", "string", "sys", "textwrap", "threading", "time",
  "token", "tokenize", "traceback", "types", "typing", "typing.io", "typing.re", "urllib",
  "urllib.parse", "warnings", "weakref", "zipimport"]

/-- Modules that are loaded once a module of the vocabulary of annotations is. -/
def vocabularyModules : List String := ["datetime", "decimal"]

/-- Whether a module of the standard library is loaded when classes are made. -/
def isLoaded (name : String) : Bool :=
  loadedModules.contains name || vocabularyModules.contains name

/-- Modules without modules inside them. -/
def plainModules : List String := [
  "abc", "aifc", "antigravity", "argparse", "array", "ast", "asynchat", "asyncore", "atexit",
  "audioop", "base64", "bdb", "binascii", "bisect", "builtins", "bz2", "cProfile", "calendar",
  "cgi", "cgitb", "chunk", "cmath", "cmd", "code", "codecs", "codeop", "colorsys", "compileall",
  "configparser", "contextlib", "contextvars", "copy", "copyreg", "crypt", "csv", "dataclasses",
  "datetime", "decimal", "difflib", "dis", "distutils", "doctest", "enum", "errno",
  "faulthandler", "fcntl", "filecmp", "fileinput", "fnmatch", "fractions", "ftplib",
  "functools", "gc", "genericpath", "getopt", "getpass", "gettext", "glob", "graphlib", "grp",
  "gzip", "hashlib", "heapq", "hmac", "imaplib", "imghdr", "imp", "inspect", "io", "ipaddress",
  "itertools", "keyword", "linecache", "locale", "lzma", "mailbox", "mailcap", "marshal",
  "math", "mimetypes", "mmap", "modulefinder", "netrc", "nntplib", "ntpath", "nturl2path",
  "numbers", "opcode", "operator", "optparse", "os", "ossaudiodev", "pathlib", "pdb", "pickle",
  "pickletools", "pipes", "pkgutil", "platform", "plistlib", "poplib", "posix", "posixpath",
  "pprint", "profile", "pstats", "pty", "pwd", "py_compile", "pyclbr", "pydoc", "pyexpat",
  "queue", "quopri", "random", "readline", "reprlib", "resource", "rlcompleter", "runpy",
  "sched", "secrets", "select", "selectors", "shelve", "shlex", "shutil", "signal", "site",
  "smtpd", "smtplib", "sndhdr", "socket", "socketserver", "spwd", "sre_compile",
  "sre_constants", "sre_parse", "ssl", "stat", "statistics", "string", "stringprep", "struct",
  "subprocess", "sunau", "symtable", "sys", "sysconfig", "syslog", "tabnanny", "tarfile",
  "telnetlib", "tempfile", "termios", "textwrap", "this", "threading", "time", "timeit",
  "token", "tokenize", "trace", "traceback", "tracemalloc", "tty", "turtle", "types", "typing",
  "unicodedata", "uu", "uuid", "warnings", "wave", "weakref", "webbrowser", "xdrlib", "zipapp",
  "zipfile", "zipimport", "zlib"]

/-- Modules with modules inside them. -/
def standardPackages : List String := [
  "asyncio", "collections", "concurrent", "ctypes", "curses", "dbm", "email", "encodings",
  "ensurepip", "html", "http", "idlelib", "importlib", "json", "lib2to3", "logging",
  "multiprocessing", "pydoc_data", "re", "sqlite3", "tkinter", "tomllib", "turtledemo",
  "unittest", "urllib", "venv", "wsgiref", "xml", "xmlrpc", "zoneinfo"]

/-- The modules inside standard packages, with blanks between their names. -/
def standardContents : List (String × String) := [
  ("asyncio", "base_events base_futures base_subprocess base_tasks constants coroutines events " ++
    "exceptions format_helpers futures locks log mixins proactor_events protocols queues " ++
    "runners selector_events sslproto staggered streams subprocess taskgroups tasks threads " ++
    "timeouts transports trsock unix_events"),
  ("collections", "abc"),
  ("concurrent", "futures"),
  ("concurrent.futures", "process thread"),
  ("ctypes", "util wintypes"),
  ("curses", "ascii has_key panel textpad"),
  ("dbm", "dumb gnu ndbm"),
  ("email", "base64mime charset contentmanager encoders errors feedparser generator header " ++
    "headerregistry iterators message mime parser policy quoprimime utils"),
  ("email.mime", "application audio base image message multipart nonmultipart text"),
  ("encodings", "aliases ascii idna latin_1 punycode utf_16 utf_32 utf_7 utf_8 utf_8_sig"),
  ("html", "entities parser"),
  ("http", "client cookiejar cookies server"),
  ("importlib", "abc machinery metadata readers resources simple util"),
  ("importlib.resources", "abc readers simple"),
  ("json", "decoder encoder scanner tool"),
  ("logging", "config handlers"),
  ("multiprocessing", "connection context dummy forkserver heap managers pool popen_fork " ++
    "popen_forkserver popen_spawn_posix process queues reduction resource_sharer " ++
    "resource_tracker shared_memory sharedctypes spawn synchronize util"),
  ("multiprocessing.dummy", "connection"),
  ("pydoc_data", "topics"),
  ("sqlite3", "dbapi2 dump"),
  ("unittest", "async_case case loader main mock result runner signals suite util"),
  ("urllib", "error parse request response robotparser"),
  ("wsgiref", "handlers headers simple_server types util validate"),
  ("xml", "dom etree parsers sax"),
  ("xml.dom", "NodeFilter domreg expatbuilder minicompat minidom pulldom xmlbuilder"),
  ("xml.etree", "ElementInclude ElementPath ElementTree cElementTree"),
  ("xml.parsers", "expat"),
  ("xml.sax", "expatreader handler saxutils xmlreader"),
  ("xmlrpc", "client server")]

/-- Modules that do not tell the name under which they are imported. -/
def toldNames : List (String × String) := [("os.path", "posixpath")]

end ServiceStubs.Source
