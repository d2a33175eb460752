import BuildAtlas.Dispatch
import BuildAtlas.Json.Printer
import BuildAtlas.Json.Reader
import BuildAtlas.Session.Refresh
import BuildAtlas.Text.Utf8
import BuildAtlas.Workspace.Lookup

/-! # The command line

Indexes a workspace once and prints the packages as JSON. The settings file and the build tool are
those of the system it runs on. A failure is printed with its causes below it.
-/
namespace BuildAtlas.CommandLine

def version : String := "bazel-index 0.1.0"

def usage : String :=
  version ++ ", a Bazel workspace label index.\n\n"
    ++ "Usage: bazel-index [OPTIONS]\n\n"
    ++ "Available options:\n\n"
    ++ "--dump [DIR]                 Index the workspace at DIR (default: .) and print it as JSON\n"
    ++ "--settings FILE              Read index settings from a JSON file "
    ++ "(\x7b\"bazel\": \x7b...\x7d\x7d)\n"
    ++ "--version                    Print the version\n"
    ++ "--help                       Print this help message\n\n"

structure Outcome where
  exitCode : Nat
  stdout : String := ""
  stderr : String := ""
  deriving DecidableEq, Repr

/-! ## Arguments -/

/-- What the arguments ask for. -/
inductive Request where
  | showUsage
  | showVersion
  | dump (directory : String) (settings : Option String)
  | unknownArgument (text : String)
  | missingSettingsFile
  deriving DecidableEq, Repr

def startsOption (s : String) : Bool := ['-', '-'].isPrefixOf s.toList

/-- Read the arguments from left to right, later ones replacing earlier ones. -/
def readArguments (directory settings : Option String) : List String → Request
  | [] =>
    match directory with
    | some directory => .dump directory settings
    | none => .showUsage
  | "--version" :: _ => .showVersion
  | "--help" :: _ => .showUsage
  | "--settings" :: file :: rest => readArguments directory (some file) rest
  | ["--settings"] => .missingSettingsFile
  | "--dump" :: next :: rest =>
    if startsOption next then readArguments (some ".") settings (next :: rest)
    else readArguments (some next) settings rest
  | ["--dump"] => readArguments (some ".") settings []
  | other :: _ => .unknownArgument other

def Request.ofArguments (args : List String) : Request := readArguments none none args

/-! ## Failures -/

/-- A message and what caused it, outermost first. -/
structure Failure where
  message : String
  causes : List String := []
  deriving DecidableEq, Repr

/-- Further lines of a message are indented as far as its first one. -/
def indented (gap text : String) : String :=
  ("\n" ++ gap).intercalate ((text.toList.splitOn '\n').map String.ofList)

def numbered (n : Nat) (cause : String) : String :=
  let number := toString n
  "\n" ++ String.ofList (List.replicate (5 - number.length) ' ') ++ number ++ ": "
    ++ indented "       " cause

def Failure.render (f : Failure) : String :=
  "Error: " ++ f.message ++
    (match f.causes with
    | [] => ""
    | [cause] => "\n\nCaused by:\n    " ++ indented "    " cause
    | causes =>
      "\n\nCaused by:" ++ String.join (causes.zipIdx.map fun (cause, n) => numbered n cause))
    ++ "\n"

/-- A fault and the failure of the system behind it, if any. -/
def faultChain (fault : Fault) : List String :=
  match fault with
  | .dispatch _ cause => [fault.message, cause.message]
  | _ => [fault.message]

/-! ## Settings -/

section system
variable {σ : Type} (sys : System σ) (st : σ)

def readFile (path : String) : Except String String :=
  match sys.read st path with
  | .ok bytes =>
    let encoded := Text.ofBytes bytes
    let text := Text.decode encoded
    if Text.encode text = encoded then .ok text else .error "stream did not contain valid UTF-8"
  | .error failure => .error failure.numberedMessage

def settingsOfText (path text : String) : Except Failure Settings :=
  match Json.read text with
  | .ok v => .ok ((Settings.ofJson? v).getD {})
  | .error e => .error ⟨"invalid JSON in " ++ path, [e.message]⟩

def loadSettings : Option String → Except Failure Settings
  | none => .ok {}
  | some path =>
    match readFile sys st path with
    | .ok text => settingsOfText path text
    | .error cause => .error ⟨"failed to read settings from " ++ path, [cause]⟩

def Request.settings? : Request → Option String
  | .dump _ path => path
  | _ => none

/-- The files that decide what a request comes to, once its settings are known: its settings,
its directory and the build tool if that is a path. -/
def Request.paths (settings : Settings) : Request → List String
  | .dump directory path =>
    let tool := settings.executable
    path.toList ++ [directory] ++
      (if tool.toList.head? = some '/' then [tool]
      else if tool.toList.contains '/' then [directory ++ "/" ++ tool] else [])
  | _ => []

/-! ## Output -/

def targetJson (t : Target) : Json :=
  .object [("path", .strings t.package), ("label", .string t.name), ("kind", .string t.kind)]

def fileJson (f : SourceFile) : Json :=
  let package := (f.package.map fun p => ("package", Json.strings p)).toList
  .object ([("file_name", .string f.name), ("path", .strings f.path)] ++ package)

def packageJson (path : String) (p : Package) : Json :=
  .object [("path", .string path), ("has_build_file", .bool p.hasBuildFile),
    ("build_targets", .list (p.targets.map targetJson)),
    ("source_files", .list (p.files.map fileJson))]

def statsJson (s : Stats) : Json :=
  .object [("build_targets", .ofNat s.targets), ("source_files", .ofNat s.files),
    ("skipped_lines", .ofNat s.skipped), ("packages", .ofNat s.packages)]

def dumpJson (directory : String) (stats : Stats) (w : Workspace) : Json :=
  .object [("workspace", .string directory), ("stats", statsJson stats),
    ("packages", .list (w.packages.map fun (path, p) => packageJson path p))]

/-! ## Running -/

/-- Index the workspace in a directory. -/
def index (directory : String) (settings : Settings) : Except Failure String :=
  let d : Dispatcher := { workingDirectory := some directory, timeout := settings.queryTimeout }
  let session : Session σ := { state := { settings }, tool := st }
  let (result, session) := session.refresh (d.tool sys) .posix
  match result with
  | .error fault => .error ⟨"failed to index " ++ directory, faultChain fault⟩
  | .ok stats => .ok (dumpJson directory stats session.state.current.workspace).pretty

def perform : Request → Except Failure String
  | .showUsage => .ok usage
  | .showVersion => .ok (version ++ "\n")
  | .unknownArgument text => .error ⟨"Unknown argument: '" ++ text ++ "'", []⟩
  | .missingSettingsFile => .error ⟨"--settings requires a file argument", []⟩
  | .dump directory path =>
    match loadSettings sys st path with
    | .error failure => .error failure
    | .ok settings => (index sys st directory settings).map (· ++ "\n")

def run (args : List String) : Outcome :=
  match perform sys st (.ofArguments args) with
  | .ok text => { exitCode := 0, stdout := text }
  | .error failure => { exitCode := 1, stderr := failure.render }

end system

end BuildAtlas.CommandLine
