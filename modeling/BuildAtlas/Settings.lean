import BuildAtlas.Duration
import BuildAtlas.Json.Basic
import BuildAtlas.Note
import BuildAtlas.Text.Blank

/-! # Settings

How the workspace is queried and indexed. Editors send settings as JSON; every key of the
section is read on its own, and a value that cannot be used leaves the default.
-/
namespace BuildAtlas

structure Settings where
  executable : String := "bazel"
  targetQuery : String := "//..."
  sourceQuery : String := "kind(\"source file\", //...:*)"
  buildFileName : String := "BUILD"
  /-- How the line begins in which a failed query says what went wrong. -/
  errorMarker : String := "ERROR"
  /-- No limit when zero. -/
  queryTimeoutMs : Nat := 0
  /-- No periodic refresh when zero. -/
  refreshIntervalSecs : Nat := 0
  deriving DecidableEq, Repr, Inhabited

namespace Settings

def queryTimeout (s : Settings) : Option Duration :=
  if s.queryTimeoutMs = 0 then none else some (.ofMilliseconds s.queryTimeoutMs)

def refreshInterval (s : Settings) : Option Duration :=
  if s.refreshIntervalSecs = 0 then none else some (.ofSeconds s.refreshIntervalSecs)

/-- Whether going from one to the other changes what the index would hold. -/
def requiresRebuild (old new : Settings) : Bool :=
  old.executable != new.executable || old.targetQuery != new.targetQuery
    || old.sourceQuery != new.sourceQuery

/-- A text can be used when it is not blank and has no NUL in it. -/
def isUsable (s : String) : Bool := !Text.allBlank s && !s.toList.contains '\x00'

def text? (group : Json) (key : String) : Option String :=
  ((group.get? key).bind Json.string?).filter isUsable

def isFileName (s : String) : Bool := !s.toList.contains '/'

def natural (group : Json) (key : String) : Nat :=
  ((group.get? key).bind Json.natural?).getD 0

def ofGroup (group : Json) : Settings where
  executable := (text? group "executable").getD "bazel"
  targetQuery := (text? group "targetQuery").getD "//..."
  sourceQuery := (text? group "sourceQuery").getD "kind(\"source file\", //...:*)"
  buildFileName := ((text? group "buildFileName").filter isFileName).getD "BUILD"
  errorMarker := (text? group "errorMarker").getD "ERROR"
  queryTimeoutMs := natural group "queryTimeoutMs"
  refreshIntervalSecs := natural group "refreshIntervalSecs"

def group? (settings : Json) : Option Json := settings.get? "bazel"

def ofJson? (settings : Json) : Option Settings := (group? settings).map ofGroup

/-- What is noted while a group of settings is read. -/
def groupNotes (group : Json) : List Note :=
  let s := ofGroup group
  let ignored := (text? group "buildFileName").toList.filter fun name => !isFileName name
  ignored.map (fun name =>
      .warn ("Ignoring bazel.buildFileName with a path separator: " ++ name))
    ++ [
      .info "Index configuration loaded from settings:",
      .info ("  executable: " ++ s.executable),
      .info ("  target_query: " ++ s.targetQuery),
      .info ("  source_query: " ++ s.sourceQuery),
      .info ("  build_file_name: " ++ s.buildFileName),
      .info ("  error_marker: " ++ s.errorMarker),
      .info ("  query_timeout_ms: " ++ toString s.queryTimeoutMs),
      .info ("  refresh_interval_secs: " ++ toString s.refreshIntervalSecs)]

def notes (settings : Json) : List Note :=
  match group? settings with
  | some group => groupNotes group
  | none => []

end BuildAtlas.Settings
