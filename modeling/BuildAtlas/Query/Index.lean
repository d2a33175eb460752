import BuildAtlas.Query.Command
import BuildAtlas.Query.Listing
import BuildAtlas.Settings
import BuildAtlas.Workspace.Basic

/-! # Building the index

Two queries, one for the targets with their kinds and one for the source files, give the items
of a fresh workspace. A build tool is anything that answers commands and may change by it.
-/
namespace BuildAtlas

structure Stats where
  targets : Nat := 0
  files : Nat := 0
  skipped : Nat := 0
  packages : Nat := 0
  deriving DecidableEq, Repr

structure Index where
  workspace : Workspace
  stats : Stats
  deriving DecidableEq, Repr

def Workspace.ofItems (targets : List Target) (files : List SourceFile) : Workspace :=
  files.foldl (fun w f => (w.insertFile f).2)
    (targets.foldl (fun w t => (w.insertTarget t).2) .empty)

def Index.ofListings (targets : Listing Target) (files : Listing SourceFile) : Index :=
  let workspace := Workspace.ofItems targets.items files.items
  { workspace
    stats := {
      targets := targets.items.length
      files := files.items.length
      skipped := targets.skipped.length + files.skipped.length
      packages := workspace.packageCount } }

def Index.indexedNote (s : Stats) : Note :=
  .info ("Indexed " ++ toString s.targets ++ " targets and " ++ toString s.files
    ++ " source files in " ++ toString s.packages ++ " packages (" ++ toString s.skipped
    ++ " lines skipped)")

structure Tool (σ : Type) where
  run : Command → σ → Except Fault Output × σ

/-- What an exchange with a tool brings: a result, the tool afterwards, and notes. -/
structure Exchange (σ α : Type) where
  result : Except Fault α
  tool : σ
  notes : List Note

namespace Query

def targetCommand (shell : Shell) (s : Settings) : Command :=
  ⟨shell, s.executable, s.targetQuery, .labelKind, s.queryTimeout⟩

def sourceCommand (shell : Shell) (s : Settings) : Command :=
  ⟨shell, s.executable, s.sourceQuery, .label, s.queryTimeout⟩

/-- The output of a command that ended well. -/
def accept (s : Settings) (o : Output) : Except Fault Output :=
  if o.succeeded then .ok o else .error (.query (Output.errorLine s.errorMarker o.stderrLines))

def exitNotes (s : Settings) (c : Command) (o : Output) : List Note :=
  if o.succeeded then []
  else
    [.warn ("`" ++ c.line ++ "` exited with " ++ toString o.exitCode ++ ": "
      ++ Output.errorLine s.errorMarker o.stderrLines)]

def ask (tool : Tool σ) (s : Settings) (c : Command) (st : σ) : Exchange σ Output :=
  match tool.run c st with
  | (.ok o, st) => ⟨accept s o, st, exitNotes s c o⟩
  | (.error fault, st) => ⟨.error fault, st, []⟩

/-- Ask, and read the answer as a listing. -/
def list (tool : Tool σ) (s : Settings) (c : Command) (opening what : String)
    (read : Output → Listing α) (st : σ) : Exchange σ (Listing α) :=
  let asked := ask tool s c st
  match asked.result with
  | .ok o =>
    let listing := read o
    ⟨.ok listing, asked.tool,
      .info opening :: asked.notes ++ listing.skipped.map (Listing.skipNote what)⟩
  | .error fault => ⟨.error fault, asked.tool, .info opening :: asked.notes⟩

def targets (tool : Tool σ) (shell : Shell) (s : Settings) (st : σ) :
    Exchange σ (Listing Target) :=
  list tool s (targetCommand shell s) "Querying build targets" "build target" Listing.targets st

def sources (tool : Tool σ) (shell : Shell) (s : Settings) (st : σ) :
    Exchange σ (Listing SourceFile) :=
  list tool s (sourceCommand shell s) "Querying source files" "source file" Listing.sources st

/-- Ask for the targets, then for the source files, and index both. -/
def index (tool : Tool σ) (shell : Shell) (s : Settings) (st : σ) : Exchange σ Index :=
  let listed := targets tool shell s st
  match listed.result with
  | .error fault => ⟨.error fault, listed.tool, listed.notes⟩
  | .ok targets =>
    let more := sources tool shell s listed.tool
    ⟨more.result.map (Index.ofListings targets), more.tool, listed.notes ++ more.notes⟩

/-- Put a workspace that is indexed afresh in the place of another one, which stays when a query
fails. -/
def refreshIndex (tool : Tool σ) (shell : Shell) (s : Settings) (w : Workspace) (st : σ) :
    Exchange σ Stats × Workspace :=
  let built := index tool shell s st
  match built.result with
  | .error fault => (⟨.error fault, built.tool, built.notes⟩, w)
  | .ok fresh =>
    (⟨.ok fresh.stats, built.tool, built.notes ++ [Index.indexedNote fresh.stats]⟩,
      fresh.workspace)

end BuildAtlas.Query
