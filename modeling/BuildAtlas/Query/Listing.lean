import BuildAtlas.Label.Parse
import BuildAtlas.Note
import BuildAtlas.Package
import BuildAtlas.Query.Output

/-! # Listings

The printed answer to a query has one target or source file a line, its label last. Lines that
cannot be read are skipped, blank ones without notice.
-/
namespace BuildAtlas

/-- Package and name of a label that names a target of this workspace absolutely. -/
def Label.targetIn? : Label → Option (PackagePath × String)
  | .absolute workspace package name =>
    if workspace = "" ∧ name ≠ "" then some (package, name) else none
  | _ => none

def workspaceTarget? (text : String) : Option (PackagePath × String) :=
  match Label.parse text with
  | .ok label => label.targetIn?
  | .error _ => none

/-- A kind, anything, and a label. -/
def Target.ofLine? (line : String) : Option Target :=
  match Text.fields line with
  | [] | [_] => none
  | kind :: rest => do
    let (package, name) ← workspaceTarget? (← rest.getLast?)
    return { package, name, kind }

/-- Anything and a label. -/
def SourceFile.ofLine? (line : String) : Option SourceFile := do
  let (package, name) ← workspaceTarget? (← (Text.fields line).getLast?)
  return .inPackage package name

/-- The items of an answer and the lines that could not be read. -/
structure Listing (α : Type) where
  items : List α
  skipped : List String
  deriving DecidableEq, Repr

namespace Listing

def read (parse : String → Option α) (lines : List String) : Listing α :=
  let filled := lines.filter fun line => !Text.allBlank line
  { items := filled.filterMap parse
    skipped := filled.filter fun line => (parse line).isNone }

def skipNote (what line : String) : Note :=
  .warn ("Skipping unrecognised " ++ what ++ " line: " ++ Text.quoted line)

def targets (o : Output) : Listing Target := read Target.ofLine? o.stdoutLines

def sources (o : Output) : Listing SourceFile := read SourceFile.ofLine? o.stdoutLines

end BuildAtlas.Listing
