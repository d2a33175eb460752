import BuildAtlas.Label.Parse
import BuildAtlas.Workspace.Lookup

/-! # Checking labels against the index

A label names at most one target. A bare package names the target called like its last
segment. Labels of other workspaces are not looked up.
-/
namespace BuildAtlas

inductive Verdict where
  | valid
  | external
  | file
  | unknown (target : Target)
  | invalid (fault : Fault)
  deriving DecidableEq, Repr

/-- The target that a label names, seen from a package. -/
def Label.target? (current : PackagePath) : Label → Option Target
  | .file _ => none
  | .here name => some { package := current, name, kind := "" }
  | .absolute _ package name =>
    if name = "" then package.getLast?.map fun last => { package, name := last, kind := "" }
    else some { package, name, kind := "" }

/-- The verdict on a label that was read from `text`. -/
def Workspace.judge (w : Workspace) (current : PackagePath) (text : String) (label : Label) :
    Verdict :=
  if label.isFile then .file
  else if label.hasWorkspace then .external
  else
    match label.target? current with
    | none => .invalid (.noTarget text)
    | some t => if w.declares t then .valid else .unknown t

def Workspace.check (w : Workspace) (current : PackagePath) (text : String) : Verdict :=
  match Label.parse text with
  | .ok label => w.judge current text label
  | .error fault => .invalid fault

end BuildAtlas
