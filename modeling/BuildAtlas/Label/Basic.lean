import BuildAtlas.Label.Path

/-! # Labels

A label names a target by package and name, in this workspace or another, or in the package
at hand; a text with no label punctuation at its start is a plain file path.
-/
namespace BuildAtlas

inductive Label where
  /-- A path to a source file, not looked up among targets. -/
  | file (segments : List String)
  /-- A target of the package at hand. -/
  | here (name : String)
  /-- A package and a target in it; the workspace is empty for this one, the name is empty
  when only the package or the workspace is meant. -/
  | absolute (workspace : String) (package : PackagePath) (name : String)
  deriving DecidableEq, Repr

namespace Label

def workspace : Label → String
  | absolute workspace _ _ => workspace
  | _ => ""

def packagePath : Label → PackagePath
  | file segments => segments
  | here _ => []
  | absolute _ package _ => package

def package (label : Label) : String := label.packagePath.joined

def name : Label → String
  | file _ => ""
  | here name => name
  | absolute _ _ name => name

def isHere : Label → Bool
  | here _ => true
  | _ => false

def isFile : Label → Bool
  | file _ => true
  | _ => false

def hasWorkspace (label : Label) : Bool := label.workspace != ""

def hasPackage (label : Label) : Bool := !label.packagePath.isEmpty

def hasName (label : Label) : Bool := label.name != ""

/-- A package and, after a colon, the name of a target in it. -/
def renderTarget (package : PackagePath) (name : String) : String :=
  package.render ++ if name = "" then "" else ":" ++ name

def render : Label → String
  | file segments => PackagePath.joined segments
  | here name => ":" ++ name
  | absolute workspace package name =>
    if workspace = "" then renderTarget package name
    else if package = [] ∧ name = "" then "@" ++ workspace
    else "@" ++ workspace ++ renderTarget package name

end BuildAtlas.Label
