import BuildAtlas.Label.Path

/-! # Packages

A package holds the targets and the source files declared in it, each once and in the order
in which they were first added.
-/
namespace BuildAtlas

/-- A named build unit of a package. The kind is empty when only a label is known. -/
structure Target where
  package : PackagePath
  name : String
  kind : String
  deriving DecidableEq, Repr

namespace Target

def label (t : Target) : String := t.package.render ++ ":" ++ t.name

end Target

/-- A source file by its path from the workspace root. The package is known for a file that
was read from a label, and otherwise left to the directories of the path. -/
structure SourceFile where
  name : String
  path : List String
  package : Option PackagePath := none
  deriving DecidableEq, Repr

namespace SourceFile

/-- A file declared in a package under a name that may reach into directories. -/
def inPackage (package : PackagePath) (name : String) : SourceFile :=
  let path := package ++ PackagePath.read name
  { name := path.getLastD "", path, package := some package }

/-- The package that holds the file. Without a known one these are the directories of the
path, less those that look like files. -/
def owner (f : SourceFile) : PackagePath :=
  match f.package with
  | some package => package
  | none => f.path.dropLast.filter fun segment => !PackagePath.looksLikeFile segment

def render (f : SourceFile) : String := "/".intercalate f.path

/-- What follows the last dot of the file name. -/
def extension (f : SourceFile) : Option String :=
  match f.name.toList.reverse.span (· != '.') with
  | (_, []) | ([], _) => none
  | (after, _) => some (String.ofList after.reverse)

end SourceFile

structure Package where
  name : String
  targets : List Target := []
  files : List SourceFile := []
  deriving DecidableEq, Repr

namespace Package

/-- Put an item at the end of a list that does not have it yet. -/
def addOnce [DecidableEq α] (items : List α) (item : α) : List α :=
  if item ∈ items then items else items ++ [item]

/-- Add a target, and tell whether the package did not have it yet. -/
def addTarget (p : Package) (t : Target) : Bool × Package :=
  (!p.targets.contains t, { p with targets := addOnce p.targets t })

/-- Add a source file, and tell whether the package did not have it yet. -/
def addFile (p : Package) (f : SourceFile) : Bool × Package :=
  (!p.files.contains f, { p with files := addOnce p.files f })

/-- A package with a target has a build file. -/
def hasBuildFile (p : Package) : Bool := !p.targets.isEmpty

def emptied (p : Package) : Package := { p with targets := [], files := [] }

end BuildAtlas.Package
