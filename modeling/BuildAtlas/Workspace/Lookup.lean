import BuildAtlas.Workspace.Basic

/-! # Looking things up

Questions about an indexed workspace. Those that return a list or a path fail when a package
on the way is missing; yes-or-no questions answer no.
-/
namespace BuildAtlas.Workspace

def nodeAt (w : Workspace) (path : PackagePath) : Option Node := (w.find path).bind w.node?

/-- The package at a path in any spelling. -/
def packageAt (w : Workspace) (path : String) : Except Fault Package :=
  match w.nodeAt (.read path) with
  | some n => .ok n.package
  | none => .error (.unknownPath path)

def targetsAt (w : Workspace) (path : String) : Except Fault (List Target) :=
  (w.packageAt path).map (·.targets)

/-- What stands before the names of the packages below a path as it was written. -/
def childPrefix (path : String) : String :=
  if PackagePath.read path = [] then "//"
  else if path.toList.getLast? = some '/' then path
  else path ++ "/"

/-- Paths of the packages directly below a path. -/
def subpackagesAt (w : Workspace) (path : String) : Except Fault (List String) :=
  match w.nodeAt (.read path) with
  | some n =>
    .ok (n.children.filterMap fun child =>
      (w.node? child.2).map fun below => childPrefix path ++ below.package.name)
  | none => .error (.unknownPath path)

/-- The package of the target declares one with the same label. -/
def declares (w : Workspace) (t : Target) : Bool :=
  match w.nodeAt t.package with
  | some n => n.package.targets.any fun u => u.label == t.label
  | none => false

/-- The owner of the file holds one with the same path. -/
def holds (w : Workspace) (f : SourceFile) : Bool :=
  match w.nodeAt f.owner with
  | some n => n.package.files.any fun g => g.path == f.path
  | none => false

/-- The build file of the package that holds a source file. -/
def buildFileOf (w : Workspace) (buildFileName : String) (f : SourceFile) :
    Except Fault String :=
  if w.holds f then .ok ("/".intercalate (f.owner ++ [buildFileName]))
  else .error (.notIndexed f.render)

/-- All packages under their absolute paths, parents first. -/
def packages (w : Workspace) : List (String × Package) :=
  w.preorder.filterMap fun s =>
    (w.node? s).bind fun n => (w.path? s).map fun path => (path.render, n.package)

end BuildAtlas.Workspace
