import BuildAtlas.Label.Path

/-! # Generated workspaces

Listings of a made-up workspace of given size: top-level packages, each with a chain of nested
packages, and the same number of targets and files in every package.
-/
namespace BuildAtlas

structure Fixture where
  topLevel : Nat
  depth : Nat
  targetsPerPackage : Nat
  filesPerPackage : Nat
  deriving DecidableEq, Repr

namespace Fixture

def small : Fixture := ⟨3, 1, 2, 2⟩

def medium : Fixture := ⟨20, 3, 5, 5⟩

/-- Rule kinds, used in turn. -/
def kinds : List String := ["cc_library", "cc_binary", "java_library", "sh_test", "filegroup"]

def kind (n : Nat) : String := kinds.getD (n % kinds.length) ""

/-- A top-level package and the packages nested in it, `depth` of them. -/
def chain (top depth : Nat) : PackagePath :=
  ("pkg_" ++ toString top) :: (List.range depth).map fun d => "sub_" ++ toString d

/-- Top-level packages in order, each followed by what is nested in it. -/
def packages (f : Fixture) : List PackagePath :=
  (List.range f.topLevel).flatMap fun top => (List.range (f.depth + 1)).map (chain top)

def packagePaths (f : Fixture) : List String := f.packages.map PackagePath.joined

def expectedPackages (f : Fixture) : Nat := 1 + f.topLevel * (1 + f.depth)

def expectedTargets (f : Fixture) : Nat := f.packages.length * f.targetsPerPackage

def expectedFiles (f : Fixture) : Nat := f.packages.length * f.filesPerPackage

def targetLines (f : Fixture) : List String :=
  f.packages.zipIdx.flatMap fun (package, p) =>
    (List.range f.targetsPerPackage).map fun t =>
      kind (p + t) ++ " rule " ++ package.render ++ ":target_" ++ toString t

def sourceLines (f : Fixture) : List String :=
  f.packages.flatMap fun package =>
    (List.range f.filesPerPackage).map fun n =>
      package.render ++ ":file_" ++ toString n ++ ".cc"

def listing (lines : List String) : String := String.join (lines.map (· ++ "\n"))

def targetListing (f : Fixture) : String := listing f.targetLines

def sourceListing (f : Fixture) : String := listing f.sourceLines

end BuildAtlas.Fixture
