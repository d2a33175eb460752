import BuildAtlas.CommandLine
import BuildAtlas.Posix.Process

/-! # The program

Takes the files that a request reads from the disk and prints what comes of it.
-/
namespace BuildAtlas

/-- Add what the disk has at a path to a tree of files. -/
def addFromDisk (cwd : Posix.FilePath) (files : Posix.Files) (path : String) : IO Posix.Files := do
  let place := Posix.FilePath.normalize cwd (Text.encode path)
  match ← (IO.FS.readBinFile path).toBaseIO with
  | .ok bytes => return files.add place (.file bytes true)
  | .error (.noFileOrDirectory _ _ _) => return files
  | .error _ => return (files.addDirectory place)

/-- The surroundings as far as these paths go. -/
def surroundings (cwd : Posix.FilePath) (paths : List String) : IO Posix.Setting := do
  let files ← paths.foldlM (addFromDisk cwd) (Posix.Files.system.addDirectory cwd)
  return { files, cwd }

end BuildAtlas

open BuildAtlas in
def main (args : List String) : IO UInt32 := do
  let cwd := Posix.FilePath.normalize [] (Text.encode ((← IO.getEnv "PWD").getD "/"))
  let request := CommandLine.Request.ofArguments args
  let first ← surroundings cwd (request.paths {})
  let system := Posix.system
  let settings := (CommandLine.loadSettings system first request.settings?).toOption.getD {}
  let outcome := CommandLine.run system (← surroundings cwd (request.paths settings)) args
  IO.print outcome.stdout
  IO.eprint outcome.stderr
  return outcome.exitCode.toUInt32
