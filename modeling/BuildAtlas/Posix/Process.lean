import BuildAtlas.Posix.Programs.Load

/-! # Processes from outside

Starting a program in a directory with a text on its standard input, and what comes of it. All
that is printed is read up to the end, even if the program itself ends before. Seen from outside
this is one `System` to run on; what is said of commands holds on every lawful one.
-/
namespace BuildAtlas.Posix

/-- What a program finds around it. -/
structure Setting where
  files : Files
  environment : List (String × String) := []
  cwd : FilePath

namespace Process

/-- Rounds after which a run is taken for endless. -/
def roundLimit : Nat := 1000000

/-- The numbers of the pipes that lead outside. -/
def inputPipe : Nat := 0

def outputPipe : Nat := 1

def errorPipe : Nat := 2

def firstPid : Nat := 2

/-- A system in which nothing runs yet. -/
def kernel (files : Files) (input : ByteArray) : Kernel :=
  { files
    openFiles := #[
      { source := .pipe inputPipe, reads := true, writes := false },
      { source := .pipe outputPipe, reads := false, writes := true },
      { source := .pipe errorPipe, reads := false, writes := true }]
    pipes := #[{ bytes := input }, { watched := true }, { watched := true }]
    nextPid := firstPid + 1 }

/-- A process that is connected with the outside. -/
def first (cwd : FilePath) : Process :=
  { pid := firstPid
    parent := Kernel.outside
    phase := .running (.exit 0)
    descriptors := [(0, { file := 0 }), (1, { file := 1 }), (2, { file := 2 })]
    cwd }

/-- The search path if the environment has none. -/
def defaultPath : String := "/bin:/usr/bin"

def candidates (environment : List (String × String)) (program : String) : List String :=
  if program.toList.contains '/' then [program]
  else
    let path := (environment.lookup "PATH").getD defaultPath
    ((path.toList.splitOn ':').map String.ofList).map fun directory =>
      if directory = "" then program else directory ++ "/" ++ program

/-- The first of some paths that leads to a program. -/
def resolve (k : Kernel) (p : Process) (args : List String) (failure : Errno) :
    List String → Except Errno (String × List String)
  | [] => .error failure
  | path :: rest =>
    match k.resolveProgram p Kernel.interpreterDepth path args with
    | .ok found => .ok found
    | .error .missing | .error .notDirectory => resolve k p args failure rest
    | .error .denied => resolve k p args .denied rest
    | .error .notExecutable => .ok ("sh", "/bin/sh" :: path :: args.drop 1)
    | .error failure => .error failure

/-- Whether some process can still print. -/
def isHeard (k : Kernel) : Bool :=
  k.processes.any (k.holds fun f =>
    f.writes && (f.source = .pipe outputPipe || f.source = .pipe errorPipe))

def printed (k : Kernel) (pipe : Nat) : String :=
  Text.decode (Text.ofBytes ((k.pipes[pipe]?).getD {}).bytes)

/-- What comes of a run once its first process has ended: nothing if that took the limit or
longer, and otherwise all that is printed until nothing can be printed any more. -/
def conclude (s : Setting) (limit : Option Nat) (k : Kernel) : Option (Finished Setting) := do
  let (exit, elapsed) ← k.result
  if limit.any (· ≤ elapsed) then none
  else
    let k ← k.runUntil Programs.load (!isHeard ·) none roundLimit
    return { stdout := printed k outputPipe, stderr := printed k errorPipe, exit, elapsed,
             system := { s with files := k.files } }

def runKernel (s : Setting) (k : Kernel) (limit : Option Nat) : Option (Finished Setting) :=
  (k.runUntil Programs.load (·.result.isSome) limit roundLimit).bind (conclude s limit)

/-- A system with a program in it that has just been started. -/
def start (s : Setting) (job : Job) : Except Errno Kernel := do
  let k := kernel s.files (Text.toBytes (Text.encode job.input))
  let p ← match job.directory with
    | some path => k.changeDirectory (first s.cwd) (Text.encode path)
    | none => pure (first s.cwd)
  let args := (job.program :: job.arguments).map Text.encode
  let (name, args) ← resolve k p args .missing
    (candidates s.environment (Text.encode job.program))
  let environment := s.environment.map fun (name, value) => Text.encode (name ++ "=" ++ value)
  return { k with processes := [{ p with phase := .running (Programs.load name args environment) }] }

/-- The bytes of a file. A device has none. -/
def read (s : Setting) (path : String) : Except Errno ByteArray :=
  match s.files.lookup s.cwd (Text.encode path) true with
  | .ok (_, .file bytes _) => .ok bytes
  | .ok (_, .directory) => .error .isDirectory
  | .ok _ => .ok .empty
  | .error failure => .error failure

end Process

def system : System Setting where
  run s job limit :=
    if job.hasNul then .error .nulByte
    else
      match Process.start s job with
      | .error failure => .error (.system failure)
      | .ok k => .ok (Process.runKernel s k limit)
  read := Process.read

end BuildAtlas.Posix
