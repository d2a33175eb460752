import BuildAtlas.Errno

/-! # Files

A tree of files by absolute path. A path is a list of names and the root the empty list. What a
written path means is found one name after the other, each within a directory that has to be
there, and links are followed on the way.
-/
namespace BuildAtlas.Posix

abbrev FilePath := List String

inductive Device where
  | null
  | zero
  | full
  | terminal
  deriving DecidableEq, Repr

/-- Contents are compared byte by byte. -/
instance instDecidableEqBytes : DecidableEq ByteArray := ByteArray.instDecidableEq

inductive Entry where
  | directory
  | file (bytes : ByteArray) (executable : Bool)
  /-- A program that the system brings along. -/
  | program (name : String)
  | device (d : Device)
  | link (target : String)
  /-- What a descriptor of the process at hand leads to. -/
  | descriptor (n : Nat)
  deriving DecidableEq

structure Files where
  entries : List (FilePath × Entry)
  deriving DecidableEq

namespace FilePath

/-- The names of a written path; a stroke at its end leaves an empty name. -/
def names (path : String) : List String := (path.toList.splitOn '/').map String.ofList

def isAbsolute (path : String) : Bool := path.toList.head? = some '/'

/-- The path that names lead to if nothing on the way is a link. -/
def append (above : FilePath) : List String → FilePath
  | [] => above
  | name :: rest =>
    if name = "" ∨ name = "." then append above rest
    else if name = ".." then append above.dropLast rest
    else append (above ++ [name]) rest

/-- The absolute path that a written path means in a directory, links aside. -/
def normalize (cwd : FilePath) (path : String) : FilePath :=
  append (if isAbsolute path then [] else cwd) (names path)

def render (path : FilePath) : String := "/" ++ "/".intercalate path

end FilePath

namespace Files

def get? (f : Files) (path : FilePath) : Option Entry :=
  if path = [] then some .directory else f.entries.lookup path

/-! ## Finding a path -/

inductive Walk where
  | arrived (path : FilePath)
  /-- A link is in the way, with the names that follow it. -/
  | link (above : FilePath) (target : String) (rest : List String)
  | failed (f : Errno)

def longestName : Nat := 255

/-- Walk along names up to the first link; `last` tells whether a link at the end counts. -/
def walk (f : Files) (last : Bool) (here : FilePath) : List String → Walk
  | [] => .arrived here
  | name :: rest =>
    match f.get? here with
    | none => .failed .missing
    | some .directory =>
      if name = "" ∨ name = "." then f.walk last here rest
      else if name = ".." then f.walk last here.dropLast rest
      else if name.length > longestName then .failed .nameTooLong
      else
        match f.get? (here ++ [name]) with
        | some (.link target) =>
          if rest.isEmpty && !last then .arrived (here ++ [name]) else .link here target rest
        | _ => f.walk last (here ++ [name]) rest
    | some _ => .failed .notDirectory

def walkLinks (f : Files) (last : Bool) : Nat → FilePath → List String → Except Errno FilePath
  | 0, _, _ => .error .tooManyLinks
  | links + 1, here, names =>
    match f.walk last here names with
    | .arrived path => .ok path
    | .failed failure => .error failure
    | .link above target rest =>
      f.walkLinks last links (if FilePath.isAbsolute target then [] else above)
        (FilePath.names target ++ rest)

def mostLinks : Nat := 40

def longestPath : Nat := 4096

/-- Where a written path leads; its last name need not exist. -/
def locate (f : Files) (cwd : FilePath) (path : String) (last : Bool) :
    Except Errno FilePath :=
  if path = "" then .error .missing
  else if path.length ≥ longestPath then .error .nameTooLong
  else f.walkLinks last mostLinks (if FilePath.isAbsolute path then [] else cwd)
    (FilePath.names path)

/-- The entry that a written path names, and where it is. -/
def lookup (f : Files) (cwd : FilePath) (path : String) (last : Bool) :
    Except Errno (FilePath × Entry) := do
  let place ← f.locate cwd path last
  match f.get? place with
  | some e => return (place, e)
  | none => throw .missing

/-- The names in a directory. -/
def names (f : Files) (directory : FilePath) : List String :=
  f.entries.filterMap fun (path, _) =>
    if path.dropLast = directory then path.getLast? else none

/-! ## Changes -/

def put (f : Files) (path : FilePath) (e : Entry) : Files :=
  ⟨(path, e) :: f.entries.filter fun entry => entry.1 != path⟩

/-- Every beginning of a path, the path itself left out. -/
def above (path : FilePath) : List FilePath := (List.range path.length).map path.take

def addDirectory (f : Files) (path : FilePath) : Files :=
  if (f.get? path).isSome then f else f.put path .directory

/-- Add a file and the directories above it. -/
def add (f : Files) (path : FilePath) (e : Entry) : Files :=
  ((above path).foldl addDirectory f).put path e

/-! ## The system -/

/-- The programs of the system, by name. -/
def programs : List String :=
  ["[", "cat", "dash", "echo", "env", "false", "printf", "pwd", "sh", "sleep", "test", "true"]

def directories : List FilePath := [
  ["boot"], ["dev"], ["dev", "mqueue"], ["dev", "pts"], ["dev", "shm"], ["etc"], ["home"],
  ["media"], ["mnt"], ["opt"], ["proc"], ["proc", "self"], ["proc", "self", "fd"], ["root"],
  ["run"], ["srv"], ["sys"], ["tmp"], ["usr"], ["usr", "bin"], ["usr", "games"],
  ["usr", "include"], ["usr", "lib"], ["usr", "lib64"], ["usr", "libexec"], ["usr", "local"],
  ["usr", "local", "bin"], ["usr", "local", "sbin"], ["usr", "sbin"], ["usr", "share"],
  ["usr", "src"], ["var"], ["var", "log"], ["var", "tmp"]]

def specialFiles : List (FilePath × Entry) := [
  (["bin"], .link "usr/bin"), (["lib"], .link "usr/lib"), (["lib64"], .link "usr/lib64"),
  (["sbin"], .link "usr/sbin"), (["dev", "fd"], .link "/proc/self/fd"),
  (["dev", "stdin"], .link "/proc/self/fd/0"), (["dev", "stdout"], .link "/proc/self/fd/1"),
  (["dev", "stderr"], .link "/proc/self/fd/2"), (["dev", "null"], .device .null),
  (["dev", "zero"], .device .zero), (["dev", "full"], .device .full),
  (["dev", "tty"], .device .terminal)]

def system : Files :=
  ⟨directories.map (·, .directory) ++ specialFiles ++
    programs.map fun name => (["usr", "bin", name], .program name)⟩

/-- The tree with the descriptors of a process in their place. -/
def withDescriptors (f : Files) (descriptors : List Nat) : Files :=
  ⟨descriptors.map (fun n => (["proc", "self", "fd", toString n], .descriptor n)) ++ f.entries⟩

end BuildAtlas.Posix.Files
