import BuildAtlas.Posix.Shell.Jobs
import BuildAtlas.Posix.Shell.Variables

/-! # Finding commands

A name is a function, a built-in command or a program in one of the directories of the search
path; where a program was found is remembered.
-/
namespace BuildAtlas.Posix.Shell

open Act

/-! ## Built-in commands -/

structure Builtin where
  name : String
  /-- Whether a mistake in it ends the shell. -/
  special : Bool := false
  /-- Whether it is there whatever the search path says. -/
  regular : Bool := false
  /-- Whether its arguments are assignments. -/
  assigns : Bool := false
  deriving DecidableEq, Repr

namespace Builtin

def specials : List Builtin :=
  specialNames.map fun name =>
    { name, special := true, regular := name != "eval",
      assigns := name = "export" || name = "readonly" || name = "local" }

def regulars : List Builtin :=
  ["alias", "bg", "cd", "chdir", "command", "false", "fg", "getopts", "jobs", "kill", "read", "true",
    "umask", "unalias", "wait"].map fun name => { name, regular := true, assigns := name = "alias" }

def others : List Builtin :=
  ["[", "echo", "hash", "printf", "pwd", "test", "type", "ulimit"].map fun name => { name }

def all : List Builtin := specials ++ regulars ++ others

def find? (name : String) : Option Builtin := all.find? (·.name = name)

end Builtin

/-- What a name stands for. -/
inductive Found where
  | unknown
  | builtin (b : Builtin)
  | function (body : Tree)
  /-- A program, with its place in the search path unless its name is a path. -/
  | program (place : Option Nat)

/-! ## The search path -/

/-- The search path of programs that must be found. -/
def defaultPath : String := "/usr/sbin:/usr/bin:/sbin:/bin"

def State.path (st : State) : String := (st.value? "PATH").getD ""

/-- The paths that a name can mean by a search path. -/
def candidates (path name : String) : List String :=
  ((path.toList.splitOn ':').map String.ofList).map fun directory =>
    if directory = "" then name else directory ++ "/" ++ name

def hasStroke (name : String) : Bool := name.toList.contains '/'

/-- What is said of a command that cannot be run. -/
def commandFailure : Errno → String
  | .missing | .notDirectory => "not found"
  | failure => failure.message

/-- Look for a program from a place of the search path on; one that was there before and is
named by a full path is not looked at again. -/
def searchFrom (before : Option Nat) (failure : Errno) : Nat → List String →
    Act (Except Errno Nat)
  | _, [] => pure (.error failure)
  | place, path :: rest => do
    let isFull := FilePath.isAbsolute path
    if isFull && before.any (place < ·) then searchFrom before failure (place + 1) rest
    else if isFull && before = some place then return .ok place
    else
      match ← call (.status path true) with
      | .error .missing | .error .notDirectory => searchFrom before failure (place + 1) rest
      | .error failure => searchFrom before failure (place + 1) rest
      | .ok status =>
        if status.kind = .regular then return .ok place
        else searchFrom before .denied (place + 1) rest

/-! ## Finding -/

structure Search where
  /-- Whether functions count. -/
  functions : Bool := true
  /-- Whether a name that is not found is reported. -/
  reports : Bool := false
  /-- A search path other than the usual one. -/
  path : Option String := none

def forget (name : String) : Act Unit :=
  modify fun st => { st with hashed := st.hashed.filter (·.1 != name) }

def findProgram (s : Search) (name : String) : Act Found := do
  let st ← state
  let known := if s.path.isSome then none else st.hashed.lookup name
  match known with
  | some (place, false) => return .program (some place)
  | _ =>
    let path := s.path.getD st.path
    match ← searchFrom (known.map (·.1)) .missing 0 (candidates path name) with
    | .ok place =>
      if s.path.isNone then
        modify fun st => { st with hashed := st.hashed.filter (·.1 != name) ++ [(name, place, false)] }
      return .program (some place)
    | .error failure =>
      if s.path.isNone then forget name
      if s.reports then warn (name ++ ": " ++ commandFailure failure)
      return .unknown

/-- Find a function or a built-in command. -/
def findInside (st : State) (functions : Bool) (name : String) : Found :=
  if hasStroke name then .program none
  else
    match if functions then st.functions.lookup name else none with
    | some body => .function body
    | none =>
      match Builtin.find? name with
      | some b => .builtin b
      | none => .unknown

def findCommand (s : Search) (name : String) : Act Found := do
  match findInside (← state) s.functions name with
  | .unknown => findProgram s name
  | found => return found

/-! ## Running programs -/

/-- The program that runs files which name none. -/
def scriptRunner : String := "/bin/sh"

/-- Turn into a program; what comes back is why that failed. -/
def execute (path : String) (arguments environment : List String) : Act Errno := do
  match ← call (.exec path arguments environment) with
  | .notExecutable =>
    call (.exec scriptRunner (scriptRunner :: path :: arguments.drop 1) environment)
  | failure => return failure

/-- Try the paths that a name may mean one after the other. -/
def executeAny (arguments environment : List String) (failure : Errno) : List String → Act Errno
  | [] => pure failure
  | path :: rest => do
    match ← execute path arguments environment with
    | .missing | .notDirectory => executeAny arguments environment failure rest
    | failure => executeAny arguments environment failure rest

/-- The status of a shell that cannot run a command. -/
def failureStatus : Errno → Nat
  | .missing | .notDirectory | .tooManyLinks | .nameTooLong => 127
  | _ => 126

/-- Turn into a command, or end. -/
def launch {α : Type} (arguments : List String) (path : String) (place : Nat) : Act α := do
  let environment := (← state).environment
  let name := arguments.headD ""
  let failure ←
    if hasStroke name then execute name arguments environment
    else executeAny arguments environment .missing ((candidates path name).drop place)
  warn (name ++ ": " ++ commandFailure failure)
  flush
  modify (·.setStatus (failureStatus failure))
  breakOff .finish

/-- Run a command in a process of its own. -/
def launchApart (arguments : List String) (path : String) (place : Nat) : Act Nat := do
  flush
  let pid : Nat ← call .fork
  if pid = 0 then
    let _ ← attempt (launch arguments path place : Act Unit)
    quit (← gets (·.status))
  else
    let n ← addJob [pid]
    awaitJob n

end BuildAtlas.Posix.Shell
