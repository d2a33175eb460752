import BuildAtlas.Posix.Shell.Builtin.Directory
import BuildAtlas.Posix.Shell.Builtin.Names
import BuildAtlas.Posix.Shell.Builtin.Test
import BuildAtlas.Posix.Shell.Builtin.Variables
import BuildAtlas.Posix.Shell.Run.Basic

/-! # Running built-in commands

Those that steer the shell are here, and how all of them are found by name.
-/
namespace BuildAtlas.Posix.Shell

open Act

namespace Builtin

/-! ## Steering -/

/-- Leave so many loops or go on with them. -/
def leaveLoops (skip : Skip) (args : List String) : Act Nat := do
  let n ←
    match args with
    | [] => pure 1
    | s :: _ => do
      let n ← count s
      if n = 0 then fail (Number.illegal s) else pure n
  modify fun st =>
    let n := min n st.loops
    if n = 0 then st
    else
      { st with
        skip
        skipCount := n }
  return 0

def return_ (args : List String) : Act Nat := do
  match args with
  | [] =>
    modify fun st => { st with skip := .functionAsIs }
    gets (·.status)
  | s :: _ =>
    let n ← count s
    modify fun st => { st with skip := .function }
    return n

def exit (args : List String) : Act Nat := do
  match args with
  | [] => breakOff .exit
  | s :: _ =>
    let n ← count s
    modify fun st => { st with saved := some n }
    breakOff .exit

def exec (args : List String) : Act Nat := do
  if args.isEmpty then return 0
  else
    let st ← state
    launch args st.path 0

def eval (r : Runner) (f : Flags) (args : List String) : Act Nat := do
  if args.isEmpty then return 0 else runText r (" ".intercalate args) { tested := f.tested }

/-! ## Sourcing -/

/-- The first ordinary file among some paths. -/
def firstFile : List String → Act (Option String)
  | [] => pure none
  | path :: rest => do
    match ← call (.status path true) with
    | .ok status => if status.kind = .regular then return some path else firstFile rest
    | .error _ => firstFile rest

/-- Open a script under a number that commands do not use. -/
def openScript (path : String) : Act Nat := do
  let n ← openFile path .read
  if n < leastCopy then
    let copy ← setAside n
    return copy.getD n
  else return n

def source (r : Runner) (args : List String) : Act Nat := do
  match ← operands args with
  | [] => return 0
  | name :: _ =>
    let st ← state
    let path ←
      if hasStroke name then pure name
      else
        match ← firstFile (candidates st.path name) with
        | some path => pure path
        | none => fail (name ++ ": not found")
    let n ← openScript path
    pushInput { descriptor := some n }
    modify fun st => { st with command := some path }
    let status ← runScript r
    popInput
    return status

/-! ## Printing -/

def printf (args : List String) : Act Nat := do
  match ← operands args with
  | [] => fail "usage: printf format [arg ...]"
  | format :: args =>
    let p := Print.printf format args
    p.troubles.forM fun t => warn t.message
    print p.text
    match p.failure with
    | some message => fail message
    | none => return if p.troubles.isEmpty then 0 else 1

/-! ## By name -/

/-- Do what a built-in command does. -/
def perform (r : Runner) (f : Flags) (name : String) (args : List String) : Act Nat :=
  match name with
  | "." => source r args
  | "[" | "test" => Test.run name args
  | "alias" => alias_ args
  | "bg" | "fg" => resumeJob args
  | "break" => leaveLoops .break args
  | "cd" | "chdir" => cd args
  | "command" => command args
  | "continue" => leaveLoops .continue args
  | "echo" => do
    print (Print.echo args)
    return 0
  | "eval" => eval r f args
  | "exec" => exec args
  | "exit" => exit args
  | "export" => export_ args
  | "false" => pure 1
  | "getopts" => getopts args
  | "hash" => hash args
  | "jobs" => jobs args
  | "kill" => kill args
  | "local" => local_ args
  | "printf" => printf args
  | "pwd" => pwd args
  | "read" => read args
  | "readonly" => readonly args
  | "return" => return_ args
  | "set" => set args
  | "shift" => shift args
  | "times" => times
  | "trap" => trap args
  | "type" => type args
  | "ulimit" => ulimit args
  | "umask" => umask args
  | "unalias" => unalias args
  | "unset" => unset args
  | "wait" => wait args
  | _ => pure 0

end Builtin

/-- The status after what was printed has been written. -/
def finishOutput (name : String) (status : Nat) : Act Unit := do
  flush
  if (← gets (·.outputFailed)) then
    warn (name ++ ": I/O error")
    modify (·.setStatus (status ||| 1))
  else modify (·.setStatus status)

/-- Run a built-in command and yield how that went. -/
def runBuiltin (name : Option String) (m : Act Nat) : Act (Except Break Unit) := do
  let old ← gets (·.command)
  modify fun st => { st with command := name }
  let result ← attempt (do finishOutput (name.getD "") (← m))
  modify fun st => { st with
    command := old
    output := ""
    outputFailed := false }
  return result

end BuildAtlas.Posix.Shell
