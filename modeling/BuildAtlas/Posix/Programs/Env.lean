import BuildAtlas.Posix.Programs.Basic

/-! # Running a program in another environment -/
namespace BuildAtlas.Posix.Programs.Env

open Routine

structure Options where
  clears : Bool := false
  removed : List String := []
  endsWithNul : Bool := false
  deriving DecidableEq, Repr

/-- Read the letters of one word; the words after it may be used up. -/
def readLetters (o : Options) (rest : List String) : List Char →
    Except String (Options × List String)
  | [] => .ok (o, rest)
  | 'i' :: cs => readLetters { o with clears := true } rest cs
  | '0' :: cs => readLetters { o with endsWithNul := true } rest cs
  | 'u' :: cs =>
    match cs, rest with
    | [], [] => .error "option requires an argument -- 'u'"
    | [], name :: rest => .ok ({ o with removed := o.removed ++ [name] }, rest)
    | cs, rest => .ok ({ o with removed := o.removed ++ [String.ofList cs] }, rest)
  | c :: _ => .error (invalidOption c)

def readOptions (o : Options) : Nat → List String → Except String (Options × List String)
  | 0, args => .ok (o, args)
  | steps + 1, args =>
    match args with
    | [] => .ok (o, [])
    | "--" :: rest => .ok (o, rest)
    | "-" :: rest => .ok ({ o with clears := true }, rest)
    | "--ignore-environment" :: rest => readOptions { o with clears := true } steps rest
    | "--null" :: rest => readOptions { o with endsWithNul := true } steps rest
    | s :: rest =>
      match s.toList with
      | '-' :: '-' :: _ => .error (unknownOption s)
      | '-' :: cs => do
        let (o, rest) ← readLetters o rest cs
        readOptions o steps rest
      | _ => .ok (o, args)

def nameOf (entry : String) : String := String.ofList (entry.toList.takeWhile (· != '='))

def isAssignment (s : String) : Bool := s.toList.contains '='

/-- Put an entry into an environment, in the place of the one of that name if there is one. -/
def put (entry : String) : List String → List String
  | [] => [entry]
  | other :: rest => if nameOf other = nameOf entry then entry :: rest else other :: put entry rest

/-- The paths that the name of a program can mean. -/
def candidates (environment : List String) (name : String) : List String :=
  if name.toList.contains '/' then [name]
  else
    let path := match environment.find? (nameOf · = "PATH") with
      | some entry => entry.toList.drop 5
      | none => "/bin:/usr/bin".toList
    ((path.splitOn ':').map String.ofList).map fun directory =>
      if directory = "" then name else directory ++ "/" ++ name

/-- Turn into the first program that can be run. -/
def execute (environment args : List String) (failure : Errno) : List String → Routine Errno
  | [] => pure failure
  | path :: rest => do
    match ← call (.exec path args environment) with
    | .notExecutable => call (.exec "/bin/sh" ("/bin/sh" :: path :: args.drop 1) environment)
    | .denied => execute environment args .denied rest
    | .missing | .notDirectory => execute environment args failure rest
    | failure => pure failure

def main (args environment : List String) : Routine Nat := do
  match readOptions {} (args.length + 1) args with
  | .error message => misuse "env" message 125
  | .ok (o, args) =>
    let start := if o.clears then [] else
      environment.filter fun entry => !o.removed.contains (nameOf entry)
    let environment := (args.takeWhile isAssignment).foldl (fun e entry => put entry e) start
    match args.dropWhile isAssignment with
    | [] =>
      let ended := if o.endsWithNul then "\x00" else "\n"
      finish "env" (String.join (environment.map (· ++ ended))) 0
    | name :: rest =>
      let failure ← execute environment (name :: rest) .missing (candidates environment name)
      complain "env" ("'" ++ name ++ "': " ++ failure.message)
      return if failure = .missing then 127 else 126

end BuildAtlas.Posix.Programs.Env
