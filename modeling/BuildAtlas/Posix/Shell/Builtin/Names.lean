import BuildAtlas.Posix.Shell.Builtin.Letters
import BuildAtlas.Posix.Shell.Builtin.Print
import BuildAtlas.Posix.Shell.Lookup

/-! # Built-in commands about names: aliases and what commands stand for -/
namespace BuildAtlas.Posix.Shell.Builtin

open Act

/-! ## Aliases -/

def aliasRows : Nat := 39

def describeAlias (name value : String) : String := name ++ "=" ++ Print.quote value ++ "\n"

/-- Give an alias a value; a new one comes last. -/
def putAlias (name value : String) : List (String × String) → List (String × String)
  | [] => [(name, value)]
  | (other, old) :: rest =>
    if other = name then (name, value) :: rest else (other, old) :: putAlias name value rest

/-- An argument that gives an alias a value; the first character is part of the name. -/
def splitAlias (s : String) : Option (String × String) :=
  match s.toList with
  | [] => none
  | c :: cs =>
    let name := cs.takeWhile (· != '=')
    match cs.drop name.length with
    | _ :: value => some (String.ofList (c :: name), String.ofList value)
    | [] => none

def aliasOne (s : String) : Act Nat := do
  match splitAlias s with
  | some (name, value) =>
    modify fun st => { st with aliases := putAlias name value st.aliases }
    return 0
  | none =>
    match (← state).aliases.lookup s with
    | some value =>
      print (describeAlias s value)
      return 0
    | none =>
      let _ ← write 2 ("alias: " ++ s ++ " not found\n")
      return 1

def alias_ (args : List String) : Act Nat := do
  if args.isEmpty then
    print (String.join ((State.byRow aliasRows (← state).aliases).map fun (name, value) =>
      describeAlias name value))
    return 0
  else return (← args.mapM aliasOne).foldl max 0

def unaliasOne (s : String) : Act Nat := do
  if ((← state).aliases.lookup s).isSome then
    modify fun st => { st with aliases := st.aliases.filter (·.1 != s) }
    return 0
  else
    let _ ← write 2 ("unalias: " ++ s ++ " not found\n")
    return 1

def unalias (args : List String) : Act Nat := do
  let (given, names) ← options (plainLetters "a") args
  if given.has 'a' then
    modify fun st => { st with aliases := [] }
    return 0
  else return (← names.mapM unaliasOne).foldl max 0

/-! ## What commands stand for -/

/-- The path of a program by its place in the search path. -/
def programPath (path name : String) (place : Nat) : String :=
  ((candidates path name)[place]?).getD name

/-- Find a command as it would be run; a path must lead somewhere. -/
def findExact (path : Option String) (name : String) : Act Found := do
  if hasStroke name then
    match ← call (.status name true) with
    | .ok _ => return .program none
    | .error _ => return .unknown
  else findCommand { path } name

/-- Say what a name stands for, in full or just so that it can be used. -/
def describe (full : Bool) (path : Option String) (name : String) : Act Nat := do
  let st ← state
  let say (long short : String) : Act Nat := do
    print ((if full then name ++ long else short) ++ "\n")
    return 0
  if (Keyword.ofText? name).isSome then say " is a shell keyword" name
  else
    match st.aliases.lookup name with
    | some value =>
      if full then say (" is an alias for " ++ value) name
      else
        print ("alias " ++ describeAlias name value)
        return 0
    | none =>
      let tracked := path.isNone && (st.hashed.lookup name).isSome
      let found ←
        match if tracked then (st.hashed.lookup name) else none, findInside st true name with
        | some (place, _), .unknown => pure (.program (some place))
        | _, _ => findExact path name
      match found with
      | .program place =>
        let file := match place with
          | some n => programPath (path.getD st.path) name n
          | none => name
        let tracked := tracked && place.isSome
        say ((if tracked then " is a tracked alias for " else " is ") ++ file) file
      | .function _ => say " is a shell function" name
      | .builtin b => say (if b.special then " is a special shell builtin" else " is a shell builtin") name
      | .unknown =>
        if full then print (name ++ ": not found\n")
        return 127

def type (args : List String) : Act Nat := do
  let statuses ← args.mapM (describe true none)
  return statuses.foldl (· ||| ·) 0

/-- The command `command` where it does not run anything. -/
def command (args : List String) : Act Nat := do
  let (given, args) ← options (plainLetters "pvV") args
  let path := if given.has 'p' then some defaultPath else none
  match args with
  | name :: _ =>
    if given.has 'V' then describe true path name
    else if given.has 'v' then describe false path name
    else return 0
  | [] => return 0

/-! ## Programs that were found -/

def hashRows : Nat := 31

def describeHashed (path : String) (entry : String × Nat × Bool) : String :=
  programPath path entry.1 entry.2.1 ++ (if entry.2.2 then "*" else "") ++ "\n"

def hashOne (name : String) : Act Nat := do
  forget name
  match ← findCommand { reports := true } name with
  | .unknown => return 1
  | _ => return 0

def hash (args : List String) : Act Nat := do
  match args.head?.map String.toList with
  | some ('-' :: 'r' :: _) =>
    modify fun st => { st with hashed := [] }
    return 0
  | _ =>
    let (_, names) ← options (plainLetters "r") args
    if names.isEmpty then
      let st ← state
      print (String.join ((State.byRow hashRows st.hashed).map (describeHashed st.path)))
      return 0
    else return (← names.mapM hashOne).foldl max 0

end BuildAtlas.Posix.Shell.Builtin
