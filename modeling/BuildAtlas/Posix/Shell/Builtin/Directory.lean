import BuildAtlas.Posix.Shell.Builtin.Letters
import BuildAtlas.Posix.Shell.Lookup

/-! # Built-in commands for directories and limits -/
namespace BuildAtlas.Posix.Shell.Builtin

open Act

/-! ## Directories -/

/-- The letter that was given last decides; letters that repeat the one before do nothing. -/
def isPhysical (given : Given) : Bool := (given.getLast?.map (·.1)) = some 'P'

/-- Go along names from a path without looking at links; the path keeps its first strokes. -/
def followNames (least : Nat) : List Char → List (List Char) → List Char
  | path, [] => path
  | path, name :: rest =>
    if name.isEmpty || name = ['.'] then followNames least path rest
    else if name = ['.', '.'] then
      let shorter :=
        if path.length > least then
          (path.reverse.drop 1).dropWhile (· != '/') |>.reverse
        else path
      followNames least (if shorter.length < least then path.take least else shorter) rest
    else followNames least (path ++ name ++ ['/']) rest

/-- The directory that a path leads to by its names, from a directory known by its names. -/
def followPath (here : String) (path : String) : String :=
  let cs := path.toList
  let start : List Char :=
    if cs.head? = some '/' then
      if cs.take 2 = ['/', '/'] && (cs[2]?) != some '/' then ['/', '/'] else ['/']
    else if here.toList.getLast? = some '/' then here.toList
    else here.toList ++ ['/']
  let least := if start.take 2 = ['/', '/'] then 2 else 1
  let whole := followNames least start (cs.splitOn '/')
  String.ofList (if whole.length > least then whole.dropLast else whole)

/-- Record the directory that has been changed to. -/
def noteDirectory (directory : Option String) : Act Unit := do
  let old := (← state).directory
  change fun st => st.assign "OLDPWD" (some old) { exported := true }
  let directory ←
    match directory with
    | some d => pure d
    | none => do
      match ← call .workingDirectory with
      | .ok path => pure (FilePath.render path)
      | .error _ => pure old
  modify fun st => { st with directory }
  change fun st => st.assign "PWD" (some directory) { exported := true }

/-- Programs that were found by relative paths have to be looked for again. -/
def recheckPrograms : Act Unit := modify fun st =>
  { st with hashed := st.hashed.map fun (name, place, _) => (name, place, true) }

def changeTo (physical : Bool) (path : String) : Act Bool := do
  let here ← gets (·.directory)
  let directory := if physical then none else some (followPath here path)
  match ← call (.changeDirectory (directory.getD path)) with
  | .ok () =>
    noteDirectory directory
    recheckPrograms
    return true
  | .error _ => return false

/-- Whether a path is looked for in other directories than the present one. -/
def isSearched (path : String) : Bool :=
  match path.toList with
  | '/' :: _ => false
  | ['.'] | '.' :: '/' :: _ | ['.', '.'] | '.' :: '.' :: '/' :: _ => false
  | _ => true

/-- The first of some paths that leads to a directory, and whether it is to be printed. -/
def firstDirectory : List (String × Bool) → Act (Option (String × Bool))
  | [] => pure none
  | (path, prints) :: rest => do
    match ← call (.status path true) with
    | .ok status =>
      if status.kind = .directory then return some (path, prints) else firstDirectory rest
    | .error _ => firstDirectory rest

/-- The places where a directory is looked for. -/
def directoryCandidates (searched : Option String) (path : String) : List (String × Bool) :=
  match searched with
  | none => []
  | some searched =>
    ((searched.toList.splitOn ':').map String.ofList).map fun directory =>
      if directory = "" then (path, false) else (directory ++ "/" ++ path, true)

def cd (args : List String) : Act Nat := do
  let (given, args) ← options (plainLetters "LP") args
  let st ← state
  let (path, prints) :=
    match args with
    | [] => ((st.value? "HOME").getD "", false)
    | "-" :: _ => ((st.value? "OLDPWD").getD "", true)
    | path :: _ => (path, false)
  let searched := if isSearched path then st.value? "CDPATH" else none
  let path := if path = "" then "." else path
  let (target, prints) ←
    match ← firstDirectory (directoryCandidates searched path) with
    | some (target, found) => pure (target, prints || found)
    | none => pure (path, prints)
  if ← changeTo (isPhysical given) target then
    if prints then print ((← state).directory ++ "\n")
    return 0
  else fail ("can't cd to " ++ path)

def pwd (args : List String) : Act Nat := do
  let (given, _) ← options (plainLetters "LP") args
  if isPhysical given then
    match ← call .workingDirectory with
    | .ok path => print (FilePath.render path ++ "\n")
    | .error _ => print ((← state).directory ++ "\n")
  else print ((← state).directory ++ "\n")
  return 0

/-! ## Masks -/

def maskBits : Nat := 511

/-- A mask as what it lets through. -/
def describeMask (mask : Nat) : String :=
  let through := maskBits - mask % 512
  let group (shift : Nat) : List Char :=
    let bits := (through >>> shift) % 8
    (if bits ≥ 4 then ['r'] else []) ++ (if bits % 4 ≥ 2 then ['w'] else [])
      ++ (if bits % 2 = 1 then ['x'] else [])
  String.ofList ("u=".toList ++ group 6 ++ ",g=".toList ++ group 3 ++ ",o=".toList ++ group 0)

def octalText (n : Nat) : String :=
  let digits := Nat.toDigits 8 n
  String.ofList (List.replicate (4 - digits.length) '0' ++ digits)

/-- Whom a clause of a mask is about. -/
def maskClasses : List Char → Nat × List Char
  | 'a' :: cs => let (n, rest) := maskClasses cs; (n ||| 73, rest)
  | 'u' :: cs => let (n, rest) := maskClasses cs; (n ||| 64, rest)
  | 'g' :: cs => let (n, rest) := maskClasses cs; (n ||| 8, rest)
  | 'o' :: cs => let (n, rest) := maskClasses cs; (n ||| 1, rest)
  | cs => (0, cs)

/-- What a clause of a mask grants, given what is granted already. -/
def maskRights (old : Nat) : List Char → Nat × List Char
  | c :: cs =>
    let right : Option Nat :=
      match c with
      | 'r' => some 4
      | 'w' => some 2
      | 'x' => some 1
      | 'u' => some (old >>> 6)
      | 'g' => some (old >>> 3)
      | 'o' => some old
      | 'X' => some (if old &&& 73 != 0 then 1 else 0)
      | 's' => some 0
      | _ => none
    match right with
    | some n =>
      let (m, rest) := maskRights old cs
      (n ||| m, rest)
    | none => (0, c :: cs)
  | [] => (0, [])

def isMaskSign (c : Char) : Bool := c = '=' || c = '+' || c = '-'

/-- Go through the clauses of a mask; what is left could not be read. -/
def readMask (old : Nat) : Nat → Nat → Nat → List Char → Nat × List Char
  | 0, _, new, cs => (new, cs)
  | _ + 1, _, new, [] => (new, [])
  | steps + 1, classes, new, cs =>
    let (more, cs) := maskClasses cs
    let classes := if classes ||| more = 0 then 73 else classes ||| more
    match cs with
    | sign :: cs =>
      if isMaskSign sign then
        let (rights, cs) := maskRights old cs
        let value := (rights % 8) * classes
        let new :=
          match sign with
          | '-' => new &&& (maskBits ^^^ value)
          | '=' => value ||| (new &&& (maskBits ^^^ (classes * 7)))
          | _ => new ||| value
        match cs with
        | ',' :: cs => readMask old steps 0 new cs
        | c :: _ => if isMaskSign c then readMask old steps classes new cs else (new, cs)
        | [] => (new, [])
      else (new, sign :: cs)
    | [] => (new, [])

def umask (args : List String) : Act Nat := do
  let (given, args) ← options (plainLetters "S") args
  let mask : Nat ← call .mask
  match args with
  | [] => print ((if given.has 'S' then describeMask mask else octalText mask) ++ "\n")
  | s :: _ =>
    if (s.toList.head?.any isDigit) then
      let (n, rest) := Number.digits 8 0 s.toList
      if rest.isEmpty then call (.setMask (n % 512)) else fail (Number.illegal s)
    else
      let granted := maskBits ^^^ (mask % 512)
      match readMask granted (s.length + 1) 0 granted s.toList with
      | (new, []) => call (.setMask (maskBits ^^^ (new % 512)))
      | _ => fail ("Illegal mode: " ++ s)
  return 0

/-! ## Limits -/

/-- The limits of a process by letter: what they are called and what they are. -/
def limits : List (Char × String × String) := [
  ('t', "time(seconds)        ", "unlimited"),
  ('f', "file(blocks)         ", "unlimited"),
  ('d', "data(kbytes)         ", "unlimited"),
  ('s', "stack(kbytes)        ", "8192"),
  ('c', "coredump(blocks)     ", "0"),
  ('m', "memory(kbytes)       ", "unlimited"),
  ('l', "locked memory(kbytes)", "8192"),
  ('p', "process              ", "unlimited"),
  ('n', "nofiles              ", "1048576"),
  ('v', "vmemory(kbytes)      ", "unlimited"),
  ('w', "locks                ", "unlimited"),
  ('r', "rtprio               ", "0")]

def ulimit (args : List String) : Act Nat := do
  let (given, args) ← options (plainLetters "HSatfdsmcnpvlwr") args
  if given.has 'a' then
    print (String.join (limits.map fun (_, name, value) => name ++ " " ++ value ++ "\n"))
  else
    let chosen := (given.filter fun (c, _) => c != 'H' && c != 'S').getLast?
    let letter := (chosen.map (·.1)).getD 'f'
    match args with
    | [] => print (((limits.find? (·.1 = letter)).map (·.2.2)).getD "unlimited" ++ "\n")
    | [s] =>
      if s = "unlimited" || (!s.isEmpty && s.toList.all isDigit) then pure ()
      else fail "bad number"
    | _ => fail "too many arguments"
  return 0

end BuildAtlas.Posix.Shell.Builtin
