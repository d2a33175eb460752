import BuildAtlas.Posix.Shell.Expansion.Word
import BuildAtlas.Posix.Shell.Jobs

/-! # Redirections

What a redirection replaces is kept under another number, so that it can be put back when the
command is over.
-/
namespace BuildAtlas.Posix.Shell

open Act

/-- A redirection whose names have been expanded. -/
inductive Ready where
  | file (descriptor : Nat) (access : Access) (path : String)
  | copy (descriptor : Nat) (target : Option Nat)
  | document (descriptor : Nat) (expands : Bool) (text : Word)

namespace Ready

def descriptor : Ready → Nat
  | file n _ _ | copy n _ | document n _ _ => n

end Ready

/-- The descriptor that a text names; the dash names none. -/
def targetOf (text : String) : Option (Option Nat) :=
  match text.toList with
  | [c] => if isDigit c then some (some (c.toNat - '0'.toNat)) else if c = '-' then some none else none
  | _ => none

/-- A defect of the syntax is reported on the line that is read next. -/
def failSyntax {α : Type} (message : String) : Act α := do
  modify fun st => { st with line := (st.inputs.head?.map (·.line)).getD st.line }
  fail ("Syntax error: " ++ message)

def prepare (sub : Substitution) : Redirection → Act Ready
  | .file n access name => do return .file n access (← expandText sub { tilde := true } name)
  | .duplicate n target => return .copy n target
  | .duplicateNamed n target => do
    match targetOf (← expandText sub { tilde := true } target) with
    | some target => return .copy n target
    | none => failSyntax "Bad fd number"
  | .document n expands text => return .document n expands text

/-! ## Opening -/

/-- What is said of a file that cannot be opened. -/
def openingFailure (creates : Bool) (failure : Errno) : String :=
  match failure with
  | .missing | .notDirectory => if creates then "Directory nonexistent" else "No such file"
  | failure => failure.message

def failToOpen {α : Type} (creates : Bool) (path : String) (failure : Errno) : Act α :=
  fail ("cannot " ++ (if creates then "create " else "open ") ++ path ++ ": "
    ++ openingFailure creates failure)

def openFile (path : String) (mode : OpenMode) : Act Nat := do
  match ← call (.open path mode) with
  | .ok n => return n
  | .error failure => failToOpen mode.creates path failure

/-- Open a file to write it that must not be there, unless it is no ordinary file. -/
def openNew (path : String) : Act Nat := do
  match ← call (.status path true) with
  | .error _ => openFile path .create
  | .ok status =>
    if status.kind = .regular then failToOpen true path .present else openFile path .write

/-- A text of this size fits into a pipe for sure. -/
def documentLimit : Nat := 4096

def openDocument (sub : Substitution) (expands : Bool) (text : Word) : Act Nat := do
  let text ←
    if expands then expandText sub { quoted := true } text else expandText sub {} text
  let (input, output) ← call .pipe
  if text.length ≤ documentLimit then
    let _ ← write output text
  else
    let _ ← split (do
      let _ ← call (.close input)
      [Signal.int, Signal.quit, 1, 20].forM fun n => call (.setSignal n .ignore)
      call (.setSignal Signal.pipe .default)
      let _ ← write output text
      quit 0)
  let _ ← call (.close output)
  return input

/-- The descriptor to use for a redirection, none to close one, and whether there is anything
to do. -/
def openReady (sub : Substitution) : Ready → Act (Bool × Option Nat)
  | .file _ access path => do
    let n ←
      match access with
      | .read => openFile path .read
      | .readWrite => openFile path .update
      | .append => openFile path .append
      | .overwrite => openFile path .replace
      | .write => do
        if (← gets (·.options.noclobber)) then openNew path else openFile path .replace
    return (true, some n)
  | .copy n target => return (target != some n, target)
  | .document _ expands text => do return (true, some (← openDocument sub expands text))

/-! ## Replacing -/

/-- Copies are kept under numbers from here on. -/
def leastCopy : Nat := 10

/-- Move a descriptor out of the way; none if there is none. -/
def setAside (n : Nat) : Act (Option Nat) := do
  match ← call (.duplicate n leastCopy true) with
  | .ok copy =>
    let _ ← call (.close n)
    return some copy
  | .error _ => return none

/-- Record in the innermost redirection what was under a number, unless that is known. -/
def keepOld (n : Nat) (same : Bool) : Act Unit := do
  match (← state).redirections with
  | [] => return ()
  | top :: _ =>
    if (top.lookup n).isSome then return ()
    else
      let old ← if same then pure none else setAside n
      modify fun st =>
        match st.redirections with
        | [] => st
        | top :: rest => { st with redirections := ((n, old) :: top) :: rest }

def redirectOne (sub : Substitution) (keeps : Bool) (r : Ready) : Act Unit := do
  let (needed, source) ← openReady sub r
  if !needed then return ()
  else
    let n := r.descriptor
    if keeps then keepOld n (source = some n)
    match source with
    | none =>
      let _ ← call (.close n)
    | some m =>
      if m = n then return ()
      else
        match ← call (.replace m n) with
        | .error failure => fail (toString m ++ ": " ++ failure.message)
        | .ok () =>
          match r with
          | .copy _ _ => return ()
          | _ =>
            let _ ← call (.close m)

/-- Redirect for good. -/
def redirect (sub : Substitution) (rs : List Ready) : Act Unit := rs.forM (redirectOne sub false)

/-- Redirect until it is undone. -/
def redirectFor (sub : Substitution) (rs : List Ready) : Act Unit := do
  if rs.isEmpty then return ()
  else
    modify fun st => { st with redirections := [] :: st.redirections }
    rs.forM (redirectOne sub true)

/-- Redirect and yield a status instead of breaking off at an error. -/
def tryRedirect (sub : Substitution) (rs : List Ready) : Act Nat := do
  match ← attempt (redirectFor sub rs) with
  | .ok () => return 0
  | .error .error => return 2
  | .error b => breakOff b

/-! ## Putting back -/

def putBack (n : Nat) : Option Nat → Act Unit
  | none => do
    let _ ← call (.close n)
  | some copy => do
    let _ ← call (.replace copy n)
    let _ ← call (.close copy)

def dropCopy : Option Nat → Act Unit
  | none => pure ()
  | some copy => do
    let _ ← call (.close copy)

/-- Undo the innermost redirection, or make it last. -/
def leaveRedirection (lasts : Bool) : Act Unit := do
  match (← state).redirections with
  | [] => return ()
  | top :: rest =>
    modify fun st => { st with redirections := rest }
    top.reverse.forM fun (n, old) => if lasts then dropCopy old else putBack n old

/-- Undo all redirections but the outermost so many. -/
def unwindFrom (depth : Nat) : Nat → Act Unit
  | 0 => pure ()
  | steps + 1 => do
    if (← gets (·.redirections.length)) ≤ depth then return ()
    else
      leaveRedirection false
      unwindFrom depth steps

def unwindRedirections (depth : Nat) : Act Unit := do
  unwindFrom depth (← gets (·.redirections.length))

end BuildAtlas.Posix.Shell
