import BuildAtlas.Posix.Shell.Builtin.Control
import BuildAtlas.Posix.Shell.Redirect
import BuildAtlas.Posix.Shell.Script

/-! # Running texts

Commands run other commands: those of a function, of a sourced file, of a trap. What runs them
is handed to all that need it.
-/
namespace BuildAtlas.Posix.Shell

open Act

/-- How commands are run. -/
structure Flags where
  /-- Whether the process has nothing to do after them. -/
  exits : Bool := false
  /-- Whether somebody looks at their status, so that a failure is no reason to end. -/
  tested : Bool := false
  deriving DecidableEq, Repr

structure Runner where
  tree : Flags → Tree → Act Nat

/-! ## Texts -/

/-- Run commands, if there are any. -/
def Runner.commands (r : Runner) (f : Flags) : Option Tree → Act Nat
  | some t => r.tree f t
  | none => if f.exits then breakOff .finish else pure 0

/-- Run the commands of the innermost input; the status is that of the last ones. -/
def runInput (r : Runner) (f : Flags) : Nat → Nat → Act Nat
  | 0, status => pure status
  | steps + 1, status => do
    match ← nextCommands with
    | .ended => return status
    | .commands t last =>
      let n ← r.commands { f with exits := f.exits && last } t
      let status := if t.isSome then n else status
      if (← gets (·.skip)) != .none then return status else runInput r f steps status

/-- Run the commands of a text. -/
def runText (r : Runner) (text : String) (f : Flags) : Act Nat := do
  pushInput { text := text.toList }
  let status ← runInput r f 1000000000 0
  popInput
  return status

/-- Whether a function or a sourced file is being left. -/
def Skip.returns (s : Skip) : Bool := s = .function || s = .functionAsIs

/-- Run the commands of an input up to its end or a return. -/
def runScript (r : Runner) : Act Nat := do
  let status ← runInput r {} 1000000000 0
  modify fun st => { st with skip := if st.skip.returns then .none else st.skip }
  return status

/-! ## Traps -/

/-- Run the traps of some signals; those left over by a return wait. -/
def runTrapsOf (r : Runner) (status : Nat) : List Nat → Act Unit
  | [] => pure ()
  | n :: rest => do
    let st ← state
    if st.skip != .none then modify fun st => { st with pending := st.pending ++ n :: rest }
    else
      match st.traps.lookup n with
      | none => runTrapsOf r status rest
      | some action =>
        let _ ← runText r action {}
        modify fun st => if st.skip = .function then st else st.setStatus status
        runTrapsOf r status rest

/-- Run the traps of the signals that have come. -/
def runTraps (r : Runner) : Act Unit := do
  let st ← state
  if st.pending.isEmpty then return ()
  else
    let status := st.saved.getD st.status
    modify fun st => { st with
      saved := some status
      pending := [] }
    runTrapsOf r status (st.pending.mergeSort fun a b => a ≤ b)
    modify fun after => { after with saved := st.saved }

/-- Let time pass, and run the traps of the signals that have come. -/
def rest (r : Runner) : Act Unit := do
  Builtin.fetchSignals
  runTraps r

/-! ## The end -/

/-- Settle the status after a break, and undo what is under way. -/
def settle (b : Option Break) : Act Unit := do
  modify fun st =>
    let status :=
      match st.saved with
      | some n => if b = some .exit || st.skip = .functionAsIs then n else st.status
      | none => st.status
    { st with
      status
      saved := none
      skip := .none
      loops := 0
      tracing := false }
  unwindRedirections 0

/-- End the shell, with the trap for that if there is one. -/
def endShell {α : Type} (r : Runner) (b : Option Break) : Act α := do
  if b.isSome then settle b
  let st ← state
  modify fun st => { st with saved := some st.status }
  let b ←
    match st.traps.lookup 0 with
    | none => pure b
    | some action => do
      modify fun st => { st with
        traps := Builtin.putTrap 0 none st.traps
        skip := .none }
      match ← attempt (runText r action {}) with
      | .ok _ =>
        modify fun st => { st with skip := .functionAsIs }
        pure b
      | .error b => pure (some b)
  settle b
  flush
  quit (← gets (·.status))

/-- Do something as the last thing of a shell, and end it. -/
def toTheEnd (r : Runner) (m : Act Unit) : Act Unit := do
  match ← attempt m with
  | .ok () => endShell r none
  | .error b => endShell r (some b)

/-! ## Substitutions -/

/-- Read all that comes from a descriptor. -/
def readAll (descriptor : Nat) : Nat → ByteArray → Act ByteArray
  | 0, bytes => pure bytes
  | steps + 1, bytes => do
    match ← call (.read descriptor 65536) with
    | .ok more => if more.isEmpty then return bytes else readAll descriptor steps (bytes ++ more)
    | .error .interrupted => readAll descriptor steps bytes
    | .error _ => return bytes

/-- Put a descriptor in place of another one. -/
def moveDescriptor (n target : Nat) : Act Unit := do
  if n = target then return ()
  else
    let _ ← call (.replace n target)
    let _ ← call (.close n)

/-- The output of commands that are run in a process of their own. -/
def substitute (r : Runner) : Substitution
  | none => pure ""
  | some t => do
    let (input, output) ← call .pipe
    let pid ← split (toTheEnd r (do
      let _ ← call (.close input)
      moveDescriptor output 1
      let _ ← r.tree { exits := true } t))
    let n ← addJob [pid]
    let _ ← call (.close output)
    let bytes ← readAll input 1000000000 .empty
    let _ ← call (.close input)
    let status ← awaitJob n
    modify fun st => { st with substituted := status }
    return Text.ofBytes bytes

end BuildAtlas.Posix.Shell
