import BuildAtlas.Posix.Shell.State
import BuildAtlas.Text.Utf8

/-! # What a shell does

An act works on the state of the shell, may call the system, and either yields a value or breaks
off. It is given what follows it, so that it can be interrupted at any call and taken up again.
-/
namespace BuildAtlas.Posix.Shell

/-- Why commands break off. -/
inductive Break where
  /-- An error whose message has been printed. -/
  | error
  /-- The shell ends with the status at hand. -/
  | finish
  /-- The command `exit`. -/
  | exit
  deriving DecidableEq, Repr

def Act (α : Type) : Type := State → (Except Break α → State → Program) → Program

namespace Act

@[inline] protected def pure {α : Type} (a : α) : Act α := fun st k => k (.ok a) st

@[inline] protected def bind {α β : Type} (m : Act α) (f : α → Act β) : Act β := fun st k =>
  m st fun r st =>
    match r with
    | .ok a => f a st k
    | .error b => k (.error b) st

instance : Monad Act where
  pure := Act.pure
  bind := Act.bind

@[inline] def breakOff {α : Type} (b : Break) : Act α := fun st k => k (.error b) st

/-- Do something and yield how it went. -/
@[inline] def attempt {α : Type} (m : Act α) : Act (Except Break α) := fun st k =>
  m st fun r st => k (.ok r) st

/-- Yield what was attempted, or break off as it did. -/
@[inline] def resume {α : Type} : Except Break α → Act α
  | .ok a => pure a
  | .error b => breakOff b

@[inline] def call (c : Call) : Act c.Reply := fun st k => .call c fun r => k (.ok r) st

@[inline] def state : Act State := fun st k => k (.ok st) st

@[inline] def modify (f : State → State) : Act Unit := fun st k => k (.ok ()) (f st)

@[inline] def gets {α : Type} (f : State → α) : Act α := fun st k => k (.ok (f st)) st

/-- End the process. -/
def quit {α : Type} (status : Nat) : Act α := fun _ _ => .exit (status % 256)

def run (m : Act Unit) (st : State) : Program := m st fun _ st => .exit (st.status % 256)

/-- Do something as the last thing in this process. -/
def detach {α : Type} (m : Act Unit) : Act α := fun st _ => run m st

end Act

open Act

/-! ## Writing -/

/-- Write everything, as far as it goes. -/
def writeFrom (descriptor : Nat) : Nat → ByteArray → Act Bool
  | 0, _ => pure true
  | steps + 1, bytes => do
    if bytes.isEmpty then return true
    else
      match ← call (.write descriptor bytes) with
      | .ok n => writeFrom descriptor steps (bytes.extract n bytes.size)
      | .error .interrupted => writeFrom descriptor steps bytes
      | .error _ => return false

/-- Write bytes and yield whether all went well. -/
def write (descriptor : Nat) (text : String) : Act Bool :=
  let bytes := Text.toBytes text
  writeFrom descriptor (2 * bytes.size + 1) bytes

/-- Print on standard output, after what has been printed before. -/
def print (text : String) : Act Unit := modify fun st => { st with output := st.output ++ text }

/-- Write what has been printed. -/
def flush : Act Unit := do
  let st ← state
  if st.output.isEmpty then return ()
  else
    modify fun st => { st with output := "" }
    if ← write 1 st.output then return ()
    else modify fun st => { st with outputFailed := true }

/-! ## Messages -/

def messagePrefix (st : State) : String :=
  st.name ++ ": " ++ toString st.line ++ ": " ++ (st.command.map (· ++ ": ")).getD ""

/-- Print a message on standard error, with what it is about. -/
def warn (message : String) : Act Unit := do
  let st ← state
  let _ ← write 2 (messagePrefix st ++ message ++ "\n")

/-- Print a message and break off; the status is that of wrong use. -/
def fail {α : Type} (message : String) : Act α := do
  warn message
  flush
  modify (·.setStatus 2)
  breakOff .error

end BuildAtlas.Posix.Shell
