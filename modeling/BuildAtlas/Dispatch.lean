import BuildAtlas.Query.Index
import BuildAtlas.System

/-! # Dispatching commands

A command line goes to a shell as its whole input. A command with a deadline is looked at every
ten milliseconds, first when it has just been started, and is given up at the first look at or
after the deadline that finds it still running.
-/
namespace BuildAtlas

structure Dispatcher where
  shell : Shell := .posix
  workingDirectory : Option String := none
  timeout : Option Duration := none
  deriving DecidableEq, Repr

namespace Dispatcher

def pollInterval : Nat := 10000000

/-- The first look that is not before the deadline. -/
def lastLook (limit : Duration) : Nat :=
  (limit.nanoseconds + pollInterval - 1) / pollInterval * pollInterval

def exitCode : Exit → Int
  | .status n => n
  | .signal _ => -1

def toOutput {σ : Type} (f : Finished σ) : Output := ⟨f.stdout, f.stderr, exitCode f.exit⟩

/-- The shell with a command line for its input. -/
def job (d : Dispatcher) (line : String) : Job where
  directory := d.workingDirectory
  program := d.shell.program
  arguments := d.shell.arguments
  input := line ++ "\n"

section execute
variable {σ : Type} (sys : System σ) (d : Dispatcher)

/-- Run a command line, and give up after the limit. -/
def execute (line : String) (limit : Option Duration) (st : σ) : Except Fault Output × σ :=
  match sys.run st (d.job line) (limit.map lastLook) with
  | .error cause => (.error (.dispatch line cause), st)
  | .ok (some finished) => (.ok (toOutput finished), finished.system)
  | .ok none =>
    match limit with
    | some limit => (.error (.dispatch line (.timedOut limit)), st)
    | none => (.error (.dispatch line .endless), st)

/-- Run a query command under its own limit, or else under the dispatcher's. -/
def runCommand (c : Command) (st : σ) : Except Fault Output × σ :=
  d.execute sys c.line (c.timeout.or d.timeout) st

/-- A build tool that is run through the shell. -/
def tool : Tool σ := ⟨d.runCommand sys⟩

end execute

end BuildAtlas.Dispatcher
