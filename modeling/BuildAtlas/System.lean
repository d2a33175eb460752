import BuildAtlas.Fault

/-! # The system

Programs are run and files are read by the operating system, which is a parameter here. What is
relied on is written down as laws.
-/
namespace BuildAtlas

/-- How a process ended. -/
inductive Exit where
  | status (n : Nat)
  | signal (n : Nat)
  deriving DecidableEq, Repr

/-- A program to run, with all of its standard input. -/
structure Job where
  directory : Option String := none
  program : String
  arguments : List String
  input : String
  deriving DecidableEq, Repr

def Job.hasNul (j : Job) : Bool :=
  (j.program :: j.directory.toList ++ j.arguments).any fun s => s.toList.contains '\x00'

/-- What a program printed, how it ended, how many nanoseconds it took, and what the system is
like afterwards. -/
structure Finished (σ : Type) where
  stdout : String
  stderr : String
  exit : Exit
  elapsed : Nat
  system : σ

structure System (σ : Type) where
  /-- Run a program to its end and read all that it prints. Nothing comes of a program that takes
  the limit or longer, in nanoseconds, or that does not end. -/
  run : σ → Job → Option Nat → Except DispatchCause (Option (Finished σ))
  read : σ → String → Except Errno ByteArray

/-- What is relied on when a program is run. -/
structure System.Lawful {σ : Type} (sys : System σ) : Prop where
  /-- Names and arguments end at a NUL, so none can have one. -/
  nul : ∀ x job limit, job.hasNul → sys.run x job limit = .error .nulByte
  /-- Being watched makes no difference to a program: it is in time or not. -/
  limited : ∀ x job limit, sys.run x job (some limit) =
    (sys.run x job none).map fun ended => ended.filter fun f => f.elapsed < limit

end BuildAtlas
