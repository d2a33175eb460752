import BuildAtlas.Posix.Shell.Reader.Command
import BuildAtlas.Posix.System.Program

/-! # The state of a shell -/
namespace BuildAtlas.Posix.Shell

/-- A variable; it may be marked without having a value. -/
structure Variable where
  value : Option String := none
  exported : Bool := false
  readOnly : Bool := false
  /-- Whether it stays when its value goes. -/
  lasting : Bool := false
  deriving DecidableEq, Repr

structure Options where
  errexit : Bool := false
  noglob : Bool := false
  ignoreeof : Bool := false
  interactive : Bool := false
  monitor : Bool := false
  noexec : Bool := false
  stdin : Bool := false
  xtrace : Bool := false
  verbose : Bool := false
  vi : Bool := false
  emacs : Bool := false
  noclobber : Bool := false
  allexport : Bool := false
  notify : Bool := false
  nounset : Bool := false
  privileged : Bool := false
  nolog : Bool := false
  debug : Bool := false
  deriving DecidableEq, Repr

/-- What keeps the commands that follow from being run. -/
inductive Skip where
  | none
  | break
  | continue
  /-- The way out of a function, with a status of its own. -/
  | function
  /-- The same with the status there was. -/
  | functionAsIs
  deriving DecidableEq, Repr

/-- Commands that are read from a text: a script, an input, a sourced file or a string. -/
structure Input where
  /-- What is parsed next. -/
  text : List Char := []
  /-- What aliases have put before it. -/
  insets : List Reader.Inset := []
  /-- What has been read already but is not looked at before its line comes. -/
  buffer : List Char := []
  line : Nat := 1
  /-- The descriptor that the text goes on from. -/
  descriptor : Option Nat := none
  /-- Whether there is nothing more to read. -/
  ended : Bool := false

structure Job where
  number : Nat
  /-- The processes, with their ends as far as known. -/
  processes : List (Nat × Option Exit)
  /-- Whether somebody has been told how it ended. -/
  waited : Bool := false

namespace Job

def isDone (j : Job) : Bool := j.processes.all fun p => p.2.isSome

/-- The process that a job is known by. -/
def last (j : Job) : Nat := (j.processes.getLast?.map (·.1)).getD 0

/-- How the last of the processes ended. -/
def exit? (j : Job) : Option Exit := j.processes.getLast?.bind (·.2)

end Job

/-- What a local variable hides, or the options that a function gives back. -/
inductive Hidden where
  | variable (name : String) (old : Option Variable)
  | options (old : Options)

/-- The place of `getopts` in the arguments: the next word, and the letter in it if any. -/
structure OptionPlace where
  word : Nat := 1
  letter : Option Nat := none
  deriving DecidableEq, Repr

structure State where
  /-- What messages begin with. -/
  name : String
  arguments : List String := []
  place : OptionPlace := {}
  vars : List (String × Variable) := []
  hidden : List (List Hidden) := []
  functions : List (String × Tree) := []
  aliases : List (String × String) := []
  options : Options := {}
  status : Nat := 0
  /-- The status that an exit or a trap gives back. -/
  saved : Option Nat := none
  /-- The status of the last command substitution in the command at hand. -/
  substituted : Nat := 0
  skip : Skip := .none
  skipCount : Nat := 0
  loops : Nat := 0
  line : Nat := 0
  /-- Functions that are under way. -/
  depth : Nat := 0
  /-- The built-in command that messages name. -/
  command : Option String := none
  traps : List (Nat × String) := []
  /-- Signals whose traps are still to be run, the latest first. -/
  pending : List Nat := []
  /-- Signals that were ignored from the start. -/
  ignored : List Nat := []
  /-- Whether the process was forked from another shell. -/
  isFork : Bool := false
  inputs : List Input := []
  /-- The last one started comes first. -/
  jobs : List Job := []
  /-- Redirections under way, each with the copies of the descriptors that it replaced. -/
  redirections : List (List (Nat × Option Nat)) := []
  /-- The process that the script runs in. -/
  rootId : Nat := 1
  lastBackground : Option Nat := none
  /-- The directory by the names that led there. -/
  directory : String := ""
  /-- Commands that were found, with their place in the search path, and whether that is still
  to be checked. -/
  hashed : List (String × Nat × Bool) := []
  output : String := ""
  /-- Whether writing the output failed. -/
  outputFailed : Bool := false
  /-- Where a traced command is printed. -/
  traceDescriptor : Nat := 2
  /-- Whether what is printed before a traced command is being expanded. -/
  tracing : Bool := false

namespace State

def find? (st : State) (name : String) : Option Variable := st.vars.lookup name

def value? (st : State) (name : String) : Option String := (st.find? name).bind (·.value)

def put (name : String) (v : Variable) : List (String × Variable) → List (String × Variable)
  | [] => [(name, v)]
  | (other, w) :: rest => if other = name then (name, v) :: rest else (other, w) :: put name v rest

def setVariable (st : State) (name : String) (v : Variable) : State :=
  { st with vars := put name v st.vars }

def dropVariable (st : State) (name : String) : State :=
  { st with vars := st.vars.filter (·.1 != name) }

def setStatus (st : State) (n : Nat) : State := { st with status := n }

end State

end BuildAtlas.Posix.Shell
