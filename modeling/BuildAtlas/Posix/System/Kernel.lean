import BuildAtlas.Posix.System.Program

/-! # The system

Processes, the descriptors they hold, and what these lead to. The process that runs is kept
apart from the others.
-/
namespace BuildAtlas.Posix

inductive Source where
  | file (path : FilePath)
  | directory (path : FilePath)
  | device (d : Device)
  | pipe (n : Nat)
  deriving DecidableEq, Repr

/-- A file that was opened, with the place up to which it has been read or written. -/
structure OpenFile where
  source : Source
  reads : Bool
  writes : Bool
  appends : Bool := false
  position : Nat := 0
  deriving DecidableEq, Repr

structure Descriptor where
  file : Nat
  closeOnExec : Bool := false
  deriving DecidableEq, Repr

/-- Bytes on their way; those before `start` have been taken out. -/
structure Pipe where
  bytes : ByteArray := .empty
  start : Nat := 0
  /-- Whether somebody outside the system takes out all that comes. -/
  watched : Bool := false

inductive Phase where
  | running (p : Program)
  | ended (e : Exit)

structure Process where
  pid : Nat
  parent : Nat
  phase : Phase
  descriptors : List (Nat × Descriptor) := []
  cwd : FilePath
  mask : Nat := 18
  ignored : List Nat := []
  caught : List Nat := []
  pending : List Nat := []
  /-- Set when a signal is caught, until the next call is over. -/
  disturbed : Bool := false
  /-- When a sleep ends. -/
  wake : Option Nat := none
  halted : Bool := false

structure Kernel where
  files : Files
  openFiles : Array OpenFile := #[]
  pipes : Array Pipe := #[]
  /-- All processes but the one at hand. -/
  processes : List Process := []
  clock : Nat := 0
  nextPid : Nat := 2
  /-- How the process ended that was started from outside, and when. -/
  result : Option (Exit × Nat) := none

namespace Pipe

def capacity : Nat := 65536

def used (p : Pipe) : Nat := p.bytes.size - p.start

def take (p : Pipe) (count : Nat) : ByteArray × Pipe :=
  let stop := p.start + min count p.used
  let out := p.bytes.extract p.start stop
  if stop = p.bytes.size then (out, { p with bytes := .empty, start := 0 })
  else (out, { p with start := stop })

def put (p : Pipe) (bytes : ByteArray) : Pipe := { p with bytes := p.bytes ++ bytes }

end Pipe

namespace Process

def isRunning (p : Process) : Bool :=
  match p.phase with
  | .running _ => true
  | .ended _ => false

def descriptor? (p : Process) (n : Nat) : Option Descriptor := p.descriptors.lookup n

def setDescriptor (p : Process) (n : Nat) (d : Descriptor) : Process :=
  { p with descriptors := (n, d) :: p.descriptors.filter (·.1 != n) }

def dropDescriptor (p : Process) (n : Nat) : Process :=
  { p with descriptors := p.descriptors.filter (·.1 != n) }

/-- The first of so many numbers from `n` on that is not in use. -/
def freeFrom (p : Process) : Nat → Nat → Nat
  | 0, n => n
  | tries + 1, n => if (p.descriptor? n).isSome then p.freeFrom tries (n + 1) else n

def freeDescriptor (p : Process) (least : Nat) : Nat := p.freeFrom p.descriptors.length least

def finish (p : Process) (e : Exit) : Process :=
  { p with phase := .ended e, descriptors := [], pending := [], wake := none, halted := false }

/-- What a signal does to a process. -/
def signal (p : Process) (n : Nat) : Process :=
  if !p.isRunning then p
  else if p.caught.contains n then
    { p with
      pending := if p.pending.contains n then p.pending else p.pending ++ [n]
      disturbed := true
      halted := if n = Signal.resume then false else p.halted }
  else if n = Signal.resume then { p with halted := false }
  else if p.ignored.contains n || Signal.harmless n then p
  else if Signal.halts n then { p with halted := true }
  else p.finish (.signal n)

def setSignal (p : Process) (n : Nat) (d : Disposition) : Process :=
  if n = Signal.kill ∨ n = Signal.stop then p
  else
    let p := { p with ignored := p.ignored.filter (· != n), caught := p.caught.filter (· != n) }
    match d with
    | .default => p
    | .ignore => { p with ignored := n :: p.ignored, pending := p.pending.filter (· != n) }
    | .catch => { p with caught := n :: p.caught }

def disposition (p : Process) (n : Nat) : Disposition :=
  if p.ignored.contains n then .ignore else if p.caught.contains n then .catch else .default

/-- What a process keeps when it turns to another program. -/
def renew (p : Process) : Process :=
  { p with
    caught := []
    pending := []
    descriptors := p.descriptors.filter fun entry => !entry.2.closeOnExec }

end Process

namespace Kernel

def openFile? (k : Kernel) (p : Process) (n : Nat) : Option OpenFile :=
  (p.descriptor? n).bind fun d => k.openFiles[d.file]?

def holds (k : Kernel) (test : OpenFile → Bool) (p : Process) : Bool :=
  p.descriptors.any fun (_, d) => (k.openFiles[d.file]?).any test

def hasWriter (k : Kernel) (p : Process) (pipe : Nat) : Bool :=
  (p :: k.processes).any (k.holds fun f => f.source = .pipe pipe && f.writes)

def hasReader (k : Kernel) (p : Process) (pipe : Nat) : Bool :=
  (p :: k.processes).any (k.holds fun f => f.source = .pipe pipe && f.reads)

/-- Open a file under a given number. -/
def attach (k : Kernel) (p : Process) (n : Nat) (f : OpenFile) : Kernel × Process :=
  ({ k with openFiles := k.openFiles.push f }, p.setDescriptor n { file := k.openFiles.size })

/-- Open a file under the lowest free number. -/
def attachLowest (k : Kernel) (p : Process) (f : OpenFile) : Nat × Kernel × Process :=
  let n := p.freeDescriptor 0
  (n, k.attach p n f)

def advancePosition (k : Kernel) (file : Nat) (position : Nat) : Kernel :=
  { k with openFiles := k.openFiles.modify file fun f => { f with position } }

/-- The tree of files as a process sees it. -/
def view (k : Kernel) (p : Process) : Files := k.files.withDescriptors (p.descriptors.map (·.1))

def ofParent (k : Kernel) (pid : Nat) : List Process :=
  k.processes.filter fun q => q.parent = pid

def update (k : Kernel) (pid : Nat) (f : Process → Process) : Kernel :=
  { k with processes := k.processes.map fun q => if q.pid = pid then f q else q }

/-- Put a process into its place by number. -/
def insert (p : Process) : List Process → List Process
  | [] => [p]
  | q :: rest => if p.pid < q.pid then p :: q :: rest else q :: insert p rest

/-- The number of what starts the first process. -/
def outside : Nat := 0

/-- A process ended: its parent is told, and its children have no parent any more. -/
def bury (k : Kernel) (p : Process) : Kernel :=
  let others := (k.processes.filter fun q => q.parent != p.pid || q.isRunning).map fun q =>
    if q.parent = p.pid then { q with parent := 1 }
    else if q.pid = p.parent then q.signal Signal.child else q
  match p.phase with
  | .ended e =>
    if p.parent = outside then { k with processes := others, result := some (e, k.clock) }
    else if p.parent = 1 then { k with processes := others }
    else { k with processes := insert p others }
  | .running _ => { k with processes := insert p others }

end BuildAtlas.Posix.Kernel
