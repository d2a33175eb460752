import BuildAtlas.Posix.Shell.Act

/-! # Processes and jobs

A shell splits off processes for the commands that it does not run itself. Those that belong
together are a job, which is waited for or left alone.
-/
namespace BuildAtlas.Posix.Shell

open Act

/-! ## Splitting off -/

/-- What a process keeps of the shell that it is split off from. -/
def State.child (st : State) : State :=
  { st with
    isFork := true
    traps := st.traps.filter fun (_, action) => action = ""
    pending := []
    inputs := st.inputs.getLast?.toList
    jobs := []
    redirections := [] }

/-- Take the traps of the parent away. -/
def resetSignals (traps : List (Nat × String)) : Act Unit :=
  traps.forM fun (n, action) =>
    if n = 0 || action = "" then pure () else call (.setSignal n .default)

/-- What a process that is split off does first. -/
def becomeChild : Act Unit := do
  let st ← state
  resetSignals st.traps
  (st.inputs.getLast?.bind (·.descriptor)).toList.forM fun n => do
    if n > 0 then
      let _ ← call (.close n)
  modify State.child

/-- Signals that a command in the background takes no notice of. -/
def ignoreSignal (n : Nat) : Act Unit := do
  call (.setSignal n .ignore)
  modify fun st => { st with ignored := n :: st.ignored }

/-- A command in the background takes nothing from the standard input. -/
def becomeBackground (first : Bool) : Act Unit := do
  ignoreSignal Signal.int
  ignoreSignal Signal.quit
  if first then
    let _ ← call (.close 0)
    let _ ← call (.open "/dev/null" .read)

/-- Split off a process that does something and ends. -/
def split (child : Act Unit) : Act Nat := do
  flush
  let pid : Nat ← call .fork
  if pid = 0 then
    detach (do
      becomeChild
      child)
  else return pid

/-! ## The table of jobs -/

/-- The first number that is free, or whose job is over and has been told. -/
def freeNumber (jobs : List Job) : Nat → Nat → Nat
  | 0, n => n
  | tries + 1, n =>
    if jobs.any fun j => j.number = n && !(j.isDone && j.waited) then freeNumber jobs tries (n + 1)
    else n

def addJob (processes : List Nat) : Act Nat := do
  let st ← state
  let n := freeNumber st.jobs st.jobs.length 1
  let job : Job := { number := n, processes := processes.map fun pid => (pid, none) }
  modify fun st => { st with jobs := job :: st.jobs.filter (·.number != n) }
  return n

def dropJob (n : Nat) : Act Unit :=
  modify fun st => { st with jobs := st.jobs.filter (·.number != n) }

def State.job? (st : State) (n : Nat) : Option Job := st.jobs.find? (·.number = n)

def Job.note (pid : Nat) (e : Exit) (j : Job) : Job :=
  { j with processes := j.processes.map fun (p, old) =>
      (p, if p = pid && old.isNone then some e else old) }

/-- Enter the end of a process; the number of its job if it belongs to one. -/
def noteExit (pid : Nat) (e : Exit) : Act (Option Nat) := do
  let st ← state
  let owner := st.jobs.find? fun j => !j.isDone && j.processes.any (·.1 = pid)
  let note (j : Job) : Job := if owner.any (·.number = j.number) then j.note pid e else j
  modify fun st => { st with jobs := st.jobs.map note }
  return owner.map (·.number)

/-! ## Ends -/

def exitStatus : Exit → Nat
  | .status n => n
  | .signal n => n + 128

/-- What is said of a process that ended while it was waited for. -/
def signalNotice : Exit → Option String
  | .status _ => none
  | .signal n => if n = Signal.int || n = Signal.pipe then none else some (Signal.describe n)

/-- Take note of one end; `waited` is the job that is waited for. -/
def takeNote (waited : Option Nat) (pid : Nat) (e : Exit) : Act Unit := do
  let owner ← noteExit pid e
  if owner.isSome && owner = waited then
    match signalNotice e with
    | some text =>
      let _ ← write 2 (text ++ "\n")
    | none => pure ()

/-- Take note of all processes that have ended. -/
def collectFrom (waited : Option Nat) : Nat → Act Unit
  | 0 => pure ()
  | steps + 1 => do
    match ← call (.wait none false) with
    | .ok (some (pid, e)) =>
      takeNote waited pid e
      collectFrom waited steps
    | _ => pure ()

def collect : Act Unit := do
  if (← gets (·.jobs.isEmpty)) then return () else collectFrom none 1000000

/-- Wait until a job is over. -/
def awaitFrom (n : Nat) : Nat → Act Unit
  | 0 => pure ()
  | steps + 1 => do
    if ((← state).job? n).all (·.isDone) then collectFrom (some n) steps
    else
      match ← call (.wait none true) with
      | .ok (some (pid, e)) =>
        takeNote (some n) pid e
        awaitFrom n steps
      | .error .interrupted => awaitFrom n steps
      | _ => pure ()

/-- Wait for a job and forget it; the status is that of its last process. -/
def awaitJob (n : Nat) : Act Nat := do
  awaitFrom n 1000000000
  let job := (← state).job? n
  dropJob n
  return (job.bind (·.exit?)).elim 0 exitStatus

/-- Split off a process and wait for it. -/
def runApart (child : Act Unit) : Act Nat := do
  let pid ← split child
  let n ← addJob [pid]
  awaitJob n

end BuildAtlas.Posix.Shell
