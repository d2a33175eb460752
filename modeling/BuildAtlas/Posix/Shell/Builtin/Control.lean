import BuildAtlas.Posix.Shell.Builtin.Letters
import BuildAtlas.Posix.Shell.Builtin.Print
import BuildAtlas.Posix.Shell.Jobs

/-! # Built-in commands for jobs and signals -/
namespace BuildAtlas.Posix.Shell.Builtin

open Act

/-! ## Jobs -/

def isNumber (s : String) : Bool := !s.isEmpty && s.toList.all isDigit

/-- The job that a text names, the present one if there is none. -/
def jobOf (jobs : List Job) (name : Option String) : Except String Job :=
  let orElse (message : String) (j : Option Job) : Except String Job :=
    match j with
    | some j => .ok j
    | none => .error message
  let unknown := "No such job: " ++ name.getD ""
  match name.map String.toList with
  | none | some ['%'] | some ['%', '+'] | some ['%', '%'] => orElse "No current job" jobs.head?
  | some ['%', '-'] => orElse "No previous job" jobs[1]?
  | some ('%' :: cs) =>
    if isNumber (String.ofList cs) then
      orElse unknown (jobs.find? (·.number = (Number.digits 10 0 cs).1))
    else if cs = ['?'] then
      match jobs with
      | [] => .error unknown
      | [j] => .ok j
      | _ => .error (name.getD "" ++ ": ambiguous")
    else .error unknown
  | some _ => .error unknown

def findJob (name : Option String) : Act Job := do
  match jobOf (← state).jobs name with
  | .ok j => return j
  | .error message => fail message

def jobState (j : Job) : String :=
  if !j.isDone then "Running"
  else
    match j.exit? with
    | some (.signal n) => Signal.describe n
    | some (.status 0) | none => "Done"
    | some (.status n) => "Done(" ++ toString n ++ ")"

def spaces (n : Nat) : String := String.ofList (List.replicate n ' ')

/-- How a job is listed. -/
def describeJob (jobs : List Job) (withIds : Bool) (j : Job) : String :=
  let sign :=
    if (jobs.head?.map (·.number)) = some j.number then "+"
    else if (jobs[1]?.map (·.number)) = some j.number then "-"
    else " "
  let first := "[" ++ toString j.number ++ "] " ++ sign ++ " "
  let ids := j.processes.map fun p => toString p.1 ++ " "
  let line := first ++ (if withIds then ids.headD "" else "") ++ jobState j
  let fill (s : String) : String := s ++ spaces (max 1 (33 - s.length))
  let rest := (ids.drop 1).map fun id => fill (spaces first.length ++ id)
  if withIds then " |\n".intercalate (fill line :: rest) ++ "\n"
  else fill line ++ String.join ((j.processes.drop 1).map fun _ => " | ") ++ "\n"

/-- List a job; one that is over is forgotten. -/
def showJob (given : Given) (j : Job) : Act Unit := do
  match given.getLast?.map (·.1) with
  | some 'p' => print (toString ((j.processes.head?.map (·.1)).getD 0) ++ "\n")
  | last =>
    print (describeJob (← state).jobs (last = some 'l') j)
    if j.isDone then dropJob j.number

def jobs (args : List String) : Act Nat := do
  let (given, names) ← options (plainLetters "lp") args
  if names.isEmpty then
    collect
    (← state).jobs.forM (showJob given)
  else
    names.forM fun name => do showJob given (← findJob name)
  return 0

/-- Jobs cannot be taken to the foreground or the background without a terminal. -/
def resumeJob (args : List String) : Act Nat := do
  let args ← operands args
  let _ ← findJob args.head?
  fail ("job " ++ args.headD "(null)" ++ " not created under job control")

/-! ## Waiting -/

/-- Ask which signals have been caught meanwhile. -/
def fetchSignals : Act Unit := do
  let signals : List Nat ← call .tick
  if !signals.isEmpty then
    modify fun st =>
      { st with pending := signals.foldl (fun old n => n :: old.filter (· != n)) st.pending }

/-- Wait for the end of some process; no if a signal comes before that. -/
def awaitAny (job : Option Nat) : Nat → Act Bool
  | 0 => pure false
  | steps + 1 => do
    match ← call (.wait none false) with
    | .ok (some (pid, e)) =>
      takeNote job pid e
      return true
    | .error _ => return true
    | .ok none =>
      fetchSignals
      if !(← gets (·.pending.isEmpty)) then return false
      else
        match ← call (.wait none true) with
        | .ok (some (pid, e)) =>
          takeNote job pid e
          return true
        | .error .interrupted => awaitAny job steps
        | _ => return true

def plenty : Nat := 1000000000

/-- Wait until a test is met; no if a signal comes before that. -/
def awaitUntil (job : Option Nat) (test : State → Bool) : Nat → Act Bool
  | 0 => pure false
  | steps + 1 => do
    if test (← state) then
      collectFrom job plenty
      return true
    else if ← awaitAny job plenty then awaitUntil job test steps
    else return false

def interruptedStatus : Act Nat := do
  return 128 + ((← state).pending.headD 0)

def tellJob (n : Nat) : Act Unit := modify fun st =>
  let tell (j : Job) : Job := if j.number = n then { j with waited := true } else j
  { st with jobs := st.jobs.map tell }

/-- The job that an argument of `wait` means, if there is one. -/
def awaitedJob (s : String) : Act (Option Job) := do
  if s.toList.head? = some '%' then return some (← findJob s)
  else
    let pid ← count s
    return (← state).jobs.find? (·.last = pid)

def waitEach (status : Nat) : List String → Act Nat
  | [] => pure status
  | s :: rest => do
    match ← awaitedJob s with
    | none => waitEach status rest
    | some j =>
      let n := j.number
      if ← awaitUntil (some n) (fun st => (st.job? n).all (·.isDone)) plenty then
        tellJob n
        let job := (← state).job? n
        waitEach ((job.bind (·.exit?)).elim 0 exitStatus) rest
      else interruptedStatus

def wait (args : List String) : Act Nat := do
  match ← operands args with
  | [] =>
    if ← awaitUntil none (fun st => st.jobs.all (·.isDone)) plenty then
      modify fun st => { st with jobs := st.jobs.map fun j => { j with waited := true } }
      return 0
    else interruptedStatus
  | args => waitEach 127 args

/-! ## Signals -/

def sameText (a b : String) : Bool := a.toList.map Char.toLower = b.toList.map Char.toLower

/-- The signal that a number names. -/
def signalOfNumber (s : String) : Option Nat :=
  if isNumber s then
    let n := (Number.digits 10 0 s.toList).1
    if n < Signal.count then some n else none
  else none

/-- The signal that a text names, from a number on. -/
def signalOf (least : Nat) (s : String) : Option Nat :=
  (signalOfNumber s) <|> ((List.range Signal.count).drop least).find? fun n =>
    (Signal.name? n).any (sameText s)

def killUsage : String :=
  "Usage: kill [-s sigspec | -signum | -sigspec] [pid | job]... or\nkill -l [exitstatus]"

def listSignals (args : List String) : Act Nat := do
  match args with
  | [] =>
    print ("0\n" ++ String.join (Signal.names.map (· ++ "\n")))
    return 0
  | s :: _ =>
    let n ← count s
    let n := if n > 128 then n - 128 else n
    match if n = 0 then none else Signal.name? n with
    | some name =>
      print (name ++ "\n")
      return 0
    | none => fail ("invalid signal number or exit status: " ++ s)

/-- The process that an argument of `kill` means; a group of processes is negative. -/
def killTarget (s : String) : Act Int := do
  match s.toList with
  | '%' :: _ =>
    let j ← findJob s
    return -((j.processes.head?.map (·.1)).getD 0 : Nat)
  | '-' :: cs => return -((← count (String.ofList cs)) : Int)
  | _ => return (← count s)

def killOne (signal : Nat) (s : String) : Act Nat := do
  match ← call (.kill (← killTarget s) signal) with
  | .ok () => return 0
  | .error failure =>
    warn (failure.message ++ "\n")
    return 1

/-- The signal that the options of `kill` ask for. -/
def killSignal (given : Given) : Act (Option Nat) := do
  match (given.filter (·.1 = 's')).map (·.2) with
  | [] => return none
  | names =>
    names.foldlM (fun _ name =>
      match signalOf 1 name with
      | some n => pure (some n)
      | none => fail ("invalid signal number or name: " ++ name)) none

def kill (args : List String) : Act Nat := do
  let send (signal : Nat) (targets : List String) : Act Nat := do
    if targets.isEmpty then fail killUsage
    else return (← targets.mapM (killOne signal)).foldl max 0
  match args with
  | [] => fail killUsage
  | first :: rest =>
    let named :=
      match first.toList with
      | '-' :: cs => signalOf 1 (String.ofList cs)
      | _ => none
    match named with
    | some n => send n rest
    | none =>
      let (given, targets) ←
        if first.toList.head? = some '-' then
          options [{ letter := 'l' }, { letter := 's', takes := true }] args
        else pure ([], args)
      let signal ← killSignal given
      if given.has 'l' then
        if signal.isSome && !targets.isEmpty then fail killUsage else listSignals targets
      else send (signal.getD Signal.term) targets

/-! ## Traps -/

def putTrap (n : Nat) (action : Option String) (traps : List (Nat × String)) :
    List (Nat × String) :=
  let others := traps.filter (·.1 != n)
  match action with
  | none => others
  | some action => (others ++ [(n, action)]).mergeSort fun a b => a.1 ≤ b.1

/-- How a process takes a signal for which there is such a trap. -/
def dispositionFor (n : Nat) (action : Option String) : Disposition :=
  match action with
  | none => .default
  | some "" => if n = Signal.child then .default else .ignore
  | some _ => .catch

/-- Set a trap. A signal that the shell was told to ignore when it began stays ignored. -/
def setTrap (action : Option String) (n : Nat) : Act Unit := do
  let st ← state
  let old := st.traps.lookup n
  modify fun st => { st with traps := putTrap n action st.traps }
  if n = 0 then return ()
  else
    let now : Disposition ← call (.disposition n)
    let stays := st.ignored.contains n || (now = .ignore && old != some "")
    if stays then modify fun st => { st with ignored := n :: st.ignored.filter (· != n) }
    else call (.setSignal n (dispositionFor n action))

def setTraps (action : Option String) : List String → Act Nat
  | [] => pure 0
  | s :: rest => do
    match signalOf 0 s with
    | none =>
      let _ ← write 2 ("trap: " ++ s ++ ": bad trap\n")
      return 1
    | some n =>
      setTrap action n
      setTraps action rest

def describeTrap (n : Nat) (action : String) : String :=
  "trap -- " ++ Print.quote action ++ " " ++ (Signal.name? n).getD (toString n) ++ "\n"

def trap (args : List String) : Act Nat := do
  match ← operands args with
  | [] =>
    print (String.join ((← state).traps.map fun (n, action) => describeTrap n action))
    return 0
  | first :: rest =>
    if rest.isEmpty || (signalOfNumber first).isSome then setTraps none (first :: rest)
    else setTraps (if first = "-" then none else some first) rest

def times : Act Nat := do
  print "0m0.000000s 0m0.000000s\n0m0.000000s 0m0.000000s\n"
  return 0

end BuildAtlas.Posix.Shell.Builtin
