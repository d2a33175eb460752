import BuildAtlas.Posix.Shell.Run.Command

/-! # Running commands

One function a form of command. What is within a command is run by the runner that is handed on.
-/
namespace BuildAtlas.Posix.Shell

open Act

/-! ## Loops -/

/-- What is still to be skipped after one round of a loop. -/
def skipLoop : Act Skip := do
  let st ← state
  match st.skip with
  | .break | .continue =>
    let left := st.skipCount - 1
    if left = 0 then
      modify fun st => { st with
        skip := .none
        skipCount := 0 }
      return st.skip
    else
      modify fun st => { st with skipCount := left }
      return .break
  | skip => return skip

def enterLoop : Act Unit := modify fun st => { st with loops := st.loops + 1 }

def leaveLoop : Act Unit := modify fun st => { st with loops := st.loops - 1 }

/-- Whether a loop goes on after such a skip. -/
def Skip.goesOn (s : Skip) : Bool := s = .none || s = .continue

def runLoopFrom (r : Runner) (f : Flags) (whileFails : Bool) (test body : Tree) :
    Nat → Nat → Act Nat
  | 0, status => pure status
  | steps + 1, status => do
    let n ← r.tree { tested := true } test
    let skip ← skipLoop
    let status := if skip = .function then n else status
    if skip != .none then
      if skip.goesOn then runLoopFrom r f whileFails test body steps status else return status
    else if (n = 0) = whileFails then return status
    else
      let status ← r.tree { tested := f.tested } body
      if (← skipLoop).goesOn then runLoopFrom r f whileFails test body steps status
      else return status

def runLoop (r : Runner) (f : Flags) (whileFails : Bool) (test body : Tree) : Act Nat := do
  enterLoop
  let status ← runLoopFrom r f whileFails test body 1000000000 0
  leaveLoop
  return status

def runEachFrom (r : Runner) (f : Flags) (name : String) (body : Tree) : Nat → List String → Act Nat
  | status, [] => pure status
  | _, word :: rest => do
    change fun st => st.setNamed name (some word) {}
    let status ← r.tree { tested := f.tested } body
    if (← skipLoop).goesOn then runEachFrom r f name body status rest else return status

def runEach (r : Runner) (f : Flags) (line : Nat) (name : String) (words : List Word)
    (body : Tree) : Act Nat := do
  modify fun st => { st with line }
  let expanded ← words.mapM (expandFull (substitute r))
  enterLoop
  let status ← runEachFrom r f name body 0 expanded.flatten
  leaveLoop
  return status

/-! ## Choices -/

/-- Whether one of some patterns matches a text. -/
def matchAny (sub : Substitution) (text : String) : List Word → Act Bool
  | [] => pure false
  | w :: rest => do
    let pattern ← expandPattern sub w
    if Pattern.accepts pattern text.toList then return true else matchAny sub text rest

/-- The commands of the first case that fits. -/
def firstCase (sub : Substitution) (text : String) :
    List (List Word × Option Tree) → Act (Option Tree)
  | [] => pure none
  | (patterns, body) :: rest => do
    if ← matchAny sub text patterns then return body else firstCase sub text rest

def runChoice (r : Runner) (f : Flags) (line : Nat) (word : Word)
    (cases : List (List Word × Option Tree)) : Act Nat := do
  modify fun st => { st with line }
  let sub := substitute r
  let text ← expandText sub { tilde := true } word
  match ← firstCase sub text cases with
  | some body => r.tree f body
  | none => return 0

/-! ## Processes -/

/-- Run commands as the last thing of the process. -/
def runLast (r : Runner) (f : Flags) (t : Tree) (ready : List Ready) : Act Unit := do
  redirect (substitute r) ready
  let _ ← r.tree { f with exits := true } t

def runSubshell (r : Runner) (f : Flags) (line : Nat) (body : Tree)
    (redirections : List Redirection) : Act Nat := do
  modify fun st => { st with line }
  let ready ← redirections.mapM (prepare (substitute r))
  if f.exits && !hasTraps (← state) then
    runLast r f body ready
    return 0
  else runApart (toTheEnd r (runLast r f body ready))

def setBackground (pid : Nat) : Act Unit :=
  modify fun st => { st with lastBackground := some pid }

def runBackground (r : Runner) (body : Tree) (redirections : List Redirection) : Act Nat := do
  let ready ← redirections.mapM (prepare (substitute r))
  let pid ← split (do
    becomeBackground true
    toTheEnd r (runLast r {} body ready))
  let _ ← addJob [pid]
  setBackground pid
  return 0

/-- Start the stages of a pipeline; the process numbers come last first. -/
def startStages (r : Runner) (f : Flags) (background : Bool) :
    Option Nat → List Nat → List Tree → Act (List Nat)
  | _, pids, [] => pure pids
  | input, pids, t :: rest => do
    let next : Option (Nat × Nat) ← if rest.isEmpty then pure none else do
      let ends ← call .pipe
      pure (some ends)
    let pid ← split (do
      if background then becomeBackground pids.isEmpty
      next.toList.forM fun (reading, _) => do
        let _ ← call (.close reading)
      input.toList.forM fun n => moveDescriptor n 0
      next.toList.forM fun (_, writing) => moveDescriptor writing 1
      toTheEnd r (do
        let _ ← r.tree { f with exits := true } t))
    input.toList.forM fun n => do
      let _ ← call (.close n)
    next.toList.forM fun (_, writing) => do
      let _ ← call (.close writing)
    if background then setBackground pid
    startStages r f background (next.map (·.1)) (pid :: pids) rest

def runPipeline (r : Runner) (f : Flags) (background : Bool) (stages : List Tree) : Act Nat := do
  let pids ← startStages r f background none [] stages
  let n ← addJob pids.reverse
  if background then return 0 else awaitJob n

/-! ## Groups -/

/-- Run a compound command with redirections; a failure of these counts as one of a command. -/
def runRedirected (r : Runner) (f : Flags) (line : Nat) (body : Tree)
    (redirections : List Redirection) : Act (Nat × Bool) := do
  modify fun st => { st with line }
  let sub := substitute r
  let ready ← redirections.mapM (prepare sub)
  let failed ← tryRedirect sub ready
  let status ← if failed != 0 then pure failed else r.tree { tested := f.tested } body
  leaveRedirection false
  return (status, failed != 0)

/-- The status of the commands and whether a shell that ends at errors looks at it. -/
def runForm (r : Runner) (f : Flags) : Tree → Act (Nat × Bool)
  | .command line assignments words redirections => do
    return (← runSimple r f line assignments words redirections, true)
  | .pipeline background stages => do return (← runPipeline r f background stages, true)
  | .redirected line body redirections => runRedirected r f line body redirections
  | .subshell line body redirections => do return (← runSubshell r f line body redirections, true)
  | .background body redirections => do return (← runBackground r body redirections, true)
  | .negation body => do
    let status ← r.tree { tested := true } body
    return (if status = 0 then 1 else 0, false)
  | .both first second => do
    let status ← r.tree { tested := true } first
    if status != 0 || (← gets (·.skip)) != .none then return (status, false)
    else return (← r.tree f second, false)
  | .either first second => do
    let status ← r.tree { tested := true } first
    if status = 0 || (← gets (·.skip)) != .none then return (status, false)
    else return (← r.tree f second, false)
  | .sequence first second => do
    let status ← r.tree { tested := f.tested } first
    if (← gets (·.skip)) != .none then return (status, false)
    else return (← r.tree f second, false)
  | .conditional test yes no => do
    let status ← r.tree { tested := true } test
    if (← gets (·.skip)) != .none then return (status, false)
    else if status = 0 then return (← r.tree f yes, false)
    else
      match no with
      | some no => return (← r.tree f no, false)
      | none => return (0, false)
  | .loop whileFails test body => do return (← runLoop r f whileFails test body, false)
  | .each line name words body => do return (← runEach r f line name words body, false)
  | .choice line word cases => do return (← runChoice r f line word cases, false)
  | .definition _ name body => do
    modify fun st => { st with functions := (name, body) :: st.functions.filter (·.1 != name) }
    return (0, false)

def runTree (r : Runner) (f : Flags) (t : Tree) : Act Nat := do
  if (← gets (·.options.noexec)) then
    if f.exits then breakOff .finish else return 0
  else
    rest r
    let (status, counts) ← runForm r f t
    modify (·.setStatus status)
    if !(← gets (·.traps.isEmpty)) then rest r
    if (← gets (·.options.errexit)) && counts && !f.tested && status != 0 then breakOff .finish
    else if f.exits then breakOff .finish
    else return status

/-- What runs commands, nested so deep. -/
def runner : Nat → Runner
  | 0 => ⟨fun _ _ => breakOff .finish⟩
  | depth + 1 => ⟨fun f t st k => runTree (runner depth) f t st k⟩

/-- Commands are nested less deep than this. -/
def deepestCommand : Nat := 1000000000

end BuildAtlas.Posix.Shell
