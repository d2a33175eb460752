import BuildAtlas.Posix.System.Perform

/-! # Running processes

Processes run in turn, the eldest first, each until it has to wait or its share of calls is used
up. Time passes with every call; when all processes wait it passes up to the end of a sleep.
-/
namespace BuildAtlas.Posix

/-- What the programs of the system do, by name, arguments and environment. -/
abbrev Loader := String → List String → List String → Program

namespace Kernel

/-- Nanoseconds that a call takes. -/
def callTime : Nat := 1000

/-- Calls that a process may make in one go. -/
def share : Nat := 20000

def finish (k : Kernel) (p : Process) (e : Exit) : Kernel := k.bury (p.finish e)

/-- Put the process at hand back among the others. -/
def suspend (k : Kernel) (p : Process) (program : Program) : Kernel :=
  { k with processes := insert { p with phase := .running program } k.processes }

/-- Whether a process made a call, and what came of it. -/
structure Progress where
  kernel : Kernel
  moved : Bool

/-- Run a process for so many calls. -/
def advance (load : Loader) : Nat → Bool → Kernel → Process → Program → Progress
  | 0, moved, k, p, program => ⟨k.suspend p program, moved⟩
  | _ + 1, _, k, p, .exit status => ⟨k.finish p (.status status), true⟩
  | calls + 1, _, k, p, .call .tick next =>
    let k := { k with clock := k.clock + callTime }
    match p.pending with
    | [] => k.advance load calls true p (next [])
    | signals => k.advance load calls true { p with pending := [], disturbed := false }
        (next signals)
  | calls + 1, _, k, p, .call .fork next =>
    let child := { p with
      pid := k.nextPid
      parent := p.pid
      phase := .running (next (0 : Nat))
      pending := [] }
    let k := { k with
      nextPid := k.nextPid + 1
      processes := insert child k.processes }
    k.advance load calls true p (next child.pid)
  | calls + 1, _, k, p, .call (.exec path arguments environment) next =>
    match k.resolveProgram p interpreterDepth path arguments with
    | .error failure => k.advance load calls true p (next failure)
    | .ok (name, arguments) =>
      k.advance load calls true p.renew (load name arguments environment)
  | calls + 1, moved, k, p, .call c next =>
    match k.perform p c with
    | .blocked k p => ⟨k.suspend p (.call c next), moved⟩
    | .done reply k p =>
      let k := { k with clock := k.clock + callTime }
      match p.phase with
      | .ended _ => ⟨k.bury p, true⟩
      | .running _ =>
        if p.halted then ⟨k.suspend p (next reply), true⟩
        else if p.disturbed then k.advance load calls true { p with disturbed := false }
          (next reply)
        else k.advance load calls true p (next reply)

/-- Give a process its share, if it can run. -/
def turn (load : Loader) (progress : Progress) (pid : Nat) : Progress :=
  let k := progress.kernel
  match k.processes.find? (·.pid = pid) with
  | none => progress
  | some p =>
    match p.phase with
    | .ended _ => progress
    | .running program =>
      if p.halted then progress
      else
        { k with processes := k.processes.filter (·.pid != pid) }.advance load share
          progress.moved p program

/-- Give every process a share. -/
def round (load : Loader) (k : Kernel) : Progress :=
  (k.processes.map (·.pid)).foldl (turn load) ⟨k, false⟩

/-- When the first sleep ends. -/
def nextWake (k : Kernel) : Option Nat :=
  (k.processes.filterMap fun p => if p.isRunning && !p.halted then p.wake else none).min?

/-- Run all processes until a test is met; nothing comes of it if that takes too many rounds,
if nothing moves any more or if the time is up. -/
def runUntil (load : Loader) (test : Kernel → Bool) (limit : Option Nat) : Nat → Kernel →
    Option Kernel
  | 0, _ => none
  | rounds + 1, k =>
    if test k then some k
    else if limit.any (· ≤ k.clock) then none
    else
      let progress := k.round load
      let k := progress.kernel
      if progress.moved then k.runUntil load test limit rounds
      else if test k then some k
      else
        match k.nextWake with
        | some wake => { k with clock := max k.clock wake }.runUntil load test limit rounds
        | none => none

end Kernel

end BuildAtlas.Posix
