import BuildAtlas.Session.State

/-! # Refreshing

A refresh reads the settings of the session when it starts, asks the build tool, and then
either brings the new workspace into use or records the fault. One refresh runs at a time:
another one waits, or gives up at once if it only tries.
-/
namespace BuildAtlas

structure Session (σ : Type) where
  state : State
  tool : σ
  /-- Oldest first. -/
  notes : List Note := []

namespace Session

def note (x : Session σ) (notes : List Note) : Session σ := { x with notes := x.notes ++ notes }

def refreshedNote (stats : Stats) : Note :=
  .info ("Index refreshed: " ++ toString stats.targets ++ " targets, " ++ toString stats.files
    ++ " source files, " ++ toString stats.packages ++ " packages")

/-- Take over the result of asking the build tool. -/
def settle (x : Session σ) : Except Fault Index → Except Fault Stats × Session σ
  | .ok index =>
    (.ok index.stats,
      { x with state := x.state.replace index.workspace index.stats }.note
        [refreshedNote index.stats])
  | .error fault =>
    (.error fault,
      { x with state := x.state.recordFailure fault }.note [State.failureNote fault])

def refresh (tool : Tool σ) (shell : Shell) (x : Session σ) : Except Fault Stats × Session σ :=
  let asked := Query.index tool shell x.state.settings x.tool
  { x with tool := asked.tool }.note asked.notes |>.settle asked.result

/-- Refresh unless a refresh is under way. -/
def tryRefresh (tool : Tool σ) (shell : Shell) (busy : Bool) (x : Session σ) :
    Option (Except Fault Stats) × Session σ :=
  if busy then (none, x)
  else
    let (result, x) := x.refresh tool shell
    (some result, x)

/-- What comes of the end of an interval: nothing when a refresh is under way. -/
structure Tick where
  time : Duration
  result : Option (Except Fault Stats)

/-- A worker that waits from `now` on, in nanoseconds, is woken by the end of the interval or by
being stopped, whichever comes first. At the end of an interval it tries to refresh, which takes no
time here, and waits again. -/
def rounds (tool : Tool σ) (shell : Shell) (interval stop : Duration) (now : Nat)
    (x : Session σ) : List Tick × Session σ :=
  let wake := now + interval.nanoseconds
  -- an interval of no length would wake the worker for ever
  if now < wake ∧ wake < stop.nanoseconds then
    let (result, x) := x.tryRefresh tool shell false
    let (ticks, x) := rounds tool shell interval stop wake x
    (⟨⟨wake⟩, result⟩ :: ticks, x)
  else ([], x)
termination_by stop.nanoseconds - now

/-- Refresh after every interval until the worker is stopped. -/
def periodic (tool : Tool σ) (shell : Shell) (interval stop : Duration) (x : Session σ) :
    List Tick × Session σ :=
  let started := x.note [.info ("Periodic index refresh started (every " ++ interval.render ++ ")")]
  let (ticks, x) := started.rounds tool shell interval stop 0
  (ticks, x.note [.info "Periodic index refresh stopped"])

end BuildAtlas.Session
