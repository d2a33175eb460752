import BuildAtlas.Session.Refresh

/-! # Calls

What a session is asked to do, one call at a time, and what it answers.
-/
namespace BuildAtlas.Session

inductive Call where
  | refresh
  | tryRefresh (busy : Bool)
  | replace (w : Workspace) (stats : Stats)
  | recordFailure (fault : Fault)
  | update (settings : Settings)
  | snapshot

/-- What a call returns. -/
inductive Answer where
  | refreshed (result : Option (Except Fault Stats))
  | rebuild (needed : Bool)
  | snapshot (s : Snapshot)
  | done

/-- A session that no call has been made on. -/
def opened (settings : Settings) (st : σ) : Session σ := { state := { settings }, tool := st }

def perform (tool : Tool σ) (shell : Shell) (x : Session σ) : Call → Answer × Session σ
  | .refresh =>
    let (result, x) := x.refresh tool shell
    (.refreshed (some result), x)
  | .tryRefresh busy =>
    let (result, x) := x.tryRefresh tool shell busy
    (.refreshed result, x)
  | .replace w stats => (.done, { x with state := x.state.replace w stats })
  | .recordFailure fault =>
    (.done, { x with state := x.state.recordFailure fault }.note [State.failureNote fault])
  | .update settings =>
    let (needed, state) := x.state.update settings
    (.rebuild needed, { x with state })
  | .snapshot => (.snapshot x.state.current, x)

def performAll (tool : Tool σ) (shell : Shell) (x : Session σ) (calls : List Call) : Session σ :=
  calls.foldl (fun x call => (perform tool shell x call).2) x

end BuildAtlas.Session
