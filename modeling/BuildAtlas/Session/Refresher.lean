import BuildAtlas.Session.Script
import BuildAtlas.Session.Refresh

/-! # Pipelines

A session is refreshed through a pipeline, whose own queries go by settings of its own. The
replies of the build tool may be added to in between.
-/
namespace BuildAtlas

/-- A session, the settings of the pipeline that it refreshes through, and a tree that is
refreshed apart from the session. -/
structure Refresher (σ : Type) where
  session : Session σ
  own : Settings
  tree : Workspace := .empty

namespace Refresher

inductive Request where
  | targets
  | sources
  | build
  | refreshIndex
  | refresh
  | update (settings : Settings)
  | pushFailure (exitCode : Int) (stderr : String)

variable {σ α : Type} (tool : Tool σ) (shell : Shell) (push : σ → Reply → σ)

/-- Take over what an exchange made of the tool. -/
def after (x : Refresher σ) (e : Exchange σ α) : Refresher σ :=
  { x with session := { x.session with tool := e.tool }.note e.notes }

/-- Index the tree that is apart from the session afresh. -/
def refreshIndex (x : Refresher σ) : Except Fault Stats × Refresher σ :=
  let (indexed, tree) := Query.refreshIndex tool shell x.own x.tree x.session.tool
  (indexed.result, { x.after indexed with tree })

def perform (x : Refresher σ) : Request → Refresher σ
  | .targets => x.after (Query.targets tool shell x.own x.session.tool)
  | .sources => x.after (Query.sources tool shell x.own x.session.tool)
  | .build => x.after (Query.index tool shell x.own x.session.tool)
  | .refreshIndex => (x.refreshIndex tool shell).2
  | .refresh => { x with session := (x.session.refresh tool shell).2 }
  | .update settings =>
    { x with session := { x.session with state := (x.session.state.update settings).2 } }
  | .pushFailure exitCode stderr =>
    let reply := Reply.output (.failure exitCode stderr)
    { x with session := { x.session with tool := push x.session.tool reply } }

def performAll (x : Refresher σ) (requests : List Request) : Refresher σ :=
  requests.foldl (perform tool shell push) x

end Refresher

end BuildAtlas
