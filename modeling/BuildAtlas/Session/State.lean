import BuildAtlas.Query.Index

/-! # Session state

The workspace in use, the settings, and how the last refresh ended. A workspace comes into use
as a whole; snapshots taken earlier keep what they had.
-/
namespace BuildAtlas

/-- A workspace, and which one of the session it is, counting from zero. The count has no bound; a
counter of 64 bits shows it as long as fewer than 2 to the 64 workspaces came into use. -/
structure Snapshot where
  workspace : Workspace
  generation : Nat
  deriving DecidableEq, Repr

structure State where
  settings : Settings
  current : Snapshot := ⟨.empty, 0⟩
  /-- The counts of the last refresh or the message of its fault. -/
  lastRefresh : Option (Except String Stats) := none

namespace State

def generation (s : State) : Nat := s.current.generation

def openingNote (settings : Settings) : Note :=
  .info ("Initializing workspace state (executable: " ++ settings.executable
    ++ ", build file: " ++ settings.buildFileName ++ ")")

/-- Bring a workspace into use. -/
def replace (s : State) (w : Workspace) (stats : Stats) : State :=
  { s with current := ⟨w, s.generation + 1⟩, lastRefresh := some (.ok stats) }

/-- Keep the workspace, and the fault in mind. -/
def recordFailure (s : State) (fault : Fault) : State :=
  { s with lastRefresh := some (.error fault.message) }

def failureNote (fault : Fault) : Note :=
  .warn ("Index refresh failed, keeping previous tree: " ++ fault.message)

/-- Install settings, and tell whether the index has to be rebuilt for them. -/
def update (s : State) (settings : Settings) : Bool × State :=
  (s.settings.requiresRebuild settings, { s with settings })

end BuildAtlas.State
