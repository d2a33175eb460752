import BuildAtlas.Proofs.Query.Outcome
import BuildAtlas.Session.Refresh
import Mathlib.Logic.Function.Basic

/-! # Interleaved refreshes

Any number of callers share a session. Each makes one call, which goes step by step: past the
gate, to the settings of the session, through the two queries, to the settling of their result,
and back out. Steps of other callers, new settings and readers may come in between, in any order;
what the tool replies is up to the schedule. A caller that is left alone does what a refresh does.
-/
namespace BuildAtlas

namespace Session

/-! ## Steps of a call -/

/-- A command that a caller gave to the build tool, and the reply. -/
structure Heard (ι : Type) where
  caller : ι
  command : Command
  reply : Except Fault Output

/-- A tool that keeps what it hears from a caller, and gives a reply that was chosen for it. -/
def listening {ι : Type} (i : ι) (reply : Except Fault Output) : Tool (List (Heard ι)) where
  run c heard := (reply, heard ++ [⟨i, c, reply⟩])

@[simp] theorem run_listening {ι : Type} (i : ι) (reply : Except Fault Output) (c : Command)
    (heard : List (Heard ι)) :
    (listening i reply).run c heard = (reply, heard ++ [⟨i, c, reply⟩]) := rfl

/-- How far a call has come. A call that only tries returns nothing when it finds the gate
closed. -/
inductive Stage where
  | waiting
  | trying
  /-- The gate is taken, but the settings are not read yet. -/
  | admitted
  | started (s : Settings)
  | listed (s : Settings) (targets : Listing Target)
  | asked (result : Except Fault Index)
  | settled (result : Except Fault Stats)
  | returned (result : Option (Except Fault Stats))

namespace Stage

/-- Between taking the gate and leaving it. -/
def inside : Stage → Bool
  | admitted | started _ | listed _ _ | asked _ | settled _ => true
  | _ => false

/-- Past the taking of the gate. -/
def entered : Stage → Bool
  | returned (some _) => true
  | stage => stage.inside

/-- Past the swap of the tree. -/
def swapped : Stage → Bool
  | settled (.ok _) | returned (some (.ok _)) => true
  | _ => false

end Stage

/-- A session that callers share. The callers that took the gate are kept, oldest first, and what
settings each of them has read since; so is every workspace that was read. -/
structure Shared (ι : Type) where
  session : Session (List (Heard ι))
  stage : ι → Stage
  gate : Option ι := none
  entries : List ι := []
  settings : ι → Option Settings := fun _ => none
  readings : List Workspace := []

namespace Shared
variable {ι : Type} [DecidableEq ι] {α : Type}

def put (x : Shared ι) (i : ι) (stage : Stage) : Shared ι :=
  { x with stage := Function.update x.stage i stage }

section put
variable {x : Shared ι} {i : ι} {stage : Stage}

@[simp] theorem session_put : (x.put i stage).session = x.session := rfl

@[simp] theorem gate_put : (x.put i stage).gate = x.gate := rfl

@[simp] theorem entries_put : (x.put i stage).entries = x.entries := rfl

theorem stage_put : (x.put i stage).stage = Function.update x.stage i stage := rfl

end put

def enter (x : Shared ι) (i : ι) : Shared ι :=
  { x with gate := some i, entries := x.entries ++ [i] }.put i .admitted

/-- Read the settings of the moment. -/
def prepare (x : Shared ι) (i : ι) : Shared ι :=
  { x with settings := Function.update x.settings i (some x.session.state.settings) }.put i
    (.started x.session.state.settings)

section enter
variable (x : Shared ι) (i : ι)

@[simp] theorem session_enter : (x.enter i).session = x.session := rfl

@[simp] theorem gate_enter : (x.enter i).gate = some i := rfl

@[simp] theorem entries_enter : (x.enter i).entries = x.entries ++ [i] := rfl

theorem stage_enter : (x.enter i).stage = Function.update x.stage i .admitted := rfl

@[simp] theorem session_prepare : (x.prepare i).session = x.session := rfl

theorem settings_prepare : (x.prepare i).settings =
    Function.update x.settings i (some x.session.state.settings) := rfl

theorem stage_prepare : (x.prepare i).stage =
    Function.update x.stage i (.started x.session.state.settings) := rfl

end enter

/-- Take over what an exchange made of the tool. -/
def heed (x : Shared ι) (e : Exchange (List (Heard ι)) α) : Shared ι :=
  { x with session := { x.session with tool := e.tool }.note e.notes }

/-- One step of a call; the reply is for the command that is given in it, if one is. While the
gate is closed, a call that waits stays as it is. -/
def advance (shell : Shell) (i : ι) (reply : Except Fault Output) (x : Shared ι) : Shared ι :=
  match x.stage i with
  | .waiting => if x.gate.isNone then x.enter i else x
  | .trying => if x.gate.isNone then x.enter i else x.put i (.returned none)
  | .admitted => x.prepare i
  | .started s =>
    let listed := Query.targets (listening i reply) shell s x.session.tool
    match listed.result with
    | .ok targets => (x.heed listed).put i (.listed s targets)
    | .error fault => (x.heed listed).put i (.asked (.error fault))
  | .listed s targets =>
    let more := Query.sources (listening i reply) shell s x.session.tool
    (x.heed more).put i (.asked (more.result.map (Index.ofListings targets)))
  | .asked result =>
    let (result, session) := x.session.settle result
    { x with session }.put i (.settled result)
  | .settled result => { x with gate := none }.put i (.returned (some result))
  | .returned _ => x

end Shared

inductive Move (ι : Type) where
  | advance (i : ι) (reply : Except Fault Output)
  | update (settings : Settings)
  | read

section moves
variable {ι : Type} [DecidableEq ι]

def step (shell : Shell) (x : Shared ι) : Move ι → Shared ι
  | .advance i reply => x.advance shell i reply
  | .update settings =>
    { x with session := { x.session with state := (x.session.state.update settings).2 } }
  | .read => { x with readings := x.readings ++ [x.session.state.current.workspace] }

def run (shell : Shell) (x : Shared ι) (moves : List (Move ι)) : Shared ι :=
  moves.foldl (step shell) x

/-- A new session, with callers that are about to refresh or to try. -/
def start (settings : Settings) (tries : ι → Bool) : Shared ι where
  session := { state := { settings }, tool := [] }
  stage i := if tries i then .trying else .waiting

end moves

/-! ## What a step can do -/

section settle
variable {σ : Type} (x : Session σ) (result : Except Fault Index)

theorem settle_result : (x.settle result).1 = result.map Index.stats := by
  cases result <;> rfl

theorem settle_tool : (x.settle result).2.tool = x.tool := by
  cases result <;> rfl

end settle

section steps
variable {ι : Type} [DecidableEq ι]

/-- The steps of a call that has its settings, each with what the tool hears in it. -/
inductive Stage.Goes (shell : Shell) (i : ι) (reply : Except Fault Output) :
    Stage → List (Heard ι) → Stage → Prop
  | listed {s o} : Query.outcome s reply = .ok o →
      Goes shell i reply (.started s) [⟨i, Query.targetCommand shell s, reply⟩]
        (.listed s (Listing.targets o))
  | refused {s fault} : Query.outcome s reply = .error fault →
      Goes shell i reply (.started s) [⟨i, Query.targetCommand shell s, reply⟩]
        (.asked (.error fault))
  | asked {s targets} :
      Goes shell i reply (.listed s targets) [⟨i, Query.sourceCommand shell s, reply⟩]
        (.asked ((Query.outcome s reply).map fun o =>
          Index.ofListings targets (Listing.sources o)))
  | settled {result} : Goes shell i reply (.asked result) [] (.settled (result.map Index.stats))
  | left {result} : Goes shell i reply (.settled result) [] (.returned (some result))

/-- All that a move can do. -/
inductive Shared.Moved (shell : Shell) (x : Shared ι) : Move ι → Shared ι → Prop
  | idle {i reply} : Moved shell x (.advance i reply) x
  | entering {i reply} : x.gate = none → x.stage i = .waiting ∨ x.stage i = .trying →
      Moved shell x (.advance i reply) (x.enter i)
  | skipping {i reply} : x.gate ≠ none → x.stage i = .trying →
      Moved shell x (.advance i reply) (x.put i (.returned none))
  | preparing {i reply} : x.stage i = .admitted → Moved shell x (.advance i reply) (x.prepare i)
  | working {i reply said stage' x'} : (x.stage i).Goes shell i reply said stage' →
      x'.stage = Function.update x.stage i stage' →
      x'.gate = (if stage'.inside then x.gate else none) →
      x'.entries = x.entries → x'.settings = x.settings → x'.readings = x.readings →
      x'.session.tool = x.session.tool ++ said →
      x'.session.state.settings = x.session.state.settings →
      x'.session.state.current = (match x.stage i with
        | .asked (.ok index) => ⟨index.workspace, x.session.state.generation + 1⟩
        | _ => x.session.state.current) →
      Moved shell x (.advance i reply) x'
  | updating {settings} :
      Moved shell x (.update settings)
        { x with session := { x.session with state := (x.session.state.update settings).2 } }
  | reading :
      Moved shell x .read { x with readings := x.readings ++ [x.session.state.current.workspace] }

theorem Shared.moved_advance (shell : Shell) (x : Shared ι) (i : ι)
    (reply : Except Fault Output) : x.Moved shell (.advance i reply) (x.advance shell i reply) := by
  unfold Shared.advance
  cases hstage : x.stage i with
  | waiting =>
    cases hgate : x.gate with
    | none => exact .entering hgate (Or.inl hstage)
    | some j => exact .idle
  | trying =>
    cases hgate : x.gate with
    | none => exact .entering hgate (Or.inr hstage)
    | some j => exact .skipping (by simp [hgate]) hstage
  | admitted => exact .preparing hstage
  | started s =>
    cases ho : Query.outcome s reply with
    | ok o =>
      have hgoes : (x.stage i).Goes shell i reply [⟨i, Query.targetCommand shell s, reply⟩]
        (.listed s (Listing.targets o)) := hstage ▸ .listed ho
      simp only [Query.targets_result, run_listening, ho, Except.map]
      exact .working hgoes rfl rfl rfl rfl rfl (Query.targets_tool ..) rfl (by rw [hstage]; rfl)
    | error fault =>
      have hgoes : (x.stage i).Goes shell i reply [⟨i, Query.targetCommand shell s, reply⟩]
        (.asked (.error fault)) := hstage ▸ .refused ho
      simp only [Query.targets_result, run_listening, ho, Except.map]
      exact .working hgoes rfl rfl rfl rfl rfl (Query.targets_tool ..) rfl (by rw [hstage]; rfl)
  | listed s targets =>
    have hgoes : (x.stage i).Goes shell i reply [⟨i, Query.sourceCommand shell s, reply⟩]
      (.asked ((Query.outcome s reply).map fun o =>
        Index.ofListings targets (Listing.sources o))) := hstage ▸ .asked
    have hmap : ((Query.outcome s reply).map Listing.sources).map (Index.ofListings targets) =
        (Query.outcome s reply).map fun o => Index.ofListings targets (Listing.sources o) := by
      cases Query.outcome s reply <;> rfl
    simp only [Query.sources_result, run_listening, hmap]
    exact .working hgoes rfl rfl rfl rfl rfl (Query.sources_tool ..) rfl (by rw [hstage]; rfl)
  | asked result =>
    have hgoes : (x.stage i).Goes shell i reply [] (.settled (result.map Index.stats)) :=
      hstage ▸ .settled
    refine .working hgoes ?_ rfl rfl rfl rfl ?_ ?_ ?_
    · rw [stage_put, settle_result]
    · simp [settle_tool]
    · cases result <;> rfl
    · rw [hstage]
      cases result <;> rfl
  | settled result =>
    have hgoes : (x.stage i).Goes shell i reply [] (.returned (some result)) := hstage ▸ .left
    exact .working hgoes rfl rfl rfl rfl rfl (by simp) rfl (by rw [hstage]; rfl)
  | returned result => exact .idle

theorem Shared.moved_step (shell : Shell) (x : Shared ι) (m : Move ι) :
    x.Moved shell m (step shell x m) := by
  cases m with
  | advance i reply => exact moved_advance shell x i reply
  | update settings => exact .updating
  | read => exact .reading

/-- What every move keeps is kept by a run. -/
theorem run_keeps {P : Shared ι → Prop} (shell : Shell) {x : Shared ι}
    (hmove : ∀ x m x', x.Moved shell m x' → P x → P x') (h : P x) (moves : List (Move ι)) :
    P (run shell x moves) := by
  induction moves generalizing x with
  | nil => exact h
  | cons m moves ih => exact ih (hmove x m _ (x.moved_step shell m) h)

/-! ## A caller left alone -/

variable {σ : Type} {x : Shared ι} {i : ι} {reply : Except Fault Output}

theorem Shared.advance_free (hgate : x.gate = none)
    (hstage : x.stage i = .waiting ∨ x.stage i = .trying) :
    x.advance shell i reply = x.enter i := by
  rcases hstage with hstage | hstage <;> simp [advance, hstage, hgate]

/-- The steps of a call that no other disturbs, with the replies of a tool. -/
def alone (tool : Tool σ) (shell : Shell) (i : ι) (y : Session σ) : List (Move ι) :=
  let first := tool.run (Query.targetCommand shell y.state.settings) y.tool
  let second := tool.run (Query.sourceCommand shell y.state.settings) first.2
  [.advance i first.1, .advance i first.1, .advance i first.1, .advance i second.1,
    .advance i second.1, .advance i second.1]

/-- Left alone with the gate open, a call of either kind comes to the result, the state and the
notes of a refresh. -/
theorem run_alone (tool : Tool σ) (shell : Shell) (y : Session σ)
    (hstate : x.session.state = y.state) (hnotes : x.session.notes = y.notes)
    (hgate : x.gate = none) (hstage : x.stage i = .waiting ∨ x.stage i = .trying) :
    (run shell x (alone tool shell i y)).stage i = .returned (some (y.refresh tool shell).1) ∧
      (run shell x (alone tool shell i y)).gate = none ∧
      (run shell x (alone tool shell i y)).session.state = (y.refresh tool shell).2.state ∧
      (run shell x (alone tool shell i y)).session.notes = (y.refresh tool shell).2.notes := by
  simp only [run, alone, List.foldl_cons, List.foldl_nil, step, Shared.advance_free hgate hstage,
    refresh, Query.index]
  generalize hs : y.state.settings = s
  have hfirst : ∀ heard, (Query.targets (listening i
    (tool.run (Query.targetCommand shell s) y.tool).1) shell s heard).notes =
      (Query.targets tool shell s y.tool).notes := fun _ => Query.list_notes_congr rfl
  have hsecond : ∀ heard st, (Query.sources (listening i
    (tool.run (Query.sourceCommand shell s) st).1) shell s heard).notes =
      (Query.sources tool shell s st).notes := fun _ _ => Query.list_notes_congr rfl
  rw [Query.targets_result, Query.targets_tool]
  generalize tool.run (Query.targetCommand shell s) y.tool = first at *
  cases ho : Query.outcome s first.1 with
  | error fault =>
    simp [Shared.advance, Shared.enter, Shared.prepare, Shared.put, Shared.heed, Except.map,
      settle, note, State.recordFailure, hstate, hnotes, hs, ho, hfirst]
  | ok o =>
    cases ho' : Query.outcome s (tool.run (Query.sourceCommand shell s) first.2).1 <;>
      simp [Shared.advance, Shared.enter, Shared.prepare, Shared.put, Shared.heed, Except.map,
        settle, note, State.recordFailure, State.replace, hstate, hnotes, hs, ho, ho', hfirst,
        hsecond]

end steps

end Session

end BuildAtlas
